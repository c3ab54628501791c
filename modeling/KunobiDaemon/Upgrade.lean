import KunobiDaemon.Errors
import KunobiDaemon.Lib.Histories
import Mathlib.Logic.Function.Basic

/-! Callers that make sure the daemon is current, and the lock that serializes their replacements.

A call is its own sequence of events; the only thing calls share is the lock. The
deadline may pass at the start and at every await, and the caller may drop the future
at every await. Either way the future awaited is dropped first and the lock after it.
-/

set_option autoImplicit false

namespace KunobiDaemon.Upgrade

open Lib.Histories
open Lib.Systems

inductive UpgradeError (E : Type) where
  | probe (error : E)
  | replace (error : E)
  | lock (error : IoError)
  | deadline
  deriving DecidableEq, Repr

inductive Event (T E : Type) where
  /-- `probe()` -/
  | probe
  | answer (answer : Except E (Option T))
  /-- An attempt that finds the lock held. -/
  | contended
  | unlockable (error : IoError)
  | lock
  /-- `replace()` -/
  | replace
  | replaced (result : Except E Unit)
  /-- The end of the pause between two probes. -/
  | wake
  | expire
  /-- The caller drops the future. -/
  | abandon
  | unlock
  deriving Repr

/-- Where a call of `ensure_current` stands. -/
inductive Place (T E : Type) where
  | idle
  | probing
  | locking
  | locked
  /-- Probing with the lock. -/
  | checking
  | outdated
  | replacing
  /-- At the head of the loop. -/
  | renewed
  | confirming
  | sleeping
  /-- About to drop the lock, with the result unless the future was dropped. -/
  | leaving (result : Option (Except (UpgradeError E) T))
  | ended (result : Option (Except (UpgradeError E) T))
  deriving Repr

namespace Place
variable {T E : Type}

def holds : Place T E → Bool
  | .idle | .probing | .locking | .ended _ => false
  | .locked | .checking | .outdated | .replacing | .renewed | .confirming | .sleeping | .leaving _ => true

/-- What a probe's answer leads to: an error, an accepted response, or the rest of the function. -/
def judge (accepts : T → Bool) (answer : Except E (Option T))
    (finish : Option (Except (UpgradeError E) T) → Place T E) (otherwise : Place T E) : Place T E :=
  match answer with
  | .error error => finish (some (.error (.probe error)))
  | .ok none => otherwise
  | .ok (some current) => if accepts current then finish (some (.ok current)) else otherwise

/-- One step of `ensure_current`. -/
def next (accepts : T → Bool) : Place T E → Event T E → Option (Place T E)
  | .idle, .expire => some (.ended (some (.error .deadline)))
  | .idle, .probe => some .probing
  | .probing, .answer answer => some (judge accepts answer .ended .locking)
  | .locking, .contended => some .locking
  | .locking, .unlockable error => some (.ended (some (.error (.lock error))))
  | .locking, .lock => some .locked
  | .locked, .probe => some .checking
  | .checking, .answer answer => some (judge accepts answer .leaving .outdated)
  | .outdated, .replace => some .replacing
  | .replacing, .replaced (.ok ()) => some .renewed
  | .replacing, .replaced (.error error) => some (.leaving (some (.error (.replace error))))
  | .renewed, .probe => some .confirming
  | .confirming, .answer answer => some (judge accepts answer .leaving .sleeping)
  | .sleeping, .wake => some .renewed
  | .probing, .expire | .locking, .expire => some (.ended (some (.error .deadline)))
  | .checking, .expire | .replacing, .expire | .confirming, .expire | .sleeping, .expire =>
      some (.leaving (some (.error .deadline)))
  | .probing, .abandon | .locking, .abandon => some (.ended none)
  | .checking, .abandon | .replacing, .abandon | .confirming, .abandon | .sleeping, .abandon =>
      some (.leaving none)
  | .leaving result, .unlock => some (.ended result)
  | _, _ => none

end Place

/-- Calls that share the upgrade lock. -/
structure System (C T E : Type) where
  place : C → Place T E
  lock : Option C
  history : List (C × Event T E)

namespace System
variable {C T E : Type}

def start : System C T E := ⟨fun _ => .idle, none, []⟩

variable [DecidableEq C]

def moved (system : System C T E) (call : C) (event : Event T E) (place : Place T E) (lock : Option C) :
    System C T E :=
  ⟨Function.update system.place call place, lock, system.history ++ [(call, event)]⟩

def step (accepts : C → T → Bool) (system : System C T E) : C × Event T E → Option (System C T E)
  | (call, event) =>
      match (system.place call).next (accepts call) event with
      | none => none
      | some place =>
          match event with
          | .lock => if system.lock = none then some (system.moved call event place (some call)) else none
          | .contended => if system.lock = none then none else some (system.moved call event place system.lock)
          | .unlock => some (system.moved call event place none)
          | _ => some (system.moved call event place system.lock)

end System

/-- The daemon is absent, or its response does not do. -/
def Rejected {T E : Type} (accepts : T → Bool) : Except E (Option T) → Prop
  | .ok none => True
  | .ok (some current) => accepts current = false
  | .error _ => False

def Accepted {T E : Type} (accepts : T → Bool) : Except E (Option T) → Prop
  | .ok (some current) => accepts current = true
  | .ok none | .error _ => False

/-! ## One call -/

section
variable {T E : Type} {accepts : T → Bool} {place place' : Place T E} {event : Event T E} {events : List (Event T E)}

def Place.awaits : Place T E → Bool
  | .probing | .locking | .checking | .replacing | .confirming | .sleeping => true
  | .idle | .locked | .outdated | .renewed | .leaving _ | .ended _ => false

/-- The end of a call that stops at an await. -/
def Place.cut (place : Place T E) (result : Option (Except (UpgradeError E) T)) : Place T E :=
  if place.holds then .leaving result else .ended result

/-- Every step of a call. -/
inductive Moves (accepts : T → Bool) : Place T E → Event T E → Place T E → Prop where
  | late : Moves accepts .idle .expire (.ended (some (.error .deadline)))
  | begin : Moves accepts .idle .probe .probing
  | failed {place : Place T E} {error : E} : place = .probing ∨ place = .checking ∨ place = .confirming →
      Moves accepts place (.answer (.error error)) (place.cut (some (.error (.probe error))))
  | current {place : Place T E} {current : T} : place = .probing ∨ place = .checking ∨ place = .confirming →
      accepts current = true →
      Moves accepts place (.answer (.ok (some current))) (place.cut (some (.ok current)))
  | behind {answer : Except E (Option T)} : Rejected accepts answer → Moves accepts .probing (.answer answer) .locking
  | contended : Moves accepts .locking .contended .locking
  | unlockable {error : IoError} :
      Moves accepts .locking (.unlockable error) (.ended (some (.error (.lock error))))
  | lock : Moves accepts .locking .lock .locked
  | recheck : Moves accepts .locked .probe .checking
  | outdated {answer : Except E (Option T)} : Rejected accepts answer →
      Moves accepts .checking (.answer answer) .outdated
  | replace : Moves accepts .outdated .replace .replacing
  | replaced : Moves accepts .replacing (.replaced (.ok ())) .renewed
  | unreplaced {error : E} :
      Moves accepts .replacing (.replaced (.error error)) (.leaving (some (.error (.replace error))))
  | confirm : Moves accepts .renewed .probe .confirming
  | stale {answer : Except E (Option T)} : Rejected accepts answer →
      Moves accepts .confirming (.answer answer) .sleeping
  | wake : Moves accepts .sleeping .wake .renewed
  | expire {place : Place T E} : place.awaits = true →
      Moves accepts place .expire (place.cut (some (.error .deadline)))
  | abandon {place : Place T E} : place.awaits = true → Moves accepts place .abandon (place.cut none)
  | unlock {result : Option (Except (UpgradeError E) T)} : Moves accepts (.leaving result) .unlock (.ended result)

theorem moves_of_next (moved : place.next accepts event = some place') : Moves accepts place event place' := by
  have judged (from_ otherwise : Place T E) (answer : Except E (Option T))
      (probing : from_ = .probing ∨ from_ = .checking ∨ from_ = .confirming)
      (rest : Rejected accepts answer → Moves accepts from_ (.answer answer) otherwise) :
      Moves accepts from_ (.answer answer) (Place.judge accepts answer from_.cut otherwise) := by
    cases answer with
    | error error => exact .failed probing
    | ok response =>
        cases response with
        | none => exact rest trivial
        | some current =>
            unfold Place.judge
            dsimp only
            cases fits : accepts current with
            | true => exact .current probing fits
            | false => exact rest fits
  unfold Place.next at moved
  split at moved <;> cases moved
  · exact .late
  · exact .begin
  · exact judged .probing _ _ (.inl rfl) .behind
  · exact .contended
  · exact .unlockable
  · exact .lock
  · exact .recheck
  · exact judged .checking _ _ (.inr (.inl rfl)) .outdated
  · exact .replace
  · exact .replaced
  · exact .unreplaced
  · exact .confirm
  · exact judged .confirming _ _ (.inr (.inr rfl)) .stale
  · exact .wake
  · exact .expire rfl
  · exact .expire rfl
  · exact .expire rfl
  · exact .expire rfl
  · exact .expire rfl
  · exact .expire rfl
  · exact .abandon rfl
  · exact .abandon rfl
  · exact .abandon rfl
  · exact .abandon rfl
  · exact .abandon rfl
  · exact .abandon rfl
  · exact .unlock

theorem holds_cut (place : Place T E) (result : Option (Except (UpgradeError E) T)) :
    (place.cut result).holds = place.holds := by
  unfold Place.cut
  cases held : place.holds <;> rfl

/-- Only `lock` and `unlock` change whether a call holds the lock. -/
theorem Moves.holds (moves : Moves accepts place event place') :
    (event = .lock ∧ place.holds = false ∧ place'.holds = true) ∨
    (event = .unlock ∧ place.holds = true ∧ place'.holds = false) ∨
    (event ≠ .lock ∧ event ≠ .unlock ∧ place'.holds = place.holds) := by
  cases moves with
  | lock => exact .inl ⟨rfl, rfl, rfl⟩
  | unlock => exact .inr (.inl ⟨rfl, rfl, rfl⟩)
  | failed | current | expire | abandon => exact .inr (.inr ⟨nofun, nofun, holds_cut _ _⟩)
  | late | begin | behind | contended | unlockable | recheck | outdated | replace | replaced | unreplaced | confirm
  | stale | wake => exact .inr (.inr ⟨nofun, nofun, rfl⟩)

/-- From the invocation of `replace` on. -/
def Place.passed : Place T E → Bool
  | .replacing | .renewed | .confirming | .sleeping | .leaving _ | .ended _ => true
  | .idle | .probing | .locking | .locked | .checking | .outdated => false

theorem passed_cut (place : Place T E) (result : Option (Except (UpgradeError E) T)) :
    (place.cut result).passed = true := by
  unfold Place.cut
  cases held : place.holds <;> rfl

theorem Moves.passed (moves : Moves accepts place event place') (passed : place.passed = true) :
    event ≠ .replace ∧ place'.passed = true := by
  cases moves with
  | failed | current | expire | abandon => exact ⟨nofun, passed_cut _ _⟩
  | replaced | unreplaced | confirm | stale | wake | unlock => exact ⟨nofun, rfl⟩
  | late | begin | behind | contended | unlockable | lock | recheck | outdated | replace => cases passed

/-- What a call may return after its replacement. -/
def Faithful (accepts : T → Bool) (result : Option (Except (UpgradeError E) T)) : Prop :=
  result = none ∨ (∃ current, result = some (.ok current) ∧ accepts current = true) ∨
    (∃ error, result = some (.error (.probe error))) ∨ result = some (.error .deadline)

/-- Where a call is after its replacement. -/
inductive Renewing (accepts : T → Bool) : Place T E → Prop where
  | renewed : Renewing accepts .renewed
  | confirming : Renewing accepts .confirming
  | sleeping : Renewing accepts .sleeping
  | leaving {result : Option (Except (UpgradeError E) T)} : Faithful accepts result → Renewing accepts (.leaving result)
  | ended {result : Option (Except (UpgradeError E) T)} : Faithful accepts result → Renewing accepts (.ended result)

theorem Moves.renewing (moves : Moves accepts place event place') (renewing : Renewing accepts place) :
    Renewing accepts place' := by
  have cut {place : Place T E} {result : Option (Except (UpgradeError E) T)} (faithful : Faithful accepts result) :
      Renewing accepts (place.cut result) := by
    unfold Place.cut
    cases held : place.holds with
    | true => exact .leaving faithful
    | false => exact .ended faithful
  cases moves with
  | failed => exact cut (.inr (.inr (.inl ⟨_, rfl⟩)))
  | current _ fits => exact cut (.inr (.inl ⟨_, rfl, fits⟩))
  | expire => exact cut (.inr (.inr (.inr rfl)))
  | abandon => exact cut (.inl rfl)
  | confirm => exact .confirming
  | stale => exact .sleeping
  | wake => exact .renewed
  | unlock =>
      cases renewing with
      | leaving faithful => exact .ended faithful
  | late | begin | behind | contended | unlockable | lock | recheck | outdated | replace | replaced | unreplaced =>
      cases renewing

/-- A result that is a response was some probe's answer. -/
def Earned (accepts : T → Bool) (events : List (Event T E)) (place : Place T E) : Prop :=
  ∀ current, place = .leaving (some (.ok current)) ∨ place = .ended (some (.ok current)) →
    .answer (.ok (some current)) ∈ events ∧ accepts current = true

theorem Moves.earned (moves : Moves accepts place event place') (earned : Earned accepts events place) :
    Earned accepts (events ++ [event]) place' := by
  have cut {place : Place T E} {result : Option (Except (UpgradeError E) T)} {current : T}
      (finished : place.cut result = .leaving (some (.ok current)) ∨ place.cut result = .ended (some (.ok current))) :
      result = some (.ok current) := by
    unfold Place.cut at finished
    cases held : place.holds <;> simpa [held] using finished
  intro current finished
  cases moves with
  | failed | expire | abandon => cases cut finished
  | current _ fits =>
      cases cut finished
      exact ⟨List.mem_append_right _ (List.mem_singleton.mpr rfl), fits⟩
  | unlock =>
      have before := earned current (.inl (by simpa using finished))
      exact ⟨List.mem_append_left _ before.1, before.2⟩
  | late | begin | behind | contended | unlockable | lock | recheck | outdated | replace | replaced | unreplaced
  | confirm | stale | wake => simp at finished

/-- What a call has just done, before it invokes `replace`. -/
def Place.Trail (accepts : T → Bool) (events : List (Event T E)) : Place T E → Prop
  | .locked => ∃ earlier, events = earlier ++ [.lock]
  | .checking => ∃ earlier, events = earlier ++ [.lock, .probe]
  | .outdated => ∃ earlier answer, events = earlier ++ [.lock, .probe, .answer answer] ∧ Rejected accepts answer
  | _ => True

theorem trail_of_not_holds (free : place.holds = false) : place.Trail accepts events := by
  cases place with
  | idle | probing | locking | ended => trivial
  | locked | checking | outdated | replacing | renewed | confirming | sleeping | leaving => cases free

theorem trail_cut (place : Place T E) (result : Option (Except (UpgradeError E) T)) :
    (place.cut result).Trail accepts events := by
  unfold Place.cut
  cases held : place.holds <;> trivial

theorem Moves.trail (moves : Moves accepts place event place') (trail : place.Trail accepts events) :
    place'.Trail accepts (events ++ [event]) := by
  cases moves with
  | lock => exact ⟨events, rfl⟩
  | recheck =>
      obtain ⟨earlier, rfl⟩ := trail
      exact ⟨earlier, by simp⟩
  | outdated rejected =>
      obtain ⟨earlier, rfl⟩ := trail
      exact ⟨earlier, _, by simp, rejected⟩
  | failed | current | expire | abandon => exact trail_cut _ _
  | late | begin | behind | contended | unlockable | replace | replaced | unreplaced | confirm | stale | wake
  | unlock => trivial

theorem Rejected.not_accepted {answer : Except E (Option T)} (rejected : Rejected accepts answer) :
    ¬ Accepted accepts answer := by
  cases answer with
  | error => exact rejected.elim
  | ok response =>
      cases response with
      | none => exact id
      | some current => exact fun accepted => Bool.noConfusion (accepted.symm.trans rejected)

/-- A call invokes `replace` once. -/
theorem no_replace_again (passed : place.passed = true)
    (replayed : replay (Place.next accepts) events place = some place') : .replace ∉ events := by
  have alone : Event.replace ∉ events ∧ place'.passed = true :=
    replay_induction (I := fun events place => Event.replace ∉ events ∧ place.passed = true)
      ⟨List.not_mem_nil, passed⟩ (fun events place event place' held moved => by
        obtain ⟨other, passed⟩ := (moves_of_next moved).passed held.2
        exact ⟨by simpa using ⟨held.1, Ne.symm other⟩, passed⟩) replayed
  exact alone.1

/-- A call that does not hold the lock yet takes it, probes and is told to replace before it
invokes `replace`, and invokes it once. -/
theorem replace_after_check (free : place.holds = false)
    (replayed : replay (Place.next accepts) events place = some place') :
    ∀ before after, events = before ++ .replace :: after →
      .replace ∉ after ∧ ∃ earlier answer,
        before = earlier ++ [.lock, .probe, .answer answer] ∧ Rejected accepts answer := by
  rintro before after rfl
  obtain ⟨middle, before_, replayed⟩ := replay_append_eq_some.mp replayed
  simp only [replay, Option.bind_eq_some_iff] at replayed
  obtain ⟨next, invoked, replayed⟩ := replayed
  have trail : middle.Trail accepts before :=
    replay_induction (trail_of_not_holds free) (fun _ _ _ _ trail moved => (moves_of_next moved).trail trail) before_
  have invoked := moves_of_next invoked
  cases invoked
  exact ⟨no_replace_again rfl replayed, trail⟩

/-- After its replacement a call invokes `replace` no more and returns only what it may. -/
theorem after_replaced {before after : List (Event T E)}
    (replayed : replay (Place.next accepts) (before ++ .replaced (.ok ()) :: after) place = some place') :
    .replace ∉ after ∧ Renewing accepts place' := by
  obtain ⟨middle, -, replayed⟩ := replay_append_eq_some.mp replayed
  simp only [replay, Option.bind_eq_some_iff] at replayed
  obtain ⟨next, succeeded, replayed⟩ := replayed
  have succeeded := moves_of_next succeeded
  cases succeeded
  refine ⟨no_replace_again rfl replayed, ?_⟩
  exact replay_induction (I := fun _ place => Renewing accepts place) .renewed
    (fun _ _ _ _ renewing moved => (moves_of_next moved).renewing renewing) replayed

end

/-! ## Any number of calls -/

section
variable {C T E : Type} [DecidableEq C] {accepts : C → T → Bool} {system next : System C T E} {call : C}
  {event : Event T E}

/-- A step moves one call along its own events, and the lock with it. -/
theorem step_eq_some (stepped : system.step accepts (call, event) = some next) :
    ∃ place lock, (system.place call).next (accepts call) event = some place ∧
      next = system.moved call event place lock ∧
      ((event = .lock ∧ system.lock = none ∧ lock = some call) ∨ (event = .unlock ∧ lock = none) ∨
        (event ≠ .lock ∧ event ≠ .unlock ∧ lock = system.lock)) := by
  simp only [System.step] at stepped
  split at stepped
  · cases stepped
  · rename_i place moved
    split at stepped
    · split at stepped <;> cases stepped
      rename_i free
      exact ⟨place, _, moved, rfl, .inl ⟨rfl, free, rfl⟩⟩
    · split at stepped <;> cases stepped
      exact ⟨place, _, moved, rfl, .inr (.inr ⟨nofun, nofun, rfl⟩)⟩
    · cases stepped
      exact ⟨place, _, moved, rfl, .inr (.inl ⟨rfl, rfl⟩)⟩
    · rename_i other _ unheld
      cases stepped
      exact ⟨place, _, moved, rfl, .inr (.inr ⟨other, unheld, rfl⟩)⟩

/-- What every interleaving keeps: each call is where its own events lead, the lock has the one
call that holds it, and when a replacement succeeds no other call holds it. -/
structure Orderly (accepts : C → T → Bool) (system : System C T E) : Prop where
  led : ∀ call, replay (Place.next (accepts call)) (own call system.history) .idle = some (system.place call)
  holder : ∀ call, (system.place call).holds = true ↔ system.lock = some call
  alone : ∀ before entry after, system.history = before ++ entry :: after →
    entry.2 matches .replaced (.ok ()) → ∀ other, other ≠ entry.1 →
    ∃ place, replay (Place.next (accepts other)) (own other before) .idle = some place ∧ place.holds = false

theorem orderly_start (accepts : C → T → Bool) : Orderly accepts (System.start : System C T E) where
  led _ := rfl
  holder _ := by simp [System.start, Place.holds]
  alone before entry after split := by
    have longer := congrArg List.length split
    simp [System.start] at longer

namespace Orderly

theorem led_moved (orderly : Orderly accepts system) {place : Place T E} {lock : Option C}
    (moved : (system.place call).next (accepts call) event = some place) (other : C) :
    replay (Place.next (accepts other)) (own other (system.moved call event place lock).history) .idle =
      some ((system.moved call event place lock).place other) := by
  dsimp only [System.moved]
  rw [own_append, replay_append_eq_some]
  refine ⟨system.place other, orderly.led other, ?_⟩
  by_cases same : other = call
  · rw [same, own_cons_self, Function.update_self]
    simp only [own_nil, replay, moved, Option.bind_some]
  · rw [own_cons_of_ne (Ne.symm same), Function.update_of_ne same]
    rfl

theorem holder_moved (orderly : Orderly accepts system) {place : Place T E} {lock : Option C}
    (moved : (system.place call).next (accepts call) event = some place)
    (follows : (event = .lock ∧ system.lock = none ∧ lock = some call) ∨ (event = .unlock ∧ lock = none) ∨
      (event ≠ .lock ∧ event ≠ .unlock ∧ lock = system.lock)) (other : C) :
    ((system.moved call event place lock).place other).holds = true ↔ lock = some other := by
  have here := orderly.holder call
  have there := orderly.holder other
  dsimp only [System.moved]
  by_cases same : other = call
  · subst same
    rw [Function.update_self]
    rcases (moves_of_next moved).holds with ⟨rfl, -, taken⟩ | ⟨rfl, -, freed⟩ | ⟨locks, unlocks, kept⟩
    · rcases follows with ⟨-, -, rfl⟩ | ⟨other, -⟩ | ⟨other, -⟩
      · simp [taken]
      · cases other
      · exact absurd rfl other
    · rcases follows with ⟨other, -⟩ | ⟨-, rfl⟩ | ⟨-, other, -⟩
      · cases other
      · simp [freed]
      · exact absurd rfl other
    · rcases follows with ⟨other, -⟩ | ⟨other, -⟩ | ⟨-, -, rfl⟩
      · exact absurd other locks
      · exact absurd other unlocks
      · rw [kept, here]
  · rw [Function.update_of_ne same, there]
    rcases follows with ⟨-, free, rfl⟩ | ⟨rfl, rfl⟩ | ⟨-, -, rfl⟩
    · simp [free, Ne.symm same]
    · rcases (moves_of_next moved).holds with ⟨other, -⟩ | ⟨-, held, -⟩ | ⟨-, other, -⟩
      · cases other
      · simp [here.mp held, Ne.symm same]
      · exact absurd rfl other
    · rfl

theorem step (orderly : Orderly accepts system) (stepped : system.step accepts (call, event) = some next) :
    Orderly accepts next := by
  obtain ⟨place, lock, moved, rfl, follows⟩ := step_eq_some stepped
  refine ⟨orderly.led_moved moved, orderly.holder_moved moved follows, ?_⟩
  refine forall_split_snoc orderly.alone fun succeeded other apart => ?_
  refine ⟨system.place other, orderly.led other, ?_⟩
  -- The call whose replacement succeeds holds the lock.
  have held : (system.place call).holds = true := by
    cases event with
    | replaced result =>
        have moves := moves_of_next moved
        generalize system.place call = place at moves
        cases moves <;> rfl
    | probe | answer | contended | unlockable | lock | replace | wake | expire | abandon | unlock => cases succeeded
  cases free : (system.place other).holds with
  | false => rfl
  | true =>
      have same := (orderly.holder other).mp free
      rw [(orderly.holder call).mp held, Option.some.injEq] at same
      exact absurd same.symm apart

theorem path (orderly : Orderly accepts system) (path : Path (System.step accepts) Any system next) :
    Orderly accepts next :=
  Path.invariant (fun _ _ _ sound _ stepped => sound.step stepped) path orderly

theorem replacing_holds (orderly : Orderly accepts system) (replacing : system.place call = .replacing) :
    system.lock = some call :=
  (orderly.holder call).mp (by rw [replacing]; rfl)

end Orderly

/-- A call returns only what a probe of its own said and its caller accepts; it replaces at most
once, with the lock and after a check with the lock; no two replacements overlap; and after one
that the next probes accept there is no other. -/
theorem ensure_current_replaces_one_at_a_time (reached : Path (System.step accepts) Any .start system) :
    (∀ call current, system.place call = .ended (some (.ok current)) →
      .answer (.ok (some current)) ∈ own call system.history ∧ accepts call current = true) ∧
    (∀ call before after, own call system.history = before ++ .replace :: after →
      .replace ∉ after ∧ ∃ earlier answer,
        before = earlier ++ [.lock, .probe, .answer answer] ∧ Rejected (accepts call) answer) ∧
    (∀ call, (∃ next, system.step accepts (call, .replace) = some next) ∨ system.place call = .replacing →
      system.lock = some call) ∧
    (∀ call other, system.place call = .replacing → system.place other = .replacing → call = other) ∧
    (∀ call before after, system.history = before ++ (call, .replaced (.ok ())) :: after →
      (∀ other earlier answer later, own other after = earlier ++ .probe :: .answer answer :: later →
        Accepted (accepts other) answer) →
      ∀ other, (other, .replace) ∉ after) ∧
    (∀ call before after result, own call system.history = before ++ .replaced (.ok ()) :: after →
      system.place call = .ended (some result) →
      (∃ current, result = .ok current ∧ accepts call current = true) ∨
      (∃ error, result = .error (.probe error)) ∨ result = .error .deadline) := by
  have orderly := (orderly_start accepts).path reached
  refine ⟨fun call current returned => ?_, fun call before after split => ?_, fun call replacing => ?_,
    fun call other first second => ?_, fun call before after split fresh other again => ?_,
    fun call before after result split returned => ?_⟩
  · have earned : Earned (accepts call) (own call system.history) (system.place call) :=
      replay_induction (fun _ finished => by simp at finished)
        (fun _ _ _ _ earned moved => (moves_of_next moved).earned earned) (orderly.led call)
    exact earned current (.inr returned)
  · exact replace_after_check rfl (orderly.led call) before after split
  · rcases replacing with ⟨next, stepped⟩ | replacing
    · obtain ⟨place, lock, moved, -⟩ := step_eq_some stepped
      refine (orderly.holder call).mp ?_
      have moves := moves_of_next moved
      generalize system.place call = place at moves
      cases moves
      rfl
    · exact orderly.replacing_holds replacing
  · have same := orderly.replacing_holds first
    rw [orderly.replacing_holds second, Option.some.injEq] at same
    exact same.symm
  · obtain ⟨earlier, later, invoked⟩ := List.append_of_mem (mem_own.mpr again)
    by_cases same : other = call
    · have led := orderly.led call
      rw [split, own_append, own_cons_self] at led
      exact (after_replaced led).1 (mem_own.mpr (same ▸ again))
    · obtain ⟨place, led, free⟩ := orderly.alone before _ after split rfl other same
      have rest := orderly.led other
      rw [split, own_append, own_cons_of_ne (Ne.symm same), replay_append_eq_some] at rest
      obtain ⟨middle, led', rest⟩ := rest
      cases led.symm.trans led'
      obtain ⟨-, first, answer, checked, rejected⟩ := replace_after_check free rest earlier later invoked
      refine rejected.not_accepted (fresh other (first ++ [.lock]) answer (.replace :: later) ?_)
      rw [invoked, checked]
      simp
  · have led := orderly.led call
    rw [split] at led
    have renewing := (after_replaced led).2
    rw [returned] at renewing
    cases renewing with
    | ended faithful => simpa [Faithful] using faithful

end

/-- Two callers that want version 2: one replaces the daemon, the other waits for the lock and
finds it current. -/
def twoCallers {C : Type} (first second : C) : List (C × Event Nat Unit) :=
  [(first, .probe), (second, .probe), (first, .answer (.ok none)), (first, .lock),
    (second, .answer (.ok (some 1))), (second, .contended), (first, .probe), (first, .answer (.ok none)),
    (first, .replace), (first, .replaced (.ok ())), (first, .probe), (first, .answer (.ok (some 2))),
    (first, .unlock), (second, .lock), (second, .probe), (second, .answer (.ok (some 2))), (second, .unlock)]

theorem two_callers_replace_once : ∃ system : System (Fin 2) Nat Unit,
    replay (System.step fun _ version => version == 2) (twoCallers 0 1) .start = some system ∧
    system.place 0 = .ended (some (.ok 2)) ∧ system.place 1 = .ended (some (.ok 2)) ∧
    .answer (.ok (some 2)) ∈ own 1 system.history ∧
    ∀ before after, own 0 system.history = before ++ .replace :: after → .replace ∉ after := by
  obtain ⟨system, replayed⟩ : ∃ system,
      replay (System.step fun _ version => version == 2) (twoCallers 0 1) .start = some system := ⟨_, rfl⟩
  have ensured := ensure_current_replaces_one_at_a_time (path_of_replay (twoCallers 0 1) replayed)
  cases replayed
  exact ⟨_, rfl, rfl, rfl, (ensured.1 1 2 rfl).1, fun before after split => (ensured.2.1 0 before after split).1⟩

end KunobiDaemon.Upgrade
