import KunobiDaemon.Lib.Versions
import KunobiDaemon.Lifecycle.Gate

/-! The gate is one-way and exact, and it wakes every call that waits on it.

A gate can move in five ways (`Gate.Moves`). All of them keep what a call relies on at the place
where it stands (`Fine.moves`), so only the steps of the call itself need a look at the gate.
-/

set_option autoImplicit false

namespace KunobiDaemon.Lifecycle

open Lib.Systems
open Lib.Versions

/-- All that can happen to a gate. -/
inductive Gate.Moves (gate : Gate) : Gate → Prop where
  | stays {log : List Event} : log.filter (· ≠ .drainTimedOut) = gate.log.filter (· ≠ .drainTimedOut) →
      gate.log <+: log → Moves gate { gate with log }
  | admitted : gate.state.draining = false →
      Moves gate { gate with state := { gate.state with active := gate.state.active + 1 } }
  | released {rest : Nat} : gate.state.active = rest + 1 → (gate.state.draining = true → rest ≠ 0) →
      Moves gate { gate with state := { gate.state with active := rest } }
  | completed : gate.state.active = 1 → gate.state.draining = true →
      Moves gate
        { state := { gate.state with active := 0 }, log := gate.log ++ [.drainCompleted],
          version := gate.version + 1 }
  | closed {now : Instant} {log : List Event} : gate.state.draining = false →
      log = gate.log ++ .drainStarted :: (if gate.state.active = 0 then [.drainCompleted] else []) →
      Moves gate
        { state := { gate.state with draining := true, drainStarted := some now }, log,
          version := gate.version + 1 }

namespace Gate

theorem Moves.refl (gate : Gate) : Moves gate gate := .stays rfl (List.prefix_refl _)

theorem moves_begin {gate next : Gate} (begun : gate.begin = some next) :
    gate.state.draining = false ∧ next = { gate with state := { gate.state with active := gate.state.active + 1 } } := by
  unfold begin at begun
  split at begun
  · cases begun
  · cases begun
    exact ⟨by simp_all, rfl⟩

theorem moves_drop {gate : Gate} (some_ : gate.state.active ≠ 0) : gate.Moves gate.drop := by
  obtain ⟨rest, count⟩ := Nat.exists_eq_succ_of_ne_zero some_
  have fewer : gate.state.active - 1 = rest := by rw [count, Nat.succ_sub_one]
  unfold drop
  dsimp only
  rw [fewer]
  split
  · rename_i last
    simp only [Bool.and_eq_true, decide_eq_true_eq] at last
    obtain ⟨draining, rfl⟩ := last
    exact .completed count draining
  · rename_i more
    refine .released count fun draining zero => more ?_
    simp [draining, zero]

/-- `start_drain` closes the gate, or finds it closed. -/
theorem startDrain_cases (gate : Gate) (now : Instant) :
    (gate.state.draining = true ∧ gate.startDrain now = (gate, false)) ∨
    (gate.state.draining = false ∧ (gate.startDrain now).2 = true ∧ gate.Moves (gate.startDrain now).1 ∧
      (gate.startDrain now).1.state = { gate.state with draining := true, drainStarted := some now }) := by
  cases draining : gate.state.draining with
  | true => exact .inl ⟨rfl, by simp [startDrain, draining]⟩
  | false =>
      refine .inr ⟨rfl, by simp [startDrain, draining], ?_, by simp [startDrain, draining]⟩
      simp only [startDrain, draining]
      refine .closed draining ?_
      split <;> simp

theorem moves_startDrain (gate : Gate) (now : Instant) : gate.Moves (gate.startDrain now).1 := by
  rcases gate.startDrain_cases now with ⟨-, same⟩ | ⟨-, -, moves, -⟩
  · rw [same]
    exact .refl gate
  · exact moves

theorem draining_startDrain (gate : Gate) (now : Instant) : (gate.startDrain now).1.state.draining = true := by
  rcases gate.startDrain_cases now with ⟨draining, same⟩ | ⟨-, -, -, state⟩
  · rw [same]
    exact draining
  · rw [state]

end Gate

/-- What has been recorded of a drain in a state: that it started, and that it completed. -/
def State.records (state : State) : List Event :=
  if state.draining then .drainStarted :: (if state.active = 0 then [.drainCompleted] else []) else []

/-- A drain has closed admission. -/
def Waiter.Begun (waiter : Waiter) (gate : Gate) : Prop := waiter ≠ .draining → gate.state.draining = true

/-- What a call relies on at its place. -/
def Fine (gate : Gate) : Place → Prop
  | .idle | .late _ | .returned .drainUntil (some (.timedOut _)) => True
  | .entered waiter => waiter.Begun gate
  | .looping waiter seen | .checking waiter seen => waiter.Begun gate ∧ seen ≤ gate.version
  | .parked waiter seen => waiter.Begun gate ∧ Heard seen gate.version (waiter.done gate.state = false)
  | .expired => gate.state.draining = true
  | .returned .draining _ => gate.state.draining = true
  | .returned _ _ => gate.state.draining = true ∧ gate.state.active = 0

section
variable {gate next : Gate}

theorem draining_moves (moves : gate.Moves next) (draining : gate.state.draining = true) :
    next.state.draining = true := by
  cases moves with
  | stays | released | completed => exact draining
  | admitted => exact draining
  | closed => rfl

/-- Once a gate is closed, nothing is admitted. -/
theorem active_moves (moves : gate.Moves next) (draining : gate.state.draining = true) :
    next.state.active ≤ gate.state.active := by
  cases moves with
  | stays | completed => simp
  | admitted opened => exact absurd (draining.symm.trans opened) nofun
  | released count => exact count ▸ Nat.le_succ _
  | closed opened => exact absurd (draining.symm.trans opened) nofun

theorem version_moves (moves : gate.Moves next) : gate.version ≤ next.version := by
  cases moves with
  | stays | admitted | released => exact Nat.le_refl _
  | completed | closed => exact Nat.le_succ _

/-- A move that brings about what a call waits for announces it. -/
theorem heard_moves (moves : gate.Moves next) {waiter : Waiter} {seen : Nat} (begun : waiter.Begun gate)
    (heard : Heard seen gate.version (waiter.done gate.state = false)) :
    Heard seen next.version (waiter.done next.state = false) := by
  cases moves with
  | stays => exact heard
  | completed | closed => exact heard.announced (Nat.lt_succ_self _)
  | admitted opened =>
      cases waiter with
      | draining => exact heard
      | drain | drainUntil => exact absurd ((begun nofun).symm.trans opened) nofun
  | released count more =>
      -- Requests are left, so a drain still waits.
      cases waiter with
      | draining => exact heard
      | drain | drainUntil => exact ⟨heard.bounded, fun _ => decide_eq_false (more (begun nofun))⟩

theorem Fine.moves (moves : gate.Moves next) {place : Place} (fine : Fine gate place) : Fine next place := by
  have begun {waiter : Waiter} (begun : waiter.Begun gate) : waiter.Begun next := fun drains =>
    draining_moves moves (begun drains)
  cases place with
  | idle => exact trivial
  | late => exact trivial
  | entered => exact begun fine
  | looping => exact ⟨begun fine.1, Nat.le_trans fine.2 (version_moves moves)⟩
  | checking => exact ⟨begun fine.1, Nat.le_trans fine.2 (version_moves moves)⟩
  | parked => exact ⟨begun fine.1, heard_moves moves fine.1 fine.2⟩
  | expired => exact draining_moves moves fine
  | returned waiter outcome =>
      have kept (fine : gate.state.draining = true ∧ gate.state.active = 0) :
          next.state.draining = true ∧ next.state.active = 0 := by
        have fewer := active_moves moves fine.1
        rw [fine.2] at fewer
        exact ⟨draining_moves moves fine.1, Nat.le_zero.mp fewer⟩
      cases waiter with
      | draining => exact draining_moves moves fine
      | drain => exact kept fine
      | drainUntil =>
          rcases outcome with _ | _ | _
          · exact kept fine
          · exact kept fine
          · exact trivial

theorem log_moves (moves : gate.Moves next) : gate.log <+: next.log := by
  cases moves with
  | stays _ grows => exact grows
  | admitted | released => exact List.prefix_refl _
  | completed => exact List.prefix_append _ _
  | closed _ log => exact log ▸ List.prefix_append _ _

theorem records_moves (moves : gate.Moves next)
    (recorded : gate.log.filter (· ≠ .drainTimedOut) = gate.state.records) :
    next.log.filter (· ≠ .drainTimedOut) = next.state.records := by
  cases moves with
  | stays same => exact same.trans recorded
  | admitted opened => simpa [State.records, opened] using recorded
  | released count more =>
      cases draining : gate.state.draining with
      | false => simpa [State.records, draining] using recorded
      | true => simpa [State.records, draining, count, more draining] using recorded
  | completed last draining =>
      rw [List.filter_append, recorded]
      simp [State.records, draining, last]
  | closed opened log =>
      rw [log, List.filter_append, recorded]
      by_cases none_ : gate.state.active = 0 <;> simp [State.records, opened, none_]

end

/-- What a call does by itself. -/
inductive Place.Steps (gate : Gate) : Place → Place → Prop where
  | entered : Steps gate .idle (.entered .draining)
  | subscribed {waiter : Waiter} : Steps gate (.entered waiter) (.looping waiter gate.version)
  | updated {waiter : Waiter} {seen : Nat} : Steps gate (.looping waiter seen) (.checking waiter gate.version)
  | found {waiter : Waiter} {seen : Nat} : waiter.done gate.state = true →
      Steps gate (.checking waiter seen) (.returned waiter waiter.outcome)
  | parks {waiter : Waiter} {seen : Nat} : waiter.done gate.state = false →
      Steps gate (.checking waiter seen) (.parked waiter seen)
  | woken {waiter : Waiter} {seen : Nat} : Steps gate (.parked waiter seen) (.looping waiter gate.version)
  | cancelled {waiter : Waiter} {seen : Nat} : Steps gate (.parked waiter seen) .idle
  | expired {seen : Nat} : Steps gate (.parked .drainUntil seen) .expired
  | finished : gate.state.active = 0 → Steps gate .expired (.returned .drainUntil (some .complete))
  | late {active : Nat} : Steps gate .expired (.late active)
  | left {waiter : Waiter} {outcome : Option DrainOutcome} : Steps gate (.returned waiter outcome) .idle

theorem Fine.steps {gate : Gate} {place next : Place} (steps : Place.Steps gate place next)
    (fine : Fine gate place) : Fine gate next := by
  cases steps with
  | entered => exact fun drains => absurd rfl drains
  | subscribed => exact ⟨fine, Nat.le_refl _⟩
  | updated => exact ⟨fine.1, Nat.le_refl _⟩
  | parks waits => exact ⟨fine.1, .noted fine.2 waits⟩
  | woken => exact ⟨fine.1, Nat.le_refl _⟩
  | cancelled | left | late => exact trivial
  | expired => exact fine.1 nofun
  | finished none_ => exact ⟨fine, none_⟩
  | @found waiter seen done =>
      cases waiter with
      | draining => exact done
      | drain | drainUntil => exact ⟨fine.1 nofun, of_decide_eq_true done⟩

section
variable {C G : Type}

/-- What holds of a gate and its calls at any time. -/
structure Sound (s : System C G) : Prop where
  exact_ : s.gate.state.active = s.live.card
  starts : s.starts = s.gate.state.draining.toNat
  records : s.gate.log.filter (· ≠ .drainTimedOut) = s.gate.state.records
  calls : ∀ caller, Fine s.gate (s.calls caller)

namespace Sound

variable {s : System C G}

theorem initial : Sound (System.initial : System C G) := ⟨rfl, rfl, rfl, fun _ => trivial⟩

theorem fine (sound : Sound s) {caller : C} {place : Place} (stands : s.calls caller = place) : Fine s.gate place :=
  stands ▸ sound.calls caller

/-- The guard that is dropped is one of those counted. -/
theorem active_ne_zero (sound : Sound s) {guard : G} (held : guard ∈ s.live) : s.gate.state.active ≠ 0 := by
  rw [sound.exact_]
  exact Finset.card_ne_zero_of_mem held

theorem move [DecidableEq C] (sound : Sound s) {caller : C} {place : Place} (fine : Fine s.gate place) :
    Sound (s.move caller place) := by
  refine ⟨sound.exact_, sound.starts, sound.records, fun other => ?_⟩
  simp only [System.move, Function.update_apply]
  split
  · exact fine
  · exact sound.calls other

theorem startDrain (sound : Sound s) (now : Instant) : Sound (s.startDrain now) := by
  have moves := s.gate.moves_startDrain now
  refine ⟨?_, ?_, records_moves moves sound.records, fun caller => (sound.calls caller).moves moves⟩
  · rcases s.gate.startDrain_cases now with ⟨-, same⟩ | ⟨-, -, -, state⟩
    · simpa [System.startDrain, same] using sound.exact_
    · simpa [System.startDrain, state] using sound.exact_
  · rcases s.gate.startDrain_cases now with ⟨draining, same⟩ | ⟨opened, first, -, state⟩
    · simpa [System.startDrain, same] using sound.starts
    · simp [System.startDrain, first, state, sound.starts, opened]

end Sound

/-- What a gate shows at any time. -/
structure Gated (s : System C G) : Prop where
  exact_ : s.gate.state.active = s.live.card
  starts : s.starts = if s.gate.state.draining then 1 else 0
  records : s.gate.log.filter (· ≠ .drainTimedOut) = s.gate.state.records
  drained : ∀ caller outcome, s.calls caller = .returned .drain outcome →
    s.gate.state.draining = true ∧ s.gate.state.active = 0
  completed : ∀ caller, s.calls caller = .returned .drainUntil (some .complete) →
    s.gate.state.draining = true ∧ s.gate.state.active = 0
  closed : ∀ caller outcome, s.calls caller = .returned .draining outcome → s.gate.state.draining = true
  drains_woken : ∀ caller waiter seen, s.calls caller = .parked waiter seen → waiter ≠ .draining →
    s.gate.version = seen → s.gate.state.active ≠ 0
  draining_woken : ∀ caller seen, s.calls caller = .parked .draining seen →
    s.gate.version = seen → s.gate.state.draining = false

/-- What a gate keeps from one state to a later one. -/
structure OneWay (s t : System C G) : Prop where
  closed : s.gate.state.draining = true → t.gate.state.draining = true
  fewer : s.gate.state.draining = true → t.gate.state.active ≤ s.gate.state.active
  log : s.gate.log <+: t.gate.log

theorem Sound.gated {s : System C G} (sound : Sound s) : Gated s where
  exact_ := sound.exact_
  starts := by
    rw [sound.starts]
    cases s.gate.state.draining <;> rfl
  records := sound.records
  drained caller outcome returned := sound.fine returned
  completed caller returned := sound.fine returned
  closed caller outcome returned := sound.fine returned
  drains_woken caller waiter seen parked drains same := by
    have waits := (sound.fine parked).2.quiet same.symm
    cases waiter with
    | draining => exact absurd rfl drains
    | drain | drainUntil => exact of_decide_eq_false waits
  draining_woken caller seen parked same := (sound.fine parked).2.quiet same.symm

variable [DecidableEq C] [DecidableEq G]

/-- All that one step can do. -/
inductive Effect (s : System C G) : System C G → Prop where
  | refused : Effect s s
  | admitted {guard : G} : guard ∉ s.live → s.gate.state.draining = false →
      Effect s
        { s with
          gate := { s.gate with state := { s.gate.state with active := s.gate.state.active + 1 } },
          live := insert guard s.live }
  | dropped {guard : G} : guard ∈ s.live →
      Effect s { s with gate := s.gate.drop, live := s.live.erase guard }
  | started {now : Instant} : Effect s (s.startDrain now)
  | drains {caller : C} {waiter : Waiter} {now : Instant} :
      Effect s ((s.startDrain now).move caller (.entered waiter))
  | moved {caller : C} {place : Place} : Place.Steps s.gate (s.calls caller) place → Effect s (s.move caller place)
  | recorded {caller : C} {active : Nat} :
      Effect s
        (System.move { s with gate := { s.gate with log := s.gate.log ++ [.drainTimedOut] } } caller
          (.returned .drainUntil (some (.timedOut active))))

theorem step_effect {s t : System C G} {label : Label C G} (stepped : s.step label = some t) : Effect s t := by
  cases label with
  | begin guard =>
      simp only [System.step] at stepped
      split at stepped
      · cases stepped
      · rename_i fresh
        cases begun : s.gate.begin with
        | none =>
            rw [begun] at stepped
            cases stepped
            exact .refused
        | some gate =>
            rw [begun] at stepped
            cases stepped
            obtain ⟨opened, rfl⟩ := Gate.moves_begin begun
            exact .admitted fresh opened
  | drop guard =>
      simp only [System.step] at stepped
      split at stepped
      · cases stepped
        exact .dropped ‹_›
      · cases stepped
  | startDrain now =>
      cases stepped
      exact .started
  | call caller waiter now =>
      simp only [System.step] at stepped
      split at stepped
      · rename_i idle
        cases stepped
        exact .moved (idle ▸ .entered)
      · cases stepped
        exact .drains
      · cases stepped
        exact .drains
      · cases stepped
  | subscribe caller =>
      simp only [System.step] at stepped
      split at stepped
      · rename_i entered
        cases stepped
        exact .moved (entered ▸ .subscribed)
      · cases stepped
  | update caller =>
      simp only [System.step] at stepped
      split at stepped
      · rename_i looping
        cases stepped
        exact .moved (looping ▸ .updated)
      · cases stepped
  | check caller =>
      simp only [System.step] at stepped
      split at stepped
      · rename_i waiter seen checking
        split at stepped
        · cases stepped
          exact .moved (checking ▸ .found ‹_›)
        · rename_i waits
          cases stepped
          exact .moved (checking ▸ .parks (by simpa using waits))
      · cases stepped
  | wake caller =>
      simp only [System.step] at stepped
      split at stepped
      · rename_i parked
        split at stepped
        · cases stepped
          exact .moved (parked ▸ .woken)
        · cases stepped
      · cases stepped
  | cancel caller =>
      simp only [System.step] at stepped
      split at stepped
      · rename_i parked
        cases stepped
        exact .moved (parked ▸ .cancelled)
      · cases stepped
  | expire caller =>
      simp only [System.step] at stepped
      split at stepped
      · rename_i parked
        cases stepped
        exact .moved (parked ▸ .expired)
      · cases stepped
  | finish caller =>
      simp only [System.step] at stepped
      split at stepped
      · rename_i expired
        split at stepped
        · cases stepped
          exact .moved (expired ▸ .finished ‹_›)
        · cases stepped
          exact .moved (expired ▸ .late)
      · cases stepped
  | record caller =>
      simp only [System.step] at stepped
      split at stepped
      · cases stepped
        exact .recorded
      · cases stepped
  | leave caller =>
      simp only [System.step] at stepped
      split at stepped
      · rename_i returned
        cases stepped
        exact .moved (returned ▸ .left)
      · cases stepped

variable {s t : System C G}

theorem Sound.effect (sound : Sound s) (effect : Effect s t) : Sound t := by
  cases effect with
  | refused => exact sound
  | admitted fresh opened =>
      have moves : s.gate.Moves _ := .admitted opened
      refine ⟨?_, sound.starts, records_moves moves sound.records, fun caller => (sound.calls caller).moves moves⟩
      rw [Finset.card_insert_of_notMem fresh, ← sound.exact_]
  | dropped held =>
      have moves := Gate.moves_drop (sound.active_ne_zero held)
      have state : s.gate.drop.state = { s.gate.state with active := s.gate.state.active - 1 } := by
        unfold Gate.drop
        dsimp only
        split <;> rfl
      refine ⟨?_, ?_, records_moves moves sound.records, fun caller => (sound.calls caller).moves moves⟩
      · rw [Finset.card_erase_of_mem held, ← sound.exact_, state]
      · rw [state]
        exact sound.starts
  | started => exact sound.startDrain _
  | drains => exact (sound.startDrain _).move fun _ => s.gate.draining_startDrain _
  | @moved caller place steps => exact sound.move ((sound.calls caller).steps steps)
  | @recorded caller active =>
      have moves : s.gate.Moves { s.gate with log := s.gate.log ++ [.drainTimedOut] } :=
        .stays (by simp) (List.prefix_append _ _)
      -- The record of a timeout is no record of the drain itself.
      have noted : Sound { s with gate := { s.gate with log := s.gate.log ++ [.drainTimedOut] } } :=
        ⟨sound.exact_, sound.starts, records_moves moves sound.records, fun other => (sound.calls other).moves moves⟩
      exact noted.move trivial

theorem sound_of_path (path : Path System.step Any (System.initial : System C G) s) : Sound s :=
  path.invariant (fun _ _ _ sound _ stepped => sound.effect (step_effect stepped)) .initial

/-- A step moves the gate, and admits a guard only through an open one. -/
theorem Sound.moves (sound : Sound s) (effect : Effect s t) :
    s.gate.Moves t.gate ∧ (s.gate.state.draining = true → t.live ⊆ s.live) := by
  cases effect with
  | refused => exact ⟨.refl _, fun _ => subset_rfl⟩
  | admitted _ opened => exact ⟨.admitted opened, fun draining => absurd (draining.symm.trans opened) nofun⟩
  | dropped held => exact ⟨Gate.moves_drop (sound.active_ne_zero held), fun _ => Finset.erase_subset _ _⟩
  | started | drains => exact ⟨s.gate.moves_startDrain _, fun _ => subset_rfl⟩
  | moved => exact ⟨.refl _, fun _ => subset_rfl⟩
  | recorded => exact ⟨.stays (by simp) (List.prefix_append _ _), fun _ => subset_rfl⟩

theorem oneWay_of_path (sound : Sound s) (path : Path System.step Any s t) : OneWay s t ∧ Sound t := by
  induction path with
  | refl => exact ⟨⟨id, fun _ => Nat.le_refl _, List.prefix_refl _⟩, sound⟩
  | tail _ next ih =>
      obtain ⟨label, -, stepped⟩ := next
      obtain ⟨so_far, sound⟩ := ih
      have effect := step_effect stepped
      have moves := (sound.moves effect).1
      refine ⟨⟨fun draining => ?_, fun draining => ?_, so_far.log.trans (log_moves moves)⟩, sound.effect effect⟩
      · exact draining_moves moves (so_far.closed draining)
      · exact Nat.le_trans (active_moves moves (so_far.closed draining)) (so_far.fewer draining)

/-- The drain gate is one-way and exact, and wakes everyone. -/
theorem drain_gate_sound (path : Path System.step Any (System.initial : System C G) s) :
    Gated s ∧
    (∀ label t, s.step label = some t → s.gate.state.draining = true → t.live ⊆ s.live) ∧
    (∀ t, Path System.step Any s t → OneWay s t) := by
  have sound := sound_of_path path
  refine ⟨sound.gated, fun label t stepped => ?_, fun t later => (oneWay_of_path sound later).1⟩
  exact (sound.moves (step_effect stepped)).2

/-- A drain that starts with a request under way returns when its guard is dropped. -/
theorem drain_gate_sound_drained :
    ∃ s : System Unit Nat, Path System.step Any System.initial s ∧ s.calls () = .returned .drain none ∧ Gated s := by
  have path : Path System.step Any (System.initial : System Unit Nat) _ :=
    path_of_replay
      [.begin 0, .call () .drain 7, .subscribe (), .update (), .check (), .drop 0, .wake (), .update (), .check ()] rfl
  exact ⟨_, path, rfl, (drain_gate_sound path).1⟩

end

end KunobiDaemon.Lifecycle
