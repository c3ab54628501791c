import KunobiDaemon.Serve.Connections

/-! The handlers of the accept loop: what they are given, and how they end. -/

set_option autoImplicit false

namespace KunobiDaemon.Serve

open Lib.Histories

section
variable {G : Type}

variable {budget : Duration} {now : Instant} {place place' : Place G} {event : Event G}
variable {s : System G}

/-- What the handlers were given. -/
def System.given (s : System G) : List (Authenticated G × Pool) :=
  (s.handlers ++ s.joined).map fun handler => (handler.authenticated, handler.permit)

/-- The story of a connection that a handler was given. -/
def admission (given : Authenticated G × Pool) : List (Event G) :=
  [.accept (.ok ()), .credentials (.ok given.1.credentials), .grant (.ok given.1.grant), .pool given.2, .acquire true,
    .check true, .invoke]

/-- Each handler was given a connection of its own that came all the way. -/
structure Handled (s : System G) : Prop where
  known : ∀ given ∈ s.given, given.1.connection < s.connections ∧ own given.1.connection s.history = admission given
  distinct : (s.given.map (·.1.connection)).Nodup
  number : s.given.length = s.served.admitted

theorem given_shared (other : event ≠ .invoke) : ((s.shared event).given).Perm s.given := by
  cases event with
  | invoke => exact absurd rfl other
  | join handler cancelled =>
      simp only [System.shared]
      split
      · rename_i task found
        obtain ⟨inside, rfl⟩ := List.getElem?_eq_some_iff.mp found
        refine List.Perm.map _ ?_
        have whole := (List.perm_append_singleton _ _).trans (List.getElem_cons_eraseIdx_perm inside)
        refine (List.perm_append_comm.append_left _).trans ?_
        rw [← List.append_assoc]
        exact whole.append_right _
      · exact .refl _
  | acquire | drop =>
      simp only [System.shared]
      split
      · exact .refl _
      · exact .refl _
  | abortAll => simp [System.shared, System.given, Function.comp_def]
  | _ => exact .refl _

theorem own_told {connection : Nat} (early : connection < s.connections) :
    own connection ((s.shared event).kept event place').history = own connection s.history := by
  simp only [System.kept, shared_history, shared_connections]
  split
  · exact own_snoc (Nat.ne_of_gt early)
  · rfl

theorem admitted_iff : event.outcome = some .admitted ↔ event = .invoke := by
  constructor
  · intro decided
    cases event with
    | invoke => rfl
    | credentials reply | grant reply => cases reply <;> cases decided
    | acquire taken => cases taken <;> cases decided
    | check accepting => cases accepting <;> cases decided
    | _ => cases decided
  · rintro rfl
    rfl

theorem Handled.told (handled : Handled s) (recorded : Recorded s)
    (moves : Moves budget s.now s.place event place') : Handled ((s.shared event).kept event place') := by
  have later : s.connections ≤ ((s.shared event).kept event place').connections := by
    simp only [System.kept, shared_connections]
    split
    · exact Nat.le_succ _
    · exact Nat.le_refl _
  have known (given : Authenticated G × Pool) (member : given ∈ s.given) :
      given.1.connection < ((s.shared event).kept event place').connections ∧
        own given.1.connection ((s.shared event).kept event place').history = admission given := by
    obtain ⟨early, story⟩ := handled.known given member
    exact ⟨Nat.lt_of_lt_of_le early later, (own_told early).trans story⟩
  have number := (served_count s.served event.outcome).1
  by_cases invoked : event = .invoke
  · subst invoked
    have present := recorded.present
    generalize at_ : s.place = place at moves present
    cases moves with
    | aside _ _ aside | stop _ aside => cases aside
    | @invoke credentials grant pool =>
        have given_ : ((s.shared .invoke).kept .invoke .selecting).given.Perm
            ((⟨s.connections, grant, credentials⟩, pool) :: s.given) := by
          simp only [System.shared, at_, System.kept, System.given]
          exact ((List.perm_append_singleton _ _).append_right _).map _
        constructor
        · intro given member
          rcases List.mem_cons.mp (given_.mem_iff.mp member) with rfl | earlier
          · refine ⟨by simp [System.kept, Event.outcome], ?_⟩
            simp only [System.kept, shared_history, shared_connections, Event.visits, if_true]
            rw [own_append, own_cons_self, own_nil, present]
            rfl
          · exact known given earlier
        · refine (given_.map _).nodup_iff.mpr (List.nodup_cons.mpr ⟨?_, handled.distinct⟩)
          intro member
          obtain ⟨given, member, same⟩ := List.mem_map.mp member
          exact absurd same (Nat.ne_of_lt (handled.known given member).1)
        · rw [given_.length_eq, List.length_cons, handled.number]
          simp [System.kept, number, admitted_iff]
  · have same := given_shared (s := s) invoked
    have unchanged : ((s.shared event).kept event place').given = (s.shared event).given := rfl
    constructor
    · intro given member
      exact known given (same.mem_iff.mp member)
    · exact (same.map _).nodup_iff.mpr handled.distinct
    · rw [unchanged, same.length_eq, handled.number]
      simp [System.kept, number, admitted_iff, invoked]

/-- `run` has not aborted anything yet. -/
def Place.waits : Place G → Bool
  | .reaping _ _ | .returned _ _ => false
  | _ => true

/-- What `run` knows of the handlers where it stands. -/
def Place.Knows (budget : Duration) (s : System G) : Place G → Prop
  | .stopped _ => ∃ stopped, s.stopped = some stopped ∧ stopped ≤ s.now
  | .finishing _ deadline => ∃ stopped, s.stopped = some stopped ∧ stopped + budget ≤ deadline
  | .aborting _ => s.handlers = [] ∨ ∃ stopped, s.stopped = some stopped ∧ stopped + budget ≤ s.now
  | .reaping _ aborted => aborted = s.joined.countP (·.status = .cancelled)
  | .returned _ aborted => s.handlers = [] ∧ aborted = s.joined.countP (·.status = .cancelled)
  | _ => True

/-- Handlers have time to end, and only those that are aborted after it are cancelled. -/
structure Tended (budget : Duration) (s : System G) : Prop where
  ended : ∀ handler ∈ s.joined, handler.status ≠ .running
  caused : ∀ handler ∈ s.handlers ++ s.joined, handler.status = .cancelled → handler.aborting = true
  timely : ∀ handler ∈ s.handlers ++ s.joined, handler.aborting = true →
    ∃ stopped aborted, s.stopped = some stopped ∧ s.aborted = some aborted ∧ stopped + budget ≤ aborted
  waits : s.place.waits = true → s.aborted = none
  knows : s.place.Knows budget s

theorem tended_start (limits : Limits) (now : Instant) : Tended budget (System.start limits now : System G) where
  ended _ member := absurd member List.not_mem_nil
  caused _ member := absurd member List.not_mem_nil
  timely _ member := absurd member List.not_mem_nil
  waits _ := rfl
  knows := trivial

theorem waits_of_idles (idle : place.idles = true) : place.waits = true := by
  cases place <;> first | rfl | cases idle

/-- Handlers are aborted once, at the end. -/
theorem Moves.waits (moves : Moves budget now place event place') (still : place'.waits = true) :
    place.waits = true ∧ event ≠ .abortAll := by
  cases moves with
  | aside idle _ aside | stop idle aside =>
      refine ⟨waits_of_idles idle, ?_⟩
      rintro rfl
      cases aside
  | accept | unreadable | evident | refused | granted | pooled | full | permitted | closed | checked | invoke | dropped
  | finish | overflow | await | finished | elapsed => exact ⟨rfl, nofun⟩
  | abortAll | reap | returned => cases still

section
variable (tended : Tended budget s)
include tended

theorem Tended.not_aborting (waits : s.place.waits = true) {handler : Handler G}
    (member : handler ∈ s.handlers ++ s.joined) : handler.aborting = false := by
  cases aborting : handler.aborting with
  | false => rfl
  | true =>
      obtain ⟨_, _, -, aborted, -⟩ := tended.timely handler member aborting
      rw [tended.waits waits] at aborted
      cases aborted

theorem Tended.not_cancelled (waits : s.place.waits = true) : s.joined.countP (·.status = .cancelled) = 0 := by
  refine List.countP_eq_zero.mpr fun handler member cancelled => ?_
  have inside : handler ∈ s.handlers ++ s.joined := List.mem_append_right _ member
  have aborting := tended.caused handler inside (of_decide_eq_true cancelled)
  rw [tended.not_aborting waits inside] at aborting
  cases aborting

end

/-- Until they are aborted, handlers come in running and go out ended. -/
theorem shared_handlers (other : event ≠ .abortAll) (tells : s.tells event = true) :
    (∀ handler ∈ (s.shared event).handlers ++ (s.shared event).joined,
      handler ∈ s.handlers ++ s.joined ∨ handler.status = .running ∧ handler.aborting = false) ∧
    (∀ handler ∈ (s.shared event).joined, handler ∈ s.joined ∨ handler.status ≠ .running) ∧
    (s.shared event).aborted = s.aborted := by
  cases event with
  | abortAll => exact absurd rfl other
  | invoke =>
      simp only [System.shared]
      split
      · refine ⟨fun handler member => ?_, fun handler => .inl, rfl⟩
        simp only [List.mem_append, List.mem_singleton] at member
        rcases member with (earlier | rfl) | joined
        · exact .inl (List.mem_append_left _ earlier)
        · exact .inr ⟨rfl, rfl⟩
        · exact .inl (List.mem_append_right _ joined)
      · exact ⟨fun handler => .inl, fun handler => .inl, rfl⟩
  | join handler cancelled =>
      simp only [System.tells, System.shared] at tells ⊢
      split
      · rename_i task found
        have inside := List.mem_of_getElem? found
        simp only [found, Bool.and_eq_true, decide_eq_true_eq] at tells
        refine ⟨fun other member => .inl ?_, fun other member => ?_, rfl⟩
        · simp only [List.mem_append, List.mem_singleton] at member ⊢
          rcases member with left | joined | rfl
          · exact .inl (List.mem_of_mem_eraseIdx left)
          · exact .inr joined
          · exact .inl inside
        · rcases List.mem_append.mp member with joined | same
          · exact .inl joined
          · rw [List.mem_singleton.mp same]
            exact .inr tells.1
      · exact ⟨fun handler => .inl, fun handler => .inl, rfl⟩
  | acquire | drop =>
      simp only [System.shared]
      split
      · exact ⟨fun handler => .inl, fun handler => .inl, rfl⟩
      · exact ⟨fun handler => .inl, fun handler => .inl, rfl⟩
  | _ => exact ⟨fun handler => .inl, fun handler => .inl, rfl⟩

/-- The stop of the loop is not forgotten at the end. -/
theorem stopped_kept (over_ : place'.waits = false) : ((s.shared event).kept event place').stopped = s.stopped := by
  cases place' <;> first | exact shared_stopped s event | cases over_

theorem Tended.timely_told (tended : Tended budget s) (moves : Moves budget s.now s.place event place')
    {handler : Handler G} (member : handler ∈ s.handlers ++ s.joined) (aborting : handler.aborting = true) :
    ∃ stopped aborted, ((s.shared event).kept event place').stopped = some stopped ∧ s.aborted = some aborted ∧
      stopped + budget ≤ aborted := by
  have over_ : place'.waits = false := by
    cases still : place'.waits with
    | false => rfl
    | true =>
        rw [tended.not_aborting (moves.waits still).1 member] at aborting
        cases aborting
  rw [stopped_kept over_]
  exact tended.timely handler member aborting

theorem Tended.knows_told (tended : Tended budget s) (moves : Moves budget s.now s.place event place')
    (tells : s.tells event = true) : place'.Knows budget ((s.shared event).kept event place') := by
  have knows := tended.knows
  have waits := tended.not_cancelled
  generalize at_ : s.place = place at moves knows waits
  cases moves with
  | aside _ idle => cases place' <;> trivial
  | accept | unreadable | evident | refused | granted | pooled | full | permitted | closed | checked | invoke
  | overflow => trivial
  | stop | dropped => exact ⟨s.now, by simp [System.kept], by simp [System.kept]⟩
  | finish =>
      obtain ⟨stopped, known, early⟩ := knows
      exact ⟨stopped, known, Nat.add_le_add_right early budget⟩
  | await =>
      obtain ⟨stopped, known, early⟩ := knows
      exact ⟨stopped, by simpa [System.kept] using known, early⟩
  | finished =>
      simp only [System.tells, decide_eq_true_eq] at tells
      exact .inl tells
  | elapsed over_ =>
      obtain ⟨stopped, known, early⟩ := knows
      exact .inr ⟨stopped, known, Nat.le_trans early over_⟩
  | abortAll => exact (waits rfl).symm
  | reap =>
      simp only [System.tells] at tells
      split at tells
      · rename_i task found
        simp only [Bool.and_eq_true, decide_eq_true_eq] at tells
        simp only [Place.Knows, System.kept, System.shared, found, List.countP_append] at knows ⊢
        rw [knows, tells.2, List.countP_singleton]
        cases task.status <;> rfl
      · cases tells
  | returned =>
      simp only [System.tells, decide_eq_true_eq] at tells
      exact ⟨tells, knows⟩

theorem Tended.told (tended : Tended budget s) (moves : Moves budget s.now s.place event place')
    (tells : s.tells event = true) : Tended budget ((s.shared event).kept event place') := by
  have knows := tended.knows_told moves tells
  by_cases aborts : event = .abortAll
  · subst aborts
    have aborting := tended.knows
    have none_ : s.place.waits = true → ∀ handler ∈ s.handlers ++ s.joined, handler.aborting = false :=
      fun waits _ => tended.not_aborting waits
    generalize at_ : s.place = place at moves aborting none_
    cases moves with
    | aside _ _ aside | stop _ aside => cases aside
    | abortAll =>
        refine ⟨tended.ended, fun handler member cancelled => ?_, fun handler member aborted => ?_, nofun, knows⟩
        · rcases List.mem_append.mp member with mapped | joined
          · obtain ⟨_, -, rfl⟩ := List.mem_map.mp mapped
            rfl
          · exact tended.caused handler (List.mem_append_right _ joined) cancelled
        · rcases List.mem_append.mp member with mapped | joined
          · obtain ⟨_, left, rfl⟩ := List.mem_map.mp mapped
            rcases aborting with empty | ⟨stopped, known, early⟩
            · rw [empty] at left
              cases left
            · exact ⟨stopped, s.now, known, rfl, early⟩
          · rw [none_ rfl handler (List.mem_append_right _ joined)] at aborted
            cases aborted
  · obtain ⟨members, ended, same⟩ := shared_handlers aborts tells
    refine ⟨fun handler member => ?_, fun handler member cancelled => ?_, fun handler member aborting => ?_, ?_, knows⟩
    · rcases ended handler member with earlier | over_
      · exact tended.ended handler earlier
      · exact over_
    · rcases members handler member with earlier | ⟨running, -⟩
      · exact tended.caused handler earlier cancelled
      · rw [running] at cancelled
        cases cancelled
    · rcases members handler member with earlier | ⟨-, fresh⟩
      · obtain ⟨stopped, aborted, known, at_, early⟩ := tended.timely_told moves earlier aborting
        exact ⟨stopped, aborted, known, same.trans at_, early⟩
      · rw [fresh] at aborting
        cases aborting
    · intro still
      exact same.trans (tended.waits (moves.waits still).1)

end

end KunobiDaemon.Serve
