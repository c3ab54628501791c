import KunobiDaemon.Control.Watch
import KunobiDaemon.Lifecycle.Draining

/-! What a subscription has sampled and sent, against what its service has become since.

Writers only move the shared state forward (`Advances`), and each of them announces what it
changed. Every sample is therefore a state that the service has left behind or still is in.
-/

set_option autoImplicit false

namespace KunobiDaemon.Control

open Lib.Systems
open Lib.Versions
open Lifecycle (Gate)
open Wire (EnumValue)

section
variable {first second third : Option UInt64}

theorem below_trans (one : below second first = false) (two : below third second = false) :
    below third first = false := by
  cases first <;> cases second <;> cases third <;> simp_all [below, UInt64.le_iff_toNat_le]
  exact Nat.le_trans one two

theorem below_antisymm (one : below second first = false) (two : below first second = false) : first = second := by
  cases first <;> cases second <;> simp_all [below]
  exact UInt64.le_antisymm ‹_› ‹_›

theorem below_irrefl : below first first = false := by
  cases first <;> simp [below]

end

/-- One published state may follow the other. -/
structure Published.Le (first second : Published) : Prop where
  generation : below second.generation first.generation = false
  build : first.generation = second.generation → first.build = second.build
  retiring : first.retiring = true → second.retiring = true

namespace Published.Le

variable {first second third : Published}

theorem refl (published : Published) : Le published published := ⟨below_irrefl, fun _ => rfl, id⟩

theorem trans (one : Le first second) (two : Le second third) : Le first third where
  generation := below_trans one.generation two.generation
  build same := by
    have middle : first.generation = second.generation := by
      apply below_antisymm one.generation
      rw [same]
      exact two.generation
    rw [one.build middle]
    exact two.build (middle.symm.trans same)
  retiring retires := two.retiring (one.retiring retires)

end Published.Le

/-- A published state that names the service's own build with its generation. -/
structure Proper (service : ControlService) (published : Published) : Prop where
  unselected : published.generation = none → published.build = ""
  own : published.generation = some service.generation → published.build = service.build

theorem selectionCommitted_le {service : ControlService} {published : Channel Published} (generation : UInt64)
    (build : String) (proper : Proper service published.value) :
    Published.Le published.value (service.selectionCommitted published generation build).1.value ∧
    Proper service (service.selectionCommitted published generation build).1.value ∧
    (service.selectionCommitted published generation build).1.value.retiring = published.value.retiring := by
  unfold ControlService.selectionCommitted
  split
  · exact ⟨.refl _, proper, rfl⟩
  · rename_i matching
    split
    · exact ⟨.refl _, proper, rfl⟩
    · rename_i onward
      simp only [Bool.or_eq_true, not_or] at onward
      unfold Channel.sendIfModified
      dsimp only
      split
      · rename_i modified
        split at modified
        · cases modified
        · -- The generation is a new one, and its build is checked if it is the service's own.
          rename_i fresh
          cases modified
          refine ⟨⟨by simpa using onward.1, fun same => absurd same fresh, id⟩, ⟨nofun, fun own => ?_⟩, rfl⟩
          cases own
          simpa using matching
      · exact ⟨.refl _, proper, rfl⟩

section
variable {C : Type}

/-- What holds of the shared state at any time. -/
structure Settled (service : ControlService) (s : System C) : Prop where
  proper : Proper service s.published.value
  retired : s.published.value.retiring = true → s.gate.state.draining = true
  retiring : ∀ caller, s.callers caller = .retiring → s.gate.state.draining = true

/-- A caller has set the ready flag and will announce it. -/
def Announcing (s : System C) : Prop := ∃ caller, s.callers caller = .announcing

/-- How the shared state can move, in one step or in many. -/
structure Advances (s t : System C) : Prop where
  ready : s.ready = true → t.ready = true
  draining : s.gate.state.draining = true → t.gate.state.draining = true
  published : Published.Le s.published.value t.published.value
  announced : t.published = s.published ∨ s.published.version < t.published.version
  -- The flag is set by a caller that stays until it has announced it.
  set : t.ready = true → s.ready = true ∨ Announcing t
  announcing : Announcing s → s.published.version < t.published.version ∨ Announcing t

theorem Advances.version {s t : System C} (advances : Advances s t) : s.published.version ≤ t.published.version := by
  rcases advances.announced with same | newer
  · rw [same]
  · exact Nat.le_of_lt newer

theorem Advances.heard {s t : System C} (advances : Advances s t) {seen : Nat} {good : Published → Prop}
    (heard : Heard seen s.published.version (good s.published.value)) :
    Heard seen t.published.version (good t.published.value) := by
  rcases advances.announced with same | newer
  · rw [same]
    exact heard
  · exact heard.announced newer

/-- A flag that was sampled stays as it was, unless news is pending or on its way. -/
theorem Advances.heard_ready {s t : System C} (advances : Advances s t) {seen : Nat} {known : Prop}
    (heard : Heard seen s.published.version (s.ready = true → known ∨ Announcing s)) :
    Heard seen t.published.version (t.ready = true → known ∨ Announcing t) := by
  refine ⟨Nat.le_trans heard.bounded advances.version, fun same set => ?_⟩
  have still : seen = s.published.version :=
    Nat.le_antisymm heard.bounded (same ▸ advances.version)
  -- A caller that announced since would have changed the version.
  have kept : Announcing s → Announcing t := fun announcing => by
    rcases advances.announcing announcing with newer | later
    · exact absurd newer (by rw [← still, same]; exact Nat.lt_irrefl _)
    · exact later
  rcases advances.set set with before | announcing
  · exact (heard.quiet still before).imp_right kept
  · exact .inr announcing

/-- All that a subscription can do by itself. -/
inductive Turn (service : ControlService) (s : System C) : Option Subscription → Subscription → Prop where
  | subscribed : Turn service s none { seen := s.published.version }
  | borrowed {before : Subscription} : before.phase = .looping →
      Turn service s (some before)
        { before with seen := s.published.version, phase := .borrowed s.published.value }
  | sampled {before : Subscription} {published : Published} : before.phase = .borrowed published →
      Turn service s (some before) { before with phase := .sampled published s.gate.state.draining }
  | loaded {before : Subscription} {published : Published} {draining : Bool} :
      before.phase = .sampled published draining →
      Turn service s (some before) (before.compare (service.event published draining s.ready))
  | delivered {before : Subscription} {event : LifecycleEvent} : before.phase = .sending event →
      Turn service s (some before)
        { before with previous := some event, sent := before.sent ++ [event], phase := .looping }
  | ended {before : Subscription} : Turn service s (some before) { before with phase := .ended }
  | woken {before : Subscription} {draining : Bool} {seen : Nat} : before.phase = .parked draining →
      (seen = before.seen ∨ seen = s.published.version) →
      Turn service s (some before) { before with seen, phase := .looping }

theorem serve_eq_some {s t : System C} {turn : Subscription → Option Subscription}
    (served : s.serve turn = some t) :
    ∃ before after, s.subscription = some before ∧ turn before = some after ∧
      t = { s with subscription := some after } := by
  unfold System.serve at served
  obtain ⟨after, turned, rfl⟩ := Option.map_eq_some_iff.mp served
  obtain ⟨before, found, turned⟩ := Option.bind_eq_some_iff.mp turned
  exact ⟨before, after, found, turned, rfl⟩

/-- A step by a writer, or by the subscription. -/
inductive Effect (service : ControlService) (s : System C) : System C → Prop where
  | wrote {t : System C} : t.subscription = s.subscription → Settled service t → Advances s t → Effect service s t
  | turned {after : Subscription} : Turn service s s.subscription after →
      Effect service s { s with subscription := some after }

theorem selectionCommitted_announced (service : ControlService) (published : Channel Published) (generation : UInt64)
    (build : String) :
    (service.selectionCommitted published generation build).1 = published ∨
    published.version < (service.selectionCommitted published generation build).1.version := by
  unfold ControlService.selectionCommitted
  split
  · exact .inl rfl
  · split
    · exact .inl rfl
    · dsimp only
      exact published.sendIfModified_announced _

theorem announceRetiring_announced (published : Channel Published) :
    ControlService.announceRetiring published = published ∨
    published.version < (ControlService.announceRetiring published).version := by
  unfold ControlService.announceRetiring
  exact published.sendIfModified_announced _

theorem announceRetiring_value (published : Channel Published) :
    (ControlService.announceRetiring published).value = { published.value with retiring := true } := by
  unfold ControlService.announceRetiring Channel.sendIfModified
  dsimp only
  by_cases retiring : published.value.retiring = true
  · rw [if_pos retiring]
    rw [← retiring]
  · rw [if_neg retiring]

theorem startDrain_effect {service : ControlService} {s : System C} (settled : Settled service s) (now : Instant) :
    Effect service s { s with gate := (s.gate.startDrain now).1 } := by
  have drains := s.gate.draining_startDrain now
  exact .wrote rfl ⟨settled.proper, fun _ => drains, fun _ _ => drains⟩
    ⟨id, fun _ => drains, .refl _, .inl rfl, .inl, .inr⟩

theorem selectionCommitted_effect {service : ControlService} {s : System C} (settled : Settled service s) (generation : UInt64) (build : String) :
    Effect service s { s with published := (service.selectionCommitted s.published generation build).1 } := by
  obtain ⟨onward, proper, same⟩ := selectionCommitted_le generation build settled.proper
  refine .wrote rfl ⟨proper, fun retired => settled.retired (same ▸ retired), settled.retiring⟩ ?_
  exact ⟨id, id, onward, selectionCommitted_announced _ _ _ _, .inl, .inr⟩

variable [DecidableEq C]

theorem Settled.move {service : ControlService} {s : System C} (settled : Settled service s) {caller : C}
    {place : Caller} (fine : place = .retiring → s.gate.state.draining = true) : Settled service (s.move caller place) := by
  refine ⟨settled.proper, settled.retired, fun other => ?_⟩
  simp only [System.move, Function.update_apply]
  split
  · exact fine
  · exact settled.retiring other

theorem announcing_move {s : System C} {caller : C} {place : Caller} (quiet : s.callers caller ≠ .announcing)
    (announcing : Announcing s) : Announcing (s.move caller place) := by
  obtain ⟨other, there⟩ := announcing
  refine ⟨other, ?_⟩
  have different : other ≠ caller := by
    rintro rfl
    exact quiet there
  simp [System.move, different, there]

section
variable {service : ControlService} {s t : System C} {caller : C}

theorem markReady_effect (settled : Settled service s) (stepped : s.step service (.markReady caller) = some t) :
    Effect service s t := by
  simp only [System.step] at stepped
  split at stepped
  · split at stepped
    · -- The flag was set before, so there is nothing to announce.
      cases stepped
      exact .wrote rfl settled ⟨id, id, .refl _, .inl rfl, .inl, .inr⟩
    · cases stepped
      have set : Announcing ({ s with ready := true }.move caller .announcing) :=
        ⟨caller, Function.update_self _ _ _⟩
      have kept : Settled service { s with ready := true } := ⟨settled.proper, settled.retired, settled.retiring⟩
      exact .wrote rfl (kept.move nofun) ⟨fun _ => rfl, id, .refl _, .inl rfl, fun _ => .inr set, fun _ => .inr set⟩
  · cases stepped

theorem notify_effect (settled : Settled service s) (stepped : s.step service (.notify caller) = some t) :
    Effect service s t := by
  simp only [System.step] at stepped
  split at stepped
  · cases stepped
    have newer := Nat.lt_succ_self s.published.version
    have kept : Settled service { s with published := s.published.notify } :=
      ⟨settled.proper, settled.retired, settled.retiring⟩
    exact .wrote rfl (kept.move nofun) ⟨id, id, .refl _, .inr newer, .inl, fun _ => .inl newer⟩
  · cases stepped

theorem markRetiring_effect (settled : Settled service s) {now : Instant}
    (stepped : s.step service (.markRetiring caller now) = some t) : Effect service s t := by
  simp only [System.step] at stepped
  split at stepped
  · rename_i idle
    cases stepped
    have drains := s.gate.draining_startDrain now
    have kept : Settled service { s with gate := (s.gate.startDrain now).1 } :=
      ⟨settled.proper, fun _ => drains, fun _ _ => drains⟩
    have telling : Announcing s → Announcing (System.move { s with gate := (s.gate.startDrain now).1 } caller .retiring) :=
      fun announcing => announcing_move (by simp [idle]) announcing
    exact .wrote rfl (kept.move fun _ => drains)
      ⟨id, fun _ => drains, .refl _, .inl rfl, .inl, fun announcing => .inr (telling announcing)⟩
  · cases stepped

theorem announceRetiring_effect (settled : Settled service s)
    (stepped : s.step service (.announceRetiring caller) = some t) : Effect service s t := by
  simp only [System.step] at stepped
  split at stepped
  · rename_i retiring
    cases stepped
    have value := announceRetiring_value s.published
    have drains := settled.retiring caller retiring
    have kept : Settled service { s with published := ControlService.announceRetiring s.published } :=
      ⟨by rw [value]; exact ⟨settled.proper.unselected, settled.proper.own⟩, fun _ => drains, settled.retiring⟩
    have onward : Published.Le s.published.value (ControlService.announceRetiring s.published).value := by
      rw [value]
      exact ⟨below_irrefl, fun _ => rfl, fun _ => rfl⟩
    have telling : Announcing s → Announcing
        (System.move { s with published := ControlService.announceRetiring s.published } caller .idle) :=
      fun announcing => announcing_move (by simp [retiring]) announcing
    exact .wrote rfl (kept.move nofun)
      ⟨id, id, onward, announceRetiring_announced _, .inl, fun announcing => .inr (telling announcing)⟩
  · cases stepped

theorem step_effect {label : Label C} (settled : Settled service s) (stepped : s.step service label = some t) :
    Effect service s t := by
  cases label with
  | markReady caller => exact markReady_effect settled stepped
  | notify caller => exact notify_effect settled stepped
  | startDrain now =>
      cases stepped
      exact startDrain_effect settled now
  | selectionCommitted generation build =>
      cases stepped
      exact selectionCommitted_effect settled generation build
  | markRetiring caller now => exact markRetiring_effect settled stepped
  | announceRetiring caller => exact announceRetiring_effect settled stepped
  | subscribe =>
      simp only [System.step] at stepped
      split at stepped
      · rename_i none_
        cases stepped
        exact .turned (none_ ▸ .subscribed)
      · cases stepped
  | borrow =>
      obtain ⟨before, after, found, turned, rfl⟩ := serve_eq_some stepped
      split at turned
      · cases turned
        exact .turned (found ▸ .borrowed ‹_›)
      · cases turned
  | sampleDrain =>
      obtain ⟨before, after, found, turned, rfl⟩ := serve_eq_some stepped
      split at turned
      · cases turned
        exact .turned (found ▸ .sampled ‹_›)
      · cases turned
  | loadReady =>
      obtain ⟨before, after, found, turned, rfl⟩ := serve_eq_some stepped
      split at turned
      · cases turned
        exact .turned (found ▸ .loaded ‹_›)
      · cases turned
  | send delivered =>
      obtain ⟨before, after, found, turned, rfl⟩ := serve_eq_some stepped
      split at turned
      · split at turned
        · cases turned
          exact .turned (found ▸ .delivered ‹_›)
        · cases turned
          exact .turned (found ▸ .ended)
      · cases turned
  | wakeChanged =>
      obtain ⟨before, after, found, turned, rfl⟩ := serve_eq_some stepped
      split at turned
      · split at turned
        · cases turned
          exact .turned (found ▸ .woken ‹_› (.inr rfl))
        · cases turned
      · cases turned
  | wakeDrain =>
      obtain ⟨before, after, found, turned, rfl⟩ := serve_eq_some stepped
      split at turned
      · split at turned
        · cases turned
          exact .turned (found ▸ .woken ‹_› (.inl rfl))
        · cases turned
      · cases turned
  | close =>
      obtain ⟨before, after, found, turned, rfl⟩ := serve_eq_some stepped
      split at turned
      · cases turned
        exact .turned (found ▸ .ended)
      · cases turned

end

end

end KunobiDaemon.Control
