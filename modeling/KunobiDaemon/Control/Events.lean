import KunobiDaemon.Control.Sampling
import Mathlib.Data.List.Chain

/-! Every event a server emits is one its client accepts, and no update is lost. -/

set_option autoImplicit false

namespace KunobiDaemon.Control

open Lib.Systems
open Lib.Versions
open Lifecycle (Gate)
open Wire (Control Codec EnumValue decodeMessage MAX_FRAME)

/-- The published state that an event carries. -/
def LifecycleEvent.published (event : LifecycleEvent) : Published :=
  ⟨event.selectedGeneration, event.selectedBuild, event.retiring⟩

/-- What an event shows that is of a kind. -/
def Kinded (event : LifecycleEvent) : LifecycleChange → Prop
  | .snapshot => True
  | .ready => event.ready = true
  | .draining => event.draining = true
  | .selectionChanged => event.selectedGeneration ≠ none
  | .retiring => event.retiring = true

/-- An event that is consistent by itself. -/
structure Formed (service : ControlService) (event : LifecycleEvent) : Prop where
  processId : event.processId = service.processId
  generation : event.generation = service.generation
  build : event.build = service.build
  proper : Proper service event.published
  ready : event.ready = true → event.draining = false
  retiring : event.retiring = true → event.draining = true
  change : ∃ kind, event.change = .known kind ∧ Kinded event kind

/-- Two events with the same state. -/
structure Same (old event : LifecycleEvent) : Prop where
  ready : old.ready = event.ready
  draining : old.draining = event.draining
  published : old.published = event.published

/-- An event that may come next. -/
structure Follows (old event : LifecycleEvent) : Prop where
  sequence : checkedSucc old.sequence = some event.sequence
  published : Published.Le old.published event.published
  draining : old.draining = true → event.draining = true
  differs : ¬ Same old event

/-- The events a subscription sends, and the last of them. -/
inductive Emitted (service : ControlService) : List LifecycleEvent → Option LifecycleEvent → Prop where
  | nil : Emitted service [] none
  | first {event : LifecycleEvent} : Formed service event → event.sequence = 1 → event.change = .known .snapshot →
      Emitted service [event] (some event)
  | next {events : List LifecycleEvent} {old event : LifecycleEvent} : Emitted service events (some old) →
      Formed service event → Follows old event → Emitted service (events ++ [event]) (some event)

section
variable {C : Type} {service : ControlService}

/-- An event of a kind that it shows is consistent, whatever its number. -/
theorem Formed.renew {event : LifecycleEvent} (formed : Formed service event) {kind : LifecycleChange}
    (kinded : Kinded event kind) (sequence : UInt64) :
    Formed service { event with change := .known kind, sequence } where
  processId := formed.processId
  generation := formed.generation
  build := formed.build
  proper := formed.proper
  ready := formed.ready
  retiring := formed.retiring
  change := ⟨kind, rfl, kinded⟩

/-- A state that the service has left behind, or is in. -/
structure Behind (event : LifecycleEvent) (s : System C) : Prop where
  ready : event.ready = true → s.ready = true
  draining : event.draining = true → s.gate.state.draining = true
  published : Published.Le event.published s.published.value

theorem Behind.advances {event : LifecycleEvent} {s t : System C} (behind : Behind event s) (advances : Advances s t) :
    Behind event t :=
  ⟨fun ready => advances.ready (behind.ready ready), fun draining => advances.draining (behind.draining draining),
    behind.published.trans advances.published⟩

/-- A published state that was borrowed at the version seen. -/
structure Borrowed (service : ControlService) (s : System C) (subscription : Subscription) (published : Published) :
    Prop where
  proper : Proper service published
  onward : ∀ old, subscription.previous = some old → Published.Le old.published published
  behind : Published.Le published s.published.value
  current : Heard subscription.seen s.published.version (published = s.published.value)

theorem Borrowed.advances {s t : System C} {subscription : Subscription} {published : Published}
    (borrowed : Borrowed service s subscription published) (advances : Advances s t) :
    Borrowed service t subscription published :=
  ⟨borrowed.proper, borrowed.onward, borrowed.behind.trans advances.published, advances.heard borrowed.current⟩

/-- The number of the last event sent. -/
def Numbered (subscription : Subscription) : Prop :=
  subscription.sequence = subscription.previous.elim 0 (·.sequence)

/-- An event that the subscription may send next. -/
def Successor (event : LifecycleEvent) : Option LifecycleEvent → Prop
  | none => event.sequence = 1 ∧ event.change = .known .snapshot
  | some old => Follows old event

/-- What holds of a subscription in its phase. -/
def Phased (service : ControlService) (s : System C) (subscription : Subscription) : Phase → Prop
  | .looping => Numbered subscription
  | .borrowed published =>
      Numbered subscription ∧ Borrowed service s subscription published ∧
      (published.retiring = true → s.gate.state.draining = true)
  | .sampled published draining =>
      Numbered subscription ∧ Borrowed service s subscription published ∧
      (published.retiring = true → draining = true) ∧ (draining = true → s.gate.state.draining = true) ∧
      (∀ old, subscription.previous = some old → old.draining = true → draining = true)
  | .sending event =>
      subscription.sequence = event.sequence ∧ Formed service event ∧ Behind event s ∧
      Successor event subscription.previous
  | .parked draining =>
      Numbered subscription ∧ ∃ old, subscription.previous = some old ∧ old.draining = draining ∧
        Heard subscription.seen s.published.version (old.published = s.published.value) ∧
        Heard subscription.seen s.published.version
          (s.ready = true → (old.ready = true ∨ draining = true) ∨ Announcing s)
  | .ended => True

/-- What holds of a subscription at any time. -/
structure Watching (service : ControlService) (s : System C) (subscription : Subscription) : Prop where
  emitted : Emitted service subscription.sent subscription.previous
  seen : subscription.seen ≤ s.published.version
  behind : ∀ old, subscription.previous = some old → Behind old s
  phase : Phased service s subscription subscription.phase

theorem Phased.advances {s t : System C} {subscription : Subscription} {phase : Phase}
    (phased : Phased service s subscription phase) (advances : Advances s t) :
    Phased service t subscription phase := by
  cases phase with
  | looping => exact phased
  | ended => exact trivial
  | borrowed published =>
      obtain ⟨numbered, borrowed, retiring⟩ := phased
      exact ⟨numbered, borrowed.advances advances, fun retires => advances.draining (retiring retires)⟩
  | sampled published draining =>
      obtain ⟨numbered, borrowed, retiring, drains, onward⟩ := phased
      exact ⟨numbered, borrowed.advances advances, retiring, fun drained => advances.draining (drains drained), onward⟩
  | sending event =>
      obtain ⟨numbered, formed, behind, successor⟩ := phased
      exact ⟨numbered, formed, behind.advances advances, successor⟩
  | parked draining =>
      obtain ⟨numbered, old, last, same, published, ready⟩ := phased
      exact ⟨numbered, old, last, same, advances.heard published, advances.heard_ready ready⟩

theorem Watching.advances {s t : System C} {subscription : Subscription} (watching : Watching service s subscription)
    (advances : Advances s t) : Watching service t subscription :=
  ⟨watching.emitted, Nat.le_trans watching.seen advances.version,
    fun old last => (watching.behind old last).advances advances, watching.phase.advances advances⟩

theorem kinded_of_mem {event old : LifecycleEvent} {kind : LifecycleChange} (changed : kind ∈ kinds event old)
    (draining : old.draining = true → event.draining = true)
    (published : Published.Le old.published event.published) : Kinded event kind := by
  simp only [kinds, List.mem_filterMap, List.mem_cons, List.not_mem_nil, or_false, Prod.exists,
    Option.ite_none_right_eq_some, Option.some.injEq] at changed
  obtain ⟨flag, _, listed, rfl, rfl⟩ := changed
  rcases listed with ready | drains | selected | retires
  · simp only [Prod.mk.injEq] at ready
    obtain ⟨changed, rfl⟩ := ready
    exact (Bool.and_eq_true_iff.mp changed.symm).2
  · simp only [Prod.mk.injEq] at drains
    obtain ⟨changed, rfl⟩ := drains
    cases before : old.draining with
    | true => exact draining before
    | false => simpa [before, Kinded] using changed.symm
  · simp only [Prod.mk.injEq] at selected
    obtain ⟨changed, rfl⟩ := selected
    intro none_
    have onward := published.generation
    simp only [LifecycleEvent.published, none_] at onward
    cases before : old.selectedGeneration <;> simp_all [below]
  · simp only [Prod.mk.injEq] at retires
    obtain ⟨changed, rfl⟩ := retires
    cases before : old.retiring with
    | true => exact published.retiring before
    | false => simpa [before, Kinded] using changed.symm

theorem kinds_eq_nil {event old : LifecycleEvent} (same : kinds event old = []) :
    (event.ready = true → old.ready = true) ∧ old.draining = event.draining ∧
    old.selectedGeneration = event.selectedGeneration ∧ old.retiring = event.retiring := by
  simp only [kinds, List.filterMap_eq_nil_iff, List.forall_mem_cons] at same
  simp only [ite_eq_right_iff, reduceCtorEq, imp_false, Bool.not_eq_true, bne_eq_false_iff_eq,
    Bool.and_eq_false_iff] at same
  obtain ⟨ready, draining, selected, retiring, -⟩ := same
  refine ⟨fun now => ?_, draining.symm, selected.symm, retiring.symm⟩
  rcases ready with same | never
  · exact same ▸ now
  · exact absurd (never.symm.trans now) nofun

theorem kinds_of_same {event old : LifecycleEvent} (same : Same old event) : kinds event old = [] := by
  have selected : old.selectedGeneration = event.selectedGeneration := congrArg Published.generation same.published
  have retiring : old.retiring = event.retiring := congrArg Published.retiring same.published
  simp [kinds, same.ready, same.draining, selected, retiring]

theorem formed_event {published : Published} {draining : Bool} (ready : Bool) (proper : Proper service published)
    (retiring : published.retiring = true → draining = true) :
    Formed service (service.event published draining ready) where
  processId := rfl
  generation := rfl
  build := rfl
  proper := proper
  ready := by
    intro now
    cases draining with
    | true => simp [ControlService.event] at now
    | false => rfl
  retiring := retiring
  change := ⟨.snapshot, rfl, trivial⟩

/-- Numbering an event keeps what has been sent, and sends the event next. -/
theorem Watching.number {s : System C} {subscription : Subscription} {event : LifecycleEvent}
    (watching : Watching service s subscription) (formed : Formed service event) (behind : Behind event s)
    (successor : ∀ sequence, checkedSucc subscription.sequence = some sequence →
      Successor { event with sequence } subscription.previous) :
    Watching service s (subscription.number event) := by
  unfold Subscription.number
  split
  · exact ⟨watching.emitted, watching.seen, watching.behind, trivial⟩
  · rename_i sequence numbered
    refine ⟨watching.emitted, watching.seen, watching.behind, rfl, ?_, ?_, successor sequence numbered⟩
    · obtain ⟨kind, change, kinded⟩ := formed.change
      have renewed := formed.renew kinded sequence
      rw [← change] at renewed
      exact renewed
    · exact ⟨behind.ready, behind.draining, behind.published⟩

/-- An iteration that finds no change waits with the last event up to date. -/
theorem Watching.park {s : System C} {subscription : Subscription} {published : Published} {draining : Bool}
    {old : LifecycleEvent} (watching : Watching service s subscription) (last : subscription.previous = some old)
    (sampled : Phased service s subscription (.sampled published draining))
    (same : kinds (service.event published draining s.ready) old = []) :
    Watching service s { subscription with phase := .parked draining } := by
  obtain ⟨numbered, borrowed, retiring, drains, onward⟩ := sampled
  obtain ⟨ready, drained, selected, retires⟩ := kinds_eq_nil same
  -- No kind of change shows the build, but it comes and goes with the generation.
  have equal : old.published = published := by
    have build := (borrowed.onward old last).build selected
    obtain ⟨generation, build, retiring⟩ := published
    simp only [LifecycleEvent.published] at build ⊢
    rw [selected, build, retires]
    rfl
  refine ⟨watching.emitted, watching.seen, watching.behind, numbered, old, last, drained, ?_, ?_⟩
  · rw [equal]
    exact borrowed.current
  · refine .noted watching.seen fun set => .inl ?_
    cases draining with
    | true => exact .inr rfl
    | false => exact .inl (ready (by simp [ControlService.event, set]))

theorem Watching.compare {s : System C} {subscription : Subscription} {published : Published} {draining : Bool}
    (watching : Watching service s subscription) (phase : subscription.phase = .sampled published draining) :
    Watching service s (subscription.compare (service.event published draining s.ready)) := by
  have sampled := watching.phase
  rw [phase] at sampled
  obtain ⟨numbered, borrowed, retiring, drains, onward⟩ := sampled
  have formed := formed_event s.ready borrowed.proper retiring
  have behind : Behind (service.event published draining s.ready) s := by
    refine ⟨fun ready => ?_, drains, borrowed.behind⟩
    exact (Bool.and_eq_true_iff.mp ready).1
  unfold Subscription.compare
  cases last : subscription.previous with
  | none =>
      refine watching.number formed behind fun sequence next => ?_
      rw [Numbered, last] at numbered
      rw [numbered] at next
      rw [last]
      cases next
      exact ⟨rfl, rfl⟩
  | some old =>
      rw [Numbered, last] at numbered
      -- Whatever kind it is given, the event may come next.
      have follows (kind : LifecycleChange) (sequence : UInt64)
          (changed : kinds (service.event published draining s.ready) old ≠ [])
          (next : checkedSucc subscription.sequence = some sequence) :
          Successor { service.event published draining s.ready with change := .known kind, sequence }
            subscription.previous := by
        rw [last]
        refine ⟨?_, borrowed.onward old last, onward old last, fun same => changed (kinds_of_same ?_)⟩
        · rw [← next, numbered]
          rfl
        · exact ⟨same.ready, same.draining, same.published⟩
      dsimp only
      split
      · rename_i same
        rw [← last]
        exact watching.park last ⟨by rw [Numbered, last, numbered], borrowed, retiring, drains, onward⟩ same
      · rename_i only changed
        have kinded : Kinded (service.event published draining s.ready) only :=
          kinded_of_mem (by rw [changed]; exact List.mem_singleton_self _) (onward old last) (borrowed.onward old last)
        exact watching.number (formed.renew kinded _) ⟨behind.ready, behind.draining, behind.published⟩
          fun sequence next => follows only sequence (by simp [changed]) next
      · -- Several changes at once are sent as a snapshot.
        rename_i changed
        exact watching.number formed behind fun sequence next => follows .snapshot sequence (by simp [changed]) next

theorem Emitted.nothing {events : List LifecycleEvent} (emitted : Emitted service events none) : events = [] := by
  cases emitted
  rfl

theorem Emitted.formed {events : List LifecycleEvent} {last : LifecycleEvent}
    (emitted : Emitted service events (some last)) : Formed service last := by
  cases emitted with
  | first formed => exact formed
  | next _ formed => exact formed

theorem Watching.delivered {s : System C} {subscription : Subscription} {event : LifecycleEvent}
    (watching : Watching service s subscription) (phase : subscription.phase = .sending event) :
    Watching service s
      { subscription with previous := some event, sent := subscription.sent ++ [event], phase := .looping } := by
  have sending := watching.phase
  rw [phase] at sending
  obtain ⟨numbered, formed, behind, successor⟩ := sending
  refine ⟨?_, watching.seen, ?_, numbered⟩
  · have emitted := watching.emitted
    cases last : subscription.previous with
    | none =>
        rw [last] at emitted successor
        obtain ⟨first, snapshot⟩ := successor
        rw [emitted.nothing]
        exact .first formed first snapshot
    | some old =>
        rw [last] at emitted successor
        exact .next emitted formed successor
  · rintro old ⟨⟩
    exact behind

theorem Watching.turn {s : System C} {before : Option Subscription} {after : Subscription}
    (settled : Settled service s) (watched : ∀ subscription, before = some subscription → Watching service s subscription)
    (turn : Turn service s before after) : Watching service s after := by
  cases turn with
  | subscribed => exact ⟨.nil, Nat.le_refl _, nofun, rfl⟩
  | borrowed phase =>
      have watching := watched _ rfl
      have numbered := watching.phase
      rw [phase] at numbered
      refine ⟨watching.emitted, Nat.le_refl _, watching.behind, numbered, ?_, settled.retired⟩
      exact ⟨settled.proper, fun old last => (watching.behind old last).published, .refl _, .noted (Nat.le_refl _) rfl⟩
  | sampled phase =>
      have watching := watched _ rfl
      have holds := watching.phase
      rw [phase] at holds
      obtain ⟨numbered, borrowed, retiring⟩ := holds
      refine ⟨watching.emitted, watching.seen, watching.behind, numbered, ?_, retiring, id, ?_⟩
      · exact ⟨borrowed.proper, borrowed.onward, borrowed.behind, borrowed.current⟩
      · exact fun old last => (watching.behind old last).draining
  | loaded phase => exact (watched _ rfl).compare phase
  | delivered phase => exact (watched _ rfl).delivered phase
  | ended =>
      have watching := watched _ rfl
      exact ⟨watching.emitted, watching.seen, watching.behind, trivial⟩
  | woken phase seen =>
      have watching := watched _ rfl
      have holds := watching.phase
      rw [phase] at holds
      refine ⟨watching.emitted, ?_, watching.behind, holds.1⟩
      rcases seen with rfl | rfl
      · exact watching.seen
      · exact Nat.le_refl _

/-- What holds of a service and its subscription at any time. -/
structure Tracked (service : ControlService) (s : System C) : Prop where
  settled : Settled service s
  watching : ∀ subscription, s.subscription = some subscription → Watching service s subscription

theorem tracked_initial (gate : Gate) : Tracked service (System.initial gate : System C) where
  settled := ⟨⟨fun _ => rfl, by rintro ⟨⟩⟩, by rintro ⟨⟩, by rintro _ ⟨⟩⟩
  watching := by rintro _ ⟨⟩

theorem Tracked.effect {s t : System C} (tracked : Tracked service s) (effect : Effect service s t) :
    Tracked service t := by
  cases effect with
  | wrote same settled advances =>
      refine ⟨settled, fun subscription found => ?_⟩
      exact (tracked.watching subscription (same ▸ found)).advances advances
  | @turned after turn =>
      have watching := Watching.turn tracked.settled tracked.watching turn
      have stays : Advances s { s with subscription := some after } := ⟨id, id, .refl _, .inl rfl, .inl, .inr⟩
      refine ⟨⟨tracked.settled.proper, tracked.settled.retired, tracked.settled.retiring⟩, ?_⟩
      rintro subscription ⟨⟩
      exact watching.advances stays

variable [DecidableEq C]

theorem tracked_of_path {gate : Gate} {s : System C} (path : Path (System.step service) Any (System.initial gate) s) :
    Tracked service s :=
  path.invariant (fun _ _ _ tracked _ stepped => tracked.effect (step_effect tracked.settled stepped))
    (tracked_initial gate)

/-- The events that a subscription has sent, each one different from the one before. -/
def Distinct (events : List LifecycleEvent) : Prop := events.IsChain fun old event => ¬ Same old event

theorem Emitted.distinct {events : List LifecycleEvent} {last : Option LifecycleEvent}
    (emitted : Emitted service events last) : Distinct events ∧ events.getLast? = last := by
  induction emitted with
  | nil => exact ⟨.nil, rfl⟩
  | first => exact ⟨.singleton _, rfl⟩
  | next _ _ follows ih =>
      refine ⟨?_, List.getLast?_concat⟩
      refine ih.1.append (.singleton _) ?_
      rintro old found event ⟨⟩
      rw [ih.2] at found
      cases found
      exact follows.differs

/-- The state of the service, as an event shows it. -/
structure Shows (s : System C) (event : LifecycleEvent) : Prop where
  ready : event.ready = (s.ready && !s.gate.state.draining)
  draining : event.draining = s.gate.state.draining
  published : event.published = s.published.value

/-- None of the branches on which a parked subscription wakes is enabled by the service. -/
structure Asleep (s : System C) (subscription : Subscription) (draining : Bool) : Prop where
  parked : subscription.phase = .parked draining
  changed : subscription.seen = s.published.version
  drained : draining = false → s.gate.state.draining = false

/-- No update is lost: a subscription that sleeps while no call is under way has sent the present
state. And only a state that differs is sent. -/
theorem watch_loses_no_update {gate : Gate} {s : System C} {subscription : Subscription}
    (path : Path (System.step service) Any (System.initial gate) s) (found : s.subscription = some subscription) :
    Distinct subscription.sent ∧
    ∀ draining, Asleep s subscription draining → (∀ caller, s.callers caller = .idle) →
      ∃ last, subscription.sent.getLast? = some last ∧ Shows s last := by
  have watching := (tracked_of_path path).watching subscription found
  obtain ⟨distinct, ends⟩ := watching.emitted.distinct
  refine ⟨distinct, fun draining asleep idle => ?_⟩
  have holds := watching.phase
  rw [asleep.parked] at holds
  obtain ⟨-, last, previous, drained, published, ready⟩ := holds
  refine ⟨last, ends.trans previous, ?_⟩
  have behind := watching.behind last previous
  -- What was sampled of the gate still holds: it closes once, and that would wake the subscription.
  have same : draining = s.gate.state.draining := by
    cases draining with
    | true => exact (behind.draining drained).symm
    | false => exact (asleep.drained rfl).symm
  refine ⟨?_, drained.trans same, published.quiet asleep.changed⟩
  rw [← same]
  cases shown : last.ready with
  | true =>
      have open_ := watching.emitted
      rw [previous] at open_
      rw [behind.ready shown, ← drained, open_.formed.ready shown]
      rfl
  | false =>
      cases set : s.ready with
      | false => rfl
      | true =>
          -- A flag that was set after the sample has been announced, or its caller is about to.
          rcases ready.quiet asleep.changed set with (known | drains) | ⟨caller, announcing⟩
          · exact absurd (shown.symm.trans known) nofun
          · rw [drains]
            rfl
          · exact absurd ((idle caller).symm.trans announcing) nofun

/-- A readiness that is announced while the first snapshot is on its way. -/
theorem watch_loses_no_update_ready :
    ∃ (s : System Unit) (subscription : Subscription), Path (System.step ⟨7, 3, "build"⟩) Any (System.initial {}) s ∧
      s.subscription = some subscription ∧ Asleep s subscription false ∧
      (∃ last, subscription.sent.getLast? = some last ∧ Shows s last) ∧
      subscription.sent.length = 2 := by
  have path : Path (System.step ⟨7, 3, "build"⟩) Any (System.initial {} : System Unit) _ :=
    path_of_replay
      [.subscribe, .borrow, .markReady (), .sampleDrain, .selectionCommitted 3 "build", .loadReady, .send true, .notify (),
        .borrow, .sampleDrain, .loadReady, .send true, .borrow, .sampleDrain, .loadReady] rfl
  have lost := watch_loses_no_update path rfl
  exact ⟨_, _, path, rfl, ⟨rfl, rfl, fun _ => rfl⟩, lost.2 false ⟨rfl, rfl, fun _ => rfl⟩ fun _ => rfl, rfl⟩

end

end KunobiDaemon.Control
