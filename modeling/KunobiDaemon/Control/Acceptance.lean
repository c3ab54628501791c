import KunobiDaemon.Control.Events

/-! A client accepts every event that its server emits. -/

set_option autoImplicit false

namespace KunobiDaemon.Control

open Lib.Systems
open Lifecycle (Gate)
open Wire (Control Codec decodeMessage MAX_FRAME)

section
variable {service : ControlService} {codec : Codec LifecycleEvent} {event old : LifecycleEvent}

/-- The event arrives as it was sent. -/
def Coded (codec : Codec LifecycleEvent) (event : LifecycleEvent) : Prop :=
  codec.decode MAX_FRAME (codec.encode event) = some event

/-- A kind that an event shows passes the client's checks of it. -/
theorem Formed.kind (formed : Formed service event) :
    event.change.asKnown ≠ none ∧
    (event.change = .known .selectionChanged → event.selectedGeneration ≠ none) ∧
    (event.change = .known .ready → event.ready = true) ∧
    (event.change = .known .draining → event.draining = true) ∧
    (event.change = .known .retiring → event.retiring = true) := by
  obtain ⟨kind, change, kinded⟩ := formed.change
  rw [change]
  refine ⟨nofun, ?_, ?_, ?_, ?_⟩
  all_goals
    rintro ⟨⟩
    exact kinded

theorem decodeEvent_frame (formed : Formed service event) (named : service.processId ≠ 0) (coded : Coded codec event)
    (request : Control) : decodeEvent codec (service.frame codec request event) request = .ok event := by
  obtain ⟨known, selected, ready, draining, retiring⟩ := formed.kind
  have decoded : decodeMessage codec (service.frame codec request event).payload MAX_FRAME = .ok event := by
    simp only [decodeMessage, ControlService.frame]
    rw [coded]
  have process : event.processId ≠ 0 := by
    rw [formed.processId]
    exact named
  have own : event.selectedGeneration = some event.generation → event.selectedBuild = event.build := by
    rw [formed.generation, formed.build]
    exact formed.proper.own
  unfold decodeEvent
  rw [if_neg (by simp [ControlService.frame]), decoded]
  dsimp only
  rw [if_neg]
  simp only [Bool.or_eq_true, Bool.and_eq_true, not_or, not_and, decide_eq_true_eq, Bool.not_eq_true, Bool.not_eq_false,
    Bool.not_eq_eq_eq_not, Bool.not_true, Option.isNone_iff_eq_none, ne_eq, not_not, and_assoc]
  -- What no event may show, in the order of the checks.
  exact ⟨known, process, formed.generation, formed.proper.unselected, own, selected, formed.ready, formed.retiring, ready,
    draining, retiring⟩

/-- A subscription starts with its first event. -/
theorem connect_frame (formed : Formed service event) (named : service.processId ≠ 0) (coded : Coded codec event)
    (request : Control) (first : event.sequence = 1) (snapshot : event.change = .known .snapshot) :
    WatchClient.connect codec request (service.frame codec request event) = .ok ⟨request, event, false⟩ := by
  unfold WatchClient.connect
  rw [decodeEvent_frame formed named coded]
  simp [first, snapshot]

/-- A client accepts an event that may follow the one it has. -/
theorem changed_frame (formed : Formed service event) (named : service.processId ≠ 0) (coded : Coded codec event)
    (request : Control) (before : Formed service old) (follows : Follows old event) :
    WatchClient.changed codec ⟨request, old, false⟩ (service.frame codec request event) =
      (⟨request, event, false⟩, .ok event) := by
  have process : event.processId = old.processId := formed.processId.trans before.processId.symm
  have generation : event.generation = old.generation := formed.generation.trans before.generation.symm
  have build : event.build = old.build := formed.build.trans before.build.symm
  have kept : event.selectedGeneration = old.selectedGeneration → event.selectedBuild = old.selectedBuild :=
    fun same => (follows.published.build same.symm).symm
  unfold WatchClient.changed
  rw [if_neg nofun]
  dsimp only
  rw [decodeEvent_frame formed named coded]
  dsimp only
  rw [if_neg]
  simp only [Bool.or_eq_true, Bool.and_eq_true, not_or, not_and, decide_eq_true_eq, Bool.not_eq_true, Bool.not_eq_false,
    Bool.not_eq_eq_eq_not, Bool.not_true, ne_eq, not_not, and_assoc]
  -- What the client rejects, in the order in which it looks for it.
  exact ⟨follows.sequence, process, generation, build, follows.published.generation, kept, follows.draining,
    follows.published.retiring⟩

theorem follow_append (request : Control) {frames : List Control} (later : List Control)
    {client middle : Option WatchClient} (followed : WatchClient.follow codec request client frames = .ok middle) :
    WatchClient.follow codec request client (frames ++ later) = WatchClient.follow codec request middle later := by
  induction frames generalizing client with
  | nil =>
      cases client <;> cases followed <;> rfl
  | cons reply rest ih =>
      cases client with
      | none =>
          simp only [List.cons_append, WatchClient.follow] at followed ⊢
          split at followed
          · cases followed
          · exact ih followed
      | some client =>
          simp only [List.cons_append, WatchClient.follow] at followed ⊢
          split at followed
          · cases followed
          · exact ih followed

/-- A client that has been sent what a server emits has the last event. -/
theorem Emitted.followed (request : Control) (named : service.processId ≠ 0) {events : List LifecycleEvent}
    {last : Option LifecycleEvent} (emitted : Emitted service events last) (coded : ∀ event ∈ events, Coded codec event) :
    WatchClient.follow codec request none (events.map (service.frame codec request)) =
      .ok (last.map fun latest => ⟨request, latest, false⟩) := by
  induction emitted with
  | nil => rfl
  | first formed first snapshot =>
      simp only [List.map_cons, List.map_nil, WatchClient.follow]
      rw [connect_frame formed named (coded _ (List.mem_singleton_self _)) request first snapshot]
      rfl
  | next emitted formed follows ih =>
      rw [List.map_append, follow_append request _ (ih fun event sent => coded event (List.mem_append_left _ sent))]
      simp only [List.map_cons, List.map_nil, Option.map_some, WatchClient.follow]
      rw [changed_frame formed named (coded _ (by simp)) request emitted.formed follows]

end

section
variable {C : Type} [DecidableEq C]

/-- Every event that a server emits is one its client accepts: the events are consistent, in
themselves and one with the next, and a client that is given them in order has the last of them. -/
theorem watch_events_accepted {service : ControlService} {codec : Codec LifecycleEvent} {gate : Gate} {s : System C}
    {subscription : Subscription} (request : Control) (path : Path (System.step service) Any (System.initial gate) s)
    (found : s.subscription = some subscription) (named : service.processId ≠ 0)
    (coded : ∀ event ∈ subscription.sent, Coded codec event) :
    Emitted service subscription.sent subscription.sent.getLast? ∧
    WatchClient.follow codec request none (subscription.sent.map (service.frame codec request)) =
      .ok (subscription.sent.getLast?.map fun latest => ⟨request, latest, false⟩) := by
  have emitted := ((tracked_of_path path).watching subscription found).emitted
  rw [← emitted.distinct.2] at emitted
  exact ⟨emitted, emitted.followed request named coded⟩

/-- A drain that starts between two samples is the second event. -/
theorem watch_events_accepted_drain :
    ∃ (codec : Codec LifecycleEvent) (s : System Unit) (subscription : Subscription),
      codec.encode = LifecycleEvent.encode ∧
      Path (System.step ⟨7, 3, "build"⟩) Any (System.initial {}) s ∧ s.subscription = some subscription ∧
      subscription.sent.length = 2 ∧
      WatchClient.follow codec {} none (subscription.sent.map (ControlService.frame ⟨7, 3, "build"⟩ codec {})) =
        .ok (subscription.sent.getLast?.map fun latest => ⟨{}, latest, false⟩) := by
  let service : ControlService := ⟨7, 3, "build"⟩
  let opening : LifecycleEvent := { service.event {} false false with sequence := 1 }
  let drain : LifecycleEvent := { service.event {} true false with sequence := 2, change := .known .draining }
  let codec : Codec LifecycleEvent := .among LifecycleEvent.encode [opening, drain]
  have path : Path (System.step service) Any (System.initial {} : System Unit) _ :=
    path_of_replay
      [.subscribe, .borrow, .sampleDrain, .startDrain 5, .loadReady, .send true, .borrow, .sampleDrain, .loadReady, .send true]
      rfl
  have coded : ∀ event ∈ [opening, drain], Coded codec event := by
    unfold Coded
    decide +kernel
  have accepted := watch_events_accepted {} path rfl (by decide) coded
  exact ⟨codec, _, _, rfl, path, rfl, rfl, accepted.2⟩

end

end KunobiDaemon.Control
