import KunobiDaemon.Control.Serve
import KunobiDaemon.Lifecycle.Draining

/-! A health or drain exchange, with everything that others may do to the service during it.

The handler asks the gate and the readiness flag one after the other. Between any two of its
questions the gate may close, guards may come and go, and the service may be marked ready.
-/

set_option autoImplicit false

namespace KunobiDaemon.Control

open Lib.Dialogues
open Lib.Systems
open Lifecycle (Sound)
open Surroundings
open Wire hiding Control

/-- What the callers of a service share. -/
structure Shared (C G : Type) where
  lifecycle : Lifecycle.System C G
  ready : Bool

/-- What anybody may do to it. -/
inductive Other (C G : Type) where
  | lifecycle (label : Lifecycle.Label C G)
  | markReady

/-- A call of `handle` under way. -/
structure Call (C G : Type) where
  shared : Shared C G
  program : Program Question.Reply (Except IoError Wire.Control)
  /-- What the call has asked, and what it was told. -/
  acts : List (Act Question.Reply)
  /-- Every state since the call began, the present one included. -/
  moments : List (Shared C G)

inductive CallLabel (C G : Type) where
  | other (label : Other C G)
  | answer (now : Instant)

section
variable {C G : Type} [DecidableEq C]

namespace Shared

def initial : Shared C G := ⟨.initial, false⟩

/-- `Lifecycle::snapshot` -/
def snapshot (shared : Shared C G) : Snapshot :=
  ⟨shared.lifecycle.gate.state.draining, shared.lifecycle.gate.state.active⟩

/-- The reply to a question of the handler, asked at this time. -/
def reply (shared : Shared C G) (now : Instant) : (question : Question) → Option (question.Reply × Shared C G)
  | .lifecycleSnapshot => some (shared.snapshot, shared)
  | .loadReady => some (shared.ready, shared)
  | .startDrain => some ((), { shared with lifecycle := shared.lifecycle.startDrain now })
  | _ => none

variable [DecidableEq G]

def step (shared : Shared C G) : Other C G → Option (Shared C G)
  | .lifecycle label => (shared.lifecycle.step label).map fun lifecycle => { shared with lifecycle }
  | .markReady => some { shared with ready := true }

end Shared

namespace Call

def begin (library : Library) (service : HealthService) (request : Wire.Control) (shared : Shared C G) : Call C G :=
  ⟨shared, service.handle library request, [], [shared]⟩

def step [DecidableEq G] (call : Call C G) : CallLabel C G → Option (Call C G)
  | .other label =>
      (call.shared.step label).map fun shared => { call with shared, moments := shared :: call.moments }
  | .answer now =>
      match call.program with
      | .done _ => none
      | .ask question next =>
          match call.shared.reply now question with
          | none => none
          | some (told, shared) =>
              some ⟨shared, next told, call.acts ++ [⟨question, told⟩], shared :: call.moments⟩

end Call

end

namespace HealthService

/-- The snapshot that is made of these two readings. -/
def report (service : HealthService) (state : Snapshot) (ready : Bool) : Health where
  processId := service.processId
  generation := service.generation
  build := service.build
  revision := service.revision
  ready := ready && !state.draining
  draining := state.draining
  active := UInt64.ofNat state.active

/-- What a handler asks before its snapshot. -/
def opening (request : Wire.Control) : List (Act Question.Reply) :=
  if request.operation = Operation.DRAIN then [⟨.startDrain, ()⟩] else []

/-- All that a handler asks, if it is told so. -/
def asked (request : Wire.Control) (state : Snapshot) (ready : Bool) : List (Act Question.Reply) :=
  opening request ++ [⟨.lifecycleSnapshot, state⟩, ⟨.loadReady, ready⟩]

/-- A request that asks for the health of this service, or for its drain. -/
structure Serves (service : HealthService) (request : Wire.Control) : Prop where
  kind : request.kind = .known .lifecycle
  operation : request.operation = Operation.HEALTH ∨ request.operation = Operation.DRAIN
  payload : request.payload = []
  token : request.token = []
  offset : request.offset = none
  generation : request.generation = 0 ∨ request.generation = service.generation

/-- A handler takes a snapshot, after a drain if that is what it was asked for, or asks nothing. -/
theorem handle_cases (library : Library) (service : HealthService) (request : Wire.Control) :
    (service.Serves request ∧ request.operation = Operation.HEALTH ∧ service.handle library request =
      service.snapshot.bind fun health => .done (health.response library.health request)) ∨
    (service.Serves request ∧ request.operation = Operation.DRAIN ∧ service.handle library request =
      .ask .startDrain fun _ => service.snapshot.bind fun health => .done (health.response library.health request)) ∨
    (¬ service.Serves request ∧ ∃ error, service.handle library request = .done (.error error)) := by
  unfold handle
  split
  · rename_i refused
    refine .inr (.inr ⟨fun serves => ?_, _, rfl⟩)
    rcases serves.generation with any | own
    · simp [serves.kind, serves.payload, serves.token, serves.offset, any] at refused
    · simp [serves.kind, serves.payload, serves.token, serves.offset, own] at refused
  · rename_i valid
    simp only [Bool.or_eq_true, Bool.and_eq_true, Bool.not_eq_true', decide_eq_true_eq, not_or, not_and, Bool.not_eq_true,
      Classical.not_not, Option.isSome_eq_false_iff, Option.isNone_iff_eq_none, List.isEmpty_iff, ne_eq,
      Bool.not_eq_false] at valid
    obtain ⟨⟨⟨⟨kind, payload⟩, token⟩, offset⟩, generation⟩ := valid
    have generation : request.generation = 0 ∨ request.generation = service.generation :=
      (Classical.em _).imp_right generation
    split
    · rename_i health
      exact .inl ⟨⟨kind, .inl health, payload, token, offset, generation⟩, health, rfl⟩
    · rename_i other
      split
      · rename_i drain
        exact .inr (.inl ⟨⟨kind, .inr drain, payload, token, offset, generation⟩, drain, rfl⟩)
      · rename_i neither
        exact .inr (.inr ⟨fun serves => serves.operation.elim other neither, _, rfl⟩)

end HealthService

section
variable {C G : Type}

/-- How far a handler has come. -/
inductive Stage (library : Library) (service : HealthService) (request : Wire.Control) (call : Call C G) : Prop where
  | refused {error : IoError} : ¬ service.Serves request → call.acts = [] → call.program = .done (.error error) →
      Stage library service request call
  | draining : service.Serves request → request.operation = Operation.DRAIN → call.acts = [] →
      (call.program = .ask .startDrain fun _ =>
        service.snapshot.bind fun health => .done (health.response library.health request)) →
      Stage library service request call
  | sampling : service.Serves request → call.acts = HealthService.opening request →
      (request.operation = Operation.DRAIN → call.shared.lifecycle.gate.state.draining = true) →
      (call.program = service.snapshot.bind fun health => .done (health.response library.health request)) →
      Stage library service request call
  | loading {moment : Shared C G} : service.Serves request →
      call.acts = HealthService.opening request ++ [⟨.lifecycleSnapshot, moment.snapshot⟩] → moment ∈ call.moments →
      (request.operation = Operation.DRAIN →
        moment.snapshot.draining = true ∧ call.shared.lifecycle.gate.state.draining = true) →
      (call.program = .ask .loadReady fun ready =>
        .done ((service.report moment.snapshot ready).response library.health request)) →
      Stage library service request call
  | reported {moment : Shared C G} {ready : Bool} : service.Serves request →
      call.acts = HealthService.asked request moment.snapshot ready → moment ∈ call.moments →
      (request.operation = Operation.DRAIN →
        moment.snapshot.draining = true ∧ call.shared.lifecycle.gate.state.draining = true) →
      call.program = .done ((service.report moment.snapshot ready).response library.health request) →
      Stage library service request call

/-- What holds at any moment of a call. -/
structure Handling (library : Library) (service : HealthService) (request : Wire.Control) (call : Call C G) : Prop where
  sound : Sound call.shared.lifecycle
  moments : ∀ moment ∈ call.moments, Sound moment.lifecycle
  now : call.shared ∈ call.moments
  stage : Stage library service request call

variable {library : Library} {service : HealthService} {request : Wire.Control} {call next : Call C G}

theorem handling_begin {shared : Shared C G} (sound : Sound shared.lifecycle) :
    Handling library service request (Call.begin library service request shared) := by
  refine ⟨sound, fun moment member => List.mem_singleton.mp member ▸ sound, List.mem_cons_self, ?_⟩
  rcases service.handle_cases library request with ⟨serves, health, handles⟩ | ⟨serves, drain, handles⟩ |
    ⟨refused, error, handles⟩
  · have other : request.operation ≠ Operation.DRAIN := by
      rw [health]
      decide
    exact .sampling serves (if_neg other).symm (fun drain => absurd drain other) handles
  · exact .draining serves drain rfl handles
  · exact .refused refused rfl handles

/-- A step of another caller leaves the handler where it is. -/
theorem Stage.other {shared : Shared C G} (stage : Stage library service request call)
    (drains : call.shared.lifecycle.gate.state.draining = true → shared.lifecycle.gate.state.draining = true) :
    Stage library service request { call with shared, moments := shared :: call.moments } := by
  cases stage with
  | refused unserved none_ program => exact .refused unserved none_ program
  | draining serves drain none_ program => exact .draining serves drain none_ program
  | sampling serves acts closed program => exact .sampling serves acts (drains ∘ closed) program
  | loading serves acts member closed program =>
      exact .loading serves acts (List.mem_cons_of_mem _ member) (fun drain => (closed drain).imp_right drains) program
  | reported serves acts member closed program =>
      exact .reported serves acts (List.mem_cons_of_mem _ member) (fun drain => (closed drain).imp_right drains) program

theorem Stage.brief (stage : Stage library service request call) : call.acts.length ≤ 3 := by
  have opening : (HealthService.opening request).length ≤ 1 := by
    unfold HealthService.opening
    split <;> decide
  cases stage with
  | refused _ none_ | draining _ _ none_ => simp [none_]
  | sampling _ acts => exact acts ▸ Nat.le_trans opening (by decide)
  | loading _ acts | reported _ acts =>
      simp only [acts, HealthService.asked, List.length_append, List.length_cons, List.length_nil]
      omega

/-- A handler is done when it has refused or reported. -/
theorem Stage.of_done (stage : Stage library service request call) {result : Except IoError Wire.Control}
    (done : call.program = .done result) :
    (¬ service.Serves request ∧ ∃ error, result = .error error) ∨
    (service.Serves request ∧ ∃ moment ready, moment ∈ call.moments ∧
      call.acts = HealthService.asked request moment.snapshot ready ∧
      (request.operation = Operation.DRAIN →
        moment.snapshot.draining = true ∧ call.shared.lifecycle.gate.state.draining = true) ∧
      result = (service.report moment.snapshot ready).response library.health request) := by
  cases stage with
  | refused unserved _ program =>
      cases program.symm.trans done
      exact .inl ⟨unserved, _, rfl⟩
  | draining _ _ _ program => cases program.symm.trans done
  | sampling _ _ _ program => cases program.symm.trans done
  | loading _ _ _ _ program => cases program.symm.trans done
  | @reported moment ready serves acts member closed program =>
      cases program.symm.trans done
      exact .inr ⟨serves, moment, ready, member, acts, closed, rfl⟩

theorem Stage.of_unserved (stage : Stage library service request call) (unserved : ¬ service.Serves request) :
    call.acts = [] ∧ ∃ error, call.program = .done (.error error) := by
  cases stage with
  | refused _ none_ program => exact ⟨none_, _, program⟩
  | draining serves | sampling serves | loading serves | reported serves => exact absurd serves unserved

/-- A snapshot of the service, true at one of these moments. -/
structure Observed (service : HealthService) (moments : List (Shared C G)) (health : Health) : Prop where
  processId : health.processId = service.processId
  generation : health.generation = service.generation
  build : health.build = service.build
  revision : health.revision = service.revision
  exclusive : ¬ (health.ready = true ∧ health.draining = true)
  /-- `active` counts the live guards; it is cast to 64 bits. -/
  counted : ∃ moment ∈ moments, health.draining = moment.lifecycle.gate.state.draining ∧
    health.active = UInt64.ofNat moment.lifecycle.live.card ∧
    (moment.lifecycle.live.card < 2 ^ 64 → health.active.toNat = moment.lifecycle.live.card)

theorem observed_report {moments : List (Shared C G)} {moment : Shared C G} {ready : Bool} (member : moment ∈ moments)
    (sound : Sound moment.lifecycle) : Observed service moments (service.report moment.snapshot ready) := by
  refine ⟨rfl, rfl, rfl, rfl, ?_, moment, member, rfl, ?_, fun few => ?_⟩
  · simp only [HealthService.report]
    cases moment.snapshot.draining <;> simp
  · exact congrArg UInt64.ofNat sound.exact_
  · rw [← sound.exact_] at few ⊢
    exact UInt64.toNat_ofNat_of_lt' few

/-- A reply that does not answer the request, or does not hold an observation. -/
def Mismatched (codec : Codec Health) (reply request : Wire.Control) : Prop :=
  reply.kind ≠ .known .lifecycle ∨ reply.operation ≠ request.operation ∨ reply.requestId ≠ request.requestId ∨
  reply.token ≠ [] ∨ reply.offset ≠ none ∨
  ∃ health, codec.decode MAX_FRAME reply.payload = some health ∧
    (health.processId = 0 ∨ health.generation ≠ reply.generation ∨ (health.ready = true ∧ health.draining = true))

theorem fromResponse_mismatched {codec : Codec Health} {reply asked : Wire.Control}
    (mismatched : Mismatched codec reply asked) : ∃ error, Health.fromResponse codec reply asked = .error error := by
  cases result : Health.fromResponse codec reply asked with
  | error error => exact ⟨error, rfl⟩
  | ok health =>
      have answers := answers_of_fromResponse result
      rcases mismatched with kind | operation | requestId | token | offset | ⟨found, decoded, invalid⟩
      · exact absurd answers.kind kind
      · exact absurd answers.operation operation
      · exact absurd answers.requestId requestId
      · exact absurd answers.token token
      · exact absurd answers.offset offset
      · cases decoded.symm.trans answers.decoded
        rcases invalid with unnamed | generation | both
        · exact absurd unnamed answers.named
        · exact absurd answers.generation generation
        · exact absurd both answers.exclusive

theorem HealthService.Serves.asks (serves : service.Serves request) :
    (decide (request.operation = Operation.HEALTH) || decide (request.operation = Operation.DRAIN)) = true := by
  simpa using serves.operation

theorem response_ok (serves : service.Serves request) (codec : Codec Health) (health : Health) :
    ∃ reply, health.response codec request = .ok reply := by
  exact ⟨_, if_neg (by simp [serves.kind, serves.asks])⟩

/-- The reply that carries a snapshot is the one its client accepts. -/
theorem fromResponse_report {codec : Codec Health} {state : Snapshot} {ready : Bool}
    (serves : service.Serves request) (named : service.processId ≠ 0)
    (coded : codec.decode MAX_FRAME (codec.encode (service.report state ready)) = some (service.report state ready)) :
    ∃ reply, (service.report state ready).response codec request = .ok reply ∧
      Health.fromResponse codec reply request = .ok (service.report state ready) := by
  refine ⟨_, if_neg (by simp [serves.kind, serves.asks]), ?_⟩
  have decoded : decodeMessage codec (codec.encode (service.report state ready)) MAX_FRAME =
      .ok (service.report state ready) := by
    unfold decodeMessage
    rw [coded]
  unfold Health.fromResponse
  rw [if_neg (by simp [serves.asks])]
  simp only [decoded]
  rw [if_neg]
  simp [HealthService.report, named]

variable [DecidableEq C] [DecidableEq G]

/-- What others do keeps the gate sound, and a closed one closed. -/
theorem shared_step {shared next : Shared C G} {label : Other C G} (sound : Sound shared.lifecycle)
    (stepped : shared.step label = some next) :
    Sound next.lifecycle ∧
      (shared.lifecycle.gate.state.draining = true → next.lifecycle.gate.state.draining = true) := by
  cases label with
  | lifecycle label =>
      obtain ⟨lifecycle, moved, rfl⟩ := Option.map_eq_some_iff.mp stepped
      have effect := Lifecycle.step_effect moved
      exact ⟨sound.effect effect, Lifecycle.draining_moves (sound.moves effect).1⟩
  | markReady =>
      cases stepped
      exact ⟨sound, id⟩

theorem shared_path {shared later : Shared C G} (sound : Sound shared.lifecycle)
    (path : Path Shared.step Any shared later) :
    Sound later.lifecycle ∧
      (shared.lifecycle.gate.state.draining = true → later.lifecycle.gate.state.draining = true) := by
  induction path with
  | refl => exact ⟨sound, id⟩
  | tail _ next ih =>
      obtain ⟨label, -, stepped⟩ := next
      obtain ⟨sound, drains⟩ := shared_step ih.1 stepped
      exact ⟨sound, drains ∘ ih.2⟩

theorem answer_eq {question : Question} {rest : question.Reply → Program Question.Reply (Except IoError Wire.Control)}
    {now : Instant} {told : question.Reply} {shared : Shared C G} (asks : call.program = .ask question rest)
    (replied : call.shared.reply now question = some (told, shared)) :
    call.step (.answer now) =
      some ⟨shared, rest told, call.acts ++ [⟨question, told⟩], shared :: call.moments⟩ := by
  simp only [Call.step, asks, replied]

theorem answer_done {result : Except IoError Wire.Control} {now : Instant} (done : call.program = .done result) :
    call.step (.answer now) = none := by
  simp only [Call.step, done]

/-- A handler that is not done is answered at once, whatever the state. -/
theorem Handling.answer (handling : Handling library service request call) (now : Instant) :
    (∃ result, call.program = .done result) ∨
      ∃ next, call.step (.answer now) = some next ∧ Handling library service request next := by
  obtain ⟨sound, moments, here, stage⟩ := handling
  have sampled (shared : Shared C G) (sound : Sound shared.lifecycle) :
      ∀ moment ∈ shared :: call.moments, Sound moment.lifecycle := by
    intro moment member
    rcases List.mem_cons.mp member with rfl | earlier
    · exact sound
    · exact moments moment earlier
  cases stage with
  | refused _ _ program => exact .inl ⟨_, program⟩
  | reported _ _ _ _ program => exact .inl ⟨_, program⟩
  | draining serves drain none_ program =>
      have closed := sound.startDrain now
      refine .inr ⟨_, answer_eq program rfl, closed, sampled _ closed, List.mem_cons_self, ?_⟩
      refine .sampling serves ?_ (fun _ => call.shared.lifecycle.gate.draining_startDrain now) rfl
      rw [none_, HealthService.opening, if_pos drain]
      rfl
  | sampling serves acts closed program =>
      refine .inr ⟨_, answer_eq program rfl, sound, sampled _ sound, List.mem_cons_self, ?_⟩
      refine .loading serves ?_ (List.mem_cons_of_mem _ here) (fun drain => ⟨closed drain, closed drain⟩) rfl
      rw [acts]
  | loading serves acts member closed program =>
      refine .inr ⟨_, answer_eq program rfl, sound, sampled _ sound, List.mem_cons_self, ?_⟩
      refine .reported serves ?_ (List.mem_cons_of_mem _ member) closed rfl
      rw [acts, HealthService.asked, List.append_assoc]
      rfl

theorem Handling.step (handling : Handling library service request call) {label : CallLabel C G}
    (stepped : call.step label = some next) : Handling library service request next := by
  cases label with
  | other label =>
      obtain ⟨shared, moved, rfl⟩ := Option.map_eq_some_iff.mp stepped
      obtain ⟨sound, drains⟩ := shared_step handling.sound moved
      refine ⟨sound, fun moment member => ?_, List.mem_cons_self, handling.stage.other drains⟩
      rcases List.mem_cons.mp member with rfl | earlier
      · exact sound
      · exact handling.moments moment earlier
  | answer now =>
      rcases handling.answer now with ⟨result, done⟩ | ⟨other, answered, kept⟩
      · rw [answer_done done] at stepped
        cases stepped
      · rw [answered] at stepped
        cases stepped
        exact kept

theorem handling_of_path {shared : Shared C G} (reached : Path Shared.step Any (Shared.initial : Shared C G) shared)
    (path : Path Call.step Any (Call.begin library service request shared) call) :
    Handling library service request call :=
  path.invariant (fun _ _ _ handling _ stepped => handling.step stepped)
    (handling_begin (shared_path Lifecycle.Sound.initial reached).1)

/-- What a call of `handle` does, at any moment of it. -/
structure Truthful (library : Library) (service : HealthService) (request : Wire.Control) (call : Call C G) : Prop where
  /-- The handler never waits, and asks three questions at most. -/
  prompt : (∃ result, call.program = .done result) ∨ ∀ now, ∃ next, call.step (.answer now) = some next
  brief : call.acts.length ≤ 3
  accepts : ∀ result, call.program = .done result → ((∃ reply, result = .ok reply) ↔ service.Serves request)
  /-- A refused request does nothing at all. -/
  refused : ¬ service.Serves request → call.acts = [] ∧ ∀ now, call.step (.answer now) = none
  replies : ∀ reply, call.program = .done (.ok reply) →
    ∃ state ready, call.acts = HealthService.asked request state ready ∧
      Observed service call.moments (service.report state ready) ∧
      (library.health.decode MAX_FRAME (library.health.encode (service.report state ready)) =
          some (service.report state ready) →
        Health.fromResponse library.health reply request = .ok (service.report state ready)) ∧
      (request.operation = Operation.DRAIN → (service.report state ready).draining = true)
  closes : request.operation = Operation.DRAIN → ∀ reply, call.program = .done (.ok reply) →
    ∀ later, Path Shared.step Any call.shared later →
      later.lifecycle.gate.state.draining = true ∧ later.lifecycle.gate.begin = none

theorem exchange_tells_the_truth (library : Library) (service : HealthService) (request : Wire.Control)
    (named : service.processId ≠ 0)
    {shared : Shared C G} (reached : Path Shared.step Any (Shared.initial : Shared C G) shared) {call : Call C G}
    (path : Path Call.step Any (Call.begin library service request shared) call) :
    Truthful library service request call ∧
    ∀ reply asked, Mismatched library.health reply asked →
      ∃ error, Health.fromResponse library.health reply asked = .error error := by
  refine ⟨?_, fun reply asked => fromResponse_mismatched⟩
  have handling := handling_of_path reached path
  refine ⟨?_, handling.stage.brief, fun result done => ?_, fun unserved => ?_, fun reply done => ?_,
    fun drain reply done later onward => ?_⟩
  · by_cases done : ∃ result, call.program = .done result
    · exact .inl done
    · refine .inr fun now => ?_
      rcases handling.answer now with finished | ⟨next, answered, -⟩
      · exact absurd finished done
      · exact ⟨next, answered⟩
  · rcases handling.stage.of_done done with ⟨unserved, error, rfl⟩ | ⟨serves, moment, ready, -, -, -, rfl⟩
    · exact ⟨nofun, fun serves => absurd serves unserved⟩
    · exact ⟨fun _ => serves, fun _ => response_ok serves _ _⟩
  · obtain ⟨none_, error, done⟩ := handling.stage.of_unserved unserved
    exact ⟨none_, fun now => answer_done done⟩
  · rcases handling.stage.of_done done with ⟨-, error, ended⟩ | ⟨serves, moment, ready, member, acts, closed, ended⟩
    · cases ended
    · refine ⟨moment.snapshot, ready, acts, observed_report member (handling.moments moment member), fun coded => ?_,
        fun drain => (closed drain).1⟩
      obtain ⟨sent, responds, accepted⟩ := fromResponse_report serves named coded
      cases ended.trans responds
      exact accepted
  · rcases handling.stage.of_done done with ⟨-, error, ended⟩ | ⟨-, _, _, -, -, closed, -⟩
    · cases ended
    · have drains := (shared_path handling.sound onward).2 (closed drain).2
      refine ⟨drains, ?_⟩
      rw [Lifecycle.Gate.begin, if_pos drains]

end

/-- A service that drains one request. -/
def drained : HealthService := { processId := 7, generation := 3, build := "build", revision := 1 }

def drainRequest : Wire.Control := { operation := Operation.DRAIN, requestId := 9, generation := 3 }

def drainedLibrary : Library where
  hello := Hello.among []
  control := .among Wire.Control.encode [drainRequest]
  health := .among Health.encode [drained.report ⟨true, 0⟩ true]

/-- The service is ready, with one request under way. -/
def occupied : Shared Unit Nat :=
  ⟨{ gate := { state := { active := 1 } }, live := {0}, starts := 0, calls := fun _ => .idle }, true⟩

/-- The last guard is dropped between the drain and the snapshot of one request. -/
theorem exchange_tells_of_a_drain :
    ∃ (call : Call Unit Nat) (reply : Wire.Control),
      Path Shared.step Any Shared.initial occupied ∧
      Path Call.step Any (Call.begin drainedLibrary drained drainRequest occupied) call ∧
      call.program = .done (.ok reply) ∧ Truthful drainedLibrary drained drainRequest call ∧
      Health.fromResponse drainedLibrary.health reply drainRequest = .ok (drained.report ⟨true, 0⟩ true) := by
  have reached : Path Shared.step Any Shared.initial occupied :=
    path_of_replay [.lifecycle (.begin 0), .markReady] rfl
  have path : Path Call.step Any (Call.begin drainedLibrary drained drainRequest occupied) _ :=
    path_of_replay [.answer 5, .other (.lifecycle (.drop 0)), .answer 6, .answer 6] rfl
  have truthful := (exchange_tells_the_truth _ _ _ (by decide) reached path).1
  refine ⟨_, _, reached, path, rfl, truthful, ?_⟩
  obtain ⟨state, ready, acts, -, accepted, -⟩ := truthful.replies _ rfl
  -- What was asked tells which snapshot was taken.
  cases acts
  exact accepted (by decide +kernel)

end KunobiDaemon.Control
