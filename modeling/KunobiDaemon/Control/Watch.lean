import KunobiDaemon.Lib.Versions
import KunobiDaemon.Lifecycle.Gate
import KunobiDaemon.Wire.Control

/-! Lifecycle events of a daemon, as its server emits them and its client accepts them.

The server samples the published state, the drain state and the ready flag one after the other,
while any number of callers change them. A caller of `mark_ready` or `mark_retiring` can be between
its two steps.
-/

set_option autoImplicit false

namespace KunobiDaemon.Control

open Lib.Bytes
open Lib.Versions
open Lifecycle (Gate)
open Wire (Control Codec EnumValue MessageKind decodeMessage MAX_FRAME)

/-- What a service is, apart from its changing state. -/
structure ControlService where
  processId : UInt32
  generation : UInt64
  build : String
  deriving DecidableEq, Repr

structure Published where
  generation : Option UInt64 := none
  build : String := ""
  retiring : Bool := false
  deriving DecidableEq, Repr

inductive LifecycleChange where
  | snapshot
  | ready
  | draining
  | selectionChanged
  | retiring
  deriving DecidableEq, Repr

structure LifecycleEvent where
  change : EnumValue LifecycleChange := .known .snapshot
  sequence : UInt64 := 0
  processId : UInt32 := 0
  generation : UInt64 := 0
  build : String := ""
  ready : Bool := false
  draining : Bool := false
  selectedGeneration : Option UInt64 := none
  selectedBuild : String := ""
  retiring : Bool := false
  -- The fields this build does not know, as they were encoded.
  unknownFields : List UInt8 := []
  deriving DecidableEq, Repr

def LifecycleChange.toI32 : LifecycleChange → Int32
  | .snapshot => 0
  | .ready => 1
  | .draining => 2
  | .selectionChanged => 3
  | .retiring => 4

def LifecycleEvent.changeNumber (event : LifecycleEvent) : Int32 :=
  match event.change with
  | .known change => change.toI32
  | .unknown number => number

/-- The fields in the order of their numbers. A generation that is set is written even if it is zero. -/
def LifecycleEvent.encode (event : LifecycleEvent) : List UInt8 :=
  putNumber 1 event.changeNumber.toInt64.toUInt64.toNat ++ putNumber 2 event.sequence.toNat ++
  putNumber 3 event.processId.toNat ++ putNumber 4 event.generation.toNat ++
  putBytes 5 event.build.toUTF8.toList ++ putNumber 6 event.ready.toNat ++ putNumber 7 event.draining.toNat ++
  (event.selectedGeneration.elim [] fun generation => putVarint 64 ++ putVarint generation.toNat) ++
  putBytes 9 event.selectedBuild.toUTF8.toList ++ putNumber 10 event.retiring.toNat ++
  event.unknownFields

/-- `u64::checked_add` of one. -/
def checkedSucc (n : UInt64) : Option UInt64 := if n.toNat + 1 < 2 ^ 64 then some (n + 1) else none

/-- `<` on optional generations: none is below all others. -/
def below : Option UInt64 → Option UInt64 → Bool
  | none, none => false
  | none, some _ => true
  | some _, none => false
  | some first, some second => first < second

namespace ControlService

variable (service : ControlService)

/-- Announce an already committed selection. -/
def selectionCommitted (published : Channel Published) (generation : UInt64) (build : String) :
    Channel Published × Except IoError Unit :=
  if generation = service.generation && build ≠ service.build then
    (published, .error (invalid "selection does not match serving build"))
  else if below (some generation) published.value.generation ||
      (published.value.generation = some generation && build ≠ published.value.build) then
    (published, .error (invalid "selection must advance monotonically"))
  else
    let modify (state : Published) : Option Published :=
      if state.generation = some generation then none
      else some { state with generation := some generation, build }
    (published.sendIfModified modify, .ok ())

/-- The second step of `mark_retiring`. -/
def announceRetiring (published : Channel Published) : Channel Published :=
  published.sendIfModified fun state => if state.retiring then none else some { state with retiring := true }

/-- The event for a sample, before its kind and its number. -/
def event (published : Published) (draining ready : Bool) : LifecycleEvent where
  processId := service.processId
  generation := service.generation
  build := service.build
  ready := ready && !draining
  draining := draining
  selectedGeneration := published.generation
  selectedBuild := published.build
  retiring := published.retiring

/-- The frame that carries an event to a subscriber. -/
def frame (codec : Codec LifecycleEvent) (request : Control) (event : LifecycleEvent) : Control where
  operation := Wire.Operation.WATCH
  requestId := request.requestId
  generation := service.generation
  payload := codec.encode event

end ControlService

/-- The kinds of change from one state to the next. -/
def kinds (event old : LifecycleEvent) : List LifecycleChange :=
  [ (event.ready != old.ready && event.ready, .ready),
    (event.draining != old.draining, .draining),
    (event.selectedGeneration != old.selectedGeneration, .selectionChanged),
    (event.retiring != old.retiring, .retiring) ].filterMap
    fun (changed, kind) => if changed then some kind else none

/-- Where `serve_watch` stands. -/
inductive Phase where
  /-- At the head of the loop, about to `borrow_and_update`. -/
  | looping
  /-- About to look at the drain state. -/
  | borrowed (published : Published)
  /-- About to load the ready flag. -/
  | sampled (published : Published) (draining : Bool)
  /-- In `session.send` -/
  | sending (event : LifecycleEvent)
  /-- In `select!`, with the drain state it has sampled. -/
  | parked (draining : Bool)
  | ended
  deriving DecidableEq, Repr

/-- A subscription with the events it has sent. -/
structure Subscription where
  seen : Nat
  previous : Option LifecycleEvent := none
  sequence : UInt64 := 0
  phase : Phase := .looping
  sent : List LifecycleEvent := []
  deriving DecidableEq, Repr

namespace Subscription

/-- Send an event that may have a kind of its own. -/
def number (subscription : Subscription) (event : LifecycleEvent) : Subscription :=
  match checkedSucc subscription.sequence with
  | none => { subscription with phase := .ended }
  | some sequence => { subscription with sequence, phase := .sending { event with sequence } }

/-- The rest of an iteration once the state has been sampled: send it, or wait. -/
def compare (subscription : Subscription) (event : LifecycleEvent) : Subscription :=
  match subscription.previous with
  | none => subscription.number event
  | some old =>
      match kinds event old with
      | [] => { subscription with phase := .parked event.draining }
      | [only] => subscription.number { event with change := .known only }
      | _ :: _ :: _ => subscription.number { event with change := .known .snapshot }

end Subscription

/-- Where a caller stands. -/
inductive Caller where
  | idle
  /-- In `mark_ready`, which has set the flag and will announce it. -/
  | announcing
  /-- In `mark_retiring`, which has closed admission. -/
  | retiring
  deriving DecidableEq, Repr

structure System (C : Type) where
  gate : Gate
  ready : Bool
  published : Channel Published
  callers : C → Caller
  subscription : Option Subscription

inductive Label (C : Type) where
  | markReady (caller : C)
  | notify (caller : C)
  | startDrain (now : Instant)
  | selectionCommitted (generation : UInt64) (build : String)
  | markRetiring (caller : C) (now : Instant)
  | announceRetiring (caller : C)
  | subscribe
  | borrow
  | sampleDrain
  | loadReady
  | send (delivered : Bool)
  | wakeChanged
  | wakeDrain
  | close
  deriving DecidableEq, Repr

namespace System

variable {C : Type} [DecidableEq C]

/-- A new service on a gate in any state. -/
def initial (gate : Gate) : System C := ⟨gate, false, ⟨{}, 0⟩, fun _ => .idle, none⟩

def move (s : System C) (caller : C) (place : Caller) : System C :=
  { s with callers := Function.update s.callers caller place }

/-- Let the subscription take a step in its phase, if it can. -/
def serve (s : System C) (turn : Subscription → Option Subscription) : Option (System C) :=
  (s.subscription.bind turn).map fun subscription => { s with subscription := some subscription }

def step (service : ControlService) (s : System C) : Label C → Option (System C)
  | .markReady caller =>
      match s.callers caller with
      | .idle => if s.ready then some s else some ({ s with ready := true }.move caller .announcing)
      | _ => none
  | .notify caller =>
      match s.callers caller with
      | .announcing => some (move { s with published := s.published.notify } caller .idle)
      | _ => none
  | .startDrain now => some { s with gate := (s.gate.startDrain now).1 }
  | .selectionCommitted generation build =>
      some { s with published := (service.selectionCommitted s.published generation build).1 }
  | .markRetiring caller now =>
      match s.callers caller with
      | .idle => some (move { s with gate := (s.gate.startDrain now).1 } caller .retiring)
      | _ => none
  | .announceRetiring caller =>
      match s.callers caller with
      | .retiring => some (move { s with published := ControlService.announceRetiring s.published } caller .idle)
      | _ => none
  | .subscribe =>
      match s.subscription with
      | none => some { s with subscription := some { seen := s.published.version } }
      | some _ => none
  | .borrow => s.serve fun subscription =>
      match subscription.phase with
      | .looping =>
          some { subscription with seen := s.published.version, phase := .borrowed s.published.value }
      | _ => none
  | .sampleDrain => s.serve fun subscription =>
      match subscription.phase with
      | .borrowed published => some { subscription with phase := .sampled published s.gate.state.draining }
      | _ => none
  | .loadReady => s.serve fun subscription =>
      match subscription.phase with
      | .sampled published draining => some (subscription.compare (service.event published draining s.ready))
      | _ => none
  | .send delivered => s.serve fun subscription =>
      match subscription.phase with
      | .sending event =>
          if delivered then
            some { subscription with
              previous := some event, sent := subscription.sent ++ [event], phase := .looping }
          else some { subscription with phase := .ended }
      | _ => none
  | .wakeChanged => s.serve fun subscription =>
      match subscription.phase with
      | .parked _ =>
          if s.published.version ≠ subscription.seen then
            some { subscription with seen := s.published.version, phase := .looping }
          else none
      | _ => none
  | .wakeDrain => s.serve fun subscription =>
      match subscription.phase with
      | .parked draining =>
          if !draining && s.gate.state.draining then some { subscription with phase := .looping } else none
      | _ => none
  | .close => s.serve fun subscription =>
      match subscription.phase with
      | .parked _ => some { subscription with phase := .ended }
      | _ => none

end System

/-! The client. -/

def decodeEvent (codec : Codec LifecycleEvent) (reply request : Control) : Except IoError LifecycleEvent :=
  if reply.kind ≠ .known .lifecycle || reply.operation ≠ Wire.Operation.WATCH ||
      reply.requestId ≠ request.requestId || reply.token ≠ [] || reply.offset.isSome then
    .error (invalid "unexpected WATCH response")
  else
    match decodeMessage codec reply.payload MAX_FRAME with
    | .error error => .error error
    | .ok event =>
        if event.change.asKnown.isNone || event.processId = 0 || event.generation ≠ reply.generation ||
            (event.selectedGeneration.isNone && event.selectedBuild ≠ "") ||
            (event.selectedGeneration = some event.generation && event.selectedBuild ≠ event.build) ||
            (event.change = .known .selectionChanged && event.selectedGeneration.isNone) ||
            (event.ready && event.draining) || (event.retiring && !event.draining) ||
            (event.change = .known .ready && !event.ready) ||
            (event.change = .known .draining && !event.draining) ||
            (event.change = .known .retiring && !event.retiring) then
          .error (invalid "invalid WATCH state")
        else .ok event

/-- A negotiated lifecycle subscription, without its session. -/
structure WatchClient where
  request : Control
  latest : LifecycleEvent
  failed : Bool
  deriving DecidableEq, Repr

namespace WatchClient

/-- The end of `connect`, with the first frame it receives. -/
def connect (codec : Codec LifecycleEvent) (request reply : Control) : Except IoError WatchClient :=
  match decodeEvent codec reply request with
  | .error error => .error error
  | .ok latest =>
      if latest.sequence ≠ 1 || latest.change ≠ .known .snapshot then
        .error (invalid "WATCH must start with a snapshot")
      else .ok ⟨request, latest, false⟩

/-- `changed`, with the next frame it receives. -/
def changed (codec : Codec LifecycleEvent) (client : WatchClient) (reply : Control) :
    WatchClient × Except IoError LifecycleEvent :=
  if client.failed then (client, .error (invalid "WATCH failed; reconnect"))
  else
    let client := { client with failed := true }
    match decodeEvent codec reply client.request with
    | .error error => (client, .error error)
    | .ok event =>
        if checkedSucc client.latest.sequence ≠ some event.sequence ||
            event.processId ≠ client.latest.processId || event.generation ≠ client.latest.generation ||
            event.build ≠ client.latest.build ||
            below event.selectedGeneration client.latest.selectedGeneration ||
            (event.selectedGeneration = client.latest.selectedGeneration &&
              event.selectedBuild ≠ client.latest.selectedBuild) ||
            (client.latest.draining && !event.draining) || (client.latest.retiring && !event.retiring) then
          (client, .error (invalid "inconsistent WATCH event"))
        else ({ client with latest := event, failed := false }, .ok event)

/-- A client that is given these frames, in order, and accepts them all. -/
def follow (codec : Codec LifecycleEvent) (request : Control) :
    Option WatchClient → List Control → Except IoError (Option WatchClient)
  | client, [] => .ok client
  | none, reply :: later =>
      match connect codec request reply with
      | .error error => .error error
      | .ok client => follow codec request (some client) later
  | some client, reply :: later =>
      match client.changed codec reply with
      | (_, .error error) => .error error
      | (client, .ok _) => follow codec request (some client) later

end WatchClient

end KunobiDaemon.Control
