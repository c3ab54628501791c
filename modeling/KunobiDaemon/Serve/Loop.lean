import KunobiDaemon.Admission
import KunobiDaemon.Errors
import KunobiDaemon.Lib.Histories
import KunobiDaemon.Lifecycle.Gate
import KunobiDaemon.Peer

/-! The accept loop of a daemon, and the handlers it leaves to finish.

The loop polls one thing after the other, while anybody starts the drain, takes permits of
the same pools and gives them back, and while handlers end. A handler may give its permit
back or pass it on before it ends. Connections are numbered as they are accepted. Counters
are natural numbers: no process lives to accept 2^64 connections.
-/

set_option autoImplicit false

namespace KunobiDaemon.Serve

open Peer (Credentials Rejected)

/-- How long to stop accepting after the process runs out of file descriptors. -/
def DESCRIPTOR_BACKOFF : Duration := 50_000_000

/-- `EMFILE` or `ENFILE` -/
def isDescriptorExhaustion (platform : Platform) (error : IoError) : Bool :=
  platform = .unix && (error.rawOsError = some 23 || error.rawOsError = some 24)

/-- What `run` did with the connections it accepted. -/
structure Served where
  admitted : Nat := 0
  unauthenticated : Nat := 0
  overCapacity : Nat := 0
  aborted : Nat := 0
  deriving DecidableEq, Repr

/-- An accept failure, with the counts after running handlers have drained. -/
structure ServeError where
  error : IoError
  served : Served
  deriving DecidableEq, Repr

structure Authenticated (G : Type) where
  connection : Nat
  grant : G
  credentials : Credentials
  deriving DecidableEq, Repr

/-- What `run` does next, with what it is told. -/
inductive Event (G : Type) where
  /-- `lifecycle.draining()` is polled. -/
  | poll (draining : Bool)
  /-- `join_next()` returns a handler that ended, and whether it was cancelled. -/
  | join (handler : Nat) (cancelled : Bool)
  /-- `join_next()` or `accept()` is not ready. -/
  | pending
  | accept (reply : Except IoError Unit)
  /-- The pause without descriptors is over. -/
  | wake
  | credentials (reply : Except IoError Credentials)
  | grant (answer : Except Rejected G)
  | pool (answer : Pool)
  | acquire (taken : Bool)
  | check (accepting : Bool)
  /-- `handlers.spawn(handler(..))` -/
  | invoke
  /-- The permit of a connection that came too late is dropped. -/
  | drop
  /-- `finish` reads the clock. -/
  | finish
  /-- `handlers.is_empty()`, or `join_next()` returns `None`. -/
  | empty
  | elapse
  | abortAll
  deriving DecidableEq

/-- Where `run` stands. -/
inductive Place (G : Type) where
  /-- At the head of the loop. -/
  | selecting
  | joining
  | accepting
  | pausing (ends : Instant)
  | accepted
  | evident (credentials : Credentials)
  | granted (credentials : Credentials) (grant : G)
  | pooled (credentials : Credentials) (grant : G) (pool : Pool)
  | permitted (credentials : Credentials) (grant : G) (pool : Pool)
  | admitting (credentials : Credentials) (grant : G) (pool : Pool)
  /-- Out of the loop, with a permit to drop. -/
  | closing (pool : Pool)
  | stopped (result : Except IoError Unit)
  | finishing (result : Except IoError Unit) (deadline : Instant)
  | aborting (result : Except IoError Unit)
  | reaping (result : Except IoError Unit) (aborted : Nat)
  | returned (result : Except IoError Unit) (aborted : Nat)
  /-- The drain budget does not fit the clock. -/
  | panicked
  deriving DecidableEq

section
variable {G : Type}

/-- One step of `run`. -/
def Place.next (platform : Platform) (budget : Duration) (now : Instant) : Place G → Event G → Option (Place G)
  | .selecting, .poll true => some (.stopped (.ok ()))
  | .selecting, .poll false => some .joining
  | .joining, .join _ _ => some .selecting
  | .joining, .pending => some .accepting
  | .accepting, .pending => some .selecting
  | .accepting, .accept (.ok ()) => some .accepted
  | .accepting, .accept (.error error) =>
      if isDescriptorExhaustion platform error then some (.pausing (now + DESCRIPTOR_BACKOFF))
      else some (.stopped (.error error))
  | .pausing _, .poll true => some (.stopped (.ok ()))
  | .pausing ends, .poll false => some (.pausing ends)
  | .pausing ends, .wake => if ends ≤ now then some .selecting else none
  | .accepted, .credentials (.error _) => some .selecting
  | .accepted, .credentials (.ok credentials) => some (.evident credentials)
  | .evident _, .grant (.error _) => some .selecting
  | .evident credentials, .grant (.ok grant) => some (.granted credentials grant)
  | .granted credentials grant, .pool pool => some (.pooled credentials grant pool)
  | .pooled _ _ _, .acquire false => some .selecting
  | .pooled credentials grant pool, .acquire true => some (.permitted credentials grant pool)
  | .permitted _ _ pool, .check false => some (.closing pool)
  | .permitted credentials grant pool, .check true => some (.admitting credentials grant pool)
  | .admitting _ _ _, .invoke => some .selecting
  | .closing _, .drop => some (.stopped (.ok ()))
  | .stopped result, .finish =>
      if now + budget ≤ lastInstant then some (.finishing result (now + budget)) else some .panicked
  | .finishing result deadline, .join _ _ => some (.finishing result deadline)
  | .finishing result _, .empty => some (.aborting result)
  | .finishing result deadline, .elapse => if deadline ≤ now then some (.aborting result) else none
  | .aborting result, .abortAll => some (.reaping result 0)
  | .reaping result aborted, .join _ cancelled => some (.reaping result (aborted + cancelled.toNat))
  | .reaping result aborted, .empty => some (.returned result aborted)
  | _, _ => none

inductive Status where
  | running
  | finished
  | panicked
  | cancelled
  deriving DecidableEq, Repr

/-- A handler that was invoked, with what it was given. -/
structure Handler (G : Type) where
  authenticated : Authenticated G
  permit : Pool
  status : Status := .running
  /-- `abort_all` found it in the set. -/
  aborting : Bool := false
  deriving DecidableEq

structure System (G : Type) where
  gate : Lifecycle.Gate := {}
  admission : Admission
  /-- The permits that live, apart from one that the loop holds. -/
  permits : List Pool := []
  now : Instant
  place : Place G := .selecting
  served : Served := {}
  /-- The connections that have been dealt with. -/
  connections : Nat := 0
  /-- What happened with each connection. -/
  history : List (Nat × Event G) := []
  /-- The join set. -/
  handlers : List (Handler G) := []
  joined : List (Handler G) := []
  /-- When the loop stopped, and when it aborted the handlers that were left. -/
  stopped : Option Instant := none
  aborted : Option Instant := none

inductive Label (G : Type) where
  | loop (event : Event G)
  | drain
  /-- Somebody else tries to acquire a permit, or gives one back. -/
  | acquire (pool : Pool)
  | release (pool : Pool)
  | ended (handler : Nat) (status : Status)
  | wait (time : Duration)

/-- The events of a connection's way through the loop. -/
def Event.visits : Event G → Bool
  | .accept (.ok ()) | .credentials _ | .grant _ | .pool _ | .acquire _ | .check _ | .invoke => true
  | _ => false

/-- What becomes of a connection. -/
inductive Outcome where
  | admitted
  | unauthenticated
  | overCapacity
  /-- Draining started while it was checked. -/
  | dropped
  deriving DecidableEq, Repr

/-- The event that decides what becomes of a connection is its last. -/
def Event.outcome : Event G → Option Outcome
  | .credentials (.error _) | .grant (.error _) => some .unauthenticated
  | .acquire false => some .overCapacity
  | .check false => some .dropped
  | .invoke => some .admitted
  | _ => none

def Served.count (served : Served) : Option Outcome → Served
  | some .admitted => { served with admitted := served.admitted + 1 }
  | some .unauthenticated => { served with unauthenticated := served.unauthenticated + 1 }
  | some .overCapacity => { served with overCapacity := served.overCapacity + 1 }
  | some .dropped | none => served

namespace System

def start (limits : Limits) (now : Instant) : System G := { admission := .new limits, now }

variable (s : System G)

/-- Whether the loop can be told so. -/
def tells : Event G → Bool
  | .poll draining => draining = s.gate.state.draining
  | .check accepting => accepting = !s.gate.state.draining
  | .join handler cancelled =>
      match s.handlers[handler]? with
      | some task => task.status ≠ .running && cancelled = decide (task.status = .cancelled)
      | none => false
  | .empty => s.handlers = []
  | .acquire taken =>
      match s.place with
      | .pooled _ _ pool => taken = (s.admission.tryAcquire pool).2
      | _ => false
  | _ => true

/-- What the shared state is after an event. -/
def shared (s : System G) : Event G → System G
  | .acquire _ =>
      match s.place with
      | .pooled _ _ pool => { s with admission := (s.admission.tryAcquire pool).1 }
      | _ => s
  | .drop =>
      match s.place with
      | .closing pool => { s with admission := s.admission.release pool }
      | _ => s
  | .invoke =>
      match s.place with
      | .admitting credentials grant pool =>
          { s with
            permits := pool :: s.permits
            handlers := s.handlers ++ [{ authenticated := ⟨s.connections, grant, credentials⟩, permit := pool }] }
      | _ => s
  | .join handler _ =>
      match s.handlers[handler]? with
      | some task => { s with handlers := s.handlers.eraseIdx handler, joined := s.joined ++ [task] }
      | none => s
  | .abortAll =>
      { s with handlers := s.handlers.map fun task => { task with aborting := true }, aborted := some s.now }
  | _ => s

/-- What `run` keeps for itself after an event. -/
def kept (s : System G) (event : Event G) (place : Place G) : System G :=
  { s with
    place
    served := s.served.count event.outcome
    history := if event.visits then s.history ++ [(s.connections, event)] else s.history
    connections := if event.outcome.isSome then s.connections + 1 else s.connections
    stopped := match place with
      | .stopped _ => some s.now
      | _ => s.stopped }

def step (platform : Platform) (budget : Duration) (s : System G) : Label G → Option (System G)
  | .loop event =>
      match s.place.next platform budget s.now event with
      | some place => if s.tells event then some ((s.shared event).kept event place) else none
      | none => none
  | .drain => some { s with gate := (s.gate.startDrain s.now).1 }
  | .acquire pool =>
      let (admission, taken) := s.admission.tryAcquire pool
      some { s with admission, permits := if taken then pool :: s.permits else s.permits }
  | .release pool =>
      if pool ∈ s.permits then
        some { s with admission := s.admission.release pool, permits := s.permits.erase pool }
      else none
  | .ended handler status =>
      match s.handlers[handler]? with
      | some task =>
          -- Only a handler that was aborted can be cancelled.
          if task.status = .running && status ≠ .running && (status ≠ .cancelled || task.aborting) then
            some { s with handlers := s.handlers.set handler { task with status } }
          else none
      | none => none
  | .wait time => some { s with now := s.now + time }

/-- What `run` returned. -/
def report : Option (Except ServeError Served) :=
  match s.place with
  | .returned (.ok ()) aborted => some (.ok { s.served with aborted })
  | .returned (.error error) aborted => some (.error ⟨error, { s.served with aborted }⟩)
  | _ => none

end System

end

end KunobiDaemon.Serve
