import KunobiDaemon.Errors
import KunobiDaemon.Lib.Dialogues
import KunobiDaemon.Time

/-! Observed transports: what they do to the observations they share.

The functions are programs that ask for one atomic operation after the other. The transport below
is asked too, and answers anything.
-/

set_option autoImplicit false

namespace KunobiDaemon.Observation

open Lib.Dialogues

inductive Direction where
  | read
  | write
  deriving DecidableEq, Repr

inductive Event where
  | connected
  | disconnected
  | readClosed
  | ioFailed (direction : Direction) (kind : ErrorKind)
  | rejected
  | drainStarted
  | drainCompleted
  | drainTimedOut
  | handoffStarted
  | handoffCompleted
  | handoffAborted
  deriving DecidableEq, Repr

structure TimedEvent where
  elapsed : Duration
  event : Event
  deriving DecidableEq, Repr

/-- What a call of the transport returns: a count of bytes, or nothing of interest. -/
abbrev Outcome := Except ErrorKind Nat

/-- One atomic operation. -/
inductive Question where
  /-- A call of `record` begins. -/
  | enter (event : Event)
  /-- A call of `record` returns. -/
  | leave
  | tryLock
  | length
  | elapsed
  | pushBack (event : TimedEvent)
  | unlock
  /-- `lost_events.fetch_add(1)` -/
  | lostEvents
  | lock
  | drain
  /-- `pending.fetch_add(1)`, and whether it was 0 before. -/
  | pending (direction : Direction)
  /-- `pending.fetch_sub(1)` -/
  | release (direction : Direction)
  | busySince (direction : Direction) (nanos : Nat)
  | bytes (direction : Direction) (count : Nat)
  | lastProgress (direction : Direction) (nanos : Nat)
  | errors (direction : Direction)
  /-- `connections.fetch_add(1)` -/
  | connect
  /-- `connections.fetch_sub(1)` -/
  | disconnect
  /-- The transport's own blocking call. -/
  | call (direction : Direction) (transfers : Bool)
  /-- The transport's own poll, which may be pending. -/
  | poll (direction : Direction) (transfers : Bool)

def Question.Reply : Question → Type
  | .tryLock | .pending _ => Bool
  | .length => Nat
  | .elapsed => Duration
  | .drain => List TimedEvent
  | .call _ _ => Outcome
  | .poll _ _ => Option Outcome
  | .enter _ | .leave | .pushBack _ | .unlock | .lostEvents | .lock | .release _ | .busySince _ _ | .bytes _ _
  | .lastProgress _ _ | .errors _ | .connect | .disconnect => Unit

abbrev Doing := Program Question.Reply

def u64Max : Nat := 2 ^ 64 - 1

/-! ## Observations -/

section
variable (capacity : Nat)

/-- Queue an event if the queue can be had at once and has room. -/
def enqueue (event : Event) : Doing Unit :=
  let lost : Doing Unit := .ask .lostEvents fun _ => .done ()
  .ask .tryLock fun (locked : Bool) =>
  if locked then
    .ask .length fun (length : Nat) =>
    if length < capacity then
      .ask .elapsed fun (elapsed : Duration) =>
      .ask (.pushBack ⟨elapsed, event⟩) fun _ =>
      .ask .unlock fun _ => .done ()
    -- The guard of the queue is dropped before the loss is counted.
    else .ask .unlock fun _ => lost
  else lost

/-- Record a lifecycle event without waiting for the event consumer. -/
def record (event : Event) : Doing Unit :=
  .ask (.enter event) fun _ =>
  (if capacity = 0 then .done () else enqueue capacity event).bind fun _ =>
  .ask .leave fun _ => .done ()

def takeEvents : Doing (List TimedEvent) :=
  .ask .lock fun _ =>
  .ask .drain fun (events : List TimedEvent) =>
  .ask .unlock fun _ => .done events

def start (direction : Direction) : Doing Unit :=
  .ask (.pending direction) fun (first : Bool) =>
  if first then
    .ask .elapsed fun (elapsed : Duration) =>
    .ask (.busySince direction (min elapsed u64Max)) fun _ => .done ()
  else .done ()

def transferred (direction : Direction) (bytes : Nat) : Doing Unit :=
  if bytes = 0 then .done ()
  else
    .ask (.bytes direction bytes) fun _ =>
    .ask .elapsed fun (elapsed : Duration) =>
    .ask (.lastProgress direction (min elapsed (u64Max - 1) + 1)) fun _ => .done ()

def failed (direction : Direction) (kind : ErrorKind) : Doing Unit :=
  if kind = .interrupted ∨ kind = .wouldBlock then .done ()
  else .ask (.errors direction) fun _ => record capacity (.ioFailed direction kind)

/-- What a call does with a count or an error of the transport. -/
def report (direction : Direction) : Outcome → Doing Unit
  | .ok count => transferred direction count
  | .error kind => failed capacity direction kind

/-- `flush` and `shutdown` report errors only. -/
def reportError (direction : Direction) : Outcome → Doing Unit
  | .ok _ => .done ()
  | .error kind => failed capacity direction kind

/-! ## The blocking adapter -/

structure ObservedIo where
  readClosed : Bool := false
  deriving DecidableEq, Repr

namespace ObservedIo

def new : Doing ObservedIo := .ask .connect fun _ => (record capacity .connected).bind fun _ => .done {}

def drop : Doing Unit := .ask .disconnect fun _ => record capacity .disconnected

/-- A blocking call: `pending` is held until it returns. -/
def guarded (direction : Direction) (transfers : Bool) (report : Outcome → Doing ObservedIo) : Doing ObservedIo :=
  (start direction).bind fun _ =>
  .ask (.call direction transfers) fun (result : Outcome) =>
  (report result).bind fun io =>
  .ask (.release direction) fun _ => .done io

/-- `room` says that the buffer is not empty. -/
def read (io : ObservedIo) (room : Bool) : Doing ObservedIo :=
  guarded .read true fun result =>
  if result.toOption = some 0 ∧ room ∧ !io.readClosed then
    (record capacity .readClosed).bind fun _ => .done { io with readClosed := true }
  else (report capacity .read result).bind fun _ => .done io

def write (io : ObservedIo) : Doing ObservedIo :=
  guarded .write true fun result => (report capacity .write result).bind fun _ => .done io

def flush (io : ObservedIo) : Doing ObservedIo :=
  guarded .write false fun result => (reportError capacity .write result).bind fun _ => .done io

end ObservedIo

/-! ## The async adapter -/

structure AsyncObservedIo where
  io : ObservedIo := {}
  readPending : Bool := false
  writePending : Bool := false
  deriving DecidableEq, Repr

namespace AsyncObservedIo

def new : Doing AsyncObservedIo := (ObservedIo.new capacity).bind fun io => .done { io }

def pending (io : AsyncObservedIo) : Direction → Bool
  | .read => io.readPending
  | .write => io.writePending

def setPending (io : AsyncObservedIo) (direction : Direction) (pending : Bool) : AsyncObservedIo :=
  match direction with
  | .read => { io with readPending := pending }
  | .write => { io with writePending := pending }

def begin (io : AsyncObservedIo) (direction : Direction) : Doing AsyncObservedIo :=
  if io.pending direction then .done io
  -- The counter spans Pending polls; `finish` or the drop releases it.
  else (start direction).bind fun _ => .done (io.setPending direction true)

/-- `end` -/
def finish (io : AsyncObservedIo) (direction : Direction) : Doing AsyncObservedIo :=
  if io.pending direction then .ask (.release direction) fun _ => .done (io.setPending direction false) else .done io

def drop (io : AsyncObservedIo) : Doing Unit :=
  (io.finish .read).bind fun io => (io.finish .write).bind fun _ => ObservedIo.drop capacity

/-- A poll, with whether it is pending. -/
def polls (io : AsyncObservedIo) (direction : Direction) (transfers : Bool)
    (report : AsyncObservedIo → Outcome → Doing AsyncObservedIo) : Doing (AsyncObservedIo × Bool) :=
  (io.begin direction).bind fun io =>
  .ask (.poll direction transfers) fun (result : Option Outcome) =>
  match result with
  | none => .done (io, true)
  | some result =>
      (io.finish direction).bind fun io => (report io result).bind fun io => .done (io, false)

/-- `room` says that the buffer has a place left. -/
def pollRead (io : AsyncObservedIo) (room : Bool) : Doing (AsyncObservedIo × Bool) :=
  io.polls .read true fun io result =>
  (report capacity .read result).bind fun _ =>
  if result.toOption = some 0 ∧ room ∧ !io.io.readClosed then
    (record capacity .readClosed).bind fun _ => .done { io with io := { io.io with readClosed := true } }
  else .done io

def pollWrite (io : AsyncObservedIo) : Doing (AsyncObservedIo × Bool) :=
  io.polls .write true fun io result => (report capacity .write result).bind fun _ => .done io

def pollFlush (io : AsyncObservedIo) : Doing (AsyncObservedIo × Bool) :=
  io.polls .write false fun io result => (reportError capacity .write result).bind fun _ => .done io

def pollShutdown (io : AsyncObservedIo) : Doing (AsyncObservedIo × Bool) :=
  io.polls .write false fun io result => (reportError capacity .write result).bind fun _ => .done io

end AsyncObservedIo

end

end KunobiDaemon.Observation
