import KunobiDaemon.Lib.Dialogues

/-! The Windows readiness pipe: `ready::Reader`, and what it reads from.

The reader's functions are programs that ask the system. Every call of the system is one step of
its own; between two of them the daemon, its launcher and the kernel do anything they can.
-/

set_option autoImplicit false

namespace KunobiDaemon.Local.Ready

open Lib.Dialogues

/-- The codes of `GetLastError` that the reader tells apart. -/
inductive Code where
  | brokenPipe
  | noData
  | pipeConnected
  | operationAborted
  | ioPending
  | other (code : Int32)
  deriving DecidableEq

/-- What `WaitForMultipleObjects` reports: its first handle, its second, or a failure. -/
inductive Woke where
  | operation
  | process
  | failed (code : Code)
  deriving DecidableEq

/-- What the reader asks of the system. -/
inductive Question where
  | recv
  | createEvent
  | connectNamedPipe
  | peekNamedPipe
  | readFile (length : Nat)
  | waitForMultipleObjects (watching : Bool)
  | cancelIoEx
  | getOverlappedResult

/-- A result carries the bytes that the operation put into the buffer. -/
def Question.Reply : Question → Type
  | .recv => Bool
  | .createEvent | .connectNamedPipe | .readFile _ => Except Code Unit
  | .peekNamedPipe => Except Code Nat
  | .waitForMultipleObjects _ => Woke
  | .cancelIoEx => Unit
  | .getOverlappedResult => Except Code (List UInt8)

abbrev Asking := Program Question.Reply

def u32Max : Nat := 4294967295

/-! ## The reader -/

/-- What one step of reading found. -/
inductive Next where
  | got (bytes : List UInt8)
  | ended
  | again

structure Reader where
  /-- The handle has arrived. -/
  process : Bool := false
  connected : Bool := false
  exited : Bool := false
  ended : Bool := false
  deriving DecidableEq

/-- The code that `last_os_error` gives after a wait that was not answered as asked. -/
def Woke.lastError : Woke → Code
  | .failed code => code
  | .operation | .process => .other 0

/-- Wait for the operation, or for the daemon's exit when it is watched. -/
def settle (watching : Bool) : Asking (Except Code (Except Code (List UInt8) × Bool)) :=
  .ask (.waitForMultipleObjects watching) fun (woke : Woke) =>
  let exited := watching && woke = .process
  let waitError := if woke ≠ .operation && !exited then some woke.lastError else none
  let finish : Asking (Except Code (Except Code (List UInt8) × Bool)) :=
    .ask .getOverlappedResult fun result =>
    match waitError with
    | some error => .done (.error error)
    | none => .done (.ok (result, exited))
  if exited || waitError.isSome then .ask .cancelIoEx fun _ => finish else finish

namespace Reader

/-- What `receive` makes of a read that is terminal. -/
def received (reader : Reader) (result : Except Code (List UInt8)) (exited : Bool) : Reader × Except Code Next :=
  let reader := { reader with exited := reader.exited || exited }
  match result with
  | .ok [] => (reader, .ok .again)
  | .ok bytes => (reader, .ok (.got bytes))
  | .error .brokenPipe => (reader, .ok .ended)
  -- Cancelled because the daemon exited: drain next.
  | .error .operationAborted => (reader, .ok .again)
  | .error error => (reader, .error error)

/-- Read into a buffer of this size and, when the daemon is watched, stop if it exits first. -/
def receive (reader : Reader) (size : Nat) (watching : Bool) : Asking (Reader × Except Code Next) :=
  .ask .createEvent fun event =>
  match event with
  | .error error => .done (reader, .error error)
  | .ok _ =>
      let settled : Asking (Reader × Except Code Next) := (settle watching).bind fun
        | .error error => .done (reader, .error error)
        | .ok (result, exited) => .done (reader.received result exited)
      .ask (.readFile (min size u32Max)) fun started =>
      match started with
      | .ok _ | .error .ioPending => settled
      | .error .brokenPipe => .done (reader, .ok .ended)
      | .error error => .done (reader, .error error)

/-- The daemon has exited: read only what it left behind. -/
def drain (reader : Reader) (size : Nat) : Asking (Reader × Except Code Next) :=
  .ask .peekNamedPipe fun peeked =>
  match peeked with
  | .error _ | .ok 0 => .done (reader, .ok .ended)
  | .ok available => reader.receive (min size available) false

/-- What `connect` makes of a connection that is terminal. -/
def accepted (reader : Reader) (result : Except Code (List UInt8)) (exited : Bool) : Reader × Except Code Next :=
  let reader := { reader with exited }
  match result with
  | .ok _ => ({ reader with connected := true }, .ok .again)
  -- Exited without connecting: nothing can arrive.
  | .error error => (reader, if exited then .ok .ended else .error error)

def connect (reader : Reader) : Asking (Reader × Except Code Next) :=
  .ask .createEvent fun event =>
  match event with
  | .error error => .done (reader, .error error)
  | .ok _ =>
      let settled : Asking (Reader × Except Code Next) := (settle true).bind fun
        | .error error => .done (reader, .error error)
        | .ok (result, exited) => .done (reader.accepted result exited)
      .ask .connectNamedPipe fun connected =>
      match connected with
      | .ok _ | .error .ioPending => settled
      | .error .pipeConnected | .error .noData => .done ({ reader with connected := true }, .ok .again)
      | .error error => .done (reader, .error error)

/-- Go on with the daemon's process, once its handle has arrived. -/
def withProcess (reader : Reader) (next : Reader → Asking (Reader × Except Code Next)) :
    Asking (Reader × Except Code Next) :=
  if reader.process then next reader
  else
    .ask .recv fun (arrived : Bool) =>
    if arrived then next { reader with process := true } else .done (reader, .ok .ended)

def step (reader : Reader) (size : Nat) : Asking (Reader × Except Code Next) :=
  reader.withProcess fun reader =>
  if !reader.connected then reader.connect
  else if reader.exited then reader.drain size
  else reader.receive size true

end Reader

/-- A call of `read`: in a step of its loop, or returned. -/
inductive Activity where
  | stepping (step : Asking (Reader × Except Code Next))
  | returned (reader : Reader) (result : Except Code (List UInt8))

/-- The head of the loop of `read`. -/
def Reader.read (reader : Reader) (size : Nat) : Activity :=
  if !reader.ended && size ≠ 0 then .stepping (reader.step size) else .returned reader (.ok [])

/-- The rest of the loop, when a step has come so far. -/
def resume (size : Nat) : Asking (Reader × Except Code Next) → Activity
  | .done (reader, .ok (.got bytes)) => .returned reader (.ok bytes)
  | .done (reader, .ok .ended) => Reader.read { reader with ended := true } size
  | .done (reader, .ok .again) => reader.read size
  | .done (reader, .error error) => .returned reader (.error error)
  | .ask question next => .stepping (.ask question next)

/-! ## What it reads from -/

/-- The daemon's process. -/
inductive Process where
  | launching
  | failed
  | running
  | exited
  deriving DecidableEq

/-- The daemon's end of the pipe. -/
inductive Client where
  | absent
  | opened
  | closed
  deriving DecidableEq

inductive Request where
  | connect
  | read (length : Nat)
  deriving DecidableEq

/-- An overlapped operation. -/
inductive Operation where
  | pending (request : Request)
  | completed (result : Except Code (List UInt8))

structure World where
  process : Process := .launching
  /-- The launcher has sent the handle. -/
  delivered : Bool := false
  client : Client := .absent
  buffer : List UInt8 := []
  operation : Option Operation := none
  /-- The operation's event is set. It may be set a while after the operation has completed. -/
  signalled : Bool := false
  written : List UInt8 := []

/-- What the launcher, the daemon and the kernel do. -/
inductive Act where
  | spawn (succeeds : Bool)
  | deliver
  | connect
  | write (bytes : List UInt8)
  | close
  | exit
  | signal
  deriving DecidableEq

namespace World

def complete (world : World) (result : Except Code (List UInt8)) : World :=
  { world with operation := some (.completed result) }

/-- Connecting, writing and closing complete the operation that waits for it. A write of no bytes
completes a read of none. The end of the pipe is closed before or after the process is signalled. -/
def act (world : World) : Act → Option World
  | .spawn succeeds =>
      if world.process = .launching then some { world with process := if succeeds then .running else .failed } else none
  | .deliver =>
      if (world.process = .running ∨ world.process = .exited) ∧ world.delivered = false then
        some { world with delivered := true }
      else none
  | .connect =>
      if world.process = .running ∧ world.client = .absent then
        let world := { world with client := .opened }
        match world.operation with
        | some (.pending .connect) => some (world.complete (.ok []))
        | _ => some world
      else none
  | .write bytes =>
      if world.process = .running ∧ world.client = .opened then
        let world := { world with written := world.written ++ bytes }
        match world.operation with
        | some (.pending (.read length)) =>
            let buffer := world.buffer ++ bytes
            some ({ world with buffer := buffer.drop length }.complete (.ok (buffer.take length)))
        | _ => some { world with buffer := world.buffer ++ bytes }
      else none
  | .close =>
      if world.client = .opened then
        let world := { world with client := .closed }
        match world.operation with
        | some (.pending (.read _)) => some (world.complete (.error .brokenPipe))
        | _ => some world
      else none
  | .exit => if world.process = .running then some { world with process := .exited } else none
  | .signal =>
      match world.operation with
      | some (.completed _) => if world.signalled then none else some { world with signalled := true }
      | _ => none

/-- How the system answers, or that it makes the reader wait. -/
def answer (world : World) : (question : Question) → Option (question.Reply × World)
  | .recv =>
      if world.delivered then some (true, world)
      -- The launcher drops the sender.
      else if world.process = .failed then some (false, world)
      else none
  | .createEvent => some (.ok (), { world with signalled := false })
  | .connectNamedPipe =>
      match world.client with
      | .absent => some (.error .ioPending, { world with operation := some (.pending .connect) })
      | .opened => some (.error .pipeConnected, world)
      | .closed => some (.error .noData, world)
  | .peekNamedPipe =>
      match world.client, world.buffer with
      -- ERROR_BAD_PIPE: nobody has connected.
      | .absent, _ => some (.error (.other 230), world)
      | .closed, [] => some (.error .brokenPipe, world)
      | _, buffer => some (.ok (min buffer.length u32Max), world)
  | .readFile length =>
      match world.client, world.buffer with
      -- ERROR_PIPE_LISTENING: nobody has connected.
      | .absent, _ => some (.error (.other 536), world)
      | .closed, [] => some (.error .brokenPipe, world)
      | .opened, [] => some (.error .ioPending, { world with operation := some (.pending (.read length)) })
      | _, buffer =>
          some (.ok (), { world with buffer := buffer.drop length, signalled := true }.complete (.ok (buffer.take length)))
  | .waitForMultipleObjects watching =>
      if world.signalled then some (.operation, world)
      else if watching ∧ world.process = .exited then some (.process, world)
      else none
  | .cancelIoEx =>
      match world.operation with
      | some (.pending _) => some ((), world.complete (.error .operationAborted))
      | _ => some ((), world)
  | .getOverlappedResult =>
      match world.operation with
      | some (.completed result) => if world.signalled then some (result, { world with operation := none }) else none
      | _ => none

end World

/-! ## The calls of a reader -/

inductive Place where
  | idle (reader : Reader)
  | reading (size : Nat) (step : Asking (Reader × Except Code Next))

/-- A call that has returned: the size of its buffer and what it returned. -/
structure Call where
  size : Nat
  result : Except Code (List UInt8)

structure System where
  world : World := {}
  place : Place := .idle {}
  returned : List Call := []

inductive Label where
  | call (size : Nat)
  /-- The call in progress gets an answer and goes on. -/
  | run
  | act (act : Act)
  deriving DecidableEq

namespace System

def enter (s : System) (size : Nat) : Activity → System
  | .stepping step => { s with place := .reading size step }
  | .returned reader result => { s with place := .idle reader, returned := s.returned ++ [⟨size, result⟩] }

def step (s : System) : Label → Option System
  | .call size =>
      match s.place with
      | .idle reader => some (s.enter size (reader.read size))
      | .reading _ _ => none
  | .run =>
      match s.place with
      | .reading size (.ask question next) =>
          (s.world.answer question).map fun (reply, world) => { s with world }.enter size (resume size (next reply))
      | _ => none
  | .act act => (s.world.act act).map fun world => { s with world }

end System

end KunobiDaemon.Local.Ready
