import KunobiDaemon.Errors
import KunobiDaemon.Lib.Systems
import Mathlib.Logic.Function.Basic

/-! Unix listener acquisition and guarded endpoint cleanup, for one socket path.

Calls of `acquire` and guards of any number of processes take their system calls one by one. The
bind lock is exclusive, so its state also says where its holder stands. A socket file is known by
the call that created it; the numbers it has on its device may be given again.
-/

set_option autoImplicit false

namespace KunobiDaemon.Local

/-- Failed acquisition, preserving filesystem errors separately from contention. -/
inductive BindError where
  | directory (error : IoError)
  | bind (error : IoError)
  | unlink (error : IoError)
  deriving DecidableEq, Repr

/-- The outcome of a call of `acquire`. -/
inductive Outcome where
  | won
  | alreadyRunning
  | failed (error : BindError)
  deriving DecidableEq, Repr

/-- The descriptor that created a socket file. -/
inductive Descriptor where
  | bound
  | listening
  | closed
  deriving DecidableEq, Repr

structure Socket (N : Type) where
  /-- The device and inode numbers. -/
  number : N
  descriptor : Descriptor
  deriving DecidableEq, Repr

/-- What the path names. -/
inductive Entry (C : Type) where
  | absent
  /-- A file that is not a socket. -/
  | other
  | socket (creator : C)
  deriving DecidableEq, Repr

/-- Where a call of `acquire` stands while it holds the lock. Its two attempts to bind take the same steps. -/
inductive Place where
  /-- About to bind. -/
  | binding (again : Bool)
  /-- Bound, and about to listen. -/
  | bound (again : Bool)
  /-- Listening, and about to set the permissions. -/
  | listening (again : Bool)
  /-- About to read the metadata of what is at the path. -/
  | inspecting
  /-- About to connect to it. -/
  | probing
  /-- Refused, and about to remove it. -/
  | unlinking
  /-- About to release the lock. -/
  | returning (outcome : Outcome)
  deriving DecidableEq, Repr

/-- Where the drop of a guard stands while it holds the lock. -/
inductive Cleanup where
  | checking
  | removing
  | leaving
  deriving DecidableEq, Repr

inductive Holder (C G : Type) where
  | acquiring (call : C) (place : Place)
  | cleaning (guard : G) (cleanup : Cleanup)
  deriving DecidableEq, Repr

inductive Call where
  | idle
  /-- Before it tries the lock. -/
  | entered
  | holding
  | returned (outcome : Outcome)
  | crashed
  deriving DecidableEq, Repr

/-- A guard with the call that preceded its capture and the file that it was captured on. -/
structure SocketGuard (C N : Type) where
  call : C
  file : C
  number : N
  deriving DecidableEq, Repr

inductive GuardState (C N : Type) where
  | idle
  | captured (guard : SocketGuard C N)
  /-- The drop has begun, and has removed this. -/
  | dropped (guard : SocketGuard C N) (removed : Option (Entry C))
  deriving DecidableEq, Repr

structure System (C G N : Type) where
  path : Entry C
  sockets : C → Option (Socket N)
  lock : Option (Holder C G)
  calls : C → Call
  guards : G → GuardState C N

/-- What the kernel can answer to the probe's connect, errors apart. -/
inductive Answer where
  | connected
  | timedOut
  | wouldBlock
  | refused
  deriving DecidableEq, Repr

inductive Label (C G N : Type) where
  | enter (call : C)
  | refuse (call : C) (error : BindError)
  | lock (call : C)
  | bind (call : C) (number : N)
  | listen (call : C)
  | setPermissions (call : C)
  | inspect (call : C)
  | probe (call : C) (answer : Answer)
  | unlink (call : C)
  | fail (call : C) (error : BindError)
  | release (call : C)
  | crash (call : C)
  | close (call : C)
  | capture (guard : G) (call : C)
  | drop (guard : G)
  | check (guard : G)
  | remove (guard : G)
  | failGuard (guard : G)
  | leave (guard : G)
  | crashGuard (guard : G)
  deriving DecidableEq, Repr

/-- The errors that end a call at its place. Only a bind reports an address in use. -/
def Place.reports : Place → BindError → Bool
  | .binding false, .bind error | .bound false, .bind error | .listening false, .bind error => error.kind ≠ .addrInUse
  | .binding true, .bind _ | .bound true, .bind _ | .listening true, .bind _ => true
  | .inspecting, .bind _ => true
  | .probing, .bind error =>
      error.kind ≠ .connectionRefused && error.kind ≠ .timedOut && error.kind ≠ .wouldBlock
  | .unlinking, .unlink _ => true
  | _, _ => false

namespace System

variable {C G N : Type}

/-- A path that no call has touched, where an unrelated file may stand. -/
def initial (unrelated : Bool) : System C G N where
  path := if unrelated then .other else .absent
  sockets := fun _ => none
  lock := none
  calls := fun _ => .idle
  guards := fun _ => .idle

/-- The descriptor that created a file is open. -/
def live (s : System C G N) (call : C) : Bool :=
  match s.sockets call with
  | some socket => socket.descriptor ≠ .closed
  | none => false

/-- Somebody listens at the path. -/
def answers (s : System C G N) : Bool :=
  match s.path with
  | .socket creator =>
      match s.sockets creator with
      | some socket => socket.descriptor = .listening
      | none => false
  | _ => false

/-- The path names a socket, as the metadata show it. -/
def found (s : System C G N) : Option (Socket N) :=
  match s.path with
  | .socket creator => s.sockets creator
  | _ => none

variable [DecidableEq C] [DecidableEq G] [DecidableEq N]

def setCall (s : System C G N) (call : C) (status : Call) : System C G N :=
  { s with calls := Function.update s.calls call status }

def setGuard (s : System C G N) (guard : G) (status : GuardState C N) : System C G N :=
  { s with guards := Function.update s.guards guard status }

def setDescriptor (s : System C G N) (call : C) (descriptor : Descriptor) : System C G N :=
  { s with sockets := Function.update s.sockets call ((s.sockets call).map fun socket => { socket with descriptor }) }

/-- Let the holder of the lock go on at another place. -/
def go (s : System C G N) (call : C) (place : Place) : System C G N :=
  { s with lock := some (.acquiring call place) }

/-- A step of a call that holds the lock. -/
def acquiring (s : System C G N) (call : C) (turn : Place → Option (System C G N)) : Option (System C G N) :=
  match s.lock with
  | some (.acquiring holder place) => if holder = call then turn place else none
  | _ => none

/-- A step of a guard that holds the lock. -/
def cleaning (s : System C G N) (guard : G) (turn : Cleanup → Option (System C G N)) : Option (System C G N) :=
  match s.lock with
  | some (.cleaning holder cleanup) => if holder = guard then turn cleanup else none
  | _ => none

def step (s : System C G N) : Label C G N → Option (System C G N)
  | .enter call =>
      match s.calls call with
      | .idle => some (s.setCall call .entered)
      | _ => none
  -- The path, its directory or the lock file is refused.
  | .refuse call error =>
      match s.calls call, error with
      | .entered, .directory _ | .entered, .bind _ => some (s.setCall call (.returned (.failed error)))
      | _, _ => none
  | .lock call =>
      match s.calls call with
      | .entered =>
          match s.lock with
          | none => some ((s.go call (.binding false)).setCall call .holding)
          | some _ => some (s.setCall call (.returned .alreadyRunning))
      | _ => none
  | .bind call number => s.acquiring call fun
      | .binding again =>
          match s.path with
          | .absent =>
              some { s with
                path := .socket call
                sockets := Function.update s.sockets call (some ⟨number, .bound⟩)
                lock := some (.acquiring call (.bound again)) }
          | _ => if again then none else some (s.go call .inspecting)
      | _ => none
  | .listen call => s.acquiring call fun
      | .bound again => some ((s.setDescriptor call .listening).go call (.listening again))
      | _ => none
  | .setPermissions call => s.acquiring call fun
      | .listening _ => some (s.go call (.returning .won))
      | _ => none
  | .inspect call => s.acquiring call fun
      | .inspecting =>
          match s.path with
          | .socket _ => some (s.go call .probing)
          | .other => some (s.go call (.returning (.failed (.bind ⟨.alreadyExists, .message "entity already exists"⟩))))
          | .absent => none
      | _ => none
  | .probe call answer => s.acquiring call fun
      | .probing =>
          match answer with
          | .connected | .timedOut | .wouldBlock =>
              if s.answers then some (s.go call (.returning .alreadyRunning)) else none
          | .refused => if s.found.isSome && !s.answers then some (s.go call .unlinking) else none
      | _ => none
  | .unlink call => s.acquiring call fun
      | .unlinking =>
          match s.path with
          | .absent => none
          | _ => some ({ s with path := .absent }.go call (.binding true))
      | _ => none
  -- The listener of a failed attempt is dropped.
  | .fail call error => s.acquiring call fun place =>
      if place.reports error then some ((s.setDescriptor call .closed).go call (.returning (.failed error))) else none
  | .release call => s.acquiring call fun
      | .returning outcome => some ({ s with lock := none }.setCall call (.returned outcome))
      | _ => none
  | .crash call =>
      match s.calls call with
      | .entered => some (s.setCall call .crashed)
      | .holding => s.acquiring call fun _ =>
          some (({ s with lock := none }.setDescriptor call .closed).setCall call .crashed)
      | _ => none
  -- The owner drops its listener, or exits.
  | .close call =>
      match s.calls call with
      | .returned .won => some (s.setDescriptor call .closed)
      | _ => none
  | .capture guard call =>
      match s.guards guard, s.path with
      | .idle, .socket file =>
          (s.sockets file).map fun socket => s.setGuard guard (.captured ⟨call, file, socket.number⟩)
      | _, _ => none
  | .drop guard =>
      match s.guards guard with
      | .captured captured =>
          match s.lock with
          | none => some ({ s with lock := some (.cleaning guard .checking) }.setGuard guard (.dropped captured none))
          | some _ => some (s.setGuard guard (.dropped captured none))
      | _ => none
  | .check guard => s.cleaning guard fun
      | .checking =>
          match s.guards guard with
          | .dropped captured _ =>
              if s.found.any fun socket => socket.number = captured.number then
                some { s with lock := some (.cleaning guard .removing) }
              else some { s with lock := some (.cleaning guard .leaving) }
          | _ => none
      | _ => none
  | .remove guard => s.cleaning guard fun
      | .removing =>
          match s.guards guard, s.path with
          | .dropped _ _, .absent => none
          | .dropped captured _, present =>
              some ({ s with path := .absent, lock := some (.cleaning guard .leaving) }.setGuard guard
                (.dropped captured (some present)))
          | _, _ => none
      | _ => none
  | .failGuard guard =>
      match s.guards guard with
      | .captured captured => some (s.setGuard guard (.dropped captured none))
      | _ => s.cleaning guard fun _ => some { s with lock := some (.cleaning guard .leaving) }
  | .leave guard => s.cleaning guard fun
      | .leaving => some { s with lock := none }
      | _ => none
  | .crashGuard guard => s.cleaning guard fun _ => some { s with lock := none }

end System

end KunobiDaemon.Local
