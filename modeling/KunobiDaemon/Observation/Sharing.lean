import KunobiDaemon.Lib.Totals
import KunobiDaemon.Observation.Adapters
import Mathlib.Logic.Function.Basic

/-! Any number of threads that record and take events and do I/O through observed transports.

Every atomic operation is one step. A wrapper is used by one thread at a time, so what it is doing
is part of the wrapper. Each party keeps an account of what it did, which no code reads.
-/

set_option autoImplicit false

namespace KunobiDaemon.Observation

open Lib.Dialogues Lib.Totals

/-! ## What is shared -/

section
variable {bits : Nat}

/-- Counters wrap around. `usize` has `bits` bits. -/
structure Progress (bits : Nat) where
  bytes : BitVec 64 := 0#64
  pending : BitVec bits := .ofNat bits 0
  busySince : BitVec 64 := 0#64
  lastProgress : BitVec 64 := 0#64
  errors : BitVec 64 := 0#64

structure Observations (bits : Nat) where
  capacity : Nat
  progress : Direction → Progress bits := fun _ => {}
  connections : BitVec bits := .ofNat bits 0
  events : List TimedEvent := []
  locked : Bool := false
  lostEvents : BitVec 64 := 0#64

def fetchMax (word : BitVec 64) (value : Nat) : BitVec 64 := if word.toNat < value then .ofNat 64 value else word

/-- What a step does not decide: the clock, and what the transport returns. -/
structure Input where
  elapsed : Duration
  outcome : Option Outcome

def Observations.update (o : Observations bits) (direction : Direction) (progress : Progress bits) : Observations bits :=
  { o with progress := Function.update o.progress direction progress }

/-- How an atomic operation is answered. Others have to wait for a lock and for a blocking call. -/
def Observations.answer (o : Observations bits) (input : Input) :
    (question : Question) → Option (question.Reply × Observations bits)
  | .enter _ => some ((), o)
  | .leave => some ((), o)
  | .tryLock => some (!o.locked, { o with locked := true })
  | .length => some (o.events.length, o)
  | .elapsed => some (input.elapsed, o)
  | .pushBack event => some ((), { o with events := o.events ++ [event] })
  | .unlock => some ((), { o with locked := false })
  | .lostEvents => some ((), { o with lostEvents := o.lostEvents.add 1#64 })
  | .lock => if o.locked then none else some ((), { o with locked := true })
  | .drain => some (o.events, { o with events := [] })
  | .pending direction =>
      let progress := o.progress direction
      some (decide (progress.pending = .ofNat bits 0),
        o.update direction { progress with pending := progress.pending.add (.ofNat bits 1) })
  | .release direction =>
      let progress := o.progress direction
      some ((), o.update direction { progress with pending := progress.pending.sub (.ofNat bits 1) })
  | .busySince direction nanos =>
      some ((), o.update direction { o.progress direction with busySince := .ofNat 64 nanos })
  | .bytes direction count =>
      let progress := o.progress direction
      some ((), o.update direction { progress with bytes := progress.bytes.add (.ofNat 64 count) })
  | .lastProgress direction nanos =>
      let progress := o.progress direction
      some ((), o.update direction { progress with lastProgress := fetchMax progress.lastProgress nanos })
  | .errors direction =>
      let progress := o.progress direction
      some ((), o.update direction { progress with errors := progress.errors.add 1#64 })
  | .connect => some ((), { o with connections := o.connections.add (.ofNat bits 1) })
  | .disconnect => some ((), { o with connections := o.connections.sub (.ofNat bits 1) })
  | .call _ _ => input.outcome.map fun outcome => (outcome, o)
  | .poll _ _ => some (input.outcome, o)

end

/-! ## What happened -/

/-- The bytes that a successful call of the transport moved. -/
def moved : (question : Question) → question.Reply → Option (Direction × Nat)
  | .call direction true, .ok count => some (direction, count)
  | .poll direction true, some (.ok count) => some (direction, count)
  | _, _ => none

structure History where
  /-- The calls of `record`. -/
  calls : Nat := 0
  pushed : List TimedEvent := []
  taken : List TimedEvent := []
  losses : Nat := 0
  succeeded : Direction → Nat := fun _ => 0

def History.moves (history : History) : Option (Direction × Nat) → History
  | some (direction, count) =>
      { history with succeeded := Function.update history.succeeded direction (history.succeeded direction + count) }
  | none => history

def History.after (history : History) : (question : Question) → question.Reply → History
  | .enter _, _ => { history with calls := history.calls + 1 }
  | .pushBack event, _ => { history with pushed := history.pushed ++ [event] }
  | .lostEvents, _ => { history with losses := history.losses + 1 }
  | .drain, events => { history with taken := List.append history.taken events }
  | .call direction transfers, reply => history.moves (moved (.call direction transfers) reply)
  | .poll direction transfers, reply => history.moves (moved (.poll direction transfers) reply)
  | .leave, _ | .tryLock, _ | .length, _ | .elapsed, _ | .unlock, _ | .lock, _ | .pending _, _ | .release _, _
  | .busySince _ _, _ | .bytes _ _, _ | .lastProgress _ _, _ | .errors _, _ | .connect, _ | .disconnect, _ => history

/-! ## What one party did -/

/-- What a party knows of the queue while it holds the lock. -/
inductive Hold where
  | none
  | locked
  | room
  deriving DecidableEq

def Hold.tried (locked : Bool) : Hold := if locked then .locked else .none

def Hold.seen (capacity length : Nat) : Hold := if length < capacity then .room else .locked

structure Account where
  connected : Bool := false
  /-- The last poll that returned was pending. -/
  last : Direction → Bool := fun _ => false
  /-- The call under way has added to `pending`. -/
  begun : Option Direction := none
  /-- The call under way has subtracted from `pending`. -/
  released : Direction → Bool := fun _ => false
  hold : Hold := .none
  recording : Bool := false
  /-- The event of the `record` call under way is queued or lost. -/
  settled : Bool := false
  closes : Nat := 0
  /-- Bytes that the transport moved and the call has not reported. -/
  owed : Direction → Nat := fun _ => 0

namespace Account

/-- A call or poll that counts as pending. -/
def held (account : Account) (direction : Direction) : Bool :=
  (account.last direction || account.begun = some direction) && !account.released direction

def owes (account : Account) : Option (Direction × Nat) → Account
  | some (direction, count) => { account with owed := Function.update account.owed direction count }
  | none => account

def after (capacity : Nat) (account : Account) : (question : Question) → question.Reply → Account
  | .enter event, _ =>
      { account with
        recording := true
        settled := capacity = 0
        closes := account.closes + if event = .readClosed then 1 else 0 }
  | .leave, _ => { account with recording := false }
  | .tryLock, locked => { account with hold := .tried locked }
  | .length, length => { account with hold := .seen capacity length }
  | .pushBack _, _ => { account with settled := true, hold := .locked }
  | .lostEvents, _ => { account with settled := true }
  | .unlock, _ => { account with hold := .none }
  | .lock, _ => { account with hold := .locked }
  | .pending direction, _ => { account with begun := some direction }
  | .release direction, _ => { account with released := Function.update account.released direction true }
  | .bytes direction count, _ =>
      { account with owed := Function.update account.owed direction (account.owed direction - count) }
  | .connect, _ => { account with connected := true }
  | .disconnect, _ => { account with connected := false }
  | .call direction transfers, reply => account.owes (moved (.call direction transfers) reply)
  | .poll direction transfers, reply => account.owes (moved (.poll direction transfers) reply)
  | .elapsed, _ | .drain, _ | .busySince _ _, _ | .lastProgress _ _, _ | .errors _, _ => account

/-- A call has returned. -/
def returns (account : Account) (last : Direction → Bool) : Account :=
  { account with last, begun := none, released := fun _ => false }

end Account

/-! ## Parties and their steps -/

inductive Wrapper where
  | blocking (io : ObservedIo)
  | async (io : AsyncObservedIo)
  deriving DecidableEq

/-- A call on a wrapper. -/
inductive Work where
  | read (room : Bool)
  | write
  | flush
  | pollRead (room : Bool)
  | pollWrite
  | pollFlush
  | pollShutdown
  deriving DecidableEq

namespace Work

def direction : Work → Direction
  | .read _ | .pollRead _ => .read
  | .write | .flush | .pollWrite | .pollFlush | .pollShutdown => .write

def blocking : Work → Bool
  | .read _ | .write | .flush => true
  | .pollRead _ | .pollWrite | .pollFlush | .pollShutdown => false

end Work

/-- What is left of a wrapper, and whether a poll is pending. -/
abbrev Rest := Option (Wrapper × Bool)

section
variable (capacity : Nat)

def Work.program : Work → Wrapper → Option (Doing Rest)
  | .read room, .blocking io => some ((io.read capacity room).bind fun io => .done (some (.blocking io, false)))
  | .write, .blocking io => some ((io.write capacity).bind fun io => .done (some (.blocking io, false)))
  | .flush, .blocking io => some ((io.flush capacity).bind fun io => .done (some (.blocking io, false)))
  | .pollRead room, .async io =>
      some ((io.pollRead capacity room).bind fun (io, pending) => .done (some (.async io, pending)))
  | .pollWrite, .async io => some ((io.pollWrite capacity).bind fun (io, pending) => .done (some (.async io, pending)))
  | .pollFlush, .async io => some ((io.pollFlush capacity).bind fun (io, pending) => .done (some (.async io, pending)))
  | .pollShutdown, .async io =>
      some ((io.pollShutdown capacity).bind fun (io, pending) => .done (some (.async io, pending)))
  | _, _ => none

def Wrapper.new (async : Bool) : Doing Rest :=
  if async then (AsyncObservedIo.new capacity).bind fun io => .done (some (.async io, false))
  else (ObservedIo.new capacity).bind fun io => .done (some (.blocking io, false))

def Wrapper.drop : Wrapper → Doing Rest
  | .blocking _ => (ObservedIo.drop capacity).bind fun _ => .done none
  | .async io => (io.drop capacity).bind fun _ => .done none

end

inductive Role where
  /-- A call of `record` or `take_events`. -/
  | calling
  | creating
  | working (work : Work)
  | dropping
  deriving DecidableEq

inductive Actor where
  | busy (role : Role) (program : Doing Rest)
  | resting (wrapper : Wrapper)
  /-- The call has returned, or the wrapper is gone. -/
  | gone

structure Member where
  actor : Actor
  account : Account := {}

/-- What the polls of a wrapper came to, when it has returned from a role. -/
def Role.last (role : Role) (account : Account) (pending : Bool) : Direction → Bool :=
  match role with
  | .working work => if work.blocking then account.last else Function.update account.last work.direction pending
  | .calling | .creating | .dropping => account.last

def Member.resume (role : Role) (account : Account) : Doing Rest → Member
  | .done (some (wrapper, pending)) => ⟨.resting wrapper, account.returns (role.last account pending)⟩
  | .done none => ⟨.gone, account.returns fun _ => false⟩
  | .ask question next => ⟨.busy role (.ask question next), account⟩

structure System (bits : Nat) where
  observations : Observations bits
  history : History := {}
  members : List Member := []

inductive Label where
  | record (event : Event)
  | takeEvents
  | create (async : Bool)
  /-- A call on a wrapper begins, with its first operation. -/
  | work (index : Nat) (work : Work) (input : Input)
  | drop (index : Nat)
  | run (index : Nat) (input : Input)

namespace System

variable {bits : Nat}

def new (bits capacity : Nat) : System bits := { observations := { capacity } }

def add (s : System bits) (role : Role) (program : Doing Rest) : System bits :=
  { s with members := s.members ++ [{ actor := .busy role program }] }

/-- One operation of a party. -/
def advance (s : System bits) (index : Nat) (role : Role) (program : Doing Rest) (account : Account) (input : Input) :
    Option (System bits) :=
  match program with
  | .done _ => none
  | .ask question next =>
      (s.observations.answer input question).map fun (reply, observations) =>
        { observations
          history := s.history.after question reply
          members := s.members.set index
            (.resume role (account.after s.observations.capacity question reply) (next reply)) }

def step (s : System bits) : Label → Option (System bits)
  | .record event => some (s.add .calling ((record s.observations.capacity event).bind fun _ => .done none))
  | .takeEvents => some (s.add .calling (takeEvents.bind fun _ => .done none))
  | .create async => some (s.add .creating (Wrapper.new s.observations.capacity async))
  | .work index work input =>
      match s.members[index]? with
      | some ⟨.resting wrapper, account⟩ =>
          (work.program s.observations.capacity wrapper).bind fun program =>
            s.advance index (.working work) program account input
      | _ => none
  | .drop index =>
      match s.members[index]? with
      | some ⟨.resting wrapper, account⟩ =>
          some { s with
            members := s.members.set index ⟨.busy .dropping (wrapper.drop s.observations.capacity), account⟩ }
      | _ => none
  | .run index input =>
      match s.members[index]? with
      | some ⟨.busy role program, account⟩ => s.advance index role program account input
      | _ => none

/-- The operation that a step performs. -/
def operation (s : System bits) : Label → Option Question
  | .work index work _ =>
      match s.members[index]? with
      | some ⟨.resting wrapper, _⟩ =>
          match work.program s.observations.capacity wrapper with
          | some (.ask question _) => some question
          | _ => none
      | _ => none
  | .run index _ =>
      match s.members[index]? with
      | some ⟨.busy _ (.ask question _), _⟩ => some question
      | _ => none
  | .record _ | .takeEvents | .create _ | .drop _ => none

end System

/-! ## What is claimed of them -/

namespace Member

def live (member : Member) : Bool :=
  match member.actor with
  | .busy (.working _) _ | .resting _ => true
  -- A wrapper counts until its `ObservedIo` begins to drop.
  | .busy .creating _ | .busy .dropping _ => member.account.connected
  | .busy .calling _ | .gone => false

/-- A blocking call in progress. -/
def blocked (member : Member) (direction : Direction) : Bool :=
  match member.actor with
  | .busy (.working work) _ => work.blocking && work.direction = direction
  | _ => false

/-- The last poll in this direction was pending or is under way, and its I/O has not ended since. -/
def unfinished (member : Member) (direction : Direction) : Bool :=
  match member.actor with
  | .resting (.async _) => member.account.last direction
  | .busy (.working work) _ =>
      !work.blocking && (member.account.last direction || work.direction = direction) &&
        !member.account.released direction
  | .busy .dropping _ => member.account.last direction && !member.account.released direction
  | _ => false

/-- A call on a wrapper is in progress. -/
def working (member : Member) : Bool :=
  match member.actor with
  | .busy (.working _) _ => true
  | _ => false

end Member

section
variable {bits : Nat}

/-- The blocking calls in progress and the live async wrappers whose last poll is unfinished. -/
def System.pendings (s : System bits) (direction : Direction) : Nat :=
  s.members.countP (·.blocked direction) + s.members.countP (·.unfinished direction)

/-- Event and activity accounting. Counters are words, so they hold a number as far as their width goes. -/
structure Balanced (s : System bits) : Prop where
  bounded : s.observations.events.length ≤ s.observations.capacity
  recorded : 0 < s.observations.capacity → (∀ member ∈ s.members, member.account.recording = false) →
    s.history.calls = s.observations.events.length + s.history.taken.length + s.history.losses
  lost : s.observations.lostEvents = .ofNat 64 s.history.losses
  disabled : s.observations.capacity = 0 → s.history.pushed = [] ∧ s.history.losses = 0
  order : s.history.taken ++ s.observations.events = s.history.pushed
  connections : s.observations.connections = .ofNat bits (s.members.countP (·.live))
  pending : ∀ direction, (s.observations.progress direction).pending = .ofNat bits (s.pendings direction)
  underflow : ∀ label direction, s.operation label = some (.release direction) → 0 < s.pendings direction
  gone : (∀ member ∈ s.members, member.live = false) → ∀ direction, s.pendings direction = 0
  /-- Bytes that a call has not reported yet come on top. -/
  bytes : ∀ direction, (s.observations.progress direction).bytes.add
    (.ofNat 64 (total (fun member => member.account.owed direction) s.members)) = .ofNat 64 (s.history.succeeded direction)
  reported : ∀ member ∈ s.members, member.working = false → ∀ direction, member.account.owed direction = 0
  closes : ∀ member ∈ s.members, member.account.closes ≤ 1

end

end KunobiDaemon.Observation
