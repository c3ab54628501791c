import KunobiDaemon.Lib.Systems
import KunobiDaemon.Time
import Mathlib.Data.Finset.Card

/-! The one-way admission gate of a daemon, and the calls that wait on it.

Every critical section of the gate is one step. Waiting calls go through the steps of their
loop one by one, in any interleaving, and may be dropped where they wait.
-/

set_option autoImplicit false

namespace KunobiDaemon.Lifecycle

structure State where
  draining : Bool := false
  active : Nat := 0
  drainStarted : Option Instant := none
  deriving DecidableEq, Repr

/-- The events that a gate records. -/
inductive Event where
  | drainStarted
  | drainCompleted
  | drainTimedOut
  deriving DecidableEq, Repr

inductive DrainOutcome where
  | complete
  | timedOut (active : Nat)
  deriving DecidableEq, Repr

/-- A gate with the version of its watch channel and every call of `record` so far. -/
structure Gate where
  state : State := {}
  version : Nat := 0
  log : List Event := []
  deriving DecidableEq, Repr

namespace Gate

/-- Admit an operation unless draining has started. -/
def begin (gate : Gate) : Option Gate :=
  if gate.state.draining then none
  else some { gate with state := { gate.state with active := gate.state.active + 1 } }

/-- Close admission. Only the first call is true. -/
def startDrain (gate : Gate) (now : Instant) : Gate × Bool :=
  if gate.state.draining then (gate, false)
  else
    let state := { gate.state with draining := true, drainStarted := some now }
    let log := gate.log ++ [.drainStarted]
    let log := if state.active = 0 then log ++ [.drainCompleted] else log
    ({ state, log, version := gate.version + 1 }, true)

/-- The drop of a guard. -/
def drop (gate : Gate) : Gate :=
  let state := { gate.state with active := gate.state.active - 1 }
  if state.draining && state.active = 0 then
    { state, log := gate.log ++ [.drainCompleted], version := gate.version + 1 }
  else { gate with state }

end Gate

/-- The calls that may have to wait. -/
inductive Waiter where
  | draining
  | drain
  | drainUntil
  deriving DecidableEq, Repr

/-- What a call waits for. -/
def Waiter.done (waiter : Waiter) (state : State) : Bool :=
  match waiter with
  | .draining => state.draining
  | .drain | .drainUntil => state.active = 0

inductive Place where
  /-- Outside every call. -/
  | idle
  /-- About to subscribe; a drain has closed admission. -/
  | entered (waiter : Waiter)
  /-- At the head of the loop, about to `borrow_and_update`. -/
  | looping (waiter : Waiter) (seen : Nat)
  /-- About to take the lock and look. -/
  | checking (waiter : Waiter) (seen : Nat)
  /-- In `changed().await` -/
  | parked (waiter : Waiter) (seen : Nat)
  /-- In `drain_until` after its deadline, with the drain inside it dropped. -/
  | expired
  /-- In `drain_until` after it saw active requests, about to record that it timed out. -/
  | late (active : Nat)
  /-- About to return; only `drain_until` has an outcome. -/
  | returned (waiter : Waiter) (outcome : Option DrainOutcome)
  deriving DecidableEq, Repr

/-- What a call returns that has seen what it waits for. -/
def Waiter.outcome : Waiter → Option DrainOutcome
  | .draining | .drain => none
  | .drainUntil => some .complete

/-- A gate with its live guards and the calls on it. -/
structure System (C G : Type) where
  gate : Gate
  live : Finset G
  /-- How many calls of `start_drain` returned true. -/
  starts : Nat
  calls : C → Place

inductive Label (C G : Type) where
  | begin (guard : G)
  | drop (guard : G)
  | startDrain (now : Instant)
  | call (caller : C) (waiter : Waiter) (now : Instant)
  | subscribe (caller : C)
  | update (caller : C)
  | check (caller : C)
  | wake (caller : C)
  | cancel (caller : C)
  | expire (caller : C)
  | finish (caller : C)
  | record (caller : C)
  | leave (caller : C)
  deriving DecidableEq, Repr

namespace System

variable {C G : Type} [DecidableEq C] [DecidableEq G]

def initial : System C G := ⟨{}, ∅, 0, fun _ => .idle⟩

/-- `start_drain`, alone or as the first statement of a drain. -/
def startDrain (s : System C G) (now : Instant) : System C G :=
  let (gate, first) := s.gate.startDrain now
  { s with gate, starts := s.starts + first.toNat }

def move (s : System C G) (caller : C) (place : Place) : System C G :=
  { s with calls := Function.update s.calls caller place }

def step (s : System C G) : Label C G → Option (System C G)
  | .begin guard =>
      if guard ∈ s.live then none
      else
        match s.gate.begin with
        | none => some s
        | some gate => some { s with gate, live := insert guard s.live }
  | .drop guard =>
      if guard ∈ s.live then some { s with gate := s.gate.drop, live := s.live.erase guard } else none
  | .startDrain now => some (s.startDrain now)
  | .call caller waiter now =>
      match s.calls caller, waiter with
      | .idle, .draining => some (s.move caller (.entered waiter))
      | .idle, .drain | .idle, .drainUntil => some ((s.startDrain now).move caller (.entered waiter))
      | _, _ => none
  | .subscribe caller =>
      match s.calls caller with
      | .entered waiter => some (s.move caller (.looping waiter s.gate.version))
      | _ => none
  | .update caller =>
      match s.calls caller with
      | .looping waiter _ => some (s.move caller (.checking waiter s.gate.version))
      | _ => none
  | .check caller =>
      match s.calls caller with
      | .checking waiter seen =>
          if waiter.done s.gate.state then some (s.move caller (.returned waiter waiter.outcome))
          else some (s.move caller (.parked waiter seen))
      | _ => none
  | .wake caller =>
      match s.calls caller with
      | .parked waiter seen =>
          if s.gate.version ≠ seen then some (s.move caller (.looping waiter s.gate.version)) else none
      | _ => none
  | .cancel caller =>
      match s.calls caller with
      | .parked _ _ => some (s.move caller .idle)
      | _ => none
  | .expire caller =>
      match s.calls caller with
      | .parked .drainUntil _ => some (s.move caller .expired)
      | _ => none
  | .finish caller =>
      match s.calls caller with
      | .expired =>
          if s.gate.state.active = 0 then some (s.move caller (.returned .drainUntil (some .complete)))
          else some (s.move caller (.late s.gate.state.active))
      | _ => none
  | .record caller =>
      match s.calls caller with
      | .late active =>
          let gate := { s.gate with log := s.gate.log ++ [.drainTimedOut] }
          some (move { s with gate } caller (.returned .drainUntil (some (.timedOut active))))
      | _ => none
  | .leave caller =>
      match s.calls caller with
      | .returned _ _ => some (s.move caller .idle)
      | _ => none

end System

end KunobiDaemon.Lifecycle
