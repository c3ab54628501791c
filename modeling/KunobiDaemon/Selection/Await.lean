import KunobiDaemon.Time
import Mathlib.Data.List.Basic

/-! Waiting for a replacement that another process drives.

The world holds the evidence and the clock. It decides what each call answers and how
long it takes, from everything that happened before.
-/

set_option autoImplicit false
set_option linter.dupNamespace false

namespace KunobiDaemon.Selection

/-- What an observer may report about a candidate it does not drive. -/
inductive Selection (P : Type) where
  | current (proof : P)
  | committed
  | notCommitted
  deriving DecidableEq, Repr

structure Budget where
  commit : Duration
  proof : Duration
  deriving DecidableEq, Repr

inductive Decision where
  | current
  | committed
  | notCommitted
  | wait
  deriving DecidableEq, Repr

structure Watch where
  budget : Budget
  /-- When a round first read a committed selection. -/
  committedAt : Option Duration
  deriving DecidableEq, Repr

namespace Watch

def new (budget : Budget) : Watch := ⟨budget, none⟩

/-- Time from the start by which the wait must end. -/
def until_ (watch : Watch) : Duration :=
  match watch.committedAt with
  | some at_ => min (at_.saturatingAdd watch.budget.proof) watch.budget.commit
  | none => watch.budget.commit

def record (watch : Watch) (elapsed : Duration) (committed : Bool) : Watch :=
  if committed && watch.committedAt.isNone then { watch with committedAt := some elapsed } else watch

def decide (watch : Watch) (elapsed : Duration) (proven : Bool) : Decision :=
  if proven then .current
  else
    match watch.committedAt, Decidable.decide (elapsed ≥ watch.until_) with
    | _, false => .wait
    | some _, true => .committed
    | none, true => .notCommitted

end Watch

/-- Evidence about a candidate, in a world of type `W`. -/
structure Evidence (W P X : Type) extends Clock W where
  committed : W → W × Except X Bool
  probe : W → Instant → W × Except X (Option P)
  wait : W → Instant → W
  committed_onward : ∀ world, time world ≤ time (committed world).1
  probe_onward : ∀ world deadline, time world ≤ time (probe world deadline).1
  wait_onward : ∀ world limit, time world ≤ time (wait world limit)

/-- What a round showed, with the clock readings it was judged by. -/
structure Round (P X : Type) where
  committed : Bool
  /-- The reading right after the record was read. -/
  read : Instant
  deadline : Instant
  answer : Except X (Option P)
  /-- The reading a proof was held against, if the probe gave one. -/
  checked : Option Instant
  /-- The reading the decision was made at, if the probe did not fail. -/
  decided : Option Instant
  waited : Bool

/-- The proof of a round, unless it came too late. -/
def Round.timely {P X : Type} (round : Round P X) : Option P :=
  match round.answer, round.checked with
  | .ok (some proof), some now => if now < round.deadline then some proof else none
  | _, _ => none

/-- The calls that gather evidence. -/
inductive Call where
  | committed
  | probe
  | wait
  deriving DecidableEq, Repr

/-- How a call is over. A panic returns nothing to the caller. -/
inductive Ending (P X : Type) where
  | returned (result : Except X (Selection P))
  | panicked

structure State (W P X : Type) where
  world : W
  start : Instant
  watch : Watch
  /-- Every round whose probe has returned, oldest first. -/
  rounds : List (Round P X)
  calls : List Call
  ending : Option (Ending P X)

section
variable {W P X : Type} (evidence : Evidence W P X)

/-- `.filter(|_| Instant::now() < until)`, with the reading it makes. -/
def Evidence.filter (world : W) (deadline : Instant) : Option P → W × Option Instant × Option P
  | none => (world, none, none)
  | some proof =>
      let world := evidence.read world
      let now := evidence.time world
      (world, some now, if now < deadline then some proof else none)

/-- The end of a round whose probe did not fail. -/
def State.conclude (state : State W P X) (committed : Bool) (read deadline : Instant)
    (answer : Option P) : State W P X :=
  let (world, checked, proof) := evidence.filter state.world deadline answer
  let world := evidence.read world
  let decided := evidence.time world
  let decision := state.watch.decide (decided - state.start) proof.isSome
  let round : Round P X := ⟨committed, read, deadline, .ok answer, checked, some decided, decision == .wait⟩
  let state := { state with world, rounds := state.rounds ++ [round] }
  match decision with
  | .current =>
      match proof with
      | some proof => { state with ending := some (.returned (.ok (.current proof))) }
      | none => { state with ending := some .panicked }
  | .committed => { state with ending := some (.returned (.ok .committed)) }
  | .notCommitted => { state with ending := some (.returned (.ok .notCommitted)) }
  -- The watch has not changed, so the wait is given the deadline of the probe.
  | .wait => { state with world := evidence.wait world deadline, calls := state.calls ++ [.wait] }

/-- The rest of a round, once its record has been read and the watch has taken note of it. -/
def State.inspect (state : State W P X) (committed : Bool) (read : Instant) : State W P X :=
  match evidence.add state.start state.watch.until_ with
  | none => { state with ending := some .panicked }
  | some deadline =>
      let (world, answer) := evidence.probe state.world deadline
      let calls := state.calls ++ [.probe]
      match answer with
      | .error error =>
          let round := ⟨committed, read, deadline, .error error, none, none, false⟩
          { state with
            world, calls, rounds := state.rounds ++ [round], ending := some (.returned (.error error)) }
      | .ok answer => { state with world, calls }.conclude evidence committed read deadline answer

/-- One iteration of the loop in `await_selection`; a call that is over stays as it is. -/
def State.turn (state : State W P X) : State W P X :=
  match state.ending with
  | some _ => state
  | none =>
      let (world, answer) := evidence.committed state.world
      let calls := state.calls ++ [.committed]
      match answer with
      | .error error => { state with world, calls, ending := some (.returned (.error error)) }
      | .ok committed =>
          let world := evidence.read world
          let read := evidence.time world
          let watch := state.watch.record (read - state.start) committed
          { state with world, watch, calls }.inspect evidence committed read

/-- The state in which `await_selection` enters its loop. -/
def enter (budget : Budget) (world : W) : State W P X :=
  let world := evidence.read world
  ⟨world, evidence.time world, Watch.new budget, [], [], none⟩

/-- `await_selection` after so many iterations. It is over once its state has an ending. -/
def awaitSelection (budget : Budget) (world : W) : Nat → State W P X
  | 0 => enter evidence budget world
  | iterations + 1 => (awaitSelection budget world iterations).turn evidence

end

end KunobiDaemon.Selection
