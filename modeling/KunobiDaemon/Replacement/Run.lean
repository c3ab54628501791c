import KunobiDaemon.Replacement.Machine
import KunobiDaemon.Time

/-! The blocking replacement loop around the transition machine.

The world supplies everything the loop does not decide: what each adapter call
answers and how long it takes, given every earlier call, how long prefaulting
takes, and how much time passes before each clock reading besides. A clock that
never goes back is exactly a clock whose readings are sums of such delays.
-/

set_option autoImplicit false

namespace KunobiDaemon.Replacement

/-- `readiness::POLL_INTERVAL`, 25 ms. -/
def pollInterval : Duration := 25_000_000

structure Budgets where
  setup : Duration
  drain : Option Duration
  deriving DecidableEq, Repr

/-- One adapter call as the driver saw it. -/
structure Call (E : Type) where
  step : Step
  deadline : Option Instant
  began : Instant
  ended : Instant
  answer : Except E Progress

structure World (E : Type) where
  /-- How long a call takes and what it answers, after the calls made so far. -/
  perform : List (Call E) → Step → Option Instant → Duration × Except E Progress
  /-- How long `prefault_all(driver.warmup_paths())` takes; its errors are discarded. -/
  prefault : List (Call E) → Duration
  /-- Time that passes before a clock reading besides calls, prefaulting and sleeps. -/
  lag : Nat → Duration
  /-- The last representable instant: adding past it panics. -/
  latest : Instant

/-- The time and how often the clock was read. -/
structure Reading where
  now : Instant
  reads : Nat
  deriving DecidableEq, Repr

/-- How a run is over. A panic returns nothing to the caller. -/
inductive Ending (E : Type) where
  | returned (result : Except (Failure E) Outcome)
  | panicked

structure State (E : Type) where
  machine : Machine
  deadline : Option Instant
  clock : Reading
  /-- Every call made so far, oldest first. -/
  history : List (Call E)
  ending : Option (Ending E)

section
variable {E : Type} (world : World E)

/-- `Instant::now()` -/
def World.read (clock : Reading) : Reading := ⟨clock.now + world.lag clock.reads, clock.reads + 1⟩

def World.clock : Clock Reading where
  time := Reading.now
  read := world.read
  read_onward _ := Nat.le_add_right _ _
  latest := world.latest

def Reading.pass (clock : Reading) (duration : Duration) : Reading :=
  { clock with now := clock.now + duration }

/-- `Instant::now() + duration` -/
def World.after (clock : Reading) (duration : Duration) : Reading × Option Instant :=
  let clock := world.read clock
  (clock, world.clock.add clock.now duration)

/-- `deadline.is_some_and(|limit| Instant::now() >= limit)` -/
def World.expired (clock : Reading) : Option Instant → Reading × Bool
  | none => (clock, false)
  | some limit => (world.read clock, limit ≤ (world.read clock).now)

def State.finish (state : State E) (result : Except (Failure E) Outcome) : State E :=
  { state with ending := some (.returned result) }

/-- Set a deadline so far from now, or panic if there is no such instant. -/
def State.restart (state : State E) (budget : Duration) : State E :=
  match world.after state.clock budget with
  | (clock, some limit) => { state with clock, deadline := some limit }
  | (clock, none) => { state with clock, ending := some .panicked }

/-- The deadline for the step the machine moved to from `previous`. -/
def State.renew (state : State E) (budgets : Budgets) (previous : Step) : State E :=
  if state.machine.step = .drain ∨ state.machine.step = .retire then
    match budgets.drain with
    | none => { state with deadline := none }
    | some budget => state.restart world budget
  else if previous = .drain then state.restart world budgets.setup
  else state

/-- Sleep before a step is retried, never past its deadline. -/
def State.pause (state : State E) : State E :=
  match state.deadline with
  | none => { state with clock := state.clock.pass pollInterval }
  | some limit =>
      let clock := world.read state.clock
      { state with clock := clock.pass (min pollInterval (limit - clock.now)) }

/-- Prefault the client shims in the iteration that committed. -/
def State.warm (state : State E) (committedBefore : Bool) : State E :=
  if state.machine.committed = true ∧ committedBefore = false then
    { state with clock := state.clock.pass (world.prefault state.history) }
  else state

/-- Perform the machine's step and record the call. -/
def State.call (state : State E) : State E × Except E Progress :=
  let (took, answer) := world.perform state.history state.machine.step state.deadline
  let clock := state.clock.pass took
  ({ state with
      clock
      history := state.history ++
        [⟨state.machine.step, state.deadline, state.clock.now, clock.now, answer⟩] }, answer)

/-- What the loop does with an answer that came in time. -/
def State.settle (state : State E) (budgets : Budgets) (progress : Progress) : State E :=
  let step := state.machine.step
  let committedBefore := state.machine.committed
  match state.machine.advance (E := E) progress with
  | (machine, .error failure) => { state with machine }.finish (.error failure)
  | (machine, .ok (some outcome)) =>
      ({ state with machine }.warm world committedBefore).finish (.ok outcome)
  | (machine, .ok none) =>
      let state := { state with machine }.warm world committedBefore
      if machine.step ≠ step then state.renew world budgets step else state.pause world

/-- One iteration of the loop in `run`; a run that is over stays as it is. -/
def State.turn (budgets : Budgets) (state : State E) : State E :=
  match state.ending with
  | some _ => state
  | none =>
      match world.expired state.clock state.deadline with
      | (clock, true) => { state with clock }.finish (.error (state.machine.failure .deadline))
      | (clock, false) =>
          match { state with clock }.call world with
          | (state, .error error) => state.finish (.error (state.machine.failure (.adapter error)))
          | (state, .ok progress) =>
              -- A committed result must be recorded even if a blocking commit ran late.
              if state.machine.step = .commit then state.settle world budgets progress
              else
                match world.expired state.clock state.deadline with
                | (clock, true) =>
                    { state with clock }.finish (.error (state.machine.failure .deadline))
                | (clock, false) => { state with clock }.settle world budgets progress

/-- The state in which `run` enters its loop. -/
def enter (mode : Mode) (budgets : Budgets) (start : Instant) : State E :=
  State.restart world ⟨Machine.new mode, none, ⟨start, 0⟩, [], none⟩ budgets.setup

/-- `run` after so many iterations. It has returned once its state has an ending. -/
def run (mode : Mode) (budgets : Budgets) (start : Instant) : Nat → State E
  | 0 => enter world mode budgets start
  | iterations + 1 => (run mode budgets start iterations).turn world budgets

end

end KunobiDaemon.Replacement
