import KunobiDaemon.Generations.Retirement

/-! The loop that retires a generation, while other threads use it.

The receiver of the watch channel keeps the version it has seen. The loop parks in a `select!`
between a sleep and a change of that version. A refresh may take any time, and calls on the
generation may come between any two steps.
-/

set_option autoImplicit false

namespace KunobiDaemon.Generations

open Lib.Systems

/-- Time left before the drain limit retires this generation, once superseded. -/
def Generation.drainRemaining (generation : Generation) (now : Instant) : Option Duration :=
  match generation.drainLimit, generation.sessions.supersededSince with
  | some limit, some since => some (limit - (now - since))
  | _, _ => none

/-- About 30 years, the sleep of a timer whose deadline does not fit an `Instant`. -/
def farFuture : Duration := 86_400 * 365 * 30 * 1_000_000_000

/-- When a sleep that starts now ends, unless it panics. -/
def sleepEnds (now : Instant) (duration : Duration) : Option Instant :=
  if now + duration ≤ lastInstant then some (now + duration)
  else if now + farFuture ≤ lastInstant then some (now + farFuture)
  else none

/-- A wait, with the time it was computed at and what was known then. -/
structure Nap where
  measured : Instant
  /-- Since when a newer generation was selected. -/
  known : Option Instant
  wait : Duration
  deriving DecidableEq, Repr

/-- Where `run_until_retired` stands. -/
inductive Place where
  | called
  /-- At the head of the loop. -/
  | head
  /-- About to check the drain limit. -/
  | checking
  | refreshing
  /-- About to retire, if that is due. -/
  | retiring
  /-- About to ask for the time that is left. -/
  | measuring
  | drowsing (nap : Nap)
  /-- In `select!` -/
  | parked (nap : Nap) (started ends : Instant)
  | returned (retirement : Retirement)
  | panicked
  deriving DecidableEq, Repr

/-- A generation with the call of `run_until_retired`. -/
structure Retiring (C K : Type) where
  system : System C K
  place : Place
  /-- The version its receiver has seen. -/
  seen : Nat

inductive Turn (C K : Type) where
  /-- A call of another thread. -/
  | other (label : Label C K)
  | subscribe
  /-- `borrow_and_update` -/
  | update
  | checkLimit (aged drained : Instant)
  | refreshed
  | retire (aged drained : Instant)
  | measure (now : Instant)
  | sleep (now : Instant)
  | elapse (now : Instant)
  | changed
  deriving DecidableEq, Repr

namespace Retiring

variable {C K : Type} [DecidableEq C] [DecidableEq K]

/-- A new generation whose loop has been called. -/
def initial (own selected : UInt64) (staged : Bool) (limit : Option Duration) (started : Instant) : Retiring C K where
  system := .initial own selected staged limit started
  place := .called
  seen := 0

def tick (s : Retiring C K) (now : Instant) : Option (Retiring C K) :=
  if s.system.clock ≤ now then some { s with system := { s.system with clock := now } } else none

/-- Return if `try_retire` says so. -/
def attempt (stagingLifetime : Duration) (idle : Bool) (aged drained : Instant) (next : Place) (s : Retiring C K) :
    Option (Retiring C K) :=
  let retirement := (s.system.generation.tryRetire stagingLifetime idle true aged drained).2
  (s.system.step (.tryRetire stagingLifetime idle true aged drained)).map fun system =>
    { s with system, place := retirement.elim next .returned }

def step (interval stagingLifetime : Duration) (s : Retiring C K) : Turn C K → Option (Retiring C K)
  | .other label => (s.system.step label).map fun system => { s with system }
  | .subscribe =>
      match s.place with
      | .called => some { s with seen := s.system.generation.version, place := .head }
      | _ => none
  | .update =>
      match s.place with
      | .head => some { s with seen := s.system.generation.version, place := .checking }
      | _ => none
  | .checkLimit aged drained =>
      match s.place with
      | .checking => s.attempt stagingLifetime false aged drained .refreshing
      | _ => none
  | .refreshed =>
      match s.place with
      | .refreshing => some { s with place := .retiring }
      | _ => none
  | .retire aged drained =>
      match s.place with
      | .retiring => s.attempt stagingLifetime true aged drained .measuring
      | _ => none
  | .measure now =>
      match s.place with
      | .measuring =>
          let generation := s.system.generation
          let wait := (generation.drainRemaining now).elim interval fun remaining => min remaining interval
          (s.tick now).map fun s =>
            { s with place := .drowsing ⟨now, generation.sessions.supersededSince, wait⟩ }
      | _ => none
  | .sleep now =>
      match s.place with
      | .drowsing nap =>
          let place := (sleepEnds now nap.wait).elim .panicked fun ends => .parked nap now ends
          (s.tick now).map fun s => { s with place }
      | _ => none
  | .elapse now =>
      match s.place with
      | .parked _ _ ends => if ends ≤ now then (s.tick now).map fun s => { s with place := .head } else none
      | _ => none
  | .changed =>
      match s.place with
      | .parked _ _ _ =>
          if s.system.generation.version = s.seen then none
          else some { s with seen := s.system.generation.version, place := .head }
      | _ => none

end Retiring

end KunobiDaemon.Generations
