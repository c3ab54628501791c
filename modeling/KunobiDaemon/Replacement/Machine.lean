import Mathlib.Order.Basic

/-! The replacement transition machine: which operation an application adapter
performs next, and what its answer lets the caller claim.

The machine knows nothing about time. Deadlines, the driver and the retry loop
are in `Replacement.Run`.
-/

set_option autoImplicit false

namespace KunobiDaemon.Replacement

/-- Whether the application permits old and new processes to coexist. -/
inductive Mode where
  | overlap
  | exclusive
  deriving DecidableEq, Repr

/-- One operation supplied by an application adapter. -/
inductive Step where
  | recheck
  | prepare
  | drain
  | start
  | verify
  | validate
  | commit
  | retire
  deriving DecidableEq, Repr

inductive Progress where
  | done
  | pending
  | unchanged
  deriving DecidableEq, Repr

inductive Outcome where
  | unchanged
  | complete
  | retirementPending
  deriving DecidableEq, Repr

inductive Reason (E : Type) where
  | deadline
  | adapter (error : E)
  | invalidProgress
  deriving DecidableEq, Repr

/-- Failure retains the phase and whether selection has already committed. -/
structure Failure (E : Type) where
  step : Step
  committed : Bool
  reason : Reason E
  deriving DecidableEq, Repr

structure Machine where
  mode : Mode
  step : Step
  committed : Bool
  deriving DecidableEq, Repr

namespace Machine
variable {E : Type}

def new (mode : Mode) : Machine := ⟨mode, .recheck, false⟩

def failure (machine : Machine) (reason : Reason E) : Failure E :=
  ⟨machine.step, machine.committed, reason⟩

/-- Move past a step that answered `Done`. `none` continues with the new step. -/
def proceed (machine : Machine) : Machine × Option Outcome :=
  match machine.step with
  | .recheck => ({ machine with step := .prepare }, none)
  | .prepare =>
      if machine.mode = .exclusive then ({ machine with step := .drain }, none)
      else ({ machine with step := .start }, none)
  | .drain => ({ machine with step := .start }, none)
  | .start => ({ machine with step := .verify }, none)
  | .verify => ({ machine with step := .validate }, none)
  | .validate => ({ machine with step := .commit }, none)
  | .commit =>
      if machine.mode = .exclusive then ({ machine with committed := true }, some .complete)
      else ({ machine with committed := true, step := .retire }, none)
  | .retire => (machine, some .complete)

def advance (machine : Machine) (progress : Progress) :
    Machine × Except (Failure E) (Option Outcome) :=
  match machine.step, progress with
  | .recheck, .unchanged => (machine, .ok (some .unchanged))
  | .recheck, .pending | .verify, .pending | .drain, .pending => (machine, .ok none)
  | .retire, .pending => (machine, .ok (some .retirementPending))
  | _, .done => (machine.proceed.1, .ok machine.proceed.2)
  | _, _ => (machine, .error (machine.failure .invalidProgress))

end Machine

end KunobiDaemon.Replacement
