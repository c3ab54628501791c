import Mathlib.Data.List.Count
import Mathlib.Logic.Function.Basic

/-! Bounded capacity for setup, application and control traffic. -/

set_option autoImplicit false

namespace KunobiDaemon

/-- Connection class. -/
inductive Pool where
  | handshake
  | application
  | control
  deriving DecidableEq, Repr

structure Limits where
  handshakes : Nat := 32
  application : Nat := 256
  control : Nat := 32
  deriving DecidableEq, Repr

def Limits.limit (limits : Limits) : Pool → Nat
  | .handshake => limits.handshakes
  | .application => limits.application
  | .control => limits.control

/-- Shared capacity. An active count never passes its limit, so it does not overflow. -/
structure Admission where
  limits : Limits
  active : Pool → Nat
  rejected : Pool → Nat

namespace Admission

def new (limits : Limits) : Admission := ⟨limits, fun _ => 0, fun _ => 0⟩

/-- Acquire without waiting. -/
def tryAcquire (admission : Admission) (pool : Pool) : Admission × Bool :=
  if admission.active pool < admission.limits.limit pool then
    ({ admission with active := Function.update admission.active pool (admission.active pool + 1) }, true)
  else ({ admission with rejected := Function.update admission.rejected pool (admission.rejected pool + 1) }, false)

/-- The drop of a permit. -/
def release (admission : Admission) (pool : Pool) : Admission :=
  { admission with active := Function.update admission.active pool (admission.active pool - 1) }

/-- The permits that live are those that were counted, and there is room for them. -/
structure Stocks (admission : Admission) (permits : List Pool) : Prop where
  counted : ∀ pool, admission.active pool = permits.count pool
  bounded : ∀ pool, admission.active pool ≤ admission.limits.limit pool

variable {admission : Admission} {permits : List Pool} {pool : Pool}

theorem stocks_new (limits : Limits) : Stocks (new limits) [] := ⟨fun _ => rfl, fun _ => Nat.zero_le _⟩

theorem Stocks.acquired (stocks : Stocks admission permits) (taken : (admission.tryAcquire pool).2 = true) :
    Stocks (admission.tryAcquire pool).1 (pool :: permits) := by
  unfold tryAcquire at taken ⊢
  split at taken
  · rename_i room
    rw [if_pos room]
    constructor
    · intro other
      by_cases same : other = pool
      · subst same
        simp [stocks.counted]
      · simp [Function.update_of_ne same, stocks.counted, List.count_cons_of_ne (Ne.symm same)]
    · intro other
      by_cases same : other = pool
      · subst same
        simpa using Nat.succ_le_of_lt room
      · simpa [Function.update_of_ne same] using stocks.bounded other
  · cases taken

theorem Stocks.refused (stocks : Stocks admission permits) (full : (admission.tryAcquire pool).2 = false) :
    Stocks (admission.tryAcquire pool).1 permits := by
  unfold tryAcquire at full ⊢
  split at full
  · cases full
  · rename_i room
    rw [if_neg room]
    exact ⟨stocks.counted, stocks.bounded⟩

theorem Stocks.released (stocks : Stocks admission permits) : Stocks (admission.release pool) (permits.erase pool) := by
  constructor
  · intro other
    by_cases same : other = pool
    · subst same
      simp [release, stocks.counted, List.count_erase_self]
    · simp [release, Function.update_of_ne same, stocks.counted, List.count_erase_of_ne same]
  · intro other
    by_cases same : other = pool
    · subst same
      simpa [release] using Nat.le_trans (Nat.sub_le _ _) (stocks.bounded other)
    · simpa [release, Function.update_of_ne same] using stocks.bounded other

theorem Stocks.perm {others : List Pool} (stocks : Stocks admission permits) (same : permits.Perm others) :
    Stocks admission others :=
  ⟨fun pool => (stocks.counted pool).trans (same.count_eq pool), stocks.bounded⟩

end Admission

end KunobiDaemon
