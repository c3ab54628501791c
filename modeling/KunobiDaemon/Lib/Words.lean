import Mathlib.Algebra.Group.Nat.Defs

/-! Arithmetic on 64-bit words that saturates or fails instead of wrapping around. -/

set_option autoImplicit false

namespace Lib.Words

/-- The largest word. -/
def top : UInt64 := 0xffff_ffff_ffff_ffff

def saturatingAdd (a b : UInt64) : UInt64 := if a.toNat + b.toNat < 2 ^ 64 then a + b else top

def saturatingMul (a b : UInt64) : UInt64 := if a.toNat * b.toNat < 2 ^ 64 then a * b else top

def checkedAdd (a b : UInt64) : Option UInt64 := if a.toNat + b.toNat < 2 ^ 64 then some (a + b) else none

/-- `1 << amount`, which panics unless the amount is below the width. -/
def bit (amount : UInt64) : Option UInt64 := if amount < 64 then some (1 <<< amount) else none

section
variable {a b c d : UInt64}

theorem toNat_top : top.toNat = 2 ^ 64 - 1 := rfl

theorem toNat_saturatingAdd (a b : UInt64) : (saturatingAdd a b).toNat = min (a.toNat + b.toNat) (2 ^ 64 - 1) := by
  unfold saturatingAdd
  split
  · rename_i fits
    rw [UInt64.toNat_add, Nat.mod_eq_of_lt fits, Nat.min_eq_left (Nat.le_sub_one_of_lt fits)]
  · rename_i over_
    rw [toNat_top, Nat.min_eq_right (Nat.le_trans (Nat.sub_le _ _) (Nat.le_of_not_lt over_))]

theorem toNat_saturatingMul (a b : UInt64) : (saturatingMul a b).toNat = min (a.toNat * b.toNat) (2 ^ 64 - 1) := by
  unfold saturatingMul
  split
  · rename_i fits
    rw [UInt64.toNat_mul, Nat.mod_eq_of_lt fits, Nat.min_eq_left (Nat.le_sub_one_of_lt fits)]
  · rename_i over_
    rw [toNat_top, Nat.min_eq_right (Nat.le_trans (Nat.sub_le _ _) (Nat.le_of_not_lt over_))]

theorem toNat_min (a b : UInt64) : (min a b).toNat = min a.toNat b.toNat := by
  have unfolded : min a b = if a ≤ b then a else b := rfl
  rw [unfolded]
  split
  · rename_i le
    exact (Nat.min_eq_left (UInt64.le_iff_toNat_le.mp le)).symm
  · rename_i gt
    exact (Nat.min_eq_right (Nat.le_of_lt (UInt64.not_le.mp gt))).symm

theorem toNat_max (a b : UInt64) : (max a b).toNat = max a.toNat b.toNat := by
  have unfolded : max a b = if a ≤ b then b else a := rfl
  rw [unfolded]
  split
  · rename_i le
    exact (Nat.max_eq_right (UInt64.le_iff_toNat_le.mp le)).symm
  · rename_i gt
    exact (Nat.max_eq_left (Nat.le_of_lt (UInt64.not_le.mp gt))).symm

theorem le_max_iff : a ≤ max b c ↔ a ≤ b ∨ a ≤ c := by
  rw [UInt64.le_iff_toNat_le, UInt64.le_iff_toNat_le, UInt64.le_iff_toNat_le, toNat_max]
  omega

theorem lt_of_checkedAdd_one (added : checkedAdd b 1 = some c) (le : a ≤ b) : a < c := by
  unfold checkedAdd at added
  split at added
  · rename_i fits
    cases added
    rw [UInt64.le_iff_toNat_le] at le
    rw [UInt64.toNat_one] at fits
    rw [UInt64.lt_iff_toNat_lt, UInt64.toNat_add, UInt64.toNat_one, Nat.mod_eq_of_lt fits]
    exact Nat.lt_succ_of_le le
  · cases added

theorem checkedAdd_one (below : a ≠ top) : checkedAdd a 1 = some (a + 1) := by
  refine if_pos ?_
  have word := a.toNat_lt
  have short : a.toNat ≠ top.toNat := fun same => below (UInt64.toNat_inj.mp same)
  rw [toNat_top] at short
  rw [UInt64.toNat_one]
  omega

theorem max_ne (left : a ≠ c) (right : b ≠ c) : max a b ≠ c := by
  have unfolded : max a b = if a ≤ b then b else a := rfl
  rw [unfolded]
  split
  · exact right
  · exact left

theorem not_top_lt : ¬ top < a := by
  rw [UInt64.lt_iff_toNat_lt, toNat_top]
  exact Nat.not_lt_of_le (Nat.le_sub_one_of_lt a.toNat_lt)

theorem saturatingAdd_mono (left : a ≤ c) (right : b ≤ d) : saturatingAdd a b ≤ saturatingAdd c d := by
  rw [UInt64.le_iff_toNat_le] at left right ⊢
  rw [toNat_saturatingAdd, toNat_saturatingAdd]
  omega

theorem saturatingMul_mono (left : a ≤ c) (right : b ≤ d) : saturatingMul a b ≤ saturatingMul c d := by
  rw [UInt64.le_iff_toNat_le] at left right ⊢
  rw [toNat_saturatingMul, toNat_saturatingMul]
  have product := Nat.mul_le_mul left right
  omega

theorem bit_eq {amount : UInt64} (below : amount.toNat < 64) :
    ∃ word, bit amount = some word ∧ word.toNat = 2 ^ amount.toNat := by
  refine ⟨1 <<< amount, if_pos (UInt64.lt_iff_toNat_lt.mpr below), ?_⟩
  rw [UInt64.toNat_shiftLeft, Nat.mod_eq_of_lt below, Nat.shiftLeft_eq, UInt64.toNat_one, Nat.one_mul]
  exact Nat.mod_eq_of_lt (Nat.pow_lt_pow_right (by decide) below)

end

end Lib.Words
