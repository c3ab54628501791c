import Mathlib.Algebra.BigOperators.Ring.Finset
import Mathlib.Data.Fintype.Card

/-! Counting the threads of a finite family by the place each of them stands at. -/

set_option autoImplicit false

namespace Lib.Threads

variable {T P : Type} [Fintype T]

/-- How many threads stand at one of these places. -/
def count (among : P → Bool) (places : T → P) : Nat :=
  (Finset.univ.filter fun t => among (places t)).card

theorem count_eq_sum (among : P → Bool) (places : T → P) :
    count among places = ∑ t, (among (places t)).toNat := by
  simp only [count, Finset.card_filter, Bool.toNat, Bool.cond_eq_ite]

/-- Moving one thread changes the count by that thread alone. -/
theorem count_update [DecidableEq T] (among : P → Bool) (places : T → P) (t : T) (place : P) :
    count among (Function.update places t place) + (among (places t)).toNat =
      count among places + (among place).toNat := by
  simp only [count_eq_sum, ← Finset.add_sum_erase _ _ (Finset.mem_univ t), Function.update_self]
  have rest : ∑ u ∈ Finset.univ.erase t, (among (Function.update places t place u)).toNat =
      ∑ u ∈ Finset.univ.erase t, (among (places u)).toNat :=
    Finset.sum_congr rfl fun u member => by
      rw [Function.update_of_ne (Finset.ne_of_mem_erase member)]
  rw [rest]
  omega

theorem count_congr {among : P → Bool} {places others : T → P}
    (same : ∀ t, among (places t) = among (others t)) : count among places = count among others := by
  simp only [count, same]

theorem count_pos {among : P → Bool} {places : T → P} {t : T} (here : among (places t) = true) :
    0 < count among places :=
  Finset.card_pos.mpr ⟨t, by simpa using here⟩

theorem count_mono {among wider : P → Bool} (sub : ∀ place, among place = true → wider place = true)
    (places : T → P) : count among places ≤ count wider places := by
  refine Finset.card_le_card fun t member => ?_
  simp only [Finset.mem_filter, Finset.mem_univ, true_and] at member ⊢
  exact sub _ member

end Lib.Threads
