import Mathlib

/-! Multisets stored as an ordered map from each element to its multiplicity.

A map may hold an element with count zero; the bag it stands for then does not
contain that element. Maps without such entries are `Positive`.
-/

set_option autoImplicit false

namespace Lib.Bags

variable {K : Type} [LinearOrder K]

/-- Every element as often as its entry says, in key order. -/
def elements (counts : Std.TreeMap K Nat) : List K :=
  counts.toList.flatMap fun entry => List.replicate entry.2 entry.1

def bag (counts : Std.TreeMap K Nat) : Multiset K := ↑(elements counts)

/-- The sum of all counts. -/
def total (counts : Std.TreeMap K Nat) : Nat := (counts.toList.map Prod.snd).sum

def Positive (counts : Std.TreeMap K Nat) : Prop := ∀ key : K, counts[key]? ≠ some 0

/-- Remove one occurrence of an element whose entry says one more than `rest`. -/
def lower (counts : Std.TreeMap K Nat) (key : K) (rest : Nat) : Std.TreeMap K Nat :=
  if rest = 0 then counts.erase key else counts.insert key rest

theorem card_bag (counts : Std.TreeMap K Nat) : (bag counts).card = total counts := by
  simp only [bag, elements, total, Multiset.coe_card, List.length_flatMap, List.length_replicate]

theorem count_absent {entries : List (K × Nat)} {key : K} (absent : ∀ n, (key, n) ∉ entries) :
    (entries.flatMap fun entry => List.replicate entry.2 entry.1).count key = 0 := by
  rw [List.count_eq_zero]
  intro member
  obtain ⟨⟨other, n⟩, listed, inside⟩ := List.mem_flatMap.mp member
  obtain ⟨-, rfl⟩ := List.mem_replicate.mp inside
  exact absent n listed

theorem count_listed {entries : List (K × Nat)} {key : K} {n : Nat}
    (distinct : entries.Pairwise fun a b => a.1 ≠ b.1) (listed : (key, n) ∈ entries) :
    (entries.flatMap fun entry => List.replicate entry.2 entry.1).count key = n := by
  induction entries with
  | nil => cases listed
  | cons entry rest ih =>
      obtain ⟨apart, distinct⟩ := List.pairwise_cons.mp distinct
      rw [List.flatMap_cons, List.count_append]
      rcases List.mem_cons.mp listed with rfl | listed
      · have absent : ∀ m, (key, m) ∉ rest := fun m member => apart _ member rfl
        rw [count_absent absent]
        simp
      · have other : entry.1 ≠ key := fun same => apart _ listed same
        rw [ih distinct listed, List.count_replicate]
        simp [other]

@[simp] theorem count_bag (counts : Std.TreeMap K Nat) (key : K) :
    (bag counts).count key = counts.getD key 0 := by
  rw [bag, Multiset.coe_count, elements, Std.TreeMap.getD_eq_getD_getElem?]
  cases found : counts[key]? with
  | none =>
      apply count_absent
      intro n listed
      rw [Std.TreeMap.mem_toList_iff_getElem?_eq_some, found] at listed
      cases listed
  | some n =>
      apply count_listed _ (Std.TreeMap.mem_toList_iff_getElem?_eq_some.mpr found)
      exact Std.TreeMap.distinct_keys_toList.imp fun apart same => apart (by simp [same])

@[simp] theorem bag_empty : bag (∅ : Std.TreeMap K Nat) = 0 := by
  ext key
  simp

theorem bag_insert (counts : Std.TreeMap K Nat) (key : K) :
    bag (counts.insert key (counts.getD key 0 + 1)) = key ::ₘ bag counts := by
  ext other
  rw [count_bag, Std.TreeMap.getD_insert, Multiset.count_cons, count_bag]
  by_cases same : key = other
  · simp [same]
  · simp [same, Ne.symm same]

theorem getD_of_get {counts : Std.TreeMap K Nat} {key : K} {n : Nat} (found : counts[key]? = some n) :
    counts.getD key 0 = n := by
  rw [Std.TreeMap.getD_eq_getD_getElem?, found, Option.getD_some]

theorem bag_lower {counts : Std.TreeMap K Nat} {key : K} {rest : Nat}
    (found : counts[key]? = some (rest + 1)) : bag (lower counts key rest) = (bag counts).erase key := by
  ext other
  by_cases same : key = other
  · subst same
    rw [Multiset.count_erase_self, count_bag, count_bag, getD_of_get found, lower]
    split <;> simp [*]
  · rw [Multiset.count_erase_of_ne (Ne.symm same), count_bag, count_bag, lower]
    split
    · simp [Std.TreeMap.getD_erase, same]
    · simp [Std.TreeMap.getD_insert, same]

theorem erase_absent {counts : Std.TreeMap K Nat} {key : K} (absent : counts[key]? = none) :
    (bag counts).erase key = bag counts := by
  apply Multiset.erase_of_notMem
  rw [← Multiset.count_pos, count_bag, Std.TreeMap.getD_eq_getD_getElem?, absent]
  simp

theorem positive_empty : Positive (∅ : Std.TreeMap K Nat) := by
  intro key
  simp

theorem Positive.insert {counts : Std.TreeMap K Nat} (positive : Positive counts) (key : K) {n : Nat}
    (nonzero : n ≠ 0) : Positive (counts.insert key n) := by
  intro other
  rw [Std.TreeMap.getElem?_insert]
  split
  · simpa using nonzero
  · exact positive other

theorem Positive.lower {counts : Std.TreeMap K Nat} (positive : Positive counts) (key : K) (rest : Nat) :
    Positive (lower counts key rest) := by
  unfold Bags.lower
  split
  · intro other
    rw [Std.TreeMap.getElem?_erase]
    split
    · exact nofun
    · exact positive other
  · next nonzero => exact positive.insert key nonzero

/-- Without zero counts, an empty bag is an empty map. -/
theorem Positive.isEmpty_iff {counts : Std.TreeMap K Nat} (positive : Positive counts) :
    counts.isEmpty = true ↔ bag counts = 0 := by
  rw [Std.TreeMap.isEmpty_iff_forall_not_mem, Multiset.eq_zero_iff_forall_notMem]
  refine forall_congr' fun key => not_congr ?_
  rw [← Multiset.count_pos, count_bag, Std.TreeMap.getD_eq_getD_getElem?]
  have held := Std.TreeMap.isSome_getElem?_iff_mem (t := counts) (a := key)
  cases found : counts[key]? with
  | none => simpa [found] using held
  | some n =>
      have nonzero : n ≠ 0 := fun zero => positive key (zero ▸ found)
      simpa [found, Nat.pos_of_ne_zero nonzero] using held

end Lib.Bags
