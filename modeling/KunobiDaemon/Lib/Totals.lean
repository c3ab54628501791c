/-! Sums over the members of a list, one of which changes at a time. -/

set_option autoImplicit false

namespace Lib.Totals

variable {A : Type} {f g : A → Nat} {members : List A} {index : Nat} {member : A}

def total (f : A → Nat) : List A → Nat
  | [] => 0
  | member :: rest => f member + total f rest

/-- A member of no weight changes nothing. -/
theorem total_concat (f : A → Nat) (member : A) (none : f member = 0) : total f (members ++ [member]) = total f members := by
  induction members with
  | nil => simp [total, none]
  | cons first rest ih => rw [List.cons_append, total, total, ih]

/-- Changing one member changes the sum by that member alone. -/
theorem total_set (f : A → Nat) (here : members[index]? = some member) (changed : A) :
    total f (members.set index changed) + f member = total f members + f changed := by
  induction members generalizing index with
  | nil => cases here
  | cons first rest ih =>
      cases index with
      | zero =>
          cases here
          simp only [List.set_cons_zero, total]
          omega
      | succ index =>
          have later := ih here
          simp only [List.set_cons_succ, total]
          omega

theorem total_set_same {changed : A} (here : members[index]? = some member) (same : f changed = f member) :
    total f (members.set index changed) = total f members := by
  have changes := total_set f here changed
  omega

theorem total_le_total (le : ∀ member, f member ≤ g member) (members : List A) : total f members ≤ total g members := by
  induction members with
  | nil => exact Nat.le_refl 0
  | cons first rest ih => exact Nat.add_le_add (le first) ih

theorem le_total (f : A → Nat) (here : members[index]? = some member) : f member ≤ total f members := by
  induction members generalizing index with
  | nil => cases here
  | cons first rest ih =>
      cases index with
      | zero =>
          cases here
          exact Nat.le_add_right _ _
      | succ index => exact Nat.le_trans (ih here) (Nat.le_add_left _ _)

theorem total_congr (same : ∀ member ∈ members, f member = g member) : total f members = total g members := by
  induction members with
  | nil => rfl
  | cons first rest ih =>
      rw [total, total, same first List.mem_cons_self, ih fun member there => same member (List.mem_cons_of_mem _ there)]

theorem total_add (f g : A → Nat) (members : List A) :
    total (fun member => f member + g member) members = total f members + total g members := by
  induction members with
  | nil => rfl
  | cons first rest ih =>
      simp only [total, ih]
      omega

theorem total_eq_zero (none : ∀ member ∈ members, f member = 0) : total f members = 0 := by
  induction members with
  | nil => rfl
  | cons first rest ih =>
      rw [total, none first List.mem_cons_self, ih fun member there => none member (List.mem_cons_of_mem _ there)]

theorem total_toNat (p : A → Bool) (members : List A) : total (fun member => (p member).toNat) members = members.countP p := by
  induction members with
  | nil => rfl
  | cons first rest ih =>
      rw [total, ih, List.countP_cons, Nat.add_comm]
      cases p first <;> rfl

theorem total_map {B : Type} (of : B → A) (f : A → Nat) (members : List B) :
    total f (members.map of) = total (fun member => f (of member)) members := by
  induction members with
  | nil => rfl
  | cons first rest ih => rw [List.map_cons, total, total, ih]

/-! ## Words that count -/

/-- A word that holds the sum, as far as its width goes. -/
def Counts {width : Nat} (word : BitVec width) (f : A → Nat) (members : List A) : Prop := word = .ofNat width (total f members)

namespace Counts

variable {width : Nat} {word : BitVec width} {changed : A}

theorem set_same (counts : Counts word f members) (here : members[index]? = some member) (same : f changed = f member) :
    Counts word f (members.set index changed) := by
  rw [Counts, total_set_same here same]
  exact counts

theorem set_succ (counts : Counts word f members) (here : members[index]? = some member) (grows : f changed = f member + 1) :
    Counts (word.add (.ofNat width 1)) f (members.set index changed) := by
  have changes : total f (members.set index changed) = total f members + 1 := by
    have changes := total_set f here changed
    omega
  rw [Counts, changes, BitVec.ofNat_add, ← counts]
  rfl

theorem set_pred (counts : Counts word f members) (here : members[index]? = some member)
    (shrinks : f member = f changed + 1) : Counts (word.sub (.ofNat width 1)) f (members.set index changed) := by
  have changes : total f members = total f (members.set index changed) + 1 := by
    have changes := total_set f here changed
    omega
  rw [Counts, changes, BitVec.ofNat_add] at counts
  rw [Counts, counts]
  exact BitVec.add_sub_cancel _ _

theorem concat (counts : Counts word f members) (none : f member = 0) : Counts word f (members ++ [member]) := by
  rw [Counts, total_concat f member none]
  exact counts

end Counts

end Lib.Totals
