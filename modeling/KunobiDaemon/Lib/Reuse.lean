import Mathlib.Data.List.Basic

/-! Numbers that are given out again once their holder has let go of them.

The entries stand in the order they came up, so the position of one is its identity for good. Its
number is its own only while it holds it.
-/

set_option autoImplicit false

namespace Lib.Reuse

variable {E : Type} (number : E → Nat) (held : E → Bool)

/-- Who holds a number. -/
def holder (entries : List E) (value : Nat) : Option Nat :=
  entries.findIdx? fun entry => held entry && number entry = value

/-- No number has two holders. -/
def Distinct (entries : List E) : Prop :=
  ∀ {first second : Nat} {one other : E}, entries[first]? = some one → entries[second]? = some other →
    held one = true → held other = true → number one = number other → first = second

variable {number held} {entries : List E} {entry changed : E} {index value : Nat}

theorem holder_spec (found : holder number held entries value = some index) :
    ∃ entry, entries[index]? = some entry ∧ held entry = true ∧ number entry = value := by
  obtain ⟨below, meets, -⟩ := List.findIdx?_eq_some_iff_getElem.mp found
  simp only [Bool.and_eq_true, decide_eq_true_eq] at meets
  exact ⟨entries[index], List.getElem?_eq_getElem below, meets.1, meets.2⟩

theorem holder_eq_none :
    holder number held entries value = none ↔ ∀ entry ∈ entries, held entry = true → number entry ≠ value := by
  simp [holder, List.findIdx?_eq_none_iff]

theorem Distinct.holder_eq (distinct : Distinct number held entries) (there : entries[index]? = some entry)
    (holds : held entry = true) : holder number held entries (number entry) = some index := by
  cases found : holder number held entries (number entry) with
  | none => exact absurd rfl (holder_eq_none.mp found entry (List.mem_of_getElem? there) holds)
  | some other =>
      obtain ⟨one, at_, holding, same⟩ := holder_spec found
      rw [distinct at_ there holding holds same]

/-- A free number is given to a new entry. -/
theorem Distinct.append (distinct : Distinct number held entries)
    (free : holder number held entries (number entry) = none) : Distinct number held (entries ++ [entry]) := by
  have others := holder_eq_none.mp free
  intro first second one other firstThere secondThere holds holding same
  rw [List.getElem?_append] at firstThere secondThere
  split at firstThere
  · split at secondThere
    · exact distinct firstThere secondThere holds holding same
    · obtain rfl := List.mem_singleton.mp (List.mem_of_getElem? secondThere)
      exact absurd same (others one (List.mem_of_getElem? firstThere) holds)
  · obtain rfl := List.mem_singleton.mp (List.mem_of_getElem? firstThere)
    split at secondThere
    · exact absurd same.symm (others other (List.mem_of_getElem? secondThere) holding)
    · have before := (List.getElem?_eq_some_iff.mp firstThere).1
      have after := (List.getElem?_eq_some_iff.mp secondThere).1
      simp only [List.length_cons, List.length_nil] at before after
      omega

/-- An entry may let go of its number, and keeps it otherwise. -/
theorem Distinct.set (distinct : Distinct number held entries) (there : entries[index]? = some entry)
    (same : number changed = number entry) (less : held changed = true → held entry = true) :
    Distinct number held (entries.set index changed) := by
  -- Whatever holds a number after the change held it before.
  have before : ∀ {position : Nat} {one : E}, (entries.set index changed)[position]? = some one → held one = true →
      ∃ old, entries[position]? = some old ∧ held old = true ∧ number old = number one := by
    intro position one now holds
    rw [List.getElem?_set] at now
    split at now
    · rename_i same_
      subst same_
      split at now
      · cases now
        exact ⟨entry, there, less holds, same.symm⟩
      · cases now
    · exact ⟨one, now, holds, rfl⟩
  intro first second one other firstThere secondThere holds holding equal
  obtain ⟨old, oldThere, oldHeld, oldNumber⟩ := before firstThere holds
  obtain ⟨past, pastThere, pastHeld, pastNumber⟩ := before secondThere holding
  exact distinct oldThere pastThere oldHeld pastHeld (by rw [oldNumber, pastNumber, equal])

end Lib.Reuse
