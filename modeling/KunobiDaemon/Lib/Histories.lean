import KunobiDaemon.Lib.Systems

/-! What happened, in order, and each party's own part of it. -/

set_option autoImplicit false

namespace Lib.Histories

/-- What holds of each entry after the entries before it, after one more entry. -/
theorem forall_split_snoc {A : Type} {history : List A} {entry : A} {P : List A → A → Prop}
    (earlier : ∀ before other later, history = before ++ other :: later → P before other) (last : P history entry) :
    ∀ before other later, history ++ [entry] = before ++ other :: later → P before other := by
  intro before other later split
  rcases List.eq_nil_or_concat later with rfl | ⟨rest, final, rfl⟩
  · obtain ⟨rfl, same⟩ := List.append_inj' split rfl
    cases same
    exact last
  · have split : history ++ [entry] = (before ++ other :: rest) ++ [final] := by simpa using split
    obtain ⟨same, -⟩ := List.append_inj' split rfl
    exact earlier before other rest same

section
variable {C E : Type} [DecidableEq C]

/-- What one party did. -/
def own (party : C) (history : List (C × E)) : List E :=
  history.filterMap fun entry => if entry.1 = party then some entry.2 else none

@[simp] theorem own_nil (party : C) : own party ([] : List (C × E)) = [] := rfl

@[simp] theorem own_append (party : C) (first second : List (C × E)) :
    own party (first ++ second) = own party first ++ own party second :=
  List.filterMap_append

@[simp] theorem own_cons_self (party : C) (event : E) (rest : List (C × E)) :
    own party ((party, event) :: rest) = event :: own party rest := by
  simp [own]

theorem own_cons_of_ne {party other : C} (apart : other ≠ party) (event : E) (rest : List (C × E)) :
    own party ((other, event) :: rest) = own party rest := by
  simp [own, apart]

theorem mem_own {party : C} {event : E} {history : List (C × E)} :
    event ∈ own party history ↔ (party, event) ∈ history := by
  simp only [own, List.mem_filterMap, Option.ite_none_right_eq_some, Option.some.injEq, Prod.exists]
  constructor
  · rintro ⟨_, _, member, rfl, rfl⟩
    exact member
  · exact fun member => ⟨party, event, member, rfl, rfl⟩

end

end Lib.Histories
