import KunobiDaemon.Local.CommandLine
import Mathlib.Data.List.Induction
import Mathlib.Data.List.Lex

/-! The environment block that `CreateProcessW` takes, and what it means to the process it starts. -/

set_option autoImplicit false

namespace KunobiDaemon.Local.CommandLine

def EQUALS : UInt16 := 0x3d

/-- A variable: its name and its value. -/
abbrev Variable := List UInt16 × List UInt16

/-- One change to the inherited environment. -/
inductive EnvChange where
  | set (name value : List UInt16)
  | remove (name : List UInt16)
  deriving DecidableEq, Repr

def EnvChange.name : EnvChange → List UInt16
  | .set name _ => name
  | .remove name => name

/-- Case folding is ASCII only. -/
def folded (name : List UInt16) : List UInt16 :=
  name.map fun unit => if 0x61 ≤ unit ∧ unit ≤ 0x7a then unit - 0x20 else unit

def sameName (a b : List UInt16) : Bool := a.length = b.length && folded a = folded b

/-- What names are sorted by: their folded units, as numbers. -/
def sortKey (name : List UInt16) : List Nat := (folded name).map UInt16.toNat

def applyChange (vars : List Variable) (change : EnvChange) : Except IoError (List Variable) :=
  let name := change.name
  if name.isEmpty || (name.drop 1).contains EQUALS || name.contains 0 then
    .error (invalidInput "an environment name is empty or contains '=' or NUL")
  else
    let vars := vars.filter fun existing => !sameName existing.1 name
    match change with
    | .set name value =>
        if value.contains 0 then .error (invalidInput "an environment value contains NUL")
        else .ok (vars ++ [(name, value)])
    | .remove _ => .ok vars

/-- The variables of a block, in its order. -/
def sorted (vars : List Variable) : List Variable := vars.mergeSort fun a b => sortKey a.1 ≤ sortKey b.1

/-- An entry of a block. -/
def entryText (var : Variable) : List UInt16 := var.1 ++ [EQUALS] ++ var.2 ++ [0]

/-- The block for `CREATE_UNICODE_ENVIRONMENT`. -/
def environmentBlock (inherited : List Variable) (changes : List EnvChange) : Except IoError (List UInt16) := do
  let vars ← changes.foldlM applyChange inherited
  let vars := sorted vars
  let block := vars.flatMap entryText
  -- An empty block is still two NULs: the empty list and its end.
  let block := if block.isEmpty then block ++ [0] else block
  return block ++ [0]

/-! ## The decoder -/

/-- An entry is split at the first equals sign after its first unit. -/
def decodeEntry : List UInt16 → Option Variable
  | [] => none
  | first :: rest =>
      if rest.contains EQUALS then
        some (first :: rest.takeWhile (· ≠ EQUALS), (rest.dropWhile (· ≠ EQUALS)).drop 1)
      else none

/-- Entries end at a NUL, and the block at an empty one. -/
def decodeFrom (entry : List UInt16) : List UInt16 → Option (List Variable)
  | [] => none
  | unit :: rest =>
      if unit = 0 then
        if entry.isEmpty then some []
        else
          match decodeEntry entry, decodeFrom [] rest with
          | some var, some vars => some (var :: vars)
          | _, _ => none
      else decodeFrom (entry ++ [unit]) rest

def decodeBlock (block : List UInt16) : Option (List Variable) := decodeFrom [] block

/-! ## What a block means -/

/-- The last change to a name. -/
def lastChange (changes : List EnvChange) (name : List UInt16) : Option EnvChange :=
  changes.reverse.find? fun change => sameName change.name name

/-- The variables that the changes leave: the last change of each name, and what was inherited of the others. -/
def Meant (inherited : List Variable) (changes : List EnvChange) (var : Variable) : Prop :=
  match lastChange changes var.1 with
  | some (.set name value) => var = (name, value)
  | some (.remove _) => False
  | none => var ∈ inherited

/-- A name that an entry can hold. -/
structure ValidName (name : List UInt16) : Prop where
  some_ : name ≠ []
  equals : EQUALS ∉ name.drop 1
  nul : 0 ∉ name

def EnvChange.Valid : EnvChange → Prop
  | .set name value => ValidName name ∧ 0 ∉ value
  | .remove name => ValidName name

/-- Variables that can be written down: names differ in more than their case. -/
structure Writable (vars : List Variable) : Prop where
  names : ∀ var ∈ vars, ValidName var.1
  values : ∀ var ∈ vars, 0 ∉ var.2
  distinct : vars.Pairwise fun a b => sameName a.1 b.1 = false

section
variable {vars next inherited : List Variable} {change : EnvChange} {changes : List EnvChange}

theorem sameName_iff {a b : List UInt16} : sameName a b = true ↔ folded a = folded b := by
  simp only [sameName, Bool.and_eq_true, decide_eq_true_eq, and_iff_right_iff_imp]
  intro same
  simpa [folded] using congrArg List.length same

theorem sameName_comm (a b : List UInt16) : sameName a b = sameName b a := by
  rw [Bool.eq_iff_iff, sameName_iff, sameName_iff, eq_comm]

theorem validName_iff {name : List UInt16} :
    ValidName name ↔ ¬ (name.isEmpty || (name.drop 1).contains EQUALS || name.contains 0) = true := by
  simp only [Bool.or_eq_true, List.isEmpty_iff, List.contains_iff_mem, not_or]
  exact ⟨fun valid => ⟨⟨valid.some_, valid.equals⟩, valid.nul⟩, fun ⟨⟨some_, equals⟩, nul⟩ => ⟨some_, equals, nul⟩⟩

def EnvChange.added : EnvChange → List Variable
  | .set name value => [(name, value)]
  | .remove _ => []

/-- What a change that is valid leaves. -/
def EnvChange.applied (change : EnvChange) (vars : List Variable) : List Variable :=
  (vars.filter fun existing => !sameName existing.1 change.name) ++ change.added

theorem EnvChange.Valid.name (valid : change.Valid) : ValidName change.name := by
  cases change with
  | set => exact valid.1
  | remove => exact valid

theorem applyChange_valid (valid : change.Valid) : applyChange vars change = .ok (change.applied vars) := by
  unfold applyChange
  dsimp only
  rw [if_neg (validName_iff.mp valid.name)]
  cases change with
  | set name value =>
      dsimp only
      rw [if_neg (by simpa using valid.2)]
      rfl
  | remove name => rw [EnvChange.applied, EnvChange.added, List.append_nil]

theorem valid_of_applyChange (applied : applyChange vars change = .ok next) : change.Valid := by
  unfold applyChange at applied
  dsimp only at applied
  split at applied
  · cases applied
  · rename_i named
    have name := validName_iff.mpr named
    cases change with
    | remove => exact name
    | set _ value =>
        dsimp only at applied
        split at applied
        · cases applied
        · rename_i whole
          exact ⟨name, by simpa using whole⟩

theorem foldlM_applyChange_valid (valid : ∀ change ∈ changes, change.Valid) :
    changes.foldlM applyChange vars = .ok (changes.foldl (fun vars change => change.applied vars) vars) := by
  induction changes generalizing vars with
  | nil => rfl
  | cons change changes ih =>
      rw [List.foldlM_cons, applyChange_valid (valid change List.mem_cons_self)]
      exact ih fun other member => valid other (List.mem_cons_of_mem _ member)

theorem valid_of_foldlM (applied : changes.foldlM applyChange vars = .ok next) : ∀ change ∈ changes, change.Valid := by
  induction changes generalizing vars with
  | nil => nofun
  | cons change changes ih =>
      rw [List.foldlM_cons] at applied
      cases first : applyChange vars change with
      | error error =>
          rw [first] at applied
          cases applied
      | ok after =>
          rw [first] at applied
          intro other member
          rcases List.mem_cons.mp member with rfl | later
          · exact valid_of_applyChange first
          · exact ih applied other later

theorem Writable.applied (writable : Writable vars) (valid : change.Valid) : Writable (change.applied vars) := by
  have kept : ∀ var ∈ change.applied vars, var ∈ vars ∨ change = .set var.1 var.2 := by
    intro var member
    rcases List.mem_append.mp member with earlier | set
    · exact .inl (List.mem_filter.mp earlier).1
    · cases change with
      | set name value =>
          rw [List.mem_singleton.mp set]
          exact .inr rfl
      | remove => cases set
  refine ⟨fun var member => ?_, fun var member => ?_, ?_⟩
  · rcases kept var member with earlier | rfl
    · exact writable.names var earlier
    · exact valid.1
  · rcases kept var member with earlier | rfl
    · exact writable.values var earlier
    · exact valid.2
  · rw [EnvChange.applied, List.pairwise_append]
    refine ⟨writable.distinct.filter _, ?_, fun var member other set => ?_⟩
    · cases change with
      | set => exact List.pairwise_singleton _ _
      | remove => exact .nil
    · cases change with
      | set name value =>
          rw [List.mem_singleton.mp set]
          simpa [EnvChange.name] using (List.mem_filter.mp member).2
      | remove => cases set

theorem Writable.foldl (writable : Writable vars) (valid : ∀ change ∈ changes, change.Valid) :
    Writable (changes.foldl (fun vars change => change.applied vars) vars) := by
  induction changes generalizing vars with
  | nil => exact writable
  | cons change changes ih =>
      have next := writable.applied (valid change List.mem_cons_self)
      exact ih next fun other member => valid other (List.mem_cons_of_mem _ member)

theorem lastChange_snoc (changes : List EnvChange) (change : EnvChange) (name : List UInt16) :
    lastChange (changes ++ [change]) name = if sameName change.name name then some change else lastChange changes name := by
  unfold lastChange
  rw [List.reverse_append, List.reverse_singleton, List.singleton_append, List.find?_cons]
  cases sameName change.name name <;> rfl

/-- The changes leave what they mean. -/
theorem mem_foldl_applied (inherited : List Variable) (changes : List EnvChange) (var : Variable) :
    var ∈ changes.foldl (fun vars change => change.applied vars) inherited ↔ Meant inherited changes var := by
  induction changes using List.reverseRecOn with
  | nil => rfl
  | append_singleton changes change ih =>
      rw [List.foldl_append, List.foldl_cons, List.foldl_nil, Meant, lastChange_snoc, EnvChange.applied, List.mem_append,
        List.mem_filter, ih, sameName_comm]
      cases same : sameName change.name var.1 with
      | true =>
          cases change with
          | set name value => simp [EnvChange.added]
          | remove name => simp [EnvChange.added]
      | false =>
          have other : ∀ value, change ≠ .set var.1 value := by
            rintro value rfl
            rw [EnvChange.name, sameName_iff.mpr rfl] at same
            cases same
          cases change with
          | remove name => simp [Meant, EnvChange.added]
          | set name value =>
              have apart : var ≠ (name, value) := by
                rintro rfl
                exact other value rfl
              simp [Meant, EnvChange.added, apart]

theorem decodeEntry_text {name value : List UInt16} (valid : ValidName name) :
    decodeEntry (name ++ EQUALS :: value) = some (name, value) := by
  obtain ⟨first, rest, rfl⟩ := List.exists_cons_of_ne_nil valid.some_
  have plain : ∀ unit ∈ rest, decide (unit ≠ EQUALS) = true := by
    intro unit member
    exact decide_eq_true fun same => valid.equals (same ▸ member)
  rw [List.cons_append, decodeEntry, if_pos (by simp), List.takeWhile_append_of_pos plain,
    List.dropWhile_append_of_pos plain]
  simp

/-- Units other than NUL belong to the entry. -/
theorem decodeFrom_units (units entry rest : List UInt16) (nul : 0 ∉ units) :
    decodeFrom entry (units ++ rest) = decodeFrom (entry ++ units) rest := by
  induction units generalizing entry with
  | nil => rw [List.nil_append, List.append_nil]
  | cons unit units ih =>
      have other : unit ≠ 0 := fun same => nul (same ▸ List.mem_cons_self)
      rw [List.cons_append, decodeFrom, if_neg other, ih _ (fun member => nul (List.mem_cons_of_mem _ member)),
        List.append_assoc, List.singleton_append]

theorem decodeFrom_entry {var : Variable} (valid : ValidName var.1) (nul : 0 ∉ var.2) (rest : List UInt16) :
    decodeFrom [] (entryText var ++ rest) = (decodeFrom [] rest).map (var :: ·) := by
  obtain ⟨name, value⟩ := var
  have units : 0 ∉ name ++ EQUALS :: value := by
    simp only [List.mem_append, List.mem_cons, not_or]
    exact ⟨valid.nul, by decide, nul⟩
  have text : entryText (name, value) ++ rest = (name ++ EQUALS :: value) ++ 0 :: rest := by
    simp [entryText]
  rw [text, decodeFrom_units _ _ _ units, List.nil_append, decodeFrom, if_pos rfl, if_neg (by simp),
    decodeEntry_text valid]
  cases decodeFrom [] rest <;> rfl

theorem decodeFrom_entries (writable : Writable vars) (rest : List UInt16) :
    decodeFrom [] (vars.flatMap entryText ++ 0 :: rest) = some vars := by
  obtain ⟨names, values, -⟩ := writable
  induction vars with
  | nil => rfl
  | cons var vars ih =>
      rw [List.flatMap_cons, List.append_assoc,
        decodeFrom_entry (names var List.mem_cons_self) (values var List.mem_cons_self),
        ih (fun other member => names other (List.mem_cons_of_mem _ member))
          (fun other member => values other (List.mem_cons_of_mem _ member))]
      rfl

theorem sameName_of_sortKey {a b : List UInt16} (same : sortKey a = sortKey b) : sameName a b = true := by
  rw [sameName_iff]
  exact List.map_injective_iff.mpr (fun _ _ => UInt16.toNat_inj.mp) same

theorem sorted_writable (writable : Writable vars) :
    Writable (sorted vars) ∧ (sorted vars).Pairwise fun a b => sortKey a.1 < sortKey b.1 := by
  have perm : (sorted vars).Perm vars := List.mergeSort_perm _ _
  have ordered : (sorted vars).Pairwise fun a b => decide (sortKey a.1 ≤ sortKey b.1) = true :=
    List.pairwise_mergeSort
      (fun a b c first second => by
        simp only [decide_eq_true_eq] at first second ⊢
        exact le_trans first second)
      (fun a b => by
        simp only [Bool.or_eq_true, decide_eq_true_eq]
        exact le_total _ _) vars
  have distinct : (sorted vars).Pairwise fun a b => sameName a.1 b.1 = false :=
    (perm.pairwise_iff fun same => (sameName_comm _ _).trans same).mpr writable.distinct
  refine ⟨⟨fun var member => writable.names var (perm.mem_iff.mp member),
    fun var member => writable.values var (perm.mem_iff.mp member), distinct⟩, ?_⟩
  refine ordered.imp₂ (fun a b le apart => ?_) distinct
  refine lt_of_le_of_ne (of_decide_eq_true le) fun same => ?_
  rw [sameName_of_sortKey same] at apart
  cases apart

end

/-- What the entries of a block are, and how it ends. -/
structure Written (inherited : List Variable) (changes : List EnvChange) (block : List UInt16) (vars : List Variable) :
    Prop where
  decoded : decodeBlock block = some vars
  meant : ∀ var, var ∈ vars ↔ Meant inherited changes var
  ascending : vars.Pairwise fun a b => sortKey a.1 < sortKey b.1
  unique : vars.Pairwise fun a b => sameName a.1 b.1 = false
  /-- Nothing but the entries, none of which is empty, and the end. -/
  whole : block = vars.flatMap entryText ++ if vars.isEmpty then [0, 0] else [0]
  named : ∀ var ∈ vars, var.1 ≠ []
  closed : [0, 0] <:+ block

theorem environmentBlock_eq (inherited : List Variable) {changes : List EnvChange}
    (valid : ∀ change ∈ changes, change.Valid) :
    environmentBlock inherited changes =
      let vars := sorted (changes.foldl (fun vars change => change.applied vars) inherited)
      .ok (vars.flatMap entryText ++ if vars.isEmpty then [0, 0] else [0]) := by
  unfold environmentBlock
  rw [foldlM_applyChange_valid valid]
  generalize changes.foldl (fun vars change => change.applied vars) inherited = vars
  have made (vars : List Variable) :
      (if (vars.flatMap entryText).isEmpty then vars.flatMap entryText ++ [0] else vars.flatMap entryText) ++ [0] =
        vars.flatMap entryText ++ if vars.isEmpty then [0, 0] else [0] := by
    cases vars with
    | nil => rfl
    | cons var vars =>
        have some_ : ((var :: vars).flatMap entryText).isEmpty = false := by
          simp [List.isEmpty_eq_false_iff, entryText]
        rw [some_, if_neg (by decide), List.isEmpty_cons, if_neg (by decide)]
  exact congrArg Except.ok (made (sorted vars))

theorem closed_block {vars : List Variable} :
    [0, 0] <:+ vars.flatMap entryText ++ if vars.isEmpty then [0, 0] else [0] := by
  rcases List.eq_nil_or_concat vars with rfl | ⟨vars, var, rfl⟩
  · exact List.suffix_refl _
  · refine ⟨vars.flatMap entryText ++ (var.1 ++ [EQUALS] ++ var.2), ?_⟩
    simp [entryText]

/-- A block holds the last change to each name and every variable that was not changed. -/
theorem environment_block_means_the_last_changes {inherited : List Variable} (writable : Writable inherited)
    (changes : List EnvChange) :
    ((∃ block, environmentBlock inherited changes = .ok block) ↔ ∀ change ∈ changes, change.Valid) ∧
    ∀ block, environmentBlock inherited changes = .ok block → ∃ vars, Written inherited changes block vars := by
  have valid_of_made {block : List UInt16} (made : environmentBlock inherited changes = .ok block) :
      ∀ change ∈ changes, change.Valid := by
    cases applied : changes.foldlM applyChange inherited with
    | error error =>
        rw [environmentBlock, applied] at made
        cases made
    | ok vars => exact valid_of_foldlM applied
  refine ⟨⟨fun ⟨block, made⟩ => valid_of_made made, fun valid => ⟨_, environmentBlock_eq inherited valid⟩⟩, ?_⟩
  intro block made
  have valid := valid_of_made made
  cases (environmentBlock_eq inherited valid).symm.trans made
  have applied := writable.foldl valid
  obtain ⟨written, ascending⟩ := sorted_writable applied
  refine ⟨_, ?_, fun var => ?_, ascending, written.distinct, rfl, fun var member => (written.names var member).some_,
    closed_block⟩
  · rw [decodeBlock]
    split
    · exact decodeFrom_entries written [0]
    · exact decodeFrom_entries written []
  · rw [← mem_foldl_applied]
    exact (List.mergeSort_perm _ _).mem_iff

/-- `Path` is inherited, and replaced under another spelling. -/
theorem environment_block_replaces_path :
    Writable [([80, 97, 116, 104], [97])] ∧
    ∃ block vars, environmentBlock [([80, 97, 116, 104], [97])] [.set [80, 65, 84, 72] [98]] = .ok block ∧
      Written [([80, 97, 116, 104], [97])] [.set [80, 65, 84, 72] [98]] block vars := by
  have writable : Writable [([80, 97, 116, 104], [97])] := by
    refine ⟨fun var member => ?_, fun var member => ?_, List.pairwise_singleton _ _⟩
    · rw [List.mem_singleton.mp member]
      exact ⟨by decide, by decide, by decide⟩
    · rw [List.mem_singleton.mp member]
      decide
  obtain ⟨made, written⟩ := environment_block_means_the_last_changes writable [.set [80, 65, 84, 72] [98]]
  obtain ⟨block, succeeds⟩ := made.mpr fun change member => by
    rw [List.mem_singleton.mp member]
    exact ⟨⟨by decide, by decide, by decide⟩, by decide⟩
  obtain ⟨vars, written⟩ := written block succeeds
  exact ⟨writable, block, vars, succeeds, written⟩

end KunobiDaemon.Local.CommandLine
