import Mathlib.Data.List.Basic

/-! Paths as bytes, the names that may be joined to them, and the components they are compared by.

A plain name is one component wherever it is joined. On Windows the parts of a prefix, such as a
drive or a share, show as components of their own.
-/

set_option autoImplicit false

namespace Lib.Paths

abbrev Path := List UInt8

inductive Style where
  | unix
  | windows
  deriving DecidableEq, Repr

def SLASH : UInt8 := 47

def BACKSLASH : UInt8 := 92

def COLON : UInt8 := 58

def DOT : UInt8 := 46

namespace Style

def isSeparator : Style → UInt8 → Bool
  | .unix, byte => byte = SLASH
  | .windows, byte => byte = SLASH || byte = BACKSLASH

/-- The separator that joining adds. -/
def separator : Style → UInt8
  | .unix => SLASH
  | .windows => BACKSLASH

/-- A drive, which a relative path may follow without a separator. -/
def isDrive : Style → Path → Bool
  | .windows, [letter, colon] => ((65 ≤ letter && letter ≤ 90) || (97 ≤ letter && letter ≤ 122)) && colon = COLON
  | _, _ => false

theorem isSeparator_separator (style : Style) : style.isSeparator style.separator = true := by
  cases style <;> decide

end Style

/-- A name that is one component on every platform. -/
structure Plain (name : Path) : Prop where
  named : name ≠ []
  here : name ≠ [DOT]
  above : name ≠ [DOT, DOT]
  apart : ∀ byte ∈ name, byte ≠ SLASH ∧ byte ≠ BACKSLASH ∧ byte ≠ COLON ∧ byte ≠ 0

abbrev Name := { name : Path // Plain name }

/-- What a directory becomes before a name is appended. -/
def stem (style : Style) (dir : Path) : Path :=
  match dir.getLast? with
  | none => dir
  | some last => if style.isSeparator last || style.isDrive dir then dir else dir ++ [style.separator]

/-- A plain name is never absolute, so joining it never replaces the directory. -/
def join (style : Style) (dir : Path) (name : Name) : Path := stem style dir ++ name.val

inductive Component where
  | rootDir
  | curDir
  | parentDir
  | normal (name : Path)
  deriving DecidableEq, Repr

/-- A part between separators. -/
def segment (part : Path) : List Component :=
  if part = [] || part = [DOT] then []
  else if part = [DOT, DOT] then [.parentDir]
  else [.normal part]

/-- The first part of a path. -/
def leading (part : Path) : List Component := if part = [DOT] then [.curDir] else segment part

def components (style : Style) (path : Path) : List Component :=
  (if path.head?.any style.isSeparator then [.rootDir] else []) ++
    match path.splitOnP style.isSeparator with
    | [] => []
    | first :: rest => leading first ++ rest.flatMap segment

section
variable {style : Style} {name path : Path}

theorem not_isSeparator (plain : Plain name) : ∀ byte ∈ name, style.isSeparator byte = false := by
  intro byte member
  obtain ⟨slash, backslash, -⟩ := plain.apart byte member
  cases style <;> simp [Style.isSeparator, slash, backslash]

/-- What comes before a plain name cannot make dots of it. -/
theorem not_dots (plain : Plain name) (before : Path) :
    before ++ name ≠ [] ∧ before ++ name ≠ [DOT] ∧ before ++ name ≠ [DOT, DOT] := by
  refine ⟨fun none_ => plain.named (List.append_eq_nil_iff.mp none_).2, fun here => ?_, fun above => ?_⟩
  · rcases List.append_eq_singleton_iff.mp here with ⟨-, whole⟩ | ⟨-, nothing⟩
    · exact plain.here whole
    · exact plain.named nothing
  · cases before with
    | nil => exact plain.above above
    | cons first before =>
        cases before with
        | nil => exact plain.here (List.cons.inj above).2
        | cons second before =>
            have short := congrArg List.length above
            have some_ : name.length ≠ 0 := fun zero => plain.named (List.length_eq_zero_iff.mp zero)
            simp only [List.cons_append, List.length_cons, List.length_append, List.length_nil] at short
            omega

theorem segment_of_not_dots (normal : path ≠ [] ∧ path ≠ [DOT] ∧ path ≠ [DOT, DOT]) :
    segment path = [.normal path] ∧ leading path = [.normal path] := by
  obtain ⟨named, here, above⟩ := normal
  simp [leading, segment, named, here, above]

/-- A name joined with a separator is one more component. -/
theorem components_concat (plain : Plain name) (some_ : path ≠ []) :
    components style (path ++ style.separator :: name) = components style path ++ [.normal name] := by
  have parts : (path ++ style.separator :: name).splitOnP style.isSeparator =
      path.splitOnP style.isSeparator ++ [name] := by
    rw [List.splitOnP_append_cons _ _ style.isSeparator_separator, List.splitOnP_eq_singleton (not_isSeparator plain)]
  have head : (path ++ style.separator :: name).head? = path.head? := List.head?_append_of_ne_nil path some_
  have alone := (segment_of_not_dots (not_dots plain [])).1
  rw [List.nil_append] at alone
  unfold components
  rw [parts, head]
  cases whole : path.splitOnP style.isSeparator with
  | nil => exact absurd whole (List.splitOnP_ne_nil _ _)
  | cons first rest => simp [alone]

/-- What is between the last separator of a path and its end becomes part of a name that is appended. -/
theorem splitOnP_append (p : UInt8 → Bool) (base : Path) :
    ∃ front last, ∀ name : Path, (∀ byte ∈ name, p byte = false) → (base ++ name).splitOnP p = front ++ [last ++ name] := by
  induction base with
  | nil => exact ⟨[], [], fun name free => List.splitOnP_eq_singleton free⟩
  | cons byte base ih =>
      obtain ⟨front, last, parts⟩ := ih
      cases separates : p byte with
      | true =>
          refine ⟨[] :: front, last, fun name free => ?_⟩
          rw [List.cons_append, List.splitOnP_cons_eq_if_modifyHead, separates, if_pos rfl, parts name free, List.cons_append]
      | false =>
          cases front with
          | nil =>
              refine ⟨[], byte :: last, fun name free => ?_⟩
              rw [List.cons_append, List.splitOnP_cons_eq_if_modifyHead, separates, parts name free]
              rfl
          | cons first front =>
              refine ⟨(byte :: first) :: front, last, fun name free => ?_⟩
              rw [List.cons_append, List.splitOnP_cons_eq_if_modifyHead, separates, parts name free]
              rfl

/-- A plain name appended to anything ends in one component that no other name gives. -/
theorem components_append (style : Style) (base : Path) :
    ∃ front last, ∀ name, Plain name → components style (base ++ name) = front ++ [.normal (last ++ name)] := by
  obtain ⟨parts, last, split⟩ := splitOnP_append style.isSeparator base
  have head {name : Path} (plain : Plain name) :
      (base ++ name).head?.any style.isSeparator = base.head?.any style.isSeparator := by
    cases base with
    | cons byte base => rfl
    | nil =>
        cases name with
        | nil => rfl
        | cons byte name => exact not_isSeparator plain byte (List.mem_cons_self ..)
  cases parts with
  | nil =>
      refine ⟨if base.head?.any style.isSeparator then [.rootDir] else [], last, fun name plain => ?_⟩
      unfold components
      rw [head plain, split name (not_isSeparator plain)]
      simp [(segment_of_not_dots (not_dots plain last)).2]
  | cons first rest =>
      refine ⟨(if base.head?.any style.isSeparator then [.rootDir] else []) ++ (leading first ++ rest.flatMap segment), last,
        fun name plain => ?_⟩
      unfold components
      rw [head plain, split name (not_isSeparator plain)]
      simp [(segment_of_not_dots (not_dots plain last)).1]

theorem getLast?_of_isDrive (drive : style.isDrive path = true) : path.getLast? = some COLON := by
  unfold Style.isDrive at drive
  split at drive
  · simp only [Bool.and_eq_true, decide_eq_true_eq] at drive
    simp [drive.2]
  · cases drive

/-- A directory that ends in a plain name gets a separator. -/
theorem stem_append (base : Path) (plain : Plain name) : stem style (base ++ name) = base ++ name ++ [style.separator] := by
  have ends : (base ++ name).getLast? = name.getLast? := List.getLast?_append_of_ne_nil base plain.named
  have last : ∃ byte, name.getLast? = some byte ∧ byte ∈ name :=
    ⟨name.getLast plain.named, List.getLast?_eq_some_getLast plain.named, List.getLast_mem plain.named⟩
  obtain ⟨byte, at_end, member⟩ := last
  have undriven : style.isDrive (base ++ name) = false := by
    refine Bool.eq_false_iff.mpr fun drive => (plain.apart byte member).2.2.1 ?_
    rw [← Option.some.injEq, ← at_end, ← ends, getLast?_of_isDrive drive]
  unfold stem
  rw [ends, at_end]
  simp [not_isSeparator plain byte member, undriven]

/-- A name joined to a directory that was joined is one more component. -/
theorem components_join (dir : Path) (first second : Name) :
    components style (join style (join style dir first) second) =
      components style (join style dir first) ++ [.normal second.val] := by
  unfold join
  rw [stem_append _ first.property, List.append_assoc _ [style.separator], List.singleton_append]
  exact components_concat second.property (not_dots first.property _).1

end

end Lib.Paths
