import KunobiDaemon.Lib.Decimals
import KunobiDaemon.Lib.Utf16
import KunobiDaemon.Publication.Windows
import Mathlib.Data.List.Basic

/-! The names of temporary files, on Windows: which record a temporary belongs to.

A name is its UTF-16 units. Names compare by the uppercase table of the system, unit by unit.
-/

set_option autoImplicit false

namespace KunobiDaemon.Publication.Windows

open Lib

abbrev Name := List UInt16

def DOT : UInt16 := 46

/-- `format!(".{}.{}.tmp", pid, counter)` -/
def numbered (pid : UInt32) (counter : UInt64) : List Char :=
  '.' :: Decimals.print pid.toUInt64 ++ '.' :: Decimals.print counter ++ ['.', 't', 'm', 'p']

/-- The name that `publish_record_with` gives to a temporary of the record. -/
def temporaryName (record : Name) (pid : UInt32) (counter : UInt64) : Name :=
  DOT :: record ++ Utf16.encode (numbered pid counter)

/-- A part of a name that is there, not empty, and all ASCII digits. -/
def isNumber (part : Option (List Char)) : Bool :=
  part.any fun part => !part.isEmpty && part.all (·.isDigit)

/-- The rest of a temporary's name after its record: two numbers and an extension. -/
def isNumbered (rest : List Char) : Bool :=
  match (rest.dropPrefix? ['.']).bind (·.dropSuffix? ['.', 't', 'm', 'p']) with
  | none => false
  | some numbers =>
      let parts := numbers.splitOn '.'
      isNumber parts[0]? && isNumber parts[1]? && parts[2]?.isNone

section
variable (upcase : UInt16 → UInt16)

/-- `CompareStringOrdinal` ignoring case. It takes the lengths as 32-bit numbers. -/
def sameName (a b : Name) : Bool :=
  a.length < 2 ^ 31 && b.length < 2 ^ 31 && a.map upcase = b.map upcase

/-- Whether the name is one of a temporary of the record. -/
def isTemporary (name record : Name) : Bool :=
  match name.dropPrefix? [DOT] with
  | none => false
  | some rest =>
      if rest.length < record.length then false
      else
        match Utf16.decode (rest.drop record.length) with
        | none => false
        | some text => isNumbered text && sameName upcase (rest.take record.length) record

/-- An entry of a directory. Its creation time may not be known. -/
structure Entry where
  name : Name
  created : Option Instant

/-- `publishing`, on what reading the directory gives. -/
def publishingIn (entries : List (Except IoError Entry)) (record : Name) (now : Instant) : Bool :=
  (entries.filterMap Except.toOption).any fun entry =>
    isTemporary upcase entry.name record && entry.created.any (fresh · now)

/-- The creation times that are known of the record's temporaries. -/
def temporaries (entries : List (Except IoError Entry)) (record : Name) : List Instant :=
  ((entries.filterMap Except.toOption).filter fun entry => isTemporary upcase entry.name record).filterMap Entry.created

/-- What the directory shows is what the temporaries show. -/
theorem publishingIn_eq (entries : List (Except IoError Entry)) (record : Name) (now : Instant) :
    publishingIn upcase entries record now = publishing (temporaries upcase entries record) now := by
  unfold publishingIn publishing temporaries
  induction entries.filterMap Except.toOption with
  | nil => rfl
  | cons entry rest ih =>
      rw [List.any_cons, ih]
      cases belongs : isTemporary upcase entry.name record with
      | false => simp [belongs]
      | true => cases known : entry.created <;> simp [belongs, known]

end

/-! ## What is recognised -/

theorem isNumber_some {part : List Char} : isNumber (some part) = true ↔ part ≠ [] ∧ ∀ c ∈ part, c.isDigit = true := by
  simp [isNumber]

theorem dot_not_mem_of_digits {part : List Char} (digits : ∀ c ∈ part, c.isDigit = true) : '.' ∉ part :=
  fun member => absurd (digits '.' member) (by decide)

/-- Two numbers after a dot each, and the extension. -/
theorem isNumbered_iff {rest : List Char} :
    isNumbered rest = true ↔ ∃ first second, isNumber (some first) = true ∧ isNumber (some second) = true ∧
      rest = '.' :: first ++ '.' :: second ++ ['.', 't', 'm', 'p'] := by
  constructor
  · intro accepted
    unfold isNumbered at accepted
    split at accepted
    · cases accepted
    · rename_i numbers stripped
      simp only [Option.bind_eq_some_iff, List.dropPrefix?_eq_some_iff, List.dropSuffix?_eq_some_iff,
        beq_iff_eq] at stripped
      obtain ⟨middle, ⟨front, rfl, rfl⟩, back, rfl, rfl⟩ := stripped
      have joined : ['.'].intercalate (numbers.splitOn '.') = numbers := List.intercalate_splitOn '.'
      simp only [Bool.and_eq_true, Option.isNone_iff_eq_none, List.getElem?_eq_none_iff] at accepted
      obtain ⟨⟨one, two⟩, few⟩ := accepted
      generalize numbers.splitOn '.' = parts at one two few joined
      have pair : ∃ first second, parts = [first, second] := by
        cases parts with
        | nil => cases one
        | cons first parts =>
            cases parts with
            | nil => cases two
            | cons second parts =>
                have none_ : parts = [] := List.length_eq_zero_iff.mp (by simpa using few)
                exact ⟨first, second, by rw [none_]⟩
      obtain ⟨first, second, rfl⟩ := pair
      refine ⟨first, second, one, two, ?_⟩
      rw [← joined]
      simp [List.intercalate]
  · rintro ⟨first, second, one, two, rfl⟩
    have apart {part : List Char} (number : isNumber (some part) = true) : '.' ∉ part :=
      dot_not_mem_of_digits (isNumber_some.mp number).2
    have stripped : ('.' :: first ++ '.' :: second ++ ['.', 't', 'm', 'p']).dropPrefix? ['.'] =
        some (first ++ '.' :: second ++ ['.', 't', 'm', 'p']) := by
      simp [List.dropPrefix?]
    have bare : (first ++ '.' :: second ++ ['.', 't', 'm', 'p']).dropSuffix? ['.', 't', 'm', 'p'] =
        some (first ++ '.' :: second) := by
      rw [List.dropSuffix?_eq_some_iff]
      exact ⟨_, rfl, beq_self_eq_true _⟩
    have parts : (first ++ '.' :: second).splitOn '.' = [first, second] := by
      rw [List.splitOn_append_cons_self_of_not_mem (apart one), List.splitOn_eq_singleton (apart two)]
    unfold isNumbered
    rw [stripped, Option.bind_some, bare]
    simp [parts, one, two]

theorem isNumber_print (number : UInt64) : isNumber (some (Decimals.print number)) = true :=
  isNumber_some.mpr ⟨Nat.toDigits_ne_nil, fun _ => Decimals.isDigit_of_mem_print⟩

theorem isNumbered_numbered (pid : UInt32) (counter : UInt64) : isNumbered (numbered pid counter) = true :=
  isNumbered_iff.mpr ⟨_, _, isNumber_print _, isNumber_print _, rfl⟩

/-- The three dots of what is recognised. -/
theorem count_of_isNumbered {rest : List Char} (accepted : isNumbered rest = true) :
    ∃ after, rest = '.' :: after ∧ after.count '.' = 2 := by
  obtain ⟨first, second, one, two, rfl⟩ := isNumbered_iff.mp accepted
  have none_ {part : List Char} (number : isNumber (some part) = true) : part.count '.' = 0 :=
    List.count_eq_zero.mpr (dot_not_mem_of_digits (isNumber_some.mp number).2)
  refine ⟨first ++ '.' :: second ++ ['.', 't', 'm', 'p'], rfl, ?_⟩
  simp [List.count_append, none_ one, none_ two]

/-- Nothing fits between the record and the numbers. -/
theorem isNumbered_append {front rest : List Char} (numbered : isNumbered rest = true)
    (accepted : isNumbered (front ++ rest) = true) : front = [] := by
  obtain ⟨after, rfl, two⟩ := count_of_isNumbered numbered
  obtain ⟨after', same, also⟩ := count_of_isNumbered accepted
  cases front with
  | nil => rfl
  | cons c front =>
      rw [List.cons_append, List.cons.injEq] at same
      rw [← same.2, List.count_append, List.count_cons_self, two] at also
      omega

/-- Nothing can be taken from the numbers. -/
theorem isNumbered_drop {rest : List Char} (numbered : isNumbered rest = true) {n : Nat}
    (accepted : isNumbered (rest.drop n) = true) : n = 0 := by
  obtain ⟨after, rfl, two⟩ := count_of_isNumbered numbered
  cases n with
  | zero => rfl
  | succ n =>
      obtain ⟨after', same, also⟩ := count_of_isNumbered accepted
      have fewer : (after.drop n).count '.' ≤ after.count '.' := (List.drop_sublist n after).count_le '.'
      rw [List.drop_succ_cons] at same
      rw [same, List.count_cons_self, also, two] at fewer
      omega

theorem numbered_ascii (pid : UInt32) (counter : UInt64) : ∀ c ∈ numbered pid counter, c.toNat < 128 := by
  have digit {c : Char} (digit : c.isDigit = true) : c.toNat < 128 := by
    have bounds : 48 ≤ c.toNat ∧ c.toNat ≤ 57 := by
      simpa [Char.isDigit, UInt32.le_iff_toNat_le] using digit
    omega
  intro c member
  simp only [numbered, List.cons_append, List.append_assoc, List.mem_cons, List.mem_append, List.not_mem_nil,
    or_false] at member
  rcases member with rfl | one | rfl | two | rfl | rfl | rfl | rfl
  · decide
  · exact digit (Decimals.isDigit_of_mem_print one)
  · decide
  · exact digit (Decimals.isDigit_of_mem_print two)
  all_goals decide

variable (upcase : UInt16 → UInt16) {record other : Name}

/-- The numbers are found behind the record, and nowhere else. -/
theorem decode_rest {pid : UInt32} {counter : UInt64} {n : Nat} {text : List Char}
    (decoded : Utf16.decode ((record ++ Utf16.encode (numbered pid counter)).drop n) = some text)
    (accepted : isNumbered text = true) : n = record.length := by
  rcases Nat.le_total n record.length with within | beyond
  · rw [List.drop_append_of_le_length within, Utf16.decode_append_encode, Option.map_eq_some_iff] at decoded
    obtain ⟨front, read, rfl⟩ := decoded
    rw [isNumbered_append (isNumbered_numbered pid counter) accepted] at read
    have empty := Utf16.decode_eq_nil read
    rw [List.drop_eq_nil_iff] at empty
    exact Nat.le_antisymm within empty
  · obtain ⟨more, rfl⟩ := Nat.exists_eq_add_of_le beyond
    rw [List.drop_append, List.drop_eq_nil_of_le beyond, List.nil_append, Nat.add_sub_cancel_left,
      Utf16.drop_encode (numbered_ascii pid counter), Utf16.decode_encode, Option.some.injEq] at decoded
    have none_ : more = 0 := isNumbered_drop (isNumbered_numbered pid counter) (decoded ▸ accepted)
    rw [none_, Nat.add_zero]

/-- A name that has the form of the record's temporaries: a dot, the record in any case, two numbers and the
extension. -/
def Shaped (record name : Name) : Prop :=
  ∃ named first second, isNumber (some first) = true ∧ isNumber (some second) = true ∧
    name = DOT :: named ++ Utf16.encode ('.' :: first ++ '.' :: second ++ ['.', 't', 'm', 'p']) ∧
    named.map upcase = record.map upcase ∧ named.length < 2 ^ 31

/-- The form alone decides what is recognised. -/
theorem isTemporary_iff {name : Name} : isTemporary upcase name record = true ↔ Shaped upcase record name := by
  unfold isTemporary
  constructor
  · intro found
    split at found
    · cases found
    · rename_i rest stripped
      obtain ⟨front, rfl, dot⟩ := List.dropPrefix?_eq_some_iff.mp stripped
      obtain rfl := beq_iff_eq.mp dot
      split at found
      · cases found
      · split at found
        · cases found
        · rename_i text decoded
          simp only [Bool.and_eq_true, sameName, decide_eq_true_eq] at found
          obtain ⟨accepted, ⟨short, -⟩, same⟩ := found
          obtain ⟨first, second, one, two, rfl⟩ := isNumbered_iff.mp accepted
          refine ⟨rest.take record.length, first, second, one, two, ?_, same, short⟩
          rw [Utf16.encode_of_decode decoded]
          exact congrArg (DOT :: ·) (List.take_append_drop record.length rest).symm
  · rintro ⟨named, first, second, one, two, rfl, same, short⟩
    have length : record.length = named.length := by
      simpa using (congrArg List.length same).symm
    have stripped : (DOT :: named ++ Utf16.encode ('.' :: first ++ '.' :: second ++ ['.', 't', 'm', 'p'])).dropPrefix?
        [DOT] = some (named ++ Utf16.encode ('.' :: first ++ '.' :: second ++ ['.', 't', 'm', 'p'])) := by
      simp [List.dropPrefix?]
    have numbers := isNumbered_iff.mpr ⟨first, second, one, two, rfl⟩
    have owner : sameName upcase named record = true := by
      simp only [sameName, same, length, short, decide_true, Bool.and_self]
    rw [stripped]
    dsimp only
    rw [if_neg (by simp [length]), length, List.drop_left, Utf16.decode_encode, List.take_left]
    simp only [numbers, owner, Bool.and_self]

/-- The name of a temporary has the form of one record's alone: its numbers are found behind that record and
nowhere else. -/
theorem isTemporary_temporaryName {pid : UInt32} {counter : UInt64} :
    isTemporary upcase (temporaryName record pid counter) other = true ↔
      record.map upcase = other.map upcase ∧ record.length < 2 ^ 31 := by
  rw [isTemporary_iff]
  constructor
  · rintro ⟨named, first, second, one, two, same, owner, short⟩
    have numbers := isNumbered_iff.mpr ⟨first, second, one, two, rfl⟩
    have whole : record ++ Utf16.encode (numbered pid counter) =
        named ++ Utf16.encode ('.' :: first ++ '.' :: second ++ ['.', 't', 'm', 'p']) := (List.cons.inj same).2
    have rest : Utf16.decode ((record ++ Utf16.encode (numbered pid counter)).drop named.length) =
        some ('.' :: first ++ '.' :: second ++ ['.', 't', 'm', 'p']) := by
      rw [whole, List.drop_left, Utf16.decode_encode]
    obtain ⟨rfl, -⟩ := List.append_inj whole (decode_rest rest numbers).symm
    exact ⟨owner, short⟩
  · rintro ⟨same, short⟩
    exact ⟨record, _, _, isNumber_print _, isNumber_print _, rfl, same, short⟩

theorem mem_read {entries : List (Except IoError Entry)} {entry : Entry} :
    entry ∈ entries.filterMap Except.toOption ↔ .ok entry ∈ entries := by
  rw [List.mem_filterMap]
  constructor
  · rintro ⟨found, listed, read⟩
    cases found with
    | error error => cases read
    | ok found =>
        cases read
        exact listed
  · intro listed
    exact ⟨_, listed, rfl⟩

/-- A temporary belongs to its record alone, and no other record is waited for because of it. What a reader does
wait for is any recent file whose name has the form of a temporary of its record, be it a temporary or not.
Names of 2³¹ units or more are never compared. -/
theorem temporaries_identify_their_record (record other : Name) (pid : UInt32) (counter : UInt64) :
    (isTemporary upcase (temporaryName record pid counter) other = true ↔
      record.map upcase = other.map upcase ∧ record.length < 2 ^ 31) ∧
    (∀ (entries : List (Except IoError Entry)) (now : Instant),
      publishingIn upcase entries other now = true ↔ ∃ entry created, .ok entry ∈ entries ∧
        Shaped upcase other entry.name ∧ entry.created = some created ∧ fresh created now = true) ∧
    ∀ (entries : List (Except IoError Entry)) (now : Instant),
      (∀ entry, .ok entry ∈ entries → (∃ owner pid counter,
        entry.name = temporaryName owner pid counter ∧ owner.map upcase ≠ other.map upcase) ∨
        ¬ Shaped upcase other entry.name) →
      publishingIn upcase entries other now = false := by
  have waits (entries : List (Except IoError Entry)) (now : Instant) :
      publishingIn upcase entries other now = true ↔ ∃ entry created, .ok entry ∈ entries ∧
        Shaped upcase other entry.name ∧ entry.created = some created ∧ fresh created now = true := by
    simp only [publishingIn, List.any_eq_true, mem_read, Bool.and_eq_true, isTemporary_iff, Option.any_eq_true]
    constructor
    · rintro ⟨entry, listed, shaped, created, known, recent⟩
      exact ⟨entry, created, listed, shaped, known, recent⟩
    · rintro ⟨entry, created, listed, shaped, known, recent⟩
      exact ⟨entry, listed, shaped, created, known, recent⟩
  refine ⟨isTemporary_temporaryName upcase, waits, fun entries now others => ?_⟩
  rw [Bool.eq_false_iff]
  intro found
  obtain ⟨entry, created, listed, shaped, -⟩ := (waits entries now).mp found
  rcases others entry listed with ⟨owner, pid, counter, named, apart⟩ | unlike
  · rw [named, ← isTemporary_iff, isTemporary_temporaryName] at shaped
    exact apart shaped.1
  · exact unlike shaped

def foo : Name := Utf16.encode "foo".toList

/-- A record that is named like a temporary of `foo`. -/
def lookalike : Name := Utf16.encode ".foo.1.2.tmp".toList

/-- The part of the uppercase table that is ASCII. -/
def asciiUpcase (unit : UInt16) : UInt16 := if 97 ≤ unit ∧ unit ≤ 122 then unit - 32 else unit

/-- Once it is published, a reader of `foo` waits for it. -/
theorem published_record_is_taken_for_a_temporary :
    lookalike.map asciiUpcase ≠ foo.map asciiUpcase ∧
    publishingIn asciiUpcase [.ok ⟨lookalike, some 0⟩] foo 0 = true := by
  constructor
  · decide
  · have shaped : isTemporary asciiUpcase lookalike foo = true :=
      (isTemporary_iff asciiUpcase).mpr ⟨foo, ['1'], ['2'], rfl, rfl, by decide, rfl, by decide⟩
    simp [publishingIn, shaped, Except.toOption, fresh, FRESH]

end KunobiDaemon.Publication.Windows
