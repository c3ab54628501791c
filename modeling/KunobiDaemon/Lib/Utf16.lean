/-! Text as UTF-16. -/

set_option autoImplicit false

namespace Lib.Utf16

def encodeChar (c : Char) : List UInt16 :=
  if c.toNat < 0x10000 then [UInt16.ofNat c.toNat]
  else
    let beyond := c.toNat - 0x10000
    [UInt16.ofNat (0xd800 + beyond / 0x400), UInt16.ofNat (0xdc00 + beyond % 0x400)]

def encode (text : List Char) : List UInt16 := text.flatMap encodeChar

/-- Unpaired surrogates are refused. -/
def decode : List UInt16 → Option (List Char)
  | [] => some []
  | unit :: rest =>
      if unit.toNat < 0xd800 ∨ 0xe000 ≤ unit.toNat then (decode rest).map (Char.ofNat unit.toNat :: ·)
      else if unit.toNat < 0xdc00 then
        match rest with
        | [] => none
        | low :: rest =>
            if 0xdc00 ≤ low.toNat ∧ low.toNat < 0xe000 then
              let code := 0x10000 + (unit.toNat - 0xd800) * 0x400 + (low.toNat - 0xdc00)
              (decode rest).map (Char.ofNat code :: ·)
            else none
      else none

@[simp] theorem encode_append (first second : List Char) : encode (first ++ second) = encode first ++ encode second :=
  List.flatMap_append

theorem encodeChar_ascii {c : Char} (ascii : c.toNat < 128) : encodeChar c = [UInt16.ofNat c.toNat] := by
  unfold encodeChar
  rw [if_pos (Nat.lt_trans ascii (by decide))]

theorem char_bounds (c : Char) : c.toNat < 0xd800 ∨ 0xe000 ≤ c.toNat ∧ c.toNat < 0x110000 := by
  have valid := c.valid
  simp only [UInt32.isValidChar, Nat.isValidChar] at valid
  simp only [Char.toNat]
  omega

theorem decode_plain {unit : UInt16} (plain : unit.toNat < 0xd800 ∨ 0xe000 ≤ unit.toNat) (rest : List UInt16) :
    decode (unit :: rest) = (decode rest).map (Char.ofNat unit.toNat :: ·) := by
  rw [decode.eq_def]
  exact if_pos plain

theorem decode_pair {high low : UInt16} (first : 0xd800 ≤ high.toNat ∧ high.toNat < 0xdc00)
    (second : 0xdc00 ≤ low.toNat ∧ low.toNat < 0xe000) (rest : List UInt16) :
    decode (high :: low :: rest) = (decode rest).map
      (Char.ofNat (0x10000 + (high.toNat - 0xd800) * 0x400 + (low.toNat - 0xdc00)) :: ·) := by
  rw [decode.eq_def]
  dsimp only
  rw [if_neg (by omega), if_pos first.2, if_pos second]

/-- The first of a pair needs the second. -/
theorem decode_high {high low : UInt16} (first : 0xd800 ≤ high.toNat ∧ high.toNat < 0xdc00)
    (single : ¬ (0xdc00 ≤ low.toNat ∧ low.toNat < 0xe000)) (rest : List UInt16) : decode (high :: low :: rest) = none := by
  rw [decode.eq_def]
  dsimp only
  rw [if_neg (by omega), if_pos first.2, if_neg single]

theorem decode_low {low : UInt16} (second : 0xdc00 ≤ low.toNat ∧ low.toNat < 0xe000) (rest : List UInt16) :
    decode (low :: rest) = none := by
  rw [decode.eq_def]
  dsimp only
  rw [if_neg (by omega), if_neg (by omega)]

theorem toNat_ofNat {n : Nat} (small : n < 0x10000) : (UInt16.ofNat n).toNat = n := UInt16.toNat_ofNat_of_lt' small

theorem decode_encodeChar (c : Char) (rest : List UInt16) :
    decode (encodeChar c ++ rest) = (decode rest).map (c :: ·) := by
  have bounds := char_bounds c
  unfold encodeChar
  split
  · rename_i small
    rw [List.singleton_append, decode_plain (by rw [toNat_ofNat small]; omega), toNat_ofNat small, Char.ofNat_toNat]
  · rename_i large
    have high : (UInt16.ofNat (0xd800 + (c.toNat - 0x10000) / 0x400)).toNat =
        0xd800 + (c.toNat - 0x10000) / 0x400 := toNat_ofNat (by omega)
    have low : (UInt16.ofNat (0xdc00 + (c.toNat - 0x10000) % 0x400)).toNat =
        0xdc00 + (c.toNat - 0x10000) % 0x400 := toNat_ofNat (by omega)
    have code : 0x10000 + (0xd800 + (c.toNat - 0x10000) / 0x400 - 0xd800) * 0x400 +
        (0xdc00 + (c.toNat - 0x10000) % 0x400 - 0xdc00) = c.toNat := by omega
    simp only [List.cons_append, List.nil_append]
    rw [decode_pair (by omega) (by omega), high, low, code, Char.ofNat_toNat]

/-- The first unit of a character is not the second of a pair. -/
theorem encodeChar_head (c : Char) :
    ∃ unit units, encodeChar c = unit :: units ∧ ¬ (0xdc00 ≤ unit.toNat ∧ unit.toNat < 0xe000) := by
  have bounds := char_bounds c
  unfold encodeChar
  split
  · rename_i small
    refine ⟨_, _, rfl, ?_⟩
    rw [toNat_ofNat small]
    omega
  · refine ⟨_, _, rfl, ?_⟩
    rw [toNat_ofNat (by omega)]
    omega

theorem decode_encode (text : List Char) : decode (encode text) = some text := by
  induction text with
  | nil => rfl
  | cons c text ih =>
      rw [encode, List.flatMap_cons, decode_encodeChar]
      unfold encode at ih
      rw [ih]
      rfl

/-- A text after anything is read as itself: what comes before it cannot take its first unit. -/
theorem decode_append_encode (front : List UInt16) (text : List Char) :
    decode (front ++ encode text) = (decode front).map (· ++ text) := by
  fun_induction decode front with
  | case1 => rw [List.nil_append, decode_encode, Option.map_some, List.nil_append]
  | case2 unit rest plain ih =>
      rw [List.cons_append, decode_plain plain, ih, Option.map_map, Option.map_map]
      rfl
  | case3 unit high pair =>
      rw [List.singleton_append, Option.map_none]
      cases text with
      | nil =>
          rw [decode.eq_def]
          simp [encode, high]
      | cons c text =>
          obtain ⟨first, units, same, apart⟩ := encodeChar_head c
          rw [encode, List.flatMap_cons, same, List.cons_append, decode_high (by omega) apart]
  | case4 unit high pair low rest second code ih =>
      rw [List.cons_append, List.cons_append, decode_pair (by omega) second, ih, Option.map_map, Option.map_map]
      rfl
  | case5 unit high pair low rest single =>
      rw [List.cons_append, List.cons_append, decode_high (by omega) single, Option.map_none]
  | case6 unit rest high single => rw [List.cons_append, decode_low (by omega), Option.map_none]

theorem toNat_char {n : Nat} (valid : n < 0xd800 ∨ 0xe000 ≤ n ∧ n < 0x110000) : (Char.ofNat n).toNat = n := by
  have isValid : n.isValidChar := by
    unfold Nat.isValidChar
    omega
  rw [Char.ofNat, dif_pos isValid]
  rfl

/-- What was decoded encodes as it was. -/
theorem encode_of_decode {units : List UInt16} {text : List Char} (decoded : decode units = some text) :
    encode text = units := by
  fun_induction decode units generalizing text with
  | case1 =>
      cases decoded
      rfl
  | case2 unit rest plain ih =>
      obtain ⟨later, read, rfl⟩ := Option.map_eq_some_iff.mp decoded
      have bound := unit.toNat_lt
      rw [encode, List.flatMap_cons, encodeChar, toNat_char (by omega), if_pos bound, UInt16.ofNat_toNat]
      exact congrArg (unit :: ·) (ih read)
  | case4 unit high pair low rest second code =>
      rename_i ih
      obtain ⟨later, read, rfl⟩ := Option.map_eq_some_iff.mp decoded
      have value : code = 0x10000 + (unit.toNat - 0xd800) * 0x400 + (low.toNat - 0xdc00) := rfl
      have beyond : ¬ code < 0x10000 := by omega
      have upper : 0xd800 + (code - 0x10000) / 0x400 = unit.toNat := by omega
      have lower : 0xdc00 + (code - 0x10000) % 0x400 = low.toNat := by omega
      rw [encode, List.flatMap_cons, encodeChar, toNat_char (by omega), if_neg beyond]
      dsimp only
      rw [upper, lower, UInt16.ofNat_toNat, UInt16.ofNat_toNat]
      exact congrArg (unit :: low :: ·) (ih read)
  | case3 | case5 | case6 => cases decoded

theorem decode_eq_nil {units : List UInt16} (empty : decode units = some []) : units = [] :=
  (encode_of_decode empty).symm

theorem encode_ascii {text : List Char} (ascii : ∀ c ∈ text, c.toNat < 128) :
    encode text = text.map fun c => UInt16.ofNat c.toNat := by
  induction text with
  | nil => rfl
  | cons c text ih =>
      rw [List.forall_mem_cons] at ascii
      rw [encode, List.flatMap_cons, encodeChar_ascii ascii.1]
      unfold encode at ih
      rw [ih ascii.2]
      rfl

theorem drop_encode {text : List Char} (ascii : ∀ c ∈ text, c.toNat < 128) (n : Nat) :
    (encode text).drop n = encode (text.drop n) := by
  rw [encode_ascii ascii, encode_ascii fun c member => ascii c (List.mem_of_mem_drop member), List.map_drop]

end Lib.Utf16
