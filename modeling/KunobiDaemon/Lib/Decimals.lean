import Mathlib.Algebra.Group.Nat.Defs
import Mathlib.Data.List.TakeWhile

/-! Decimal texts of 64-bit numbers: how a standard library prints, trims and parses them. -/

set_option autoImplicit false

namespace Lib.Decimals

/-- The Unicode property White_Space. -/
def isWhitespace (c : Char) : Bool :=
  let n := c.toNat
  (9 ≤ n && n ≤ 13) || n = 0x20 || n = 0x85 || n = 0xa0 || n = 0x1680 || (0x2000 ≤ n && n ≤ 0x200a) ||
    n = 0x2028 || n = 0x2029 || n = 0x202f || n = 0x205f || n = 0x3000

def trim (text : List Char) : List Char :=
  ((text.dropWhile isWhitespace).reverse.dropWhile isWhitespace).reverse

/-- A plus sign in front is not part of the number. -/
def unsigned : List Char → List Char
  | '+' :: rest => rest
  | text => text

/-- Digits whose value fits into 64 bits, with or without a plus sign. -/
def parse (text : List Char) : Option UInt64 :=
  let digits := unsigned text
  if digits.isEmpty || !digits.all (·.isDigit) then none
  else
    let value := Nat.ofDigitChars 10 digits 0
    if value < 2 ^ 64 then some (UInt64.ofNat value) else none

def print (number : UInt64) : List Char := Nat.toDigits 10 number.toNat

theorem isDigit_of_mem_print {number : UInt64} {c : Char} (member : c ∈ print number) : c.isDigit = true :=
  Nat.isDigit_of_mem_toDigits (by decide) (by decide) member

theorem not_whitespace_of_isDigit {c : Char} (digit : c.isDigit = true) : isWhitespace c = false := by
  have bounds : 48 ≤ c.toNat ∧ c.toNat ≤ 57 := by
    simpa [Char.isDigit, UInt32.le_iff_toNat_le] using digit
  simp only [isWhitespace, Bool.or_eq_false_iff, Bool.and_eq_false_iff, decide_eq_false_iff_not]
  omega

theorem trim_print (number : UInt64) : trim (print number) = print number := by
  have solid {text : List Char} (sub : text ⊆ print number) : text.dropWhile isWhitespace = text := by
    refine List.dropWhile_eq_self_iff.mpr fun some_ space => ?_
    have digit := isDigit_of_mem_print (sub (List.getElem_mem some_))
    cases (not_whitespace_of_isDigit digit).symm.trans space
  unfold trim
  rw [solid (List.Subset.refl _), solid (fun c => List.mem_reverse.mp), List.reverse_reverse]

theorem unsigned_of_digits {text : List Char} (digits : ∀ c ∈ text, c.isDigit = true) : unsigned text = text := by
  unfold unsigned
  split
  · rename_i rest
    exact absurd (digits '+' List.mem_cons_self) (by decide)
  · rfl

theorem parse_print (number : UInt64) : parse (print number) = some number := by
  have digits : ∀ c ∈ print number, c.isDigit = true := fun c => isDigit_of_mem_print
  have value : Nat.ofDigitChars 10 (print number) 0 = number.toNat :=
    Nat.ofDigitChars_toDigits (by decide) (by decide)
  have some_ : (print number).isEmpty = false := by
    rw [List.isEmpty_eq_false_iff]
    exact Nat.toDigits_ne_nil
  unfold parse
  simp only [unsigned_of_digits digits]
  rw [if_neg, value, if_pos number.toNat_lt, UInt64.ofNat_toNat]
  simpa [some_] using digits

end Lib.Decimals
