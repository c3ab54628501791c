import Mathlib.Algebra.Group.Nat.Defs
import Mathlib.Data.List.Basic

/-! Numbers as bytes: fixed-width little endian, and the fields of a Protobuf message.

A field is left out when it has its default value.
-/

set_option autoImplicit false

namespace Lib.Bytes

def little : Nat → Nat → List UInt8
  | 0, _ => []
  | width + 1, value => UInt8.ofNat (value % 256) :: little width (value / 256)

def ofLittle : List UInt8 → Nat
  | [] => 0
  | byte :: rest => byte.toNat + 256 * ofLittle rest

@[simp] theorem length_little (width value : Nat) : (little width value).length = width := by
  induction width generalizing value with
  | zero => rfl
  | succ width ih => simp [little, ih]

theorem ofLittle_little (width value : Nat) (fits : value < 256 ^ width) :
    ofLittle (little width value) = value := by
  induction width generalizing value with
  | zero =>
      simp only [Nat.pow_zero, Nat.lt_one_iff] at fits
      exact fits.symm
  | succ width ih =>
      have rest : value / 256 < 256 ^ width := by
        rw [Nat.pow_succ] at fits
        exact Nat.div_lt_of_lt_mul (Nat.mul_comm _ _ ▸ fits)
      have byte : (UInt8.ofNat (value % 256)).toNat = value % 256 :=
        UInt8.toNat_ofNat_of_lt' (Nat.mod_lt value (by decide))
      rw [little, ofLittle, ih _ rest, byte]
      exact Nat.mod_add_div value 256

/-- Any bytes are a number, and no two of one length are the same number. -/
theorem little_ofLittle (bytes : List UInt8) : little bytes.length (ofLittle bytes) = bytes := by
  induction bytes with
  | nil => rfl
  | cons byte rest ih =>
      have small : byte.toNat < 256 := byte.toNat_lt
      have first : (byte.toNat + 256 * ofLittle rest) % 256 = byte.toNat := by omega
      have others : (byte.toNat + 256 * ofLittle rest) / 256 = ofLittle rest := by omega
      rw [List.length_cons, ofLittle, little, first, others, ih, UInt8.ofNat_toNat]

/-- Seven bits a byte, the lowest first. Ten bytes hold every 64-bit number. -/
def varint : Nat → Nat → List UInt8
  | 0, _ => []
  | room + 1, value =>
      if value < 128 then [UInt8.ofNat value]
      else UInt8.ofNat (value % 128 + 128) :: varint room (value / 128)

def putVarint (value : Nat) : List UInt8 := varint 10 value

def putNumber (field value : Nat) : List UInt8 :=
  if value = 0 then [] else putVarint (field * 8) ++ putVarint value

def putBytes (field : Nat) (value : List UInt8) : List UInt8 :=
  if value = [] then [] else putVarint (field * 8 + 2) ++ putVarint value.length ++ value

end Lib.Bytes
