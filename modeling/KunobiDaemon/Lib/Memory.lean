import Mathlib.Data.List.Basic

/-! Reading memory through slices.

A slice lies in an address space. Taking a part of it is checked, reading it is not, so a program
keeps what it has read. Its answer can depend on nothing else.
-/

set_option autoImplicit false

namespace Lib.Memory

/-- The byte at each address. -/
abbrev Contents := Nat → UInt8

/-- So many bytes from an address on. -/
def Contents.read (contents : Contents) (pointer length : Nat) : List UInt8 :=
  (List.range length).map fun index => contents (pointer + index)

structure Slice (space : Nat) where
  pointer : Nat
  length : Nat
  fits : pointer + length ≤ space

section
variable {space : Nat}

namespace Slice

theorem fits_getFrom {slice : Slice space} {start : Nat} (inside : start ≤ slice.length) :
    slice.pointer + start + (slice.length - start) ≤ space := by
  have fits := slice.fits
  omega

theorem fits_getTo {slice : Slice space} {length : Nat} (inside : length ≤ slice.length) :
    slice.pointer + length ≤ space :=
  Nat.le_trans (Nat.add_le_add_left inside _) slice.fits

/-- All but the first bytes. -/
def getFrom (slice : Slice space) (start : Nat) : Option (Slice space) :=
  if inside : start ≤ slice.length then some ⟨slice.pointer + start, slice.length - start, fits_getFrom inside⟩ else none

/-- The first bytes. -/
def getTo (slice : Slice space) (length : Nat) : Option (Slice space) :=
  if inside : length ≤ slice.length then some ⟨slice.pointer, length, fits_getTo inside⟩ else none

/-- So many bytes from an address on lie in the slice. -/
def Holds (slice : Slice space) (pointer length : Nat) : Prop :=
  slice.pointer ≤ pointer ∧ pointer + length ≤ slice.pointer + slice.length

/-- A part of a slice is there exactly when it lies in it. -/
theorem part_eq_some {slice part : Slice space} {start length : Nat} :
    (slice.getFrom start).bind (·.getTo length) = some part ↔
      start + length ≤ slice.length ∧ part.pointer = slice.pointer + start ∧ part.length = length := by
  simp only [getFrom, getTo]
  constructor
  · intro found
    split at found
    · rename_i starts
      simp only [Option.bind_some] at found
      split at found
      · rename_i ends
        cases found
        exact ⟨by omega, rfl, rfl⟩
      · cases found
    · cases found
  · rintro ⟨inside, pointer, rfl⟩
    rw [dif_pos (by omega), Option.bind_some, dif_pos (by dsimp only; omega)]
    cases part
    cases pointer
    rfl

theorem exists_part {slice : Slice space} {start length : Nat} (inside : start + length ≤ slice.length) :
    ∃ part, (slice.getFrom start).bind (·.getTo length) = some part ∧
      part.pointer = slice.pointer + start ∧ part.length = length := by
  have fits : slice.pointer + start + length ≤ space := by
    have all := slice.fits
    omega
  exact ⟨⟨slice.pointer + start, length, fits⟩, part_eq_some.mpr ⟨inside, rfl, rfl⟩, rfl, rfl⟩

end Slice

/-- An answer, and what was read to find it. -/
structure Reading (space : Nat) (ε α : Type) where
  accesses : List (Slice space)
  answer : Except ε α

variable {ε α β : Type}

namespace Reading

instance : Monad (Reading space ε) where
  pure value := ⟨[], .ok value⟩
  bind first next :=
    match first.answer with
    | .error error => ⟨first.accesses, .error error⟩
    | .ok value => ⟨first.accesses ++ (next value).accesses, (next value).answer⟩

/-- An answer that reads nothing. -/
def answered (answer : Except ε α) : Reading space ε α := ⟨[], answer⟩

def read (contents : Contents) (slice : Slice space) : Reading space ε (List UInt8) :=
  ⟨[slice], .ok (contents.read slice.pointer slice.length)⟩

theorem answer_bind (first : Reading space ε α) (next : α → Reading space ε β) :
    (first >>= next).answer = first.answer.bind fun value => (next value).answer := by
  cases first with
  | mk accesses answer => cases answer <;> rfl

theorem answer_bind_eq_ok {first : Reading space ε α} {next : α → Reading space ε β} {value : β} :
    (first >>= next).answer = .ok value ↔ ∃ middle, first.answer = .ok middle ∧ (next middle).answer = .ok value := by
  cases first with
  | mk accesses answer => cases answer <;> simp [answer_bind, Except.bind]

/-- Every slice a program has read has the property. -/
def Reads (P : Slice space → Prop) (reading : Reading space ε α) : Prop := ∀ slice ∈ reading.accesses, P slice

variable {P Q : Slice space → Prop}

theorem Reads.pure (value : α) : (Pure.pure value : Reading space ε α).Reads P := fun _ none_ => by cases none_

theorem Reads.answered (answer : Except ε α) : (Reading.answered answer : Reading space ε α).Reads P :=
  fun _ none_ => by cases none_

theorem Reads.bind {first : Reading space ε α} {next : α → Reading space ε β} (one : first.Reads P)
    (rest : ∀ value, first.answer = .ok value → (next value).Reads P) : (first >>= next).Reads P := by
  cases first with
  | mk accesses answer =>
      cases answer with
      | error error => exact one
      | ok value =>
          intro slice member
          rcases List.mem_append.mp member with early | late
          · exact one slice early
          · exact rest value rfl slice late

/-- Two memories hold the same bytes in these slices. -/
def Agree (a b : Contents) (slices : List (Slice space)) : Prop :=
  ∀ slice ∈ slices, ∀ address, slice.Holds address 1 → a address = b address

/-- A program that depends on nothing but the bytes it reads. -/
def Local (program : Contents → Reading space ε α) : Prop :=
  ∀ a b, Agree a b (program a).accesses → program b = program a

theorem Local.const (reading : Reading space ε α) : Local fun _ => reading := fun _ _ _ => rfl

theorem Local.read (slice : Slice space) : Local fun contents => (Reading.read contents slice : Reading space ε _) := by
  intro a b agree
  have same : b.read slice.pointer slice.length = a.read slice.pointer slice.length := by
    refine List.map_congr_left fun index below => ?_
    refine (agree slice (List.mem_singleton.mpr rfl) _ ⟨Nat.le_add_right _ _, ?_⟩).symm
    have bound := List.mem_range.mp below
    omega
  simp only [Reading.read, same]

theorem Local.bind {first : Contents → Reading space ε α} {next : α → Contents → Reading space ε β}
    (one : Local first) (rest : ∀ value, Local (next value)) :
    Local fun contents => first contents >>= fun value => next value contents := by
  intro a b agree
  have begins : Agree a b (first a).accesses := by
    intro slice member
    refine agree slice ?_
    simp only [Bind.bind]
    split
    · exact member
    · exact List.mem_append_left _ member
  simp only [one a b begins]
  cases answer : (first a).answer with
  | error error => simp [Bind.bind, answer]
  | ok value =>
      have continues : Agree a b (next value a).accesses := by
        intro slice member
        refine agree slice ?_
        simp only [Bind.bind, answer]
        exact List.mem_append_right _ member
      simp only [Bind.bind, answer, rest value a b continues]

end Reading

end

end Lib.Memory
