import Mathlib.Order.Basic

/-! Values announced by a version number, and what a reader knows that has seen a version.

A reader looks again when the version is not the one it has seen. What it noted when it looked
must then hold for as long as no news is pending (`Heard`).
-/

set_option autoImplicit false

namespace Lib.Versions

/-- A fact that a reader noted at a version it has seen: it holds unless news is pending. -/
structure Heard (seen version : Nat) (fact : Prop) : Prop where
  bounded : seen ≤ version
  quiet : seen = version → fact

namespace Heard

variable {seen version next : Nat} {fact other : Prop}

theorem noted (bounded : seen ≤ version) (holds : fact) : Heard seen version fact := ⟨bounded, fun _ => holds⟩

theorem mono (heard : Heard seen version fact) (implies : fact → other) : Heard seen version other :=
  ⟨heard.bounded, fun same => implies (heard.quiet same)⟩

/-- News is pending for every reader that has not seen the new version. -/
theorem announced (heard : Heard seen version fact) (later : version < next) : Heard seen next other :=
  ⟨Nat.le_trans heard.bounded (Nat.le_of_lt later), fun same =>
    absurd (Nat.lt_of_le_of_lt heard.bounded later) (same ▸ Nat.lt_irrefl _)⟩

end Heard

/-- A watch channel: its value, and how often it was announced. -/
structure Channel (A : Type) where
  value : A
  version : Nat
  deriving DecidableEq, Repr

namespace Channel

variable {A : Type}

/-- Announce the value as it is. -/
def notify (channel : Channel A) : Channel A := { channel with version := channel.version + 1 }

/-- Announce a new value, if there is one. -/
def sendIfModified (channel : Channel A) (modify : A → Option A) : Channel A :=
  match modify channel.value with
  | some value => ⟨value, channel.version + 1⟩
  | none => channel

/-- A channel that is not as it was has been announced. -/
theorem sendIfModified_announced (channel : Channel A) (modify : A → Option A) :
    channel.sendIfModified modify = channel ∨ channel.version < (channel.sendIfModified modify).version := by
  unfold sendIfModified
  split
  · exact .inr (Nat.lt_succ_self _)
  · exact .inl rfl

end Channel

end Lib.Versions
