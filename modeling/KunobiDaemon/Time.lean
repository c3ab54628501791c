import Mathlib.Algebra.Group.Nat.Defs
import Mathlib.Order.Basic

/-! Instants, durations and clocks that never go back. -/

set_option autoImplicit false

namespace KunobiDaemon

/-- Nanoseconds since an arbitrary origin. -/
abbrev Instant := Nat

/-- Nanoseconds. -/
abbrev Duration := Nat

/-- `Duration::MAX` -/
def Duration.max : Duration := (2 ^ 64 - 1) * 1_000_000_000 + 999_999_999

def Duration.saturatingAdd (a b : Duration) : Duration := min (a + b) Duration.max

/-- The last instant of a Unix clock. -/
def lastInstant : Instant := (2 ^ 63 - 1) * 1_000_000_000 + 999_999_999

/-- A world with a clock. Reading it may take time, and the reading is the time then. -/
structure Clock (W : Type) where
  time : W → Instant
  read : W → W
  read_onward : ∀ world, time world ≤ time (read world)
  /-- The last representable instant. -/
  latest : Instant

/-- `instant + duration`, which panics past the last instant. -/
def Clock.add {W : Type} (clock : Clock W) (instant : Instant) (duration : Duration) : Option Instant :=
  if instant + duration ≤ clock.latest then some (instant + duration) else none

theorem Clock.add_eq_some {W : Type} {clock : Clock W} {instant result : Instant} {duration : Duration} :
    clock.add instant duration = some result ↔
      instant + duration ≤ clock.latest ∧ instant + duration = result := by
  simp [Clock.add]

end KunobiDaemon
