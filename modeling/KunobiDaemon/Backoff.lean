import KunobiDaemon.Time

/-! A check repeated with a growing pause. -/

set_option autoImplicit false

namespace KunobiDaemon.Backoff

/-- The first pause, doubled after each check. -/
def FIRST : Duration := 1_000_000

/-- The longest pause between two checks. -/
def LONGEST : Duration := 50_000_000

/-- How long to pause before the next check, with the pause after that, or none once the deadline has passed. -/
def nextPause (pause : Duration) (deadline : Option Instant) (now : Instant) : Option (Duration × Duration) :=
  let next := min LONGEST (pause * 2)
  match deadline with
  | some deadline =>
      let left := deadline - now
      if left = 0 then none else some (min left pause, next)
  | none => some (pause, next)

theorem nextPause_eq_none {pause : Duration} {deadline now : Instant} :
    nextPause pause (some deadline) now = none ↔ deadline ≤ now := by
  simp [nextPause, Nat.sub_eq_zero_iff_le]

end KunobiDaemon.Backoff
