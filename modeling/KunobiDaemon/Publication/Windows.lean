import KunobiDaemon.Backoff
import KunobiDaemon.Errors

/-! Opening a record that may be being replaced, on Windows. -/

set_option autoImplicit false

namespace KunobiDaemon.Publication.Windows

abbrev Contents := List UInt8

def ERROR_ACCESS_DENIED : Int32 := 5

/-- Opens refused with `ERROR_ACCESS_DENIED` that are retried at once. -/
def DENIED_RETRIES : Nat := 8

/-- How long a missing record is waited for while it is being published. -/
def PUBLISHING : Duration := 2_000_000_000

/-- A temporary file created longer ago than this is left over from a crash. -/
def FRESH : Duration := 10_000_000_000

/-- How far in the future a creation time may be and still count as recent. -/
def AHEAD : Duration := 1_000_000_000

/-- Whether a temporary created then can belong to a publication in progress now. -/
def fresh (created now : Instant) : Bool :=
  if created ≤ now then now - created < FRESH else created - now ≤ AHEAD

/-- Whether one of the record's temporaries, given by their creation times, is recent. -/
def publishing (temporaries : List Instant) (now : Instant) : Bool :=
  temporaries.any fun created => fresh created now

structure File where
  regular : Bool
  contents : Contents
  deriving DecidableEq, Repr

inductive Place where
  | opening
  /-- The record was not found; about to check for a publication. -/
  | missed (error : IoError)
  /-- In `next_pause`. -/
  | pausing
  | napping (ends : Instant)
  | returned (result : Except IoError File)

/-- A call of `retry_open`. -/
structure Reader where
  denied : Nat := 0
  rechecked : Bool := false
  missing : Option IoError := none
  pause : Duration := Backoff.FIRST
  place : Place := .opening

namespace Reader

/-- The answer of an open. -/
def opened (reader : Reader) : Except IoError File → Reader
  | .ok file => { reader with place := .returned (.ok file) }
  | .error error =>
      if error.rawOsError = some ERROR_ACCESS_DENIED ∧ reader.denied < DENIED_RETRIES then
        { reader with denied := reader.denied + 1 }
      else if error.kind = .notFound then { reader with place := .missed error }
      else { reader with place := .returned (.error error) }

/-- The answer of a check for a publication, after an open that found no record. -/
def checked (reader : Reader) (error : IoError) (publishing : Bool) : Reader :=
  if publishing then
    -- The open after this publication ends must stand on its own.
    { reader with rechecked := false, missing := some error, place := .pausing }
  else if reader.rechecked then { reader with place := .returned (.error error) }
  else { reader with rechecked := true, place := .opening }

/-- The end of a poll that opened no record. -/
def gaveUp (reader : Reader) : Reader :=
  { reader with place := .returned (.error (reader.missing.getD ⟨.notFound, .message "entity not found"⟩)) }

def paused (reader : Reader) (deadline now : Instant) : Reader :=
  match Backoff.nextPause reader.pause (some deadline) now with
  | none => reader.gaveUp
  | some (nap, pause) => { reader with pause, place := .napping (now + nap) }

/-- A pause may overrun. -/
def woke (reader : Reader) (deadline now : Instant) : Reader :=
  if deadline - now = 0 then reader.gaveUp else { reader with place := .opening }

end Reader

/-- `read_regular`, from the answer of `open_record`. -/
def readRegular (limit : Nat) : Except IoError File → Except IoError (Option Contents)
  | .error error => if error.kind = .notFound then .ok none else .error error
  | .ok file =>
      if !file.regular then .error (invalid "record is not a regular file")
      else if limit < file.contents.length then .error (invalid "record is longer than its read limit")
      else .ok (some file.contents)

theorem readRegular_eq_none {limit : Nat} {opened : Except IoError File}
    (missing : readRegular limit opened = .ok none) : ∃ error, opened = .error error ∧ error.kind = .notFound := by
  unfold readRegular at missing
  split at missing
  · rename_i error
    split at missing
    · rename_i kind
      exact ⟨error, rfl, kind⟩
    · cases missing
  · split at missing
    · cases missing
    · split at missing <;> cases missing

end KunobiDaemon.Publication.Windows
