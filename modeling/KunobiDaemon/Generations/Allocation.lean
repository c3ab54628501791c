import KunobiDaemon.Errors
import KunobiDaemon.Lib.Decimals
import KunobiDaemon.Lib.Systems
import KunobiDaemon.Lib.Words

/-! Allocation of generations, one call after the other, with an error or a crash at any step.

The upgrade lock keeps calls apart. The directory may hold anything, and something else at every
call. A publication that fails may have replaced the counter or not.
-/

set_option autoImplicit false

namespace KunobiDaemon.Generations

open Lib
open Lib.Systems

/-- What a file holds, as `read_to_string` sees it. -/
inductive Contents where
  | text (chars : List Char)
  | notUtf8
  deriving DecidableEq, Repr

/-- The number in a counter file. A missing one counts from zero. -/
def counterNumber : Option Contents → Option UInt64
  | none => some 0
  | some (.text chars) => Decimals.parse (Decimals.trim chars)
  | some .notUtf8 => none

/-- `Path::file_stem` of a directory entry: its name up to the last dot, unless nothing is before it. -/
def fileStem (name : List UInt8) : List UInt8 :=
  let before := ((name.reverse.dropWhile (· ≠ 46)).drop 1).reverse
  if before.isEmpty then name else before

/-- The number a directory entry is named after. The bytes of a stem that is not UTF-8 are no digits. -/
def stemNumber (name : List UInt8) : Option UInt64 :=
  Decimals.parse ((fileStem name).map fun byte => Char.ofNat byte.toNat)

-- `45.lock`
example : stemNumber [52, 53, 46, 108, 111, 99, 107] = some 45 := by decide

inductive Failure where
  | counter (error : IoError)
  | corrupt
  | directory (error : IoError)
  | exhausted
  | publication (error : IoError)
  deriving DecidableEq, Repr

/-- A call of `allocate`, with all it has met. -/
structure Allocating where
  selected : UInt64
  /-- The counter file as the call found it. -/
  before : Option Contents
  unreadable : Option IoError := none
  unlisted : Option IoError := none
  entries : List (Except IoError (List UInt8)) := []

/-- The number of an entry, if it has one. -/
def entryNumber : Except IoError (List UInt8) → Option UInt64
  | .ok name => stemNumber name
  | .error _ => none

/-- Every number a call has seen: the counter, the selected generation and the numeric file stems. -/
def Allocating.seen (call : Allocating) : List UInt64 :=
  (counterNumber call.before).toList ++ call.selected :: call.entries.filterMap entryNumber

namespace Allocation

inductive Place where
  | idle
  | reading (call : Allocating)
  | opening (call : Allocating) (maximum : UInt64)
  | listing (call : Allocating) (maximum : UInt64)
  | publishing (call : Allocating) (next : UInt64)
  | returning (call : Allocating) (result : Except Failure UInt64)

/-- The call at a place. -/
def Place.call : Place → Option Allocating
  | .idle => none
  | .reading call | .opening call _ | .listing call _ | .publishing call _ | .returning call _ => some call

/-- A call that is over. A crash returns nothing. -/
structure Finished where
  call : Allocating
  result : Option (Except Failure UInt64)
  /-- The counter file then. -/
  after : Option Contents

def Finished.success (finished : Finished) : Option UInt64 :=
  match finished.result with
  | some (.ok value) => some value
  | _ => none

structure System where
  counter : Option Contents
  place : Place := .idle
  /-- Every call that is over, oldest first. -/
  history : List Finished := []

inductive Label where
  | allocate (selected : UInt64)
  | readCounter (fails : Option IoError)
  | openDirectory (fails : Option IoError)
  | entry (found : Except IoError (List UInt8))
  | listed
  | publish
  | failPublication (error : IoError) (replaced : Bool)
  | leave
  | crash
  /-- The counter file is lost. -/
  | lose

/-- The values that were returned, oldest first. -/
def System.allocated (s : System) : List UInt64 := s.history.filterMap Finished.success

def System.finish (s : System) (call : Allocating) (result : Option (Except Failure UInt64)) : System :=
  { s with place := .idle, history := s.history ++ [⟨call, result, s.counter⟩] }

def System.step (s : System) : Label → Option System
  | .allocate selected =>
      match s.place with
      | .idle => some { s with place := .reading { selected, before := s.counter } }
      | _ => none
  | .readCounter fails =>
      match s.place with
      | .reading call =>
          let call := { call with before := s.counter }
          match fails with
          | some error =>
              -- Only a missing file is not found, and it is no failure.
              if error.kind = .notFound then none
              else some { s with place := .returning { call with unreadable := some error } (.error (.counter error)) }
          | none =>
              match counterNumber s.counter with
              | none => some { s with place := .returning call (.error .corrupt) }
              | some prior => some { s with place := .opening call (max prior call.selected) }
      | _ => none
  | .openDirectory fails =>
      match s.place with
      | .opening call maximum =>
          match fails with
          | some error =>
              some { s with place := .returning { call with unlisted := some error } (.error (.directory error)) }
          | none => some { s with place := .listing call maximum }
      | _ => none
  | .entry found =>
      match s.place with
      | .listing call maximum =>
          let call := { call with entries := call.entries ++ [found] }
          match found with
          | .error error => some { s with place := .returning call (.error (.directory error)) }
          | .ok name =>
              match stemNumber name with
              | some value => some { s with place := .listing call (max maximum value) }
              | none => some { s with place := .listing call maximum }
      | _ => none
  | .listed =>
      match s.place with
      | .listing call maximum =>
          match Words.checkedAdd maximum 1 with
          | none => some { s with place := .returning call (.error .exhausted) }
          | some next => some { s with place := .publishing call next }
      | _ => none
  | .publish =>
      match s.place with
      | .publishing call next =>
          some { s with counter := some (.text (Decimals.print next)), place := .returning call (.ok next) }
      | _ => none
  | .failPublication error replaced =>
      match s.place with
      | .publishing call next =>
          let counter := if replaced then some (.text (Decimals.print next)) else s.counter
          some { s with counter, place := .returning call (.error (.publication error)) }
      | _ => none
  | .leave =>
      match s.place with
      | .returning call result => some (s.finish call (some result))
      | _ => none
  | .crash => s.place.call.map fun call => s.finish call none
  | .lose => some { s with counter := none }

end Allocation

end KunobiDaemon.Generations
