import KunobiDaemon.Errors
import KunobiDaemon.Lib.Atomic

/-! The discovery record of one path, as any number of processes publish, remove and read it.

Every operation but `read` holds the slot lock. A publication writes a temporary file
and renames it over the record; a reader keeps the file it opened. Any step may fail, and
any process may crash between two steps, which frees its lock and leaves its temporary
file behind.
-/

set_option autoImplicit false

namespace KunobiDaemon.Publication

open Lib.Atomic

abbrev Bytes := List UInt8

structure RecordOptions where
  durable : Bool := false
  readLimit : Nat := 64 * 1024
  deriving DecidableEq, Repr

/-- A call of a `RecordSlot`. -/
inductive Method where
  | replace (contents : Bytes)
  | repair (contents : Bytes)
  | replaceIf (contents : Bytes) (replace : Option Bytes → Bool)
  | removeIfMatches (contents : Bytes)
  | removeIf (remove : Bytes → Bool)
  | read

inductive Answer where
  | done
  | changed (changed : Bool)
  | record (record : Option Bytes)
  deriving DecidableEq, Repr

structure Operation where
  options : RecordOptions
  method : Method

/-- The record's directory. Files are named by their inode. -/
structure Disk (N : Type) where
  files : Nat → Bytes
  record : Option Nat
  temporary : N → Option Nat
  fresh : Nat

namespace Disk
variable {N : Type}

/-- The record, if there is one. -/
def value (disk : Disk N) : Option Bytes := disk.record.map disk.files

variable [DecidableEq N]

/-- `create_new` on a free name -/
def create (disk : Disk N) (name : N) : Disk N :=
  { disk with
    files := Function.update disk.files disk.fresh []
    temporary := Function.update disk.temporary name (some disk.fresh)
    fresh := disk.fresh + 1 }

def write (disk : Disk N) (inode : Nat) (bytes : Bytes) : Disk N :=
  { disk with files := Function.update disk.files inode (disk.files inode ++ bytes) }

def removeTemporary (disk : Disk N) (name : N) : Disk N :=
  { disk with temporary := Function.update disk.temporary name none }

/-- The name a file had is free after its rename. -/
def rename (disk : Disk N) (name : N) (inode : Nat) : Disk N :=
  { disk.removeTemporary name with record := some inode }

def unlink (disk : Disk N) : Disk N := { disk with record := none }

end Disk

/-- A publication under way: the operation, what it writes and what it answers. -/
structure Publishing where
  operation : Operation
  contents : Bytes
  answer : Answer

/-- Where a process stands. -/
inductive Place (N : Type) where
  | idle
  | entered (operation : Operation)
  /-- With the lock, about to open the record. -/
  | locked (operation : Operation)
  | reading (operation : Operation) (inode : Nat) (got : Bytes)
  | creating (publishing : Publishing)
  | writing (publishing : Publishing) (name : N) (inode written : Nat)
  | synced (publishing : Publishing) (name : N)
  | renamed (operation : Operation) (answer : Answer) (name : N)
  | removing (operation : Operation) (answer : Answer)
  /-- About to drop the temporary. -/
  | dropping (operation : Operation) (name : N) (result : Except IoError Answer)
  /-- About to drop the lock. -/
  | leaving (operation : Operation) (result : Except IoError Answer)
  | returning (operation : Operation) (result : Except IoError Answer)
  | finished
  | crashed

namespace Operation
variable {N : Type} (operation : Operation)

def reads : Bool :=
  match operation.method with
  | .read => true
  | _ => false

/-- How many bytes of the record are read at most. -/
def cap : Nat :=
  match operation.method with
  | .repair contents | .removeIfMatches contents => contents.length + 1
  | .replace _ | .replaceIf _ _ | .removeIf _ | .read => operation.options.readLimit + 1

/-- Read by `read_regular`, and not by `matches`. -/
def limited : Bool :=
  match operation.method with
  | .repair _ | .removeIfMatches _ => false
  | .replace _ | .replaceIf _ _ | .removeIf _ | .read => true

/-- The result, once there is nothing to do but drop the lock if it was taken. -/
def finish (result : Except IoError Answer) : Place N :=
  if operation.reads then .returning operation result else .leaving operation result

/-- What follows from the record that was read. -/
def settle (current : Option Bytes) : Place N :=
  match operation.method with
  | .replace contents => .creating ⟨operation, contents, .done⟩
  | .repair contents =>
      if current = some contents then operation.finish (.ok (.changed false))
      else .creating ⟨operation, contents, .changed true⟩
  | .replaceIf contents accepts =>
      if accepts current then .creating ⟨operation, contents, .changed true⟩
      else operation.finish (.ok (.changed false))
  | .removeIfMatches contents =>
      if current = some contents then .removing operation (.changed true)
      else operation.finish (.ok (.changed false))
  | .removeIf accepts =>
      match current with
      | none => operation.finish (.ok (.changed false))
      | some current =>
          if accepts current then .removing operation (.changed true) else operation.finish (.ok (.changed false))
  | .read => operation.finish (.ok (.record current))

/-- `replace` publishes at once; the others read the record first. -/
def proceed : Place N :=
  match operation.method with
  | .replace _ => operation.settle none
  | _ => .locked operation

/-- The end of the record was reached, or as much of it as is read. -/
def conclude (got : Bytes) : Place N :=
  if operation.limited && got.length > operation.options.readLimit then
    operation.finish (.error ⟨.invalidData, .message "record is longer than its read limit"⟩)
  else operation.settle (some got)

end Operation

namespace Place
variable {N : Type}

/-- Whether the process holds the slot lock. -/
def holds : Place N → Bool
  | .locked _ | .creating _ | .writing _ _ _ _ | .synced _ _ | .renamed _ _ _ | .removing _ _ | .dropping _ _ _
  | .leaving _ _ => true
  | .reading operation _ _ => !operation.reads
  | .idle | .entered _ | .returning _ _ | .finished | .crashed => false

/-- A step that fails. Nothing can fail once the result is known. -/
def fail (error : IoError) : Place N → Option (Place N)
  | .entered operation => some (.returning operation (.error error))
  | .locked operation => some (.leaving operation (.error error))
  | .reading operation _ _ => some (operation.finish (.error error))
  | .creating publishing => some (.leaving publishing.operation (.error error))
  | .writing publishing name _ _ | .synced publishing name =>
      some (.dropping publishing.operation name (.error error))
  | .renamed operation _ name =>
      if operation.options.durable then some (.dropping operation name (.error error)) else none
  | .removing operation _ => some (.leaving operation (.error error))
  | .idle | .dropping _ _ _ | .leaving _ _ | .returning _ _ | .finished | .crashed => none

end Place

inductive Label (N : Type) where
  | call (operation : Operation)
  | lock
  | open
  | read (count : Nat)
  | eof
  | create (name : N)
  | write (count : Nat)
  | sync
  | rename
  /-- With `durable`, `sync_all` on the directory. -/
  | renamed
  | unlink
  | dropTemporary (removed : Bool)
  | unlock
  | return
  | fail (error : IoError)
  | crash

structure Slot (C N : Type) where
  disk : Disk N
  lock : Option C
  place : C → Place N
  history : List (C × Event Operation Answer IoError)
  /-- Whether a process performed its rename or unlink. -/
  committed : C → Bool

namespace Slot
variable {C N : Type}

/-- A slot nobody uses yet. -/
def new (record : Option Bytes) : Slot C N where
  disk := ⟨fun _ => record.getD [], record.map fun _ => 0, fun _ => none, 1⟩
  lock := none
  place _ := .idle
  history := []
  committed _ := false

variable [DecidableEq C]

def move (slot : Slot C N) (process : C) (place : Place N) : Slot C N :=
  { slot with place := Function.update slot.place process place }

def observe (slot : Slot C N) (process : C) (event : Event Operation Answer IoError) : Slot C N :=
  { slot with history := slot.history ++ [(process, event)] }

def commit (slot : Slot C N) (process : C) : Slot C N :=
  { slot with committed := Function.update slot.committed process true }

/-- Open the record, or find none. -/
def openRecord (slot : Slot C N) (process : C) (operation : Operation) : Slot C N :=
  match slot.disk.record with
  | none => slot.move process (operation.settle none)
  | some inode => slot.move process (.reading operation inode [])

variable [DecidableEq N]

def step (slot : Slot C N) : C × Label N → Option (Slot C N)
  | (process, .call operation) =>
      match slot.place process with
      | .idle => some ((slot.move process (.entered operation)).observe process (.call operation))
      | _ => none
  | (process, .lock) =>
      match slot.place process with
      | .entered operation =>
          if operation.reads ∨ slot.lock ≠ none then none
          else some { slot.move process operation.proceed with lock := some process }
      | _ => none
  | (process, .open) =>
      match slot.place process with
      | .entered operation => if operation.reads then some (slot.openRecord process operation) else none
      | .locked operation => some (slot.openRecord process operation)
      | _ => none
  | (process, .read count) =>
      match slot.place process with
      | .reading operation inode got =>
          let piece := ((slot.disk.files inode).drop got.length).take (min count (operation.cap - got.length))
          if piece = [] then none else some (slot.move process (.reading operation inode (got ++ piece)))
      | _ => none
  | (process, .eof) =>
      match slot.place process with
      | .reading operation inode got =>
          if ((slot.disk.files inode).drop got.length).take (operation.cap - got.length) = [] then
            some (slot.move process (operation.conclude got))
          else none
      | _ => none
  | (process, .create name) =>
      match slot.place process with
      | .creating publishing =>
          match slot.disk.temporary name with
          | some _ => some slot
          | none =>
              some { slot.move process (.writing publishing name slot.disk.fresh 0) with
                disk := slot.disk.create name }
      | _ => none
  | (process, .write count) =>
      match slot.place process with
      | .writing publishing name inode written =>
          if count = 0 ∨ written + count > publishing.contents.length then none
          else
            some { slot.move process (.writing publishing name inode (written + count)) with
              disk := slot.disk.write inode ((publishing.contents.drop written).take count) }
      | _ => none
  | (process, .sync) =>
      match slot.place process with
      | .writing publishing name _ written =>
          if written = publishing.contents.length then some (slot.move process (.synced publishing name)) else none
      | _ => none
  | (process, .rename) =>
      match slot.place process with
      | .synced publishing name =>
          match slot.disk.temporary name with
          | some inode =>
              some { (slot.move process (.renamed publishing.operation publishing.answer name)).commit process with
                disk := slot.disk.rename name inode }
          | none => none
      | _ => none
  | (process, .renamed) =>
      match slot.place process with
      | .renamed operation answer name => some (slot.move process (.dropping operation name (.ok answer)))
      | _ => none
  | (process, .unlink) =>
      match slot.place process with
      | .removing operation answer =>
          if slot.disk.record = none then none
          else
            some { (slot.move process (.leaving operation (.ok answer))).commit process with
              disk := slot.disk.unlink }
      | _ => none
  | (process, .dropTemporary removed) =>
      match slot.place process with
      | .dropping operation name result =>
          some { slot.move process (.leaving operation result) with
            disk := if removed then slot.disk.removeTemporary name else slot.disk }
      | _ => none
  | (process, .unlock) =>
      match slot.place process with
      | .leaving operation result => some { slot.move process (.returning operation result) with lock := none }
      | _ => none
  | (process, .return) =>
      match slot.place process with
      | .returning _ result => some ((slot.move process .finished).observe process (.return result))
      | _ => none
  | (process, .fail error) => ((slot.place process).fail error).map (slot.move process)
  | (process, .crash) =>
      match slot.place process with
      | .idle | .finished | .crashed => none
      | _ => some { slot.move process .crashed with lock := if slot.lock = some process then none else slot.lock }

end Slot

/-! ## The register -/

/-- What a call does to the record and answers. -/
def Method.apply : Method → Option Bytes → Option Bytes × Answer
  | .replace contents, _ => (some contents, .done)
  | .repair contents, record =>
      if record = some contents then (record, .changed false) else (some contents, .changed true)
  | .replaceIf contents accepts, record =>
      if accepts record then (some contents, .changed true) else (record, .changed false)
  | .removeIfMatches contents, record =>
      if record = some contents then (none, .changed true) else (record, .changed false)
  | .removeIf accepts, some record => if accepts record then (none, .changed true) else (some record, .changed false)
  | .removeIf _, none => (none, .changed false)
  | .read, record => (record, .record record)

/-- Whether a call that gave this answer published its contents. -/
def Method.published : Method → Answer → Bool
  | .replace _, _ => true
  | .repair _, answer | .replaceIf _ _, answer => answer = .changed true
  | .removeIfMatches _, _ | .removeIf _, _ | .read, _ => false

/-- One optional record. A durable publication may report an error after it took effect, and a
read after it opened the record. -/
def register : Object (Option Bytes) Operation Answer where
  apply operation := operation.method.apply
  doubtful operation answer :=
    operation.reads = true ∨ (operation.options.durable = true ∧ operation.method.published answer = true)

end KunobiDaemon.Publication
