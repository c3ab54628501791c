import KunobiDaemon.Lib.Systems
import KunobiDaemon.Publication.Slot

/-! The record slot is a linearizable optional register.

A publication takes effect at its rename, a removal at its unlink, and an operation that
changes nothing when it has read the record under the lock. A lock-free read takes
effect when it opens the record: nobody writes to a file that was renamed.
-/

set_option autoImplicit false

namespace KunobiDaemon.Publication

open Lib.Atomic
open Lib.Systems

section
variable {C N : Type}

/-! ## Reading -/

/-- What an operation read so far is the beginning of the file. -/
theorem read_take {file got : Bytes} {cap : Nat} (count : Nat) (begins : got = file.take got.length)
    (within : got.length ≤ cap) :
    got ++ (file.drop got.length).take (min count (cap - got.length)) =
        file.take (got ++ (file.drop got.length).take (min count (cap - got.length))).length ∧
      (got ++ (file.drop got.length).take (min count (cap - got.length))).length ≤ cap := by
  constructor
  · rw [List.length_append, List.take_add, ← begins, List.length_take]
    congr 1
    rw [List.take_eq_take_iff]
    omega
  · rw [List.length_append, List.length_take]
    omega

/-- A read that ends has the file, or as much of it as it may read. -/
theorem read_end {file got : Bytes} {cap : Nat} (begins : got = file.take got.length) (within : got.length ≤ cap)
    (ended : (file.drop got.length).take (cap - got.length) = []) : got = file.take cap := by
  have short : (file.drop got.length).length = 0 ∨ cap - got.length = 0 := by
    have empty := congrArg List.length ended
    rw [List.length_take, List.length_nil] at empty
    omega
  rw [List.length_drop] at short
  rcases short with whole | full
  · rw [begins, List.take_of_length_le (by omega), List.take_of_length_le (by omega)]
  · rw [show cap = got.length by omega]
    exact begins

/-- `matches` reads one byte more than it compares. -/
theorem take_succ_eq_iff {file contents : Bytes} : file.take (contents.length + 1) = contents ↔ file = contents := by
  constructor
  · intro same
    have length := congrArg List.length same
    rw [List.length_take] at length
    rw [← same, List.take_of_length_le (by omega)]
  · rintro rfl
    exact List.take_of_length_le (Nat.le_succ _)

/-! ## What each operation does -/

/-- A publication that does to the record what its operation does. -/
structure Publishing.Due (record : Option Bytes) (publishing : Publishing) : Prop where
  applies : publishing.operation.method.apply record = (some publishing.contents, publishing.answer)
  published : publishing.operation.method.published publishing.answer = true

/-- What reading a record leads to. -/
inductive Settles (operation : Operation) (record : Option Bytes) : Place N → Prop where
  | publishes {publishing : Publishing} : publishing.operation = operation → publishing.Due record →
      operation.reads = false → Settles operation record (.creating publishing)
  | removes {answer : Answer} : operation.method.apply record = (none, answer) → record ≠ none →
      operation.reads = false → Settles operation record (.removing operation answer)
  | answers {answer : Answer} : operation.method.apply record = (record, answer) →
      Settles operation record (operation.finish (.ok answer))

theorem settles (operation : Operation) (record : Option Bytes) :
    Settles operation record (operation.settle record : Place N) := by
  obtain ⟨options, method⟩ := operation
  unfold Operation.settle
  cases method with
  | replace contents => exact .publishes rfl ⟨rfl, rfl⟩ rfl
  | repair contents =>
      dsimp only
      split
      · rename_i same
        exact .answers (by simp [Method.apply, same])
      · rename_i other
        exact .publishes rfl ⟨by simp [Method.apply, other], rfl⟩ rfl
  | replaceIf contents replace =>
      dsimp only
      split
      · rename_i accepted
        exact .publishes rfl ⟨by simp [Method.apply, accepted], rfl⟩ rfl
      · rename_i refused
        exact .answers (by simp [Method.apply, refused])
  | removeIfMatches contents =>
      dsimp only
      split
      · rename_i same
        exact .removes (by simp [Method.apply, same]) (by simp [same]) rfl
      · rename_i other
        exact .answers (by simp [Method.apply, other])
  | removeIf remove =>
      cases record with
      | none => exact .answers rfl
      | some current =>
          dsimp only
          split
          · rename_i accepted
            exact .removes (by simp [Method.apply, accepted]) nofun rfl
          · rename_i refused
            exact .answers (by simp [Method.apply, refused])
  | read => exact .answers rfl

/-- What an operation concludes from what it read is what it concludes from the record. -/
theorem conclude_take (operation : Operation) (file : Bytes) :
    (operation.conclude (file.take operation.cap) : Place N) = operation.settle (some file) ∨
      ∃ error, (operation.conclude (file.take operation.cap) : Place N) = operation.finish (.error error) := by
  obtain ⟨⟨durable, limit⟩, method⟩ := operation
  have limited (method : Method) (caps : (⟨⟨durable, limit⟩, method⟩ : Operation).cap = limit + 1)
      (limits : (⟨⟨durable, limit⟩, method⟩ : Operation).limited = true) :
      (Operation.conclude ⟨⟨durable, limit⟩, method⟩ (file.take (limit + 1)) : Place N) =
          Operation.settle ⟨⟨durable, limit⟩, method⟩ (some file) ∨
        ∃ error, (Operation.conclude ⟨⟨durable, limit⟩, method⟩ (file.take (limit + 1)) : Place N) =
          Operation.finish ⟨⟨durable, limit⟩, method⟩ (.error error) := by
    unfold Operation.conclude
    rw [limits, Bool.true_and]
    split
    · exact .inr ⟨_, rfl⟩
    · rename_i short
      simp only [List.length_take, gt_iff_lt, decide_eq_true_eq, Nat.not_lt] at short
      rw [List.take_of_length_le (by omega)]
      exact .inl rfl
  cases method with
  | replace contents => exact limited _ rfl rfl
  | replaceIf contents replace => exact limited _ rfl rfl
  | removeIf remove => exact limited _ rfl rfl
  | read => exact limited _ rfl rfl
  | repair contents | removeIfMatches contents =>
      left
      simp [Operation.conclude, Operation.limited, Operation.settle, Operation.cap, take_succ_eq_iff]

/-! ## The disk -/

/-- Names of files. A temporary file is nobody's but its writer's. -/
structure Disk.Tidy (disk : Disk N) : Prop where
  record_old : ∀ inode, disk.record = some inode → inode < disk.fresh
  temporary_old : ∀ name inode, disk.temporary name = some inode → inode < disk.fresh
  apart : ∀ name inode, disk.temporary name = some inode → disk.record ≠ some inode
  single : ∀ name other inode, disk.temporary name = some inode → disk.temporary other = some inode → name = other

/-- A file with no temporary name is not written to. -/
def Disk.Lasting (disk : Disk N) (inode : Nat) : Prop :=
  inode < disk.fresh ∧ ∀ name, disk.temporary name ≠ some inode

/-- Lasting files stay, with what they hold. -/
def Disk.Keeps (disk next : Disk N) : Prop :=
  ∀ inode, disk.Lasting inode → next.Lasting inode ∧ next.files inode = disk.files inode

theorem Disk.Tidy.lasting {disk : Disk N} (tidy : disk.Tidy) {inode : Nat} (record : disk.record = some inode) :
    disk.Lasting inode :=
  ⟨tidy.record_old inode record, fun name named => tidy.apart name inode named record⟩

section
variable {disk : Disk N} {name : N} {inode : Nat}

theorem Disk.Tidy.write (tidy : disk.Tidy) (inode : Nat) (bytes : Bytes) : (disk.write inode bytes).Tidy :=
  ⟨tidy.record_old, tidy.temporary_old, tidy.apart, tidy.single⟩

theorem Disk.Tidy.unlink (tidy : disk.Tidy) : disk.unlink.Tidy :=
  ⟨nofun, tidy.temporary_old, fun _ _ _ => nofun, tidy.single⟩

theorem Disk.Keeps.refl (disk : Disk N) : disk.Keeps disk := fun _ lasting => ⟨lasting, rfl⟩

theorem Disk.Keeps.write (named : disk.temporary name = some inode) (bytes : Bytes) :
    disk.Keeps (disk.write inode bytes) := by
  intro other lasting
  have apart : other ≠ inode := fun same => lasting.2 name (same ▸ named)
  exact ⟨lasting, Function.update_of_ne apart _ _⟩

theorem Disk.Keeps.unlink (disk : Disk N) : disk.Keeps disk.unlink := refl disk

/-- The record stays what it is while no other file takes its name. -/
theorem Disk.Keeps.value {next : Disk N} (keeps : disk.Keeps next) (tidy : disk.Tidy)
    (same : next.record = disk.record) : next.value = disk.value := by
  unfold Disk.value
  rw [same]
  cases record : disk.record with
  | none => rfl
  | some inode => exact congrArg some (keeps inode (tidy.lasting record)).2

variable [DecidableEq N]

theorem update_name {other : N} {found : Option Nat} {inode : Nat}
    (named : Function.update disk.temporary name found other = some inode) :
    (other = name ∧ found = some inode) ∨ disk.temporary other = some inode := by
  by_cases same : other = name
  · rw [same, Function.update_self] at named
    exact .inl ⟨same, named⟩
  · rw [Function.update_of_ne same] at named
    exact .inr named

namespace Disk.Tidy

theorem create (tidy : disk.Tidy) (name : N) : (disk.create name).Tidy := by
  have old {other : N} {inode : Nat} (named : disk.temporary other = some inode) : inode ≠ disk.fresh :=
    Nat.ne_of_lt (tidy.temporary_old other inode named)
  refine ⟨fun inode record => Nat.lt_succ_of_lt (tidy.record_old inode record), ?_, ?_, ?_⟩
  · intro other inode named
    rcases update_name named with ⟨-, new⟩ | before
    · cases new
      exact Nat.lt_succ_self _
    · exact Nat.lt_succ_of_lt (tidy.temporary_old other inode before)
  · intro other inode named record
    rcases update_name named with ⟨-, new⟩ | before
    · cases new
      exact Nat.lt_irrefl _ (tidy.record_old _ record)
    · exact tidy.apart other inode before record
  · intro first second inode named again
    rcases update_name named with ⟨rfl, new⟩ | before
    · cases new
      rcases update_name again with ⟨rfl, -⟩ | before
      · rfl
      · exact absurd rfl (old before)
    · rcases update_name again with ⟨-, new⟩ | after
      · cases new
        exact absurd rfl (old before)
      · exact tidy.single first second inode before after

theorem removeTemporary (tidy : disk.Tidy) (name : N) : (disk.removeTemporary name).Tidy := by
  have before {other : N} {inode : Nat} (named : (disk.removeTemporary name).temporary other = some inode) :
      disk.temporary other = some inode := by
    rcases update_name named with ⟨-, gone⟩ | before
    · cases gone
    · exact before
  exact ⟨tidy.record_old, fun other inode named => tidy.temporary_old other inode (before named),
    fun other inode named => tidy.apart other inode (before named),
    fun first second inode named again => tidy.single first second inode (before named) (before again)⟩

theorem rename (tidy : disk.Tidy) (named : disk.temporary name = some inode) : (disk.rename name inode).Tidy := by
  have removed := tidy.removeTemporary name
  refine ⟨?_, removed.temporary_old, ?_, removed.single⟩
  · rintro _ ⟨⟩
    exact tidy.temporary_old name inode named
  · intro other inode' again record
    cases record
    rcases update_name again with ⟨-, gone⟩ | before
    · cases gone
    · rw [tidy.single other name inode before named] at again
      simp [Disk.rename, Disk.removeTemporary] at again

end Disk.Tidy

namespace Disk.Keeps

theorem create (disk : Disk N) (name : N) : disk.Keeps (disk.create name) := by
  intro inode lasting
  have other : inode ≠ disk.fresh := Nat.ne_of_lt lasting.1
  refine ⟨⟨Nat.lt_succ_of_lt lasting.1, fun found named => ?_⟩, Function.update_of_ne other _ _⟩
  rcases update_name named with ⟨-, new⟩ | before
  · exact other (Option.some.inj new).symm
  · exact lasting.2 found before

theorem removeTemporary (disk : Disk N) (name : N) : disk.Keeps (disk.removeTemporary name) := by
  intro inode lasting
  refine ⟨⟨lasting.1, fun found named => ?_⟩, rfl⟩
  rcases update_name named with ⟨-, gone⟩ | before
  · cases gone
  · exact lasting.2 found before

theorem rename (disk : Disk N) (name : N) (inode : Nat) : disk.Keeps (disk.rename name inode) :=
  removeTemporary disk name

end Disk.Keeps

end

/-! ## The simulation -/

/-- A result that is known: what took effect, or an error that says what the register allows. -/
def Finished (committed : Bool) (operation : Operation) (result : Except IoError Answer)
    (status : Status Operation Answer IoError) : Prop :=
  match result with
  | .ok answer => status = .applied operation answer
  | .error _ => status = .called operation ∨ ∃ answer, status = .applied operation answer ∧
      register.doubtful operation answer ∧ (operation.reads = true ∨ committed = true)

/-- An operation that was called and did not return. -/
def Underway (status : Status Operation Answer IoError) : Prop :=
  (∃ operation, status = .called operation) ∨ ∃ operation answer, status = .applied operation answer

theorem Finished.underway {committed : Bool} {operation : Operation} {result : Except IoError Answer}
    {status : Status Operation Answer IoError} (finished : Finished committed operation result status) :
    Underway status := by
  cases result with
  | ok answer => exact .inr ⟨operation, answer, finished⟩
  | error error =>
      rcases finished with called | ⟨answer, applied, -⟩
      · exact .inl ⟨operation, called⟩
      · exact .inr ⟨operation, answer, applied⟩

/-- Where a process stands, and where its operation does on the timeline. -/
def Matched (disk : Disk N) (committed : Bool) : Place N → Status Operation Answer IoError → Prop
  | .idle, status => status = .idle
  | .entered operation, status => status = .called operation
  | .locked operation, status => status = .called operation ∧ operation.reads = false
  | .reading operation inode got, status => disk.Lasting inode ∧
      got = (disk.files inode).take got.length ∧ got.length ≤ operation.cap ∧
      if operation.reads then status = .applied operation (.record (some (disk.files inode)))
      else status = .called operation ∧ disk.record = some inode
  | .creating publishing, status => status = .called publishing.operation ∧ publishing.Due disk.value
  | .writing publishing name inode written, status => status = .called publishing.operation ∧
      publishing.Due disk.value ∧ disk.temporary name = some inode ∧
      disk.files inode = publishing.contents.take written
  | .synced publishing name, status => status = .called publishing.operation ∧ publishing.Due disk.value ∧
      ∃ inode, disk.temporary name = some inode ∧ disk.files inode = publishing.contents
  | .renamed operation answer _, status => status = .applied operation answer ∧
      operation.method.published answer = true ∧ committed = true
  | .removing operation answer, status => status = .called operation ∧
      operation.method.apply disk.value = (none, answer)
  | .dropping operation _ result, status | .leaving operation result, status | .returning operation result, status =>
      Finished committed operation result status
  | .finished, status => ∃ operation effect result, status = .returned operation effect result ∧
      ∀ error, result = .error error → effect = none ∨ operation.reads = true ∨ committed = true
  | .crashed, status => Underway status

theorem Matched.underway {disk : Disk N} {committed : Bool} {place : Place N}
    {status : Status Operation Answer IoError} (matched : Matched disk committed place status)
    (begun : place ≠ .idle) (going : place ≠ .finished) : Underway status := by
  cases place with
  | idle => exact absurd rfl begun
  | entered => exact .inl ⟨_, matched⟩
  | reading operation inode got =>
      obtain ⟨-, -, -, known⟩ := matched
      split at known
      · exact .inr ⟨_, _, known⟩
      · exact .inl ⟨_, known.1⟩
  | locked | creating | writing | synced | removing => exact .inl ⟨_, matched.1⟩
  | renamed => exact .inr ⟨_, _, matched.1⟩
  | dropping | leaving | returning => exact Finished.underway matched
  | finished => exact absurd rfl going
  | crashed => exact matched

/-- The lock holder's steps do not reach what another process relies on. -/
theorem Matched.framed {disk next : Disk N} {committed : Bool} {place : Place N}
    {status : Status Operation Answer IoError} (matched : Matched disk committed place status)
    (free : place.holds = false) (keeps : disk.Keeps next) : Matched next committed place status := by
  cases place with
  | idle | entered | returning | finished | crashed => exact matched
  | reading operation inode got =>
      obtain ⟨lasting, begins, within, applied⟩ := matched
      obtain ⟨lasts, same⟩ := keeps inode lasting
      have reads : operation.reads = true := by simpa [Place.holds] using free
      rw [if_pos reads] at applied
      refine ⟨lasts, same ▸ begins, within, ?_⟩
      rw [if_pos reads, same]
      exact applied
  | locked | creating | writing | synced | renamed | removing | dropping | leaving => cases free

theorem Finished.finish {disk : Disk N} {committed : Bool} {operation : Operation} {result : Except IoError Answer}
    {status : Status Operation Answer IoError} (finished : Finished committed operation result status) :
    Matched disk committed (operation.finish result) status := by
  unfold Operation.finish
  split <;> exact finished

theorem holds_finish (operation : Operation) (result : Except IoError Answer) :
    (operation.finish result : Place N).holds = !operation.reads := by
  unfold Operation.finish
  split
  · rename_i reads
    rw [reads]
    rfl
  · rename_i locks
    rw [Bool.not_eq_true] at locks
    rw [locks]
    rfl

/-- An error is one the register allows: nothing took effect, or the rename had. -/
theorem Matched.fail {disk : Disk N} {committed : Bool} {place place' : Place N} {error : IoError}
    {status : Status Operation Answer IoError} (matched : Matched disk committed place status)
    (failed : place.fail error = some place') :
    place'.holds = place.holds ∧ Matched disk committed place' status := by
  cases place with
  | entered =>
      cases failed
      exact ⟨rfl, .inl matched⟩
  | reading operation inode got =>
      cases failed
      refine ⟨holds_finish operation _, Finished.finish ?_⟩
      obtain ⟨-, -, -, known⟩ := matched
      split at known
      · rename_i reads
        exact .inr ⟨_, known, .inl reads, .inl reads⟩
      · exact .inl known.1
  | locked | creating | writing | synced | removing =>
      cases failed
      exact ⟨rfl, .inl matched.1⟩
  | renamed operation answer name =>
      simp only [Place.fail, Option.ite_none_right_eq_some, Option.some.injEq] at failed
      obtain ⟨durable, rfl⟩ := failed
      obtain ⟨applied, published, committed⟩ := matched
      exact ⟨rfl, .inr ⟨answer, applied, .inr ⟨durable, published⟩, .inr committed⟩⟩
  | idle | dropping | leaving | returning | finished | crashed => cases failed

/-- A timeline for what happened to a slot. -/
structure Follows [DecidableEq C] (initial : Option Bytes) (slot : Slot C N)
    (timeline : List (C × Event Operation Answer IoError)) (status : C → Status Operation Answer IoError) : Prop where
  timed : Timeline register initial timeline slot.disk.value status
  seen : visible timeline = slot.history
  tidy : slot.disk.Tidy
  holder : ∀ process, (slot.place process).holds = true ↔ slot.lock = some process
  matched : ∀ process, Matched slot.disk (slot.committed process) (slot.place process) (status process)

namespace Follows
variable [DecidableEq C] {initial : Option Bytes} {slot next : Slot C N}
  {timeline timeline' : List (C × Event Operation Answer IoError)} {status status' : C → Status Operation Answer IoError}
  {process : C} {place : Place N} {operation : Operation} {answer : Answer}

/-- A step of one process: it touches the disk only with the lock. -/
theorem stepped (follows : Follows initial slot timeline status)
    (moves : next.place = Function.update slot.place process place)
    (timed : Timeline register initial timeline' next.disk.value status') (seen : visible timeline' = next.history)
    (tidy : next.disk.Tidy) (keeps : slot.disk.Keeps next.disk)
    (owned : next.disk = slot.disk ∨ (slot.place process).holds = true)
    (locks : place.holds = true ↔ next.lock = some process)
    (others : ∀ other, other ≠ process → (next.lock = some other ↔ slot.lock = some other))
    (commits : ∀ other, other ≠ process → next.committed other = slot.committed other)
    (stands : ∀ other, other ≠ process → status' other = status other)
    (here : Matched next.disk (next.committed process) place (status' process)) :
    Follows initial next timeline' status' := by
  refine ⟨timed, seen, tidy, fun other => ?_, fun other => ?_⟩
  · rw [moves]
    by_cases same : other = process
    · rw [same, Function.update_self]
      exact locks
    · rw [Function.update_of_ne same, others other same]
      exact follows.holder other
  · rw [moves]
    by_cases same : other = process
    · rw [same, Function.update_self]
      exact here
    · rw [Function.update_of_ne same, commits other same, stands other same]
      rcases owned with unchanged | holds
      · rw [unchanged]
        exact follows.matched other
      · refine (follows.matched other).framed ?_ keeps
        rw [← Bool.not_eq_true, follows.holder other, (follows.holder process).mp holds]
        exact fun both => same (Option.some.inj both).symm

/-- A step that only moves the process. -/
theorem quiet (follows : Follows initial slot timeline status)
    (holds : place.holds = (slot.place process).holds)
    (here : Matched slot.disk (slot.committed process) place (status process)) :
    Follows initial (slot.move process place) timeline status :=
  follows.stepped rfl follows.timed follows.seen follows.tidy (.refl _) (.inl rfl)
    (holds ▸ follows.holder process) (fun _ _ => .rfl) (fun _ _ => rfl) (fun _ _ => rfl) here

/-- A step at which an operation that changes nothing takes effect. -/
theorem takes (follows : Follows initial slot timeline status)
    (holds : place.holds = (slot.place process).holds) (called : status process = .called operation)
    (applies : operation.method.apply slot.disk.value = (slot.disk.value, answer))
    (here : Matched slot.disk (slot.committed process) place (.applied operation answer)) :
    ∃ timeline status, Follows initial (slot.move process place) timeline status := by
  refine ⟨_, _, follows.stepped rfl (follows.timed.takes called applies) ?_ follows.tidy (.refl _)
    (.inl rfl) (holds ▸ follows.holder process) (fun _ _ => .rfl) (fun _ _ => rfl)
    (fun _ apart => Function.update_of_ne apart _ _) ?_⟩
  · rw [visible_append, follows.seen]
    exact List.append_nil _
  · rw [Function.update_self]
    exact here

/-- The step at which a process knows the record: it goes on, or takes effect. -/
theorem settled (follows : Follows initial slot timeline status) (called : status process = .called operation)
    (holds : (slot.place process).holds = !operation.reads) :
    ∃ timeline status, Follows initial (slot.move process (operation.settle slot.disk.value)) timeline status := by
  have settles := settles (N := N) operation slot.disk.value
  revert settles
  generalize (operation.settle slot.disk.value : Place N) = place
  intro settles
  cases settles with
  | publishes same due locks =>
      refine ⟨timeline, status, follows.quiet ?_ ⟨same ▸ called, due⟩⟩
      rw [holds, locks]
      rfl
  | removes applies _ locks =>
      refine ⟨timeline, status, follows.quiet ?_ ⟨called, applies⟩⟩
      rw [holds, locks]
      rfl
  | answers applies =>
      refine follows.takes ?_ called applies (Finished.finish rfl)
      rw [holds_finish, holds]

/-- What is known of a process from its place. -/
theorem at_place (follows : Follows initial slot timeline status) (here : slot.place process = place) :
    Matched slot.disk (slot.committed process) place (status process) :=
  here ▸ follows.matched process

theorem called_reads (reads : operation.reads = true) (record : Option Bytes) :
    operation.method.apply record = (record, .record record) ∧
      ∀ current, (operation.settle current : Place N) = operation.finish (.ok (.record current)) := by
  obtain ⟨options, method⟩ := operation
  cases method with
  | read => exact ⟨rfl, fun _ => rfl⟩
  | replace | repair | replaceIf | removeIfMatches | removeIf => cases reads

/-- Opening the record is when a lock-free read takes effect. -/
theorem openRecord (follows : Follows initial slot timeline status) (called : status process = .called operation)
    (holds : (slot.place process).holds = !operation.reads) :
    ∃ timeline status, Follows initial (slot.openRecord process operation) timeline status := by
  unfold Slot.openRecord
  cases record : slot.disk.record with
  | none =>
      have missing : slot.disk.value = none := by rw [Disk.value, record]; rfl
      have settled := follows.settled called holds
      rw [missing] at settled
      exact settled
  | some inode =>
      have value : slot.disk.value = some (slot.disk.files inode) := by rw [Disk.value, record]; rfl
      have lasting := follows.tidy.lasting record
      cases reads : operation.reads with
      | true =>
          refine follows.takes ?_ called (called_reads (N := N) reads _).1 ⟨lasting, rfl, Nat.zero_le _, ?_⟩
          · rw [holds]
            rfl
          · rw [if_pos reads, value]
      | false =>
          refine ⟨timeline, status, follows.quiet ?_ ⟨lasting, rfl, Nat.zero_le _, ?_⟩⟩
          · rw [holds]
            rfl
          · rw [if_neg (by simp [reads])]
            exact ⟨called, record⟩

/-- The end of reading the record. -/
theorem eof (follows : Follows initial slot timeline status) {inode : Nat} {got : Bytes}
    (here : slot.place process = .reading operation inode got)
    (ended : ((slot.disk.files inode).drop got.length).take (operation.cap - got.length) = []) :
    ∃ timeline status, Follows initial (slot.move process (operation.conclude got)) timeline status := by
  obtain ⟨lasting, begins, within, known⟩ := follows.at_place here
  have holds : (slot.place process).holds = !operation.reads := by rw [here]; rfl
  rw [read_end begins within ended]
  cases reads : operation.reads with
  | true =>
      rw [if_pos reads] at known
      rcases conclude_take (N := N) operation (slot.disk.files inode) with whole | ⟨error, long⟩
      · rw [whole, (called_reads reads none).2]
        refine ⟨timeline, status, follows.quiet ?_ (Finished.finish known)⟩
        rw [holds_finish, holds]
      · rw [long]
        refine ⟨timeline, status, follows.quiet ?_ (Finished.finish (.inr ⟨_, known, .inl reads, .inl reads⟩))⟩
        rw [holds_finish, holds]
  | false =>
      rw [if_neg (by simp [reads])] at known
      obtain ⟨called, record⟩ := known
      have value : slot.disk.value = some (slot.disk.files inode) := by rw [Disk.value, record]; rfl
      rcases conclude_take (N := N) operation (slot.disk.files inode) with whole | ⟨error, long⟩
      · rw [whole, ← value]
        exact follows.settled called holds
      · rw [long]
        refine ⟨timeline, status, follows.quiet ?_ (Finished.finish (.inl called))⟩
        rw [holds_finish, holds]

theorem call (follows : Follows initial slot timeline status) (here : slot.place process = .idle) :
    ∃ timeline status, Follows initial
      ((slot.move process (.entered operation)).observe process (.call operation)) timeline status := by
  have idle : status process = .idle := follows.at_place here
  refine ⟨timeline ++ [(process, .call operation)], Function.update status process (.called operation),
    follows.stepped rfl (follows.timed.call idle) ?_ follows.tidy (.refl _) (.inl rfl) ?_
    (fun _ _ => .rfl) (fun _ _ => rfl) (fun _ apart => Function.update_of_ne apart _ _) ?_⟩
  · rw [visible_append, follows.seen]
    rfl
  · have free := follows.holder process
    rw [here] at free
    exact free
  · rw [Function.update_self]
    rfl

theorem lock (follows : Follows initial slot timeline status) (here : slot.place process = .entered operation)
    (locks : operation.reads = false) (free : slot.lock = none) :
    Follows initial { slot.move process operation.proceed with lock := some process } timeline status := by
  have called : status process = .called operation := follows.at_place here
  have proceeds : (operation.proceed : Place N).holds = true ∧
      Matched slot.disk (slot.committed process) operation.proceed (status process) := by
    obtain ⟨options, method⟩ := operation
    cases method with
    | replace contents => exact ⟨rfl, called, rfl, rfl⟩
    | repair | replaceIf | removeIfMatches | removeIf => exact ⟨rfl, called, rfl⟩
    | read => cases locks
  refine follows.stepped rfl follows.timed follows.seen follows.tidy (.refl _) (.inl rfl) (iff_of_true proceeds.1 rfl)
    (fun other apart => ?_) (fun _ _ => rfl) (fun _ _ => rfl) proceeds.2
  rw [free]
  exact iff_of_false (fun same => apart (Option.some.inj same).symm) nofun

theorem return_ (follows : Follows initial slot timeline status) {result : Except IoError Answer}
    (here : slot.place process = .returning operation result) :
    ∃ timeline status, Follows initial ((slot.move process .finished).observe process (.return result)) timeline status := by
  have finished : Finished (slot.committed process) operation result (status process) := follows.at_place here
  have free : (Place.finished : Place N).holds = true ↔ slot.lock = some process := by
    have free := follows.holder process
    rw [here] at free
    exact free
  -- Whatever the timeline says, the return is seen and the process has finished.
  have returns {status' : Status Operation Answer IoError}
      (timed : Timeline register initial (timeline ++ [(process, .return result)]) slot.disk.value
        (Function.update status process status'))
      (gone : Matched slot.disk (slot.committed process) .finished status') :
      ∃ timeline status,
        Follows initial ((slot.move process .finished).observe process (.return result)) timeline status := by
    refine ⟨_, _, follows.stepped rfl timed ?_ follows.tidy (.refl _) (.inl rfl) free (fun _ _ => .rfl) (fun _ _ => rfl)
      (fun _ apart => Function.update_of_ne apart _ _) ?_⟩
    · rw [visible_append, follows.seen]
      rfl
    · rw [Function.update_self]
      exact gone
  cases result with
  | ok answer => exact returns (follows.timed.answer finished) ⟨_, _, _, rfl, nofun⟩
  | error error =>
      rcases finished with called | ⟨answer, applied, doubtful, known⟩
      · exact returns (follows.timed.fail called) ⟨_, _, _, rfl, fun _ _ => .inl rfl⟩
      · exact returns (follows.timed.doubt applied doubtful) ⟨_, _, _, rfl, fun _ _ => .inr known⟩

theorem fail (follows : Follows initial slot timeline status) {error : IoError}
    (failed : (slot.place process).fail error = some place) :
    Follows initial (slot.move process place) timeline status := by
  have known := (follows.matched process).fail failed
  exact follows.quiet known.1 known.2

theorem unlock (follows : Follows initial slot timeline status) {result : Except IoError Answer}
    (here : slot.place process = .leaving operation result) :
    Follows initial { slot.move process (.returning operation result) with lock := none } timeline status := by
  have held : slot.lock = some process := (follows.holder process).mp (by rw [here]; rfl)
  have finished : Finished (slot.committed process) operation result (status process) := follows.at_place here
  refine follows.stepped rfl follows.timed follows.seen follows.tidy (.refl _) (.inl rfl) (iff_of_false nofun nofun)
    (fun other apart => ?_) (fun _ _ => rfl) (fun _ _ => rfl) finished
  rw [held]
  exact iff_of_false nofun fun same => apart (Option.some.inj same).symm

theorem crash (follows : Follows initial slot timeline status) (begun : slot.place process ≠ .idle)
    (going : slot.place process ≠ .finished) :
    Follows initial { slot.move process .crashed with
      lock := if slot.lock = some process then none else slot.lock } timeline status := by
  refine follows.stepped rfl follows.timed follows.seen follows.tidy (.refl _) (.inl rfl) ?_ (fun other apart => ?_)
    (fun _ _ => rfl) (fun _ _ => rfl) ((follows.matched process).underway begun going)
  · refine iff_of_false nofun fun held => ?_
    dsimp only at held
    split at held
    · cases held
    · contradiction
  · dsimp only
    split
    · rename_i held
      rw [held]
      exact iff_of_false nofun fun same => apart (Option.some.inj same).symm
    · rfl

variable {publishing : Publishing} {name : N} {inode : Nat}

/-- A step on the disk that leaves the record as it is. -/
theorem touches (follows : Follows initial slot timeline status) {disk : Disk N} (tidy : disk.Tidy)
    (keeps : slot.disk.Keeps disk) (same : disk.record = slot.disk.record)
    (held : (slot.place process).holds = true) (holds : place.holds = true)
    (here : disk.value = slot.disk.value → Matched disk (slot.committed process) place (status process)) :
    Follows initial { slot.move process place with disk } timeline status := by
  have value : disk.value = slot.disk.value := keeps.value follows.tidy same
  refine follows.stepped rfl ?_ follows.seen tidy keeps (.inr held) ?_ (fun _ _ => .rfl) (fun _ _ => rfl)
    (fun _ _ => rfl) (here value)
  · rw [value]
    exact follows.timed
  · exact iff_of_true holds ((follows.holder process).mp held)

theorem write (follows : Follows initial slot timeline status) {written count : Nat}
    (here : slot.place process = .writing publishing name inode written) :
    Follows initial { slot.move process (.writing publishing name inode (written + count)) with
      disk := slot.disk.write inode ((publishing.contents.drop written).take count) } timeline status := by
  obtain ⟨called, due, named, holds⟩ := follows.at_place here
  refine follows.touches (follows.tidy.write _ _) (.write named _) rfl (by rw [here]; rfl) rfl fun value => ?_
  refine ⟨called, value ▸ due, named, ?_⟩
  rw [List.take_add, ← holds]
  exact Function.update_self ..

/-- A step at which an operation changes the record. -/
theorem commits (follows : Follows initial slot timeline status) {disk : Disk N} (tidy : disk.Tidy)
    (keeps : slot.disk.Keeps disk) (held : (slot.place process).holds = true) (holds : place.holds = true)
    (called : status process = .called operation)
    (applies : operation.method.apply slot.disk.value = (disk.value, answer))
    (here : Matched disk true place (.applied operation answer)) :
    ∃ timeline status, Follows initial { (slot.move process place).commit process with disk } timeline status := by
  refine ⟨_, _, follows.stepped rfl (follows.timed.takes called applies) ?_ tidy keeps (.inr held) ?_ (fun _ _ => .rfl)
    (fun _ apart => Function.update_of_ne apart _ _) (fun _ apart => Function.update_of_ne apart _ _) ?_⟩
  · rw [visible_append, follows.seen]
    exact List.append_nil _
  · exact iff_of_true holds ((follows.holder process).mp held)
  · dsimp only [Slot.commit]
    rw [Function.update_self, Function.update_self]
    exact here

theorem unlink (follows : Follows initial slot timeline status) (here : slot.place process = .removing operation answer) :
    ∃ timeline status, Follows initial
      { (slot.move process (.leaving operation (.ok answer))).commit process with disk := slot.disk.unlink }
      timeline status := by
  obtain ⟨called, applies⟩ := follows.at_place here
  exact follows.commits follows.tidy.unlink (.unlink _) (by rw [here]; rfl) rfl called applies rfl

variable [DecidableEq N]

theorem create (follows : Follows initial slot timeline status) (here : slot.place process = .creating publishing) :
    Follows initial { slot.move process (.writing publishing name slot.disk.fresh 0) with
      disk := slot.disk.create name } timeline status := by
  obtain ⟨called, due⟩ := follows.at_place here
  refine follows.touches (follows.tidy.create name) (.create _ _) rfl (by rw [here]; rfl) rfl fun value => ?_
  refine ⟨called, value ▸ due, ?_, ?_⟩
  · exact Function.update_self ..
  · exact (Function.update_self ..).trans (List.take_zero ..).symm

theorem dropTemporary (follows : Follows initial slot timeline status) {result : Except IoError Answer} (removed : Bool)
    (here : slot.place process = .dropping operation name result) :
    Follows initial { slot.move process (.leaving operation result) with
      disk := if removed then slot.disk.removeTemporary name else slot.disk } timeline status := by
  have finished : Finished (slot.committed process) operation result (status process) := follows.at_place here
  have held : (slot.place process).holds = true := by rw [here]; rfl
  cases removed with
  | true => exact follows.touches (follows.tidy.removeTemporary name) (.removeTemporary _ _) rfl held rfl fun _ => finished
  | false => exact follows.touches follows.tidy (.refl _) rfl held rfl fun _ => finished

theorem rename (follows : Follows initial slot timeline status) (here : slot.place process = .synced publishing name)
    (named : slot.disk.temporary name = some inode) :
    ∃ timeline status, Follows initial
      { (slot.move process (.renamed publishing.operation publishing.answer name)).commit process with
        disk := slot.disk.rename name inode } timeline status := by
  obtain ⟨called, due, own, same, holds⟩ := follows.at_place here
  cases named.symm.trans same
  refine follows.commits (follows.tidy.rename named) (.rename _ _ _) (by rw [here]; rfl) rfl called ?_
    ⟨rfl, due.published, rfl⟩
  rw [due.applies, ← holds]
  rfl

theorem step (follows : Follows initial slot timeline status) {label : Label N}
    (taken : slot.step (process, label) = some next) : ∃ timeline status, Follows initial next timeline status := by
  cases label with
  | call operation =>
      simp only [Slot.step] at taken
      split at taken <;> cases taken
      exact follows.call ‹_›
  | lock =>
      simp only [Slot.step] at taken
      split at taken
      · split at taken <;> cases taken
        rename_i here free
        simp only [ne_eq, not_or, Bool.not_eq_true, Decidable.not_not] at free
        exact ⟨_, _, follows.lock here free.1 free.2⟩
      · cases taken
  | «open» =>
      simp only [Slot.step] at taken
      split at taken
      · split at taken <;> cases taken
        rename_i here reads
        refine follows.openRecord (follows.at_place here) ?_
        rw [here, reads]
        rfl
      · cases taken
        rename_i here
        obtain ⟨called, locks⟩ := follows.at_place here
        refine follows.openRecord called ?_
        rw [here, locks]
        rfl
      · cases taken
  | read count =>
      simp only [Slot.step] at taken
      split at taken
      · split at taken <;> cases taken
        rename_i here _
        obtain ⟨lasting, begins, within, known⟩ := follows.at_place here
        obtain ⟨begins', within'⟩ := read_take count begins within
        refine ⟨_, _, follows.quiet ?_ ⟨lasting, begins', within', known⟩⟩
        rw [here]
        rfl
      · cases taken
  | eof =>
      simp only [Slot.step] at taken
      split at taken
      · split at taken <;> cases taken
        exact follows.eof ‹_› ‹_›
      · cases taken
  | create name =>
      simp only [Slot.step] at taken
      split at taken
      · split at taken <;> cases taken
        · exact ⟨_, _, follows⟩
        · exact ⟨_, _, follows.create ‹_›⟩
      · cases taken
  | write count =>
      simp only [Slot.step] at taken
      split at taken
      · split at taken <;> cases taken
        exact ⟨_, _, follows.write ‹_›⟩
      · cases taken
  | sync =>
      simp only [Slot.step] at taken
      split at taken
      · split at taken <;> cases taken
        rename_i here whole
        obtain ⟨called, due, named, holds⟩ := follows.at_place here
        rw [whole, List.take_length] at holds
        refine ⟨_, _, follows.quiet ?_ ⟨called, due, _, named, holds⟩⟩
        rw [here]
        rfl
      · cases taken
  | rename =>
      simp only [Slot.step] at taken
      split at taken
      · split at taken <;> cases taken
        exact follows.rename ‹_› ‹_›
      · cases taken
  | renamed =>
      simp only [Slot.step] at taken
      split at taken <;> cases taken
      rename_i here
      refine ⟨_, _, follows.quiet ?_ (follows.at_place here).1⟩
      rw [here]
      rfl
  | unlink =>
      simp only [Slot.step] at taken
      split at taken
      · split at taken <;> cases taken
        exact follows.unlink ‹_›
      · cases taken
  | dropTemporary removed =>
      simp only [Slot.step] at taken
      split at taken <;> cases taken
      exact ⟨_, _, follows.dropTemporary removed ‹_›⟩
  | unlock =>
      simp only [Slot.step] at taken
      split at taken <;> cases taken
      exact ⟨_, _, follows.unlock ‹_›⟩
  | «return» =>
      simp only [Slot.step] at taken
      split at taken <;> cases taken
      exact follows.return_ ‹_›
  | fail error =>
      simp only [Slot.step, Option.map_eq_some_iff] at taken
      obtain ⟨place, failed, rfl⟩ := taken
      exact ⟨_, _, follows.fail failed⟩
  | crash =>
      simp only [Slot.step] at taken
      split at taken <;> cases taken
      rename_i begun going _
      exact ⟨_, _, follows.crash begun going⟩

end Follows

variable [DecidableEq C]

theorem follows_new (initial : Option Bytes) :
    Follows initial (Slot.new initial : Slot C N) [] fun _ => .idle where
  timed := by
    have value : (Slot.new initial : Slot C N).disk.value = initial := by cases initial <;> rfl
    rw [value]
    exact .start
  seen := rfl
  tidy := by
    refine ⟨fun inode record => ?_, nofun, nofun, nofun⟩
    obtain ⟨_, -, rfl⟩ := Option.map_eq_some_iff.mp record
    exact Nat.zero_lt_one
  holder _ := iff_of_false nofun nofun
  matched _ := rfl

variable [DecidableEq N]

/-- Whatever happens to a slot is a timeline of one optional record, as its callers see it; and an
operation that fails before its rename or unlink took no effect, unless it only reads. -/
theorem slot_linearizable {initial : Option Bytes} {slot : Slot C N}
    (reached : Path Slot.step Any (.new initial) slot) :
    ∃ timeline status, Timeline register initial timeline slot.disk.value status ∧
      visible timeline = slot.history ∧
      ∀ process operation effect error, status process = .returned operation effect (.error error) →
        slot.committed process = false → effect = none ∨ operation.reads = true := by
  have simulated : ∃ timeline status, Follows initial slot timeline status := by
    refine Path.invariant (I := fun slot => ∃ timeline status, Follows initial slot timeline status)
      (fun _ label _ simulated _ stepped => ?_) reached ⟨_, _, follows_new initial⟩
    obtain ⟨_, _, follows⟩ := simulated
    exact follows.step stepped
  obtain ⟨timeline, status, follows⟩ := simulated
  refine ⟨timeline, status, follows.timed, follows.seen, fun process operation effect error returned early => ?_⟩
  have matched := follows.matched process
  rw [returned, early] at matched
  have gone : slot.place process = .finished := by
    by_contra going
    have underway := matched.underway (fun idle => by rw [idle] at matched; cases matched) going
    rcases underway with ⟨_, other⟩ | ⟨_, _, other⟩ <;> cases other
  rw [gone] at matched
  obtain ⟨_, _, _, same, known⟩ := matched
  cases same
  simpa using known error rfl

end

/-- A reader that opened the record before a publication renames over it. -/
def overtakenRead : List (Fin 2 × Label Unit) :=
  [(0, .call ⟨{}, .replace [7, 8]⟩), (1, .call ⟨{}, .read⟩), (0, .lock), (0, .create ()), (0, .write 1), (1, .open),
    (0, .write 1), (0, .sync), (0, .rename), (1, .read 4), (1, .eof), (1, .return), (0, .renamed),
    (0, .dropTemporary false), (0, .unlock), (0, .return)]

theorem overtaken_read_linearizable : ∃ slot : Slot (Fin 2) Unit,
    replay Slot.step overtakenRead (.new (some [5])) = some slot ∧ slot.disk.value = some [7, 8] ∧
    slot.history = [(0, .call ⟨{}, .replace [7, 8]⟩), (1, .call ⟨{}, .read⟩),
      (1, .return (.ok (.record (some [5])))), (0, .return (.ok .done))] ∧
    ∃ timeline status, Timeline register (some [5]) timeline slot.disk.value status ∧
      visible timeline = slot.history := by
  obtain ⟨slot, replayed⟩ : ∃ slot, replay Slot.step overtakenRead (.new (some [5])) = some slot := ⟨_, rfl⟩
  obtain ⟨timeline, status, timed, seen, -⟩ := slot_linearizable (path_of_replay overtakenRead replayed)
  refine ⟨slot, replayed, ?_, ?_, timeline, status, timed, seen⟩ <;> cases replayed
  · rfl
  · rfl

end KunobiDaemon.Publication
