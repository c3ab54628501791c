import KunobiDaemon.Errors
import KunobiDaemon.Peer
import KunobiDaemon.Process.Kernel
import Mathlib.Data.Bool.Basic

/-! How each platform reports the exit of a process, and what is asked where none does.

A wait is a loop around one system call. `round` is what the loop makes of a reply: it returns, or
goes round again. What the operating system promises about its replies is `told` and `opens`.
-/

set_option autoImplicit false

namespace KunobiDaemon.Process

/-- What opening a process found. -/
inductive Opened where
  | watching
  | gone
  | unsupported
  deriving DecidableEq, Repr

/-- `libc::pid_t::MAX` -/
def PID_MAX : UInt32 := 2147483647

/-- Whole milliseconds from `now` to `deadline`, rounded up. -/
def millisUntil (deadline now : Instant) : Nat := (deadline - now + 999_999) / 1_000_000

/-- What a platform offers to wait for an exit. -/
structure Sys where
  Opening : Type
  Reply : Type
  opened : UInt32 → Opening → Except IoError Opened
  round : Option Instant → Reply → Instant → Option (Except IoError Bool)
  /-- The opening call, where the PID is held by a process in this phase. -/
  opens : Option Phase → Opening → Bool
  /-- The reply at `now` to a wait that began at `asked`, about a process that has exited or not. -/
  told : (exited : Bool) → (deadline : Option Instant) → (asked now : Instant) → Reply → Bool

/-- The wait ends with the truth, and with no exit only once the deadline has passed. -/
structure Sys.Lawful (sys : Sys) : Prop where
  watching : ∀ {pid phase opening}, sys.opens phase opening = true → sys.opened pid opening = .ok .watching →
    phase.isSome = true
  gone : ∀ {pid phase opening}, sys.opens phase opening = true → sys.opened pid opening = .ok .gone →
    phase ≠ some .running
  round : ∀ {exited deadline asked now reply result}, sys.told exited deadline asked now reply = true →
    sys.round deadline reply now = some (.ok result) →
    result = exited ∧ (result = false → ∃ time, deadline = some time ∧ time ≤ now)

/-- A deadline that is there and has passed. -/
def passed (deadline : Option Instant) (now : Instant) : Bool := deadline.any (· ≤ now)

theorem passed_eq_true {deadline : Option Instant} {now : Instant} :
    passed deadline now = true ↔ ∃ time, deadline = some time ∧ time ≤ now := by
  cases deadline <;> simp [passed]

/-! ## Linux and Android -/

namespace Pidfd

def EPERM : Int32 := 1
def ESRCH : Int32 := 3
def ENOSYS : Int32 := 38

def POLLIN : UInt16 := 1
def POLLERR : UInt16 := 8
def POLLHUP : UInt16 := 16
def POLLNVAL : UInt16 := 32

/-- What a failed `pidfd_open` says about the process. -/
def openedAfter (error : IoError) : Except IoError Opened :=
  if error.rawOsError = some ESRCH then .ok .gone
  else if error.rawOsError = some ENOSYS || error.rawOsError = some EPERM then .ok .unsupported
  else .error error

def openEvent (pid : UInt32) (reply : Except IoError Unit) : Except IoError Opened :=
  if PID_MAX < pid then .error ⟨.invalidInput, .message "invalid input parameter"⟩
  else
    match reply with
    | .error error => openedAfter error
    | .ok () => .ok .watching

/-- `poll`'s timeout argument at `now`: -1 waits without a deadline. -/
def pollTimeout (deadline : Option Instant) (now : Instant) : Int :=
  match deadline with
  | none => -1
  | some deadline => min (millisUntil deadline now) 2147483647

/-- Whether a poll that reported nothing at `now` must poll again. -/
def waitsAgain (deadline : Option Instant) (now : Instant) : Bool := deadline.all (now < ·)

/-- Whether the returned events report an exit. -/
def exitedFrom (revents : UInt16) : Except IoError Bool :=
  if revents &&& POLLERR ≠ 0 || revents &&& POLLNVAL ≠ 0 then
    .error ⟨.other, .message ("polling the pidfd failed with events 0x" ++ String.ofList (Nat.toDigits 16 revents.toNat))⟩
  else .ok (revents &&& POLLIN ≠ 0 || revents &&& POLLHUP ≠ 0)

/-- A round of `wait_readable`. A call that a signal interrupts is made again. -/
def round (deadline : Option Instant) (reply : Except IoError UInt16) (now : Instant) : Option (Except IoError Bool) :=
  match reply with
  | .error error => if error.kind = .interrupted then none else some (.error error)
  | .ok revents => if revents ≠ 0 || !waitsAgain deadline now then some (exitedFrom revents) else none

/-- A pidfd is readable once its process has exited, and poll returns nothing only at its timeout. -/
def told (exited : Bool) (deadline : Option Instant) (asked now : Instant) : Except IoError UInt16 → Bool
  | .error _ => true
  | .ok revents =>
      if revents = 0 then
        !exited && 0 ≤ pollTimeout deadline asked && asked + (pollTimeout deadline asked).toNat * 1_000_000 ≤ now
      else
        (revents &&& POLLERR ≠ 0 || revents &&& POLLNVAL ≠ 0) ||
        exited && (revents &&& POLLIN ≠ 0 || revents &&& POLLHUP ≠ 0)

def opens (phase : Option Phase) : Except IoError Unit → Bool
  | .ok () => phase.isSome
  | .error error => error.rawOsError ≠ some ESRCH || phase.isNone

def sys : Sys where
  Opening := Except IoError Unit
  Reply := Except IoError UInt16
  opened := openEvent
  round := round
  opens := opens
  told := told

theorem not_waitsAgain {deadline : Option Instant} {now : Instant} :
    waitsAgain deadline now = false ↔ passed deadline now = true := by
  cases deadline <;> simp [waitsAgain, passed]

theorem round_eq_ok {exited : Bool} {deadline : Option Instant} {asked now : Instant} {reply : Except IoError UInt16}
    {result : Bool} (told : told exited deadline asked now reply = true)
    (ended : round deadline reply now = some (.ok result)) :
    result = exited ∧ (result = false → passed deadline now = true) := by
  cases reply with
  | error error =>
      simp only [round] at ended
      split at ended <;> cases ended
  | ok revents =>
      by_cases silent : revents = 0
      · subst silent
        have late : waitsAgain deadline now = false ∧ result = false := by simpa [round, exitedFrom] using ended
        have alive : exited = false := by
          simp only [Pidfd.told, if_true, Bool.and_eq_true, Bool.not_eq_true'] at told
          exact told.1.1
        exact ⟨late.2.trans alive.symm, fun _ => not_waitsAgain.mp late.1⟩
      · simp only [Pidfd.told, round, silent, if_false, exitedFrom] at told ended
        simp at told ended
        grind

theorem opened_eq_ok {pid : UInt32} {reply : Except IoError Unit} {found : Opened}
    (opened : openEvent pid reply = .ok found) :
    (reply = .ok () ∧ found = .watching) ∨
    ∃ error, reply = .error error ∧
      (error.rawOsError = some ESRCH ∧ found = .gone ∨ error.rawOsError ≠ some ESRCH ∧ found = .unsupported) := by
  unfold openEvent at opened
  split at opened
  · cases opened
  · split at opened
    · rename_i error
      unfold openedAfter at opened
      split at opened
      · rename_i missing
        cases opened
        exact .inr ⟨error, rfl, .inl ⟨missing, rfl⟩⟩
      · rename_i present
        split at opened
        · cases opened
          exact .inr ⟨error, rfl, .inr ⟨present, rfl⟩⟩
        · cases opened
    · cases opened
      exact .inl ⟨rfl, rfl⟩

theorem lawful : sys.Lawful where
  watching := by
    intro pid phase opening opens opened
    obtain ⟨rfl, -⟩ | ⟨error, rfl, ⟨-, other⟩ | ⟨-, other⟩⟩ := opened_eq_ok opened
    · exact opens
    · cases other
    · cases other
  gone := by
    intro pid phase opening opens opened
    obtain ⟨-, other⟩ | ⟨error, rfl, ⟨missing, -⟩ | ⟨-, other⟩⟩ := opened_eq_ok opened
    · cases other
    · have free : phase.isNone = true := by simpa [sys, Pidfd.opens, missing] using opens
      rw [Option.isNone_iff_eq_none.mp free]
      decide
    · cases other
  round := by
    intro exited deadline asked now reply result told ended
    exact (round_eq_ok told ended).imp id fun late alive => passed_eq_true.mp (late alive)

end Pidfd

/-! ## macOS and the BSDs -/

namespace Kqueue

def EPERM : Int32 := 1
def ESRCH : Int32 := 3
def EACCES : Int32 := 13

def EV_ERROR : UInt16 := 0x4000
def NOTE_EXIT : UInt32 := 0x80000000

/-- The fields of a `kevent` that are read. -/
structure KEvent where
  flags : UInt16
  fflags : UInt32
  data : Int32
  deriving DecidableEq, Repr

/-- The replies of `kqueue` and of the `kevent` that registers the filter. -/
def openEvent (pid : UInt32) (reply : Except IoError (Except IoError Unit)) : Except IoError Opened :=
  if PID_MAX < pid then .error ⟨.invalidInput, .message "invalid input parameter"⟩
  else
    match reply with
    | .error error => .error error
    | .ok (.ok ()) => .ok .watching
    | .ok (.error error) =>
        -- An interrupted call still applies every change in the list.
        if error.kind = .interrupted then .ok .watching
        else if error.rawOsError = some ESRCH then .ok .gone
        else if error.rawOsError = some EPERM || error.rawOsError = some EACCES then .ok .unsupported
        else .error error

/-- A round of `next_exit`. -/
def round (deadline : Option Instant) (reply : Except IoError (Option KEvent)) (now : Instant) :
    Option (Except IoError Bool) :=
  match reply with
  | .error error => if error.kind = .interrupted then none else some (.error error)
  | .ok none => if deadline.all (· ≤ now) then some (.ok false) else none
  | .ok (some event) =>
      if event.flags &&& EV_ERROR ≠ 0 then some (.error ⟨.other, .os event.data⟩)
      else if event.fflags &&& NOTE_EXIT ≠ 0 then some (.ok true)
      else none

/-- The filter reports the exit of the process it was attached to. Without a timeout nothing else ends the wait. -/
def told (exited : Bool) (deadline : Option Instant) (_ _ : Instant) : Except IoError (Option KEvent) → Bool
  | .error _ => true
  | .ok none => !exited && deadline.isSome
  | .ok (some event) => event.fflags &&& NOTE_EXIT = 0 || exited

/-- A process that no longer runs is missing; it may be a zombie. -/
def opens (phase : Option Phase) : Except IoError (Except IoError Unit) → Bool
  | .error _ => true
  | .ok (.ok ()) => phase.isSome
  | .ok (.error error) =>
      if error.kind = .interrupted then phase.isSome
      else error.rawOsError ≠ some ESRCH || phase ≠ some .running

def sys : Sys where
  Opening := Except IoError (Except IoError Unit)
  Reply := Except IoError (Option KEvent)
  opened := openEvent
  round := round
  opens := opens
  told := told

theorem lawful : sys.Lawful where
  watching := by
    intro pid phase opening opens opened
    simp only [sys, openEvent, Kqueue.opens] at opens opened
    grind
  gone := by
    intro pid phase opening opens opened
    simp only [sys, openEvent, Kqueue.opens] at opens opened
    grind
  round := by
    intro exited deadline asked now reply result told ended
    rw [← passed_eq_true]
    simp only [sys, Kqueue.round, Kqueue.told, passed] at told ended ⊢
    cases deadline <;> grind

end Kqueue

/-! ## Windows -/

namespace WindowsEvent

def ERROR_INVALID_PARAMETER : Int32 := 87
def INFINITE : UInt32 := 0xFFFFFFFF
def WAIT_OBJECT_0 : UInt32 := 0
def WAIT_TIMEOUT : UInt32 := 258

/-- A PID no process has makes `OpenProcess` fail with `ERROR_INVALID_PARAMETER`. -/
def openedAfter (error : IoError) : Except IoError Opened :=
  if error.rawOsError = some ERROR_INVALID_PARAMETER then .ok .gone else .error error

def openEvent (_ : UInt32) : Except IoError Unit → Except IoError Opened
  | .error error => openedAfter error
  | .ok () => .ok .watching

/-- The timeout argument. Only a wait without a deadline is infinite. -/
def milliseconds (deadline : Option Instant) (now : Instant) : UInt32 :=
  match deadline with
  | none => INFINITE
  | some deadline =>
      if millisUntil deadline now < 2 ^ 32 then min (UInt32.ofNat (millisUntil deadline now)) (INFINITE - 1)
      else INFINITE - 1

/-- A round of `Event::wait`: the code of the wait, with the last error. A wait can time out early. -/
def round (deadline : Option Instant) (reply : UInt32 × IoError) (now : Instant) : Option (Except IoError Bool) :=
  if reply.1 = WAIT_OBJECT_0 then some (.ok true)
  else if reply.1 = WAIT_TIMEOUT then if deadline.all (· ≤ now) then some (.ok false) else none
  else some (.error reply.2)

/-- A process handle is signaled once its process exits, and an infinite wait does not time out. -/
def told (exited : Bool) (deadline : Option Instant) (asked _ : Instant) (reply : UInt32 × IoError) : Bool :=
  if reply.1 = WAIT_OBJECT_0 then exited
  else if reply.1 = WAIT_TIMEOUT then !exited && milliseconds deadline asked ≠ INFINITE
  else true

def opens (phase : Option Phase) : Except IoError Unit → Bool
  | .ok () => phase.isSome
  | .error error => error.rawOsError ≠ some ERROR_INVALID_PARAMETER || phase.isNone

def sys : Sys where
  Opening := Except IoError Unit
  Reply := UInt32 × IoError
  opened := openEvent
  round := round
  opens := opens
  told := told

theorem lawful : sys.Lawful where
  watching := by
    intro pid phase opening opens opened
    simp only [sys, openEvent, openedAfter, WindowsEvent.opens] at opens opened
    grind
  gone := by
    intro pid phase opening opens opened
    simp only [sys, openEvent, openedAfter, WindowsEvent.opens] at opens opened
    grind
  round := by
    intro exited deadline asked now reply result told ended
    rw [← passed_eq_true]
    simp only [sys, WindowsEvent.round, WindowsEvent.told] at told ended
    by_cases signaled : reply.1 = WAIT_OBJECT_0
    · rw [if_pos signaled] at told ended
      cases ended
      exact ⟨told.symm, by simp⟩
    · rw [if_neg signaled] at told ended
      by_cases timed : reply.1 = WAIT_TIMEOUT
      · rw [if_pos timed] at told ended
        simp only [Bool.and_eq_true, Bool.not_eq_true', decide_eq_true_eq] at told
        cases deadline with
        | none => exact absurd rfl told.2
        | some deadline =>
            split at ended
            · rename_i late
              cases ended
              exact ⟨told.1.symm, fun _ => late⟩
            · cases ended
      · rw [if_neg timed] at ended
        cases ended

end WindowsEvent

/-! ## Without an exit event -/

inductive ProcessState where
  | exited
  | alive
  | unknown
  deriving DecidableEq, Repr

/-- `kill(pid, 0)` failed: ESRCH means no such process, EPERM one that this user may not signal. -/
def livenessFromErrno (errno : Option Int32) : ProcessState :=
  if errno = some 3 then .exited else if errno = some 1 then .alive else .unknown

/-- `rsplit_once(") ")`, the part after it. -/
def afterLast : List Char → Option (List Char)
  | [] => none
  | first :: rest =>
      match afterLast rest with
      | some fields => some fields
      | none => if first = ')' && rest.head? = some ' ' then some rest.tail else none

/-- Whether `/proc/<pid>/stat` shows a zombie or a dead process. -/
def statExited (stat : List Char) : Bool :=
  (afterLast stat).any fun fields => ['Z', ' '].isPrefixOf fields || ['X', ' '].isPrefixOf fields

/-- What the kernel writes there. The name of a process is any text, and the rest are numbers. -/
structure Stat where
  pid : List Char
  comm : List Char
  state : Char
  rest : List Char
  deriving DecidableEq, Repr

def Stat.text (stat : Stat) : List Char :=
  stat.pid ++ [' ', '('] ++ stat.comm ++ [')', ' ', stat.state, ' '] ++ stat.rest

/-- The state letter, which is that of the main thread, and fields that hold no parenthesis. -/
def Stat.describes (stat : Stat) (entry : Entry) : Bool :=
  (stat.state = 'Z' || stat.state = 'X') == (entry.exited || entry.mainEnded) &&
    stat.state ≠ ')' && !stat.rest.contains ')'

theorem afterLast_eq_none {text : List Char} (plain : ')' ∉ text) : afterLast text = none := by
  induction text with
  | nil => rfl
  | cons first rest ih =>
      simp only [List.mem_cons, not_or] at plain
      simp [afterLast, ih plain.2, Ne.symm plain.1]

theorem afterLast_append {text fields : List Char} (found : afterLast text = some fields) (before : List Char) :
    afterLast (before ++ text) = some fields := by
  induction before with
  | nil => exact found
  | cons first rest ih => simp [afterLast, ih]

/-- The name of a process cannot pass for its state, whatever it is. -/
theorem statExited_text {stat : Stat} {entry : Entry} (describes : stat.describes entry = true) :
    statExited stat.text = (entry.exited || entry.mainEnded) := by
  simp only [Stat.describes, Bool.and_eq_true, beq_iff_eq, decide_eq_true_eq, Bool.not_eq_true', List.contains_eq_mem,
    decide_eq_false_iff_not] at describes
  obtain ⟨⟨letter, plain⟩, numbers⟩ := describes
  have last : afterLast (' ' :: stat.state :: ' ' :: stat.rest) = none := by
    apply afterLast_eq_none
    simp [Ne.symm plain, numbers]
  have fields : afterLast ([')', ' ', stat.state, ' '] ++ stat.rest) = some (stat.state :: ' ' :: stat.rest) := by
    rw [List.cons_append, afterLast]
    simp only [List.cons_append, List.nil_append, last]
    rfl
  have found : afterLast stat.text = some (stat.state :: ' ' :: stat.rest) := by
    rw [Stat.text, List.append_assoc]
    exact afterLast_append fields _
  simp only [statExited, found, Option.any_some, List.isPrefixOf, Bool.and_true, BEq.rfl, ← letter]
  grind

/-- `signal_state`, as far as `/proc` decides it. Only Linux has it. -/
def signalStat (linux : Bool) (pid : UInt32) (stat : Option (List Char)) : Option ProcessState :=
  if pid = 0 || PID_MAX < pid then some .unknown
  else if linux && stat.any statExited then some .exited
  else none

theorem signalStat_eq_exited {linux : Bool} {pid : UInt32} {found : Option Stat}
    (decided : signalStat linux pid (found.map Stat.text) = some .exited) :
    linux = true ∧ ∃ stat, found = some stat ∧ statExited stat.text = true := by
  unfold signalStat at decided
  split at decided
  · cases decided
  · split at decided
    · rename_i shown
      rw [Bool.and_eq_true] at shown
      cases found with
      | none => simp at shown
      | some stat => exact ⟨shown.1, stat, rfl, shown.2⟩
    · cases decided

/-- `signal_state`, as `kill(pid, 0)` decides it: success, or an errno. -/
def signalKill : Option Int32 → ProcessState
  | none => .alive
  | some errno => livenessFromErrno (some errno)

/-- An error where the OS did not say. -/
def pidExited : ProcessState → Except IoError Bool
  | .exited => .ok true
  | .alive => .ok false
  | .unknown => .error ⟨.other, .message "the OS did not say whether the process exited"⟩

end KunobiDaemon.Process
