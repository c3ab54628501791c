import KunobiDaemon.Lib.Interference
import KunobiDaemon.Observation.Sharing

/-! What every function of the observations does to the account of the party that calls it. -/

set_option autoImplicit false

namespace KunobiDaemon.Observation

open Lib.Dialogues Lib.Interference

/-- The operations that an account is ready for. -/
def Account.Permits (account : Account) : Question → Prop
  | .enter _ => account.recording = false
  | .leave => account.recording = true ∧ account.settled = true
  | .tryLock | .lock => account.hold = .none
  | .length | .unlock | .drain => account.hold ≠ .none
  | .pushBack _ => account.hold = .room ∧ account.recording = true ∧ account.settled = false
  | .lostEvents => account.recording = true ∧ account.settled = false
  | .pending direction => account.begun = none ∧ account.last direction = false ∧ account.released direction = false
  | .release direction => account.held direction = true
  | .bytes direction count => count = account.owed direction
  | .call direction _ | .poll direction _ => account.owed direction = 0
  | .connect => account.connected = false
  | .disconnect => account.connected = true ∧ ∀ direction, account.held direction = false
  | .elapsed | .busySince _ _ | .lastProgress _ _ | .errors _ => True

/-- The operations that belong to a role. -/
def Role.Allows (role : Role) : Question → Prop
  | .pending direction | .call direction _ | .poll direction _ => ∃ work, role = .working work ∧ work.direction = direction
  | .connect => role = .creating
  | .disconnect => role = .dropping
  | _ => True

def Role.blocking : Role → Bool
  | .working work => work.blocking
  | .calling | .creating | .dropping => false

/-- A blocking call has nothing left to do once it has released its guard. -/
structure Account.Ready (account : Account) (role : Role) (question : Question) : Prop where
  permits : account.Permits question
  allows : role.Allows question
  guarded : role.blocking = true → ∀ direction, account.released direction = false
  closes : account.closes ≤ 1

/-- One party alone. Its operations are answered in any way. -/
def books (capacity : Nat) (role : Role) : Setting Question.Reply Account where
  answers account question reply after := after = account.after capacity question reply
  others _ _ := False
  able account question := account.Ready role question

section
variable {A : Type} {capacity count : Nat} {role : Role} {account : Account} {post : A → Account → Prop}

theorem ask_safe {question : Question} {next : question.Reply → Doing A} (ready : account.Ready role question)
    (goes : ∀ reply, Safe (books capacity role) post count (next reply) (account.after capacity question reply)) :
    Safe (books capacity role) post (count + 1) (.ask question next) account :=
  .ask_alone (fun _ _ => id) ready fun reply _ answered => answered ▸ goes reply

/-- What a call keeps all along. -/
structure Account.Quiet (account : Account) (role : Role) : Prop where
  guarded : role.blocking = true → ∀ direction, account.released direction = false
  closes : account.closes ≤ 1

theorem enqueue_safe {event : Event} (quiet : account.Quiet role) (recording : account.recording = true)
    (unsettled : account.settled = false) (hold : account.hold = .none) :
    Safe (books capacity role) (fun _ after => after = { account with settled := true }) 5 (enqueue capacity event)
      account := by
  obtain ⟨connected, last, begun, released, _, _, _, closes, owed⟩ := account
  subst recording unsettled hold
  obtain ⟨guarded, closes⟩ := quiet
  refine ask_safe ⟨rfl, trivial, guarded, closes⟩ fun locked => ?_
  cases locked with
  | false => exact ask_safe ⟨⟨rfl, rfl⟩, trivial, guarded, closes⟩ fun _ => .done rfl
  | true =>
      refine ask_safe ⟨(by simp [Account.Permits, Account.after, Hold.tried]), trivial, guarded, closes⟩
        fun (length : Nat) => ?_
      by_cases room : length < capacity
      · simp only [Account.after, Hold.seen, room, ↓reduceIte]
        refine ask_safe ⟨trivial, trivial, guarded, closes⟩ fun _ => ?_
        refine ask_safe ⟨⟨rfl, rfl, rfl⟩, trivial, guarded, closes⟩ fun _ => ?_
        exact ask_safe ⟨(by simp [Account.Permits, Account.after]), trivial, guarded, closes⟩ fun _ => .done rfl
      · simp only [Account.after, Hold.seen, room, ↓reduceIte]
        refine ask_safe ⟨(by simp [Account.Permits]), trivial, guarded, closes⟩ fun _ => ?_
        exact ask_safe ⟨⟨rfl, rfl⟩, trivial, guarded, closes⟩ fun _ => .done rfl

/-- The account after a call of `record`. -/
def Account.recorded (account : Account) (event : Event) : Account :=
  { account with settled := true, closes := account.closes + if event = .readClosed then 1 else 0 }

/-- `record` leaves the account as it was, but for the events it is there to count. -/
theorem record_safe {event : Event} (quiet : account.Quiet role) (recording : account.recording = false)
    (hold : account.hold = .none) (few : (account.recorded event).closes ≤ 1) :
    Safe (books capacity role) (fun _ after => after = account.recorded event) 7 (record capacity event) account := by
  refine ask_safe ⟨recording, trivial, quiet.guarded, quiet.closes⟩ fun _ => ?_
  change Safe _ _ (1 + 5) _ _
  refine Safe.bind ?_
  have leaves : ∀ inside : Account, inside = { account.recorded event with recording := true } →
      Safe (books capacity role) (fun _ after => after = account.recorded event) 1 (.ask .leave fun _ => .done ())
        inside := by
    rintro _ rfl
    refine ask_safe ⟨⟨rfl, rfl⟩, trivial, quiet.guarded, few⟩ fun _ => .done ?_
    simp [Account.after, Account.recorded, recording]
  by_cases none : capacity = 0
  · rw [if_pos none]
    refine .done (leaves _ ?_)
    simp [Account.after, Account.recorded, none]
  · rw [if_neg none]
    have unsettled : (account.after capacity (.enter event) ()).settled = false := by simp [Account.after, none]
    have entered : (account.after capacity (.enter event) ()).Quiet role := ⟨quiet.guarded, few⟩
    refine (enqueue_safe entered rfl unsettled hold).mono ?_ (Nat.le_refl 5)
    rintro _ after rfl
    exact leaves _ rfl

theorem takeEvents_safe (quiet : account.Quiet role) (hold : account.hold = .none) :
    Safe (books capacity role) (fun _ after => after = account) 3 takeEvents account := by
  refine ask_safe ⟨hold, trivial, quiet.guarded, quiet.closes⟩ fun _ => ?_
  refine ask_safe ⟨(by simp [Account.Permits, Account.after]), trivial, quiet.guarded, quiet.closes⟩ fun _ => ?_
  refine ask_safe ⟨(by simp [Account.Permits, Account.after]), trivial, quiet.guarded, quiet.closes⟩ fun _ => .done ?_
  simp [Account.after, ← hold]

theorem start_safe {work : Work} (working : role = .working work) (quiet : account.Quiet role) (begun : account.begun = none)
    (last : account.last work.direction = false) (released : account.released work.direction = false) :
    Safe (books capacity role) (fun _ after => after = { account with begun := some work.direction }) 3
      (start work.direction) account := by
  refine ask_safe ⟨⟨begun, last, released⟩, ⟨work, working, rfl⟩, quiet.guarded, quiet.closes⟩ fun first => ?_
  cases first with
  | false => exact .done rfl
  | true =>
      refine ask_safe ⟨trivial, trivial, quiet.guarded, quiet.closes⟩ fun _ => ?_
      exact ask_safe ⟨trivial, trivial, quiet.guarded, quiet.closes⟩ fun _ => .done rfl

/-- What a report leaves of an account. -/
def Account.Reported (account : Account) (direction : Direction) (after : Account) : Prop :=
  ∃ settled, after = { account with settled, owed := Function.update account.owed direction 0 }

theorem transferred_safe {direction : Direction} {bytes : Nat} (quiet : account.Quiet role)
    (owed : bytes = account.owed direction) :
    Safe (books capacity role) (fun _ after => account.Reported direction after) 3 (transferred direction bytes) account := by
  unfold transferred
  split
  · rename_i none
    refine .done ⟨account.settled, ?_⟩
    rw [Function.update_eq_self_iff.mpr (none.symm.trans owed)]
  · refine ask_safe ⟨owed, trivial, quiet.guarded, quiet.closes⟩ fun _ => ?_
    refine ask_safe ⟨trivial, trivial, quiet.guarded, quiet.closes⟩ fun _ => ?_
    refine ask_safe ⟨trivial, trivial, quiet.guarded, quiet.closes⟩ fun _ => .done ⟨account.settled, ?_⟩
    simp [Account.after, owed]

theorem failed_safe {direction : Direction} {kind : ErrorKind} (quiet : account.Quiet role)
    (recording : account.recording = false) (hold : account.hold = .none) (owed : account.owed direction = 0) :
    Safe (books capacity role) (fun _ after => account.Reported direction after) 8 (failed capacity direction kind)
      account := by
  have same : Function.update account.owed direction 0 = account.owed := Function.update_eq_self_iff.mpr owed.symm
  unfold failed
  split
  · exact .done ⟨account.settled, by rw [same]⟩
  · refine ask_safe ⟨trivial, trivial, quiet.guarded, quiet.closes⟩ fun _ => ?_
    refine (record_safe quiet recording hold ?_).mono ?_ (Nat.le_refl 7)
    · simpa [Account.recorded] using quiet.closes
    · rintro _ after rfl
      exact ⟨true, by simp [Account.recorded, same]⟩

/-- An account whose bytes are reported, but for the last event it settled. -/
def Account.Alike (account after : Account) : Prop := ∃ settled, after = { account with settled }

theorem report_safe {direction : Direction} (quiet : account.Quiet role) (recording : account.recording = false)
    (hold : account.hold = .none) (paid : account.owed direction = 0) (outcome : Outcome) :
    Safe (books capacity role) (fun _ after => account.Alike after) 8 (report capacity direction outcome)
      (account.owes (outcome.toOption.map (direction, ·))) := by
  have same : Function.update account.owed direction 0 = account.owed := Function.update_eq_self_iff.mpr paid.symm
  cases outcome with
  | ok count =>
      have owing : (account.owes (some (direction, count))).Quiet role := ⟨quiet.guarded, quiet.closes⟩
      refine (transferred_safe owing (by simp [Account.owes])).mono ?_ (by decide)
      rintro _ after ⟨settled, rfl⟩
      exact ⟨settled, by simp [Account.owes, same]⟩
  | error kind =>
      refine (failed_safe quiet recording hold paid).mono ?_ (Nat.le_refl 8)
      rintro _ after ⟨settled, rfl⟩
      exact ⟨settled, by rw [same]⟩

theorem reportError_safe {direction : Direction} (quiet : account.Quiet role) (recording : account.recording = false)
    (hold : account.hold = .none) (paid : account.owed direction = 0) (outcome : Outcome) :
    Safe (books capacity role) (fun _ after => account.Alike after) 8 (reportError capacity direction outcome) account := by
  have same : Function.update account.owed direction 0 = account.owed := Function.update_eq_self_iff.mpr paid.symm
  cases outcome with
  | ok count => exact .done ⟨account.settled, rfl⟩
  | error kind =>
      refine (failed_safe quiet recording hold paid).mono ?_ (Nat.le_refl 8)
      rintro _ after ⟨settled, rfl⟩
      exact ⟨settled, by rw [same]⟩

end

/-! ## Calls on a wrapper -/

def ObservedIo.closes (io : ObservedIo) : Nat := if io.readClosed then 1 else 0

namespace Wrapper

def io : Wrapper → ObservedIo
  | .blocking io => io
  | .async io => io.io

def pending : Wrapper → Direction → Bool
  | .blocking _, _ => false
  | .async io, direction => io.pending direction

end Wrapper

/-- The account of a wrapper that nobody is using. -/
structure Rested (wrapper : Wrapper) (account : Account) : Prop where
  connected : account.connected = true
  last : ∀ direction, account.last direction = wrapper.pending direction
  begun : account.begun = none
  released : ∀ direction, account.released direction = false
  hold : account.hold = .none
  recording : account.recording = false
  closes : account.closes = wrapper.io.closes
  owed : ∀ direction, account.owed direction = 0

/-- The account of a party that is gone. -/
structure Account.Gone (account : Account) : Prop where
  connected : account.connected = false
  held : ∀ direction, account.held direction = false
  hold : account.hold = .none
  recording : account.recording = false
  closes : account.closes ≤ 1
  owed : ∀ direction, account.owed direction = 0

/-- What a role leaves. -/
def Back (role : Role) : Rest → Account → Prop
  | some (wrapper, pending), after =>
      Rested wrapper (after.returns (role.last after pending)) ∧
        ∀ direction, after.held direction = wrapper.pending direction
  | none, after => after.Gone

section
variable {capacity : Nat} {role : Role} {account : Account} {work : Work} {transfers : Bool}

theorem ObservedIo.closes_le (io : ObservedIo) : io.closes ≤ 1 := by
  unfold closes
  split <;> decide

theorem moved_call (direction : Direction) (outcome : Outcome) :
    moved (.call direction true) outcome = outcome.toOption.map (direction, ·) := by
  cases outcome <;> rfl

theorem moved_poll (direction : Direction) (outcome : Outcome) :
    moved (.poll direction true) (some outcome) = outcome.toOption.map (direction, ·) := by
  cases outcome <;> rfl

theorem Rested.quiet {wrapper : Wrapper} (rested : Rested wrapper account) (role : Role) : account.Quiet role :=
  ⟨fun _ => rested.released, rested.closes ▸ ObservedIo.closes_le _⟩

theorem Rested.held {wrapper : Wrapper} (rested : Rested wrapper account) (direction : Direction) :
    account.held direction = wrapper.pending direction := by
  simp [Account.held, rested.last, rested.begun, rested.released]

/-- A blocking call that reports what the transport returns, and then releases its guard. -/
theorem guarded_safe {io : ObservedIo} {direction : Direction} {report : Outcome → Doing ObservedIo}
    (works : work.direction = direction) (rested : Rested (.blocking io) account)
    (reports : ∀ inside : Account, inside = { account with begun := some direction } → ∀ outcome,
      Safe (books capacity (.working work)) (fun io after => ∃ settled, after = { inside with settled, closes := io.closes }) 8
        (report outcome) (inside.after capacity (.call direction transfers) outcome)) :
    Safe (books capacity (.working work))
      (fun io after => ∃ settled, after = { account with
        begun := some direction
        released := Function.update account.released direction true
        settled
        closes := io.closes }) 13 (ObservedIo.guarded direction transfers report) account := by
  subst works
  have quiet := rested.quiet (.working work)
  change Safe _ _ (10 + 3) _ _
  refine Safe.bind ((start_safe rfl quiet rested.begun (rested.last _) (rested.released _)).mono ?_ (Nat.le_refl 3))
  rintro _ _ rfl
  refine ask_safe ⟨rested.owed _, ⟨work, rfl, rfl⟩, quiet.guarded, quiet.closes⟩ fun outcome => ?_
  change Safe _ _ (1 + 8) _ _
  refine Safe.bind ((reports _ rfl outcome).mono ?_ (Nat.le_refl 8))
  rintro io _ ⟨settled, rfl⟩
  refine ask_safe ⟨?_, trivial, quiet.guarded, io.closes_le⟩ fun _ => .done ⟨settled, rfl⟩
  simp [Account.Permits, Account.held, rested.released]

theorem blocking_back {io : ObservedIo} {direction : Direction} {settled : Bool} (blocking : work.blocking = true)
    (rested : Rested (.blocking io) account) (after : ObservedIo) :
    Back (.working work) (some (.blocking after, false)) { account with
      begun := some direction
      released := Function.update account.released direction true
      settled
      closes := after.closes } := by
  refine ⟨⟨rested.connected, ?_, rfl, fun _ => rfl, rested.hold, rested.recording, rfl, rested.owed⟩, ?_⟩
  · intro direction
    have last : account.last direction = false := rested.last direction
    simp [Account.returns, Role.last, blocking, Wrapper.pending, last]
  · intro other
    have last : account.last other = false := rested.last other
    by_cases same : direction = other
    · subst same
      simp [Account.held, Wrapper.pending]
    · simp [Account.held, Wrapper.pending, last, same]

theorem report_then {A : Type} {post : A → Account → Prop} {program : Doing Unit} {value : A} {before : Account}
    (safe : Safe (books capacity role) (fun _ after => account.Alike after) 8 program before)
    (holds : ∀ settled, post value { account with settled }) :
    Safe (books capacity role) post 8 (program.bind fun _ => .done value) before := by
  change Safe _ _ (0 + 8) _ _
  refine Safe.bind (safe.mono ?_ (Nat.le_refl 8))
  rintro _ _ ⟨settled, rfl⟩
  exact .done (holds settled)

/-- The end of the stream is recorded once. -/
theorem close_safe {A : Type} {post : A → Account → Prop} {value : A} (quiet : account.Quiet role)
    (recording : account.recording = false) (hold : account.hold = .none) (closes : account.closes = 0)
    (holds : post value { account with settled := true, closes := 1 }) :
    Safe (books capacity role) post 8 ((record capacity .readClosed).bind fun _ => .done value) account := by
  change Safe _ _ (1 + 7) _ _
  have once : account.recorded .readClosed = { account with settled := true, closes := 1 } := by
    simp [Account.recorded, closes]
  refine Safe.bind ((record_safe quiet recording hold (by simp [once])).mono ?_ (Nat.le_refl 7))
  rintro _ _ rfl
  rw [once]
  exact .done holds

/-- A blocking call that goes on with what its transport returned. -/
theorem call_safe {io : ObservedIo} {direction : Direction} {report : Outcome → Doing ObservedIo}
    (works : work.direction = direction) (blocking : work.blocking = true) (rested : Rested (.blocking io) account)
    (reports : ∀ inside : Account, inside = { account with begun := some direction } → inside.Quiet (.working work) →
      ∀ outcome, Safe (books capacity (.working work))
        (fun io after => ∃ settled, after = { inside with settled, closes := io.closes }) 8
        (report outcome) (inside.after capacity (.call direction transfers) outcome)) :
    Safe (books capacity (.working work)) (Back (.working work)) 13
      ((ObservedIo.guarded direction transfers report).bind fun io => .done (some (.blocking io, false))) account := by
  have quiet := rested.quiet (.working work)
  change Safe _ _ (0 + 13) _ _
  refine Safe.bind ((guarded_safe works rested ?_).mono ?_ (Nat.le_refl 13))
  · rintro inside rfl
    exact reports _ rfl ⟨quiet.guarded, quiet.closes⟩
  · rintro after _ ⟨settled, rfl⟩
    exact .done (blocking_back blocking rested after)

theorem read_safe {io : ObservedIo} {room : Bool} (rested : Rested (.blocking io) account) :
    Safe (books capacity (.working (.read room))) (Back (.working (.read room))) 13
      ((io.read capacity room).bind fun io => .done (some (.blocking io, false))) account := by
  refine call_safe rfl rfl rested ?_
  rintro inside rfl quiet outcome
  simp only [Account.after, moved_call]
  split
  · rename_i closed
    obtain ⟨nothing, -, first⟩ := closed
    have fresh : io.closes = 0 := by simpa [ObservedIo.closes] using first
    have paid : Function.update account.owed .read 0 = account.owed :=
      Function.update_eq_self_iff.mpr (rested.owed .read).symm
    simp only [nothing, Option.map_some, Account.owes, paid]
    refine close_safe quiet rested.recording rested.hold (rested.closes.trans fresh) ⟨true, ?_⟩
    simp [ObservedIo.closes]
  · refine report_then (report_safe quiet rested.recording rested.hold (rested.owed .read) outcome) fun settled => ⟨settled, ?_⟩
    simp [rested.closes, Wrapper.io]

theorem write_safe {io : ObservedIo} (rested : Rested (.blocking io) account) :
    Safe (books capacity (.working .write)) (Back (.working .write)) 13
      ((io.write capacity).bind fun io => .done (some (.blocking io, false))) account := by
  refine call_safe rfl rfl rested ?_
  rintro inside rfl quiet outcome
  simp only [Account.after, moved_call]
  refine report_then (report_safe quiet rested.recording rested.hold (rested.owed .write) outcome) fun settled => ⟨settled, ?_⟩
  simp [rested.closes, Wrapper.io]

theorem flush_safe {io : ObservedIo} (rested : Rested (.blocking io) account) :
    Safe (books capacity (.working .flush)) (Back (.working .flush)) 13
      ((io.flush capacity).bind fun io => .done (some (.blocking io, false))) account := by
  refine call_safe rfl rfl rested ?_
  rintro inside rfl quiet outcome
  have none : moved (.call .write false) outcome = none := by cases outcome <;> rfl
  simp only [Account.after, none, Account.owes]
  refine report_then (reportError_safe quiet rested.recording rested.hold (rested.owed .write) outcome) fun settled => ⟨settled, ?_⟩
  simp [rested.closes, Wrapper.io]

/-! ## Polls -/

namespace AsyncObservedIo

variable {io : AsyncObservedIo} {direction : Direction} {pending : Bool}

theorem pending_setPending (io : AsyncObservedIo) (direction : Direction) (pending : Bool) :
    (io.setPending direction pending).pending = Function.update io.pending direction pending := by
  funext other
  cases direction <;> cases other <;> rfl

@[simp] theorem io_setPending (io : AsyncObservedIo) (direction : Direction) (pending : Bool) :
    (io.setPending direction pending).io = io.io := by
  cases direction <;> rfl

theorem setPending_same (same : io.pending direction = pending) : io.setPending direction pending = io := by
  subst same
  cases direction <;> rfl

end AsyncObservedIo

/-- A poll counts as pending once it has begun. -/
structure Polling (io : AsyncObservedIo) (direction : Direction) (account after : Account) : Prop where
  connected : after.connected = true
  last : after.last = account.last
  held : ∀ other, after.held other = Function.update io.pending direction true other
  released : ∀ other, after.released other = false
  hold : after.hold = .none
  recording : after.recording = false
  closes : after.closes = io.io.closes
  owed : ∀ other, after.owed other = 0

theorem begin_safe {io : AsyncObservedIo} {direction : Direction} (works : work.direction = direction)
    (rested : Rested (.async io) account) :
    Safe (books capacity (.working work))
      (fun found after => found = io.setPending direction true ∧ Polling io direction account after) 3
      (io.begin direction) account := by
  subst works
  have quiet := rested.quiet (.working work)
  unfold AsyncObservedIo.begin
  split
  · rename_i already
    refine .done ⟨(AsyncObservedIo.setPending_same already).symm, rested.connected, rfl, fun other => ?_, rested.released,
      rested.hold, rested.recording, rested.closes, rested.owed⟩
    rw [rested.held, Function.update_eq_self_iff.mpr already.symm]
    rfl
  · rename_i fresh
    change Safe _ _ (0 + 3) _ _
    refine Safe.bind ((start_safe rfl quiet rested.begun ?_ (rested.released _)).mono ?_ (Nat.le_refl 3))
    · rw [rested.last]
      exact Bool.eq_false_iff.mpr fresh
    · rintro _ _ rfl
      refine .done ⟨rfl, rested.connected, rfl, fun other => ?_, rested.released, rested.hold, rested.recording,
        rested.closes, rested.owed⟩
      have last : account.last other = io.pending other := rested.last other
      by_cases same : work.direction = other
      · subst same
        simp [Account.held, rested.released]
      · simp [Account.held, rested.released, last, same, Function.update_of_ne (Ne.symm same)]

/-- The account of a wrapper that ends its poll in a direction, if it has one. -/
def Account.ends (account : Account) (direction : Direction) (pending : Bool) : Account :=
  { account with released := if pending then Function.update account.released direction true else account.released }

theorem finish_safe {io : AsyncObservedIo} {direction : Direction} (async : role.blocking = false)
    (held : account.held direction = io.pending direction) (closes : account.closes ≤ 1) :
    Safe (books capacity role)
      (fun found after => found = io.setPending direction false ∧ after = account.ends direction (io.pending direction)) 1
      (io.finish direction) account := by
  unfold AsyncObservedIo.finish Account.ends
  split
  · rename_i pending
    exact ask_safe ⟨held.trans pending, trivial, fun blocking => absurd blocking (by simp [async]), closes⟩
      fun _ => .done ⟨rfl, rfl⟩
  · rename_i ended
    exact .done ⟨(AsyncObservedIo.setPending_same (Bool.eq_false_iff.mpr ended)).symm, rfl⟩

theorem async_back {io found : AsyncObservedIo} {direction : Direction} {pending : Bool} {after : Account}
    (works : work.direction = direction) (async : work.blocking = false) (rested : Rested (.async io) account)
    (connected : after.connected = true) (last : after.last = account.last) (hold : after.hold = .none)
    (recording : after.recording = false) (owed : ∀ other, after.owed other = 0) (closes : after.closes = found.io.closes)
    (same : found.pending = Function.update io.pending direction pending)
    (held : ∀ other, after.held other = Function.update io.pending direction pending other) :
    Back (.working work) (some (.async found, pending)) after := by
  subst works
  refine ⟨⟨connected, fun other => ?_, rfl, fun _ => rfl, hold, recording, closes, owed⟩, fun other => ?_⟩
  · have before : account.last = io.pending := funext rested.last
    simp [Account.returns, Role.last, async, Wrapper.pending, same, last, before]
  · rw [held, Wrapper.pending, same]

theorem Account.ends_owes (account : Account) (direction : Direction) (bytes : Option (Direction × Nat)) :
    (account.owes bytes).ends direction true = (account.ends direction true).owes bytes := by
  cases bytes <;> rfl

theorem Account.owes_held (account : Account) (bytes : Option (Direction × Nat)) : (account.owes bytes).held = account.held := by
  cases bytes <;> rfl

/-- A report on a ready poll leaves the account as it was, but for the events it is there to count. -/
def Reports (capacity : Nat) (work : Work) (direction : Direction) (transfers : Bool)
    (report : AsyncObservedIo → Outcome → Doing AsyncObservedIo) : Prop :=
  ∀ (inside : Account) (ended : AsyncObservedIo), inside.Quiet (.working work) → inside.recording = false →
    inside.hold = .none → inside.owed direction = 0 → inside.closes = ended.io.closes → ∀ outcome,
    Safe (books capacity (.working work))
      (fun found after => found.pending = ended.pending ∧ ∃ settled, after = { inside with settled, closes := found.io.closes })
      16 (report ended outcome) (inside.owes (moved (.poll direction transfers) (some outcome)))

/-- The rest of a poll that is ready. -/
theorem ready_safe {io : AsyncObservedIo} {direction : Direction} {report : AsyncObservedIo → Outcome → Doing AsyncObservedIo}
    {inside : Account} (works : work.direction = direction) (async : work.blocking = false)
    (rested : Rested (.async io) account) (polling : Polling io direction account inside)
    (reports : Reports capacity work direction transfers report) (outcome : Outcome) :
    Safe (books capacity (.working work)) (fun out => Back (.working work) (some (.async out.1, out.2))) 17
      (((io.setPending direction true).finish direction).bind fun io =>
        (report io outcome).bind fun io => .done (io, false))
      (inside.owes (moved (.poll direction transfers) (some outcome))) := by
  have free : (Role.working work).blocking = false := async
  have begun : (io.setPending direction true).pending direction = true := by
    rw [AsyncObservedIo.pending_setPending, Function.update_self]
  have few : (inside.owes (moved (.poll direction transfers) (some outcome))).closes ≤ 1 := by
    cases moved (.poll direction transfers) (some outcome) <;> exact polling.closes ▸ io.io.closes_le
  have held : (inside.owes (moved (.poll direction transfers) (some outcome))).held direction =
      (io.setPending direction true).pending direction := by
    rw [Account.owes_held, polling.held, AsyncObservedIo.pending_setPending]
  change Safe _ _ (16 + 1) _ _
  refine Safe.bind ((finish_safe free held few).mono ?_ (Nat.le_refl 1))
  rintro _ _ ⟨rfl, rfl⟩
  rw [begun, Account.ends_owes]
  change Safe _ _ (0 + 16) _ _
  have quiet : (inside.ends direction true).Quiet (.working work) :=
    ⟨fun blocking => absurd blocking (by simp [free]), polling.closes ▸ io.io.closes_le⟩
  refine Safe.bind ((reports (inside.ends direction true) _ quiet polling.recording polling.hold (polling.owed _)
    (polling.closes.trans (by simp)) outcome).mono ?_ (Nat.le_refl 16))
  rintro found _ ⟨same, settled, rfl⟩
  refine .done (async_back works async rested polling.connected polling.last polling.hold polling.recording
    polling.owed rfl ?_ fun other => ?_)
  · rw [same, AsyncObservedIo.pending_setPending, AsyncObservedIo.pending_setPending, Function.update_idem]
  · by_cases same : other = direction
    · subst same
      simp [Account.held, Account.ends]
    · have before := polling.held other
      rw [Function.update_of_ne same] at before ⊢
      rw [← before]
      simp [Account.held, Account.ends, Function.update_of_ne same]

/-- A poll that goes on with what its transport returned, if that is ready. -/
theorem poll_safe {io : AsyncObservedIo} {direction : Direction} {report : AsyncObservedIo → Outcome → Doing AsyncObservedIo}
    (works : work.direction = direction) (async : work.blocking = false) (rested : Rested (.async io) account)
    (reports : Reports capacity work direction transfers report) :
    Safe (books capacity (.working work)) (Back (.working work)) 21
      ((io.polls direction transfers report).bind fun (io, pending) => .done (some (.async io, pending))) account := by
  have free : (Role.working work).blocking = false := async
  have polled : Safe (books capacity (.working work)) (fun out => Back (.working work) (some (.async out.1, out.2))) 21
      (io.polls direction transfers report) account := by
    change Safe _ _ (18 + 3) _ _
    refine Safe.bind ((begin_safe works rested).mono ?_ (Nat.le_refl 3))
    rintro _ inside ⟨rfl, polling⟩
    have few : inside.closes ≤ 1 := polling.closes ▸ io.io.closes_le
    refine ask_safe ⟨polling.owed _, ⟨work, rfl, works⟩, fun blocking => absurd blocking (by simp [free]), few⟩ fun result => ?_
    cases result with
    | none =>
        have none : moved (.poll direction transfers) none = none := by cases transfers <;> rfl
        simp only [Account.after, none, Account.owes]
        exact .done (async_back works async rested polling.connected polling.last polling.hold polling.recording
          polling.owed (by rw [polling.closes, AsyncObservedIo.io_setPending]) (io.pending_setPending direction true)
          polling.held)
    | some outcome => exact ready_safe works async rested polling reports outcome
  change Safe _ _ (0 + 21) _ _
  exact Safe.bind (polled.mono (fun _ _ back => .done back) (Nat.le_refl 21))

theorem pollRead_safe {io : AsyncObservedIo} {room : Bool} (rested : Rested (.async io) account) :
    Safe (books capacity (.working (.pollRead room))) (Back (.working (.pollRead room))) 21
      ((io.pollRead capacity room).bind fun (io, pending) => .done (some (.async io, pending))) account := by
  refine poll_safe rfl rfl rested ?_
  intro inside ended quiet recording hold paid closes outcome
  rw [moved_poll]
  change Safe _ _ (8 + 8) _ _
  refine Safe.bind ((report_safe quiet recording hold paid outcome).mono ?_ (Nat.le_refl 8))
  rintro _ _ ⟨settled, rfl⟩
  split
  · rename_i closed
    have fresh : ended.io.closes = 0 := by simpa [ObservedIo.closes] using closed.2.2
    refine close_safe ⟨quiet.guarded, quiet.closes⟩ recording hold (closes.trans fresh) ⟨?_, true, ?_⟩
    · funext direction
      cases direction <;> rfl
    · simp [ObservedIo.closes]
  · exact .done ⟨rfl, settled, by rw [← closes]⟩

theorem pollWrite_safe {io : AsyncObservedIo} (rested : Rested (.async io) account) :
    Safe (books capacity (.working .pollWrite)) (Back (.working .pollWrite)) 21
      ((io.pollWrite capacity).bind fun (io, pending) => .done (some (.async io, pending))) account := by
  refine poll_safe rfl rfl rested ?_
  intro inside ended quiet recording hold paid closes outcome
  rw [moved_poll]
  exact (report_then (report_safe quiet recording hold paid outcome)
    fun settled => ⟨rfl, settled, by rw [← closes]⟩).mono (fun _ _ => id) (by decide)

/-- A poll that moves no bytes and reports errors only. -/
theorem reportError_reports :
    Reports capacity work .write false fun io result =>
      (reportError capacity .write result).bind fun _ => .done io := by
  intro inside ended quiet recording hold paid closes outcome
  have none : moved (.poll .write false) (some outcome) = none := by cases outcome <;> rfl
  rw [none]
  exact (report_then (reportError_safe quiet recording hold paid outcome)
    fun settled => ⟨rfl, settled, by rw [← closes]⟩).mono (fun _ _ => id) (by decide)

/-- Every call on a wrapper keeps its account. -/
theorem work_safe {wrapper : Wrapper} {program : Doing Rest} (rested : Rested wrapper account)
    (works : work.program capacity wrapper = some program) :
    Safe (books capacity (.working work)) (Back (.working work)) 21 program account := by
  cases wrapper with
  | blocking io =>
      cases work with
      | read room =>
          cases works
          exact (read_safe rested).mono (fun _ _ => id) (by decide)
      | write =>
          cases works
          exact (write_safe rested).mono (fun _ _ => id) (by decide)
      | flush =>
          cases works
          exact (flush_safe rested).mono (fun _ _ => id) (by decide)
      | pollRead | pollWrite | pollFlush | pollShutdown => cases works
  | async io =>
      cases work with
      | pollRead room =>
          cases works
          exact pollRead_safe rested
      | pollWrite =>
          cases works
          exact pollWrite_safe rested
      | pollFlush | pollShutdown =>
          cases works
          exact poll_safe rfl rfl rested reportError_reports
      | read | write | flush => cases works

/-! ## The other roles -/

theorem new_safe : Safe (books capacity .creating)
    (fun io after => io = {} ∧ after = { connected := true, settled := true }) 8 (ObservedIo.new capacity) {} := by
  refine ask_safe ⟨rfl, rfl, by simp [Role.blocking], Nat.zero_le 1⟩ fun _ => ?_
  change Safe _ _ (0 + 7) _ _
  have quiet : ({ connected := true } : Account).Quiet .creating := ⟨by simp [Role.blocking], Nat.zero_le 1⟩
  refine Safe.bind ((record_safe quiet rfl rfl (by simp [Account.recorded])).mono ?_ (Nat.le_refl 7))
  rintro _ _ rfl
  exact .done ⟨rfl, rfl⟩

theorem create_safe (async : Bool) : Safe (books capacity .creating) (Back .creating) 8 (Wrapper.new capacity async) {} := by
  have held : ∀ direction, ({ connected := true, settled := true } : Account).held direction = false := fun _ => rfl
  cases async with
  | false =>
      change Safe _ _ (0 + 8) _ _
      refine Safe.bind (new_safe.mono ?_ (Nat.le_refl 8))
      rintro _ _ ⟨rfl, rfl⟩
      exact .done ⟨⟨rfl, fun _ => rfl, rfl, fun _ => rfl, rfl, rfl, rfl, fun _ => rfl⟩, held⟩
  | true =>
      change Safe _ _ (0 + (0 + 8)) _ _
      refine Safe.bind (Safe.bind (new_safe.mono ?_ (Nat.le_refl 8)))
      rintro _ _ ⟨rfl, rfl⟩
      refine .done (.done ⟨⟨rfl, fun direction => ?_, rfl, fun _ => rfl, rfl, rfl, rfl, fun _ => rfl⟩, fun direction => ?_⟩)
      · cases direction <;> rfl
      · cases direction <;> rfl

theorem dropIo_safe (connected : account.connected = true) (recording : account.recording = false)
    (hold : account.hold = .none) (closes : account.closes ≤ 1) (held : ∀ direction, account.held direction = false)
    (owed : ∀ direction, account.owed direction = 0) :
    Safe (books capacity .dropping) (fun _ => Back .dropping none) 8 (ObservedIo.drop capacity) account := by
  have quiet : ∀ account : Account, account.closes ≤ 1 → account.Quiet .dropping :=
    fun _ closes => ⟨by simp [Role.blocking], closes⟩
  refine ask_safe ⟨⟨connected, held⟩, rfl, (quiet account closes).guarded, closes⟩ fun _ => ?_
  refine (record_safe (quiet (account.after capacity .disconnect ()) closes) recording hold ?_).mono ?_ (Nat.le_refl 7)
  · simpa [Account.recorded, Account.after] using closes
  · rintro _ _ rfl
    refine ⟨rfl, held, hold, recording, ?_, owed⟩
    simpa [Account.recorded, Account.after] using closes

theorem Account.held_ends (account : Account) (direction other : Direction) (pending : Bool) :
    (account.ends direction pending).held other = (account.held other && !(pending && direction = other)) := by
  cases pending with
  | false => simp [ends]
  | true =>
      by_cases same : direction = other
      · subst same
        simp [ends, held]
      · simp [ends, held, same, Function.update_of_ne (Ne.symm same)]

theorem drop_safe {wrapper : Wrapper} (rested : Rested wrapper account) :
    Safe (books capacity .dropping) (Back .dropping) 10 (wrapper.drop capacity) account := by
  have closes : account.closes ≤ 1 := (rested.quiet .dropping).closes
  cases wrapper with
  | blocking io =>
      change Safe _ _ (2 + 8) _ _
      exact Safe.bind ((dropIo_safe rested.connected rested.recording rested.hold closes rested.held rested.owed).mono
        (fun _ _ back => .done back) (Nat.le_refl 8))
  | async io =>
      have dropped : Safe (books capacity .dropping) (fun _ => Back .dropping none) 10 (io.drop capacity) account := by
        change Safe _ _ (9 + 1) _ _
        refine Safe.bind ((finish_safe rfl (rested.held .read) closes).mono ?_ (Nat.le_refl 1))
        rintro _ _ ⟨rfl, rfl⟩
        have write : (account.ends .read (io.pending .read)).held .write = (io.setPending .read false).pending .write := by
          have before : account.held .write = io.pending .write := rested.held .write
          simp [Account.held_ends, before, AsyncObservedIo.pending_setPending]
        change Safe _ _ (8 + 1) _ _
        refine Safe.bind ((finish_safe rfl write ?_).mono ?_ (Nat.le_refl 1))
        · exact closes
        rintro _ _ ⟨rfl, rfl⟩
        refine dropIo_safe rested.connected rested.recording rested.hold closes (fun direction => ?_) rested.owed
        have before : account.held direction = io.pending direction := rested.held direction
        cases direction <;> simp [Account.held_ends, before, AsyncObservedIo.pending_setPending]
      change Safe _ _ (0 + 10) _ _
      exact Safe.bind (dropped.mono (fun _ _ back => .done back) (Nat.le_refl 10))

/-- A call of `record` or `take_events` keeps an account of its own. -/
theorem recordCall_safe (event : Event) : Safe (books capacity .calling) (Back .calling) 7
    ((record capacity event).bind fun _ => .done none) {} := by
  have quiet : ({} : Account).Quiet .calling := ⟨by simp [Role.blocking], Nat.zero_le 1⟩
  have few : (({} : Account).recorded event).closes ≤ 1 := by
    simp only [Account.recorded]
    split <;> decide
  change Safe _ _ (0 + 7) _ _
  refine Safe.bind ((record_safe quiet rfl rfl few).mono ?_ (Nat.le_refl 7))
  rintro _ _ rfl
  exact .done ⟨rfl, fun _ => rfl, rfl, rfl, few, fun _ => rfl⟩

theorem takeCall_safe : Safe (books capacity .calling) (Back .calling) 3 (takeEvents.bind fun _ => .done none) {} := by
  have quiet : ({} : Account).Quiet .calling := ⟨by simp [Role.blocking], Nat.zero_le 1⟩
  change Safe _ _ (0 + 3) _ _
  refine Safe.bind ((takeEvents_safe quiet rfl).mono ?_ (Nat.le_refl 3))
  rintro _ _ rfl
  exact .done ⟨rfl, fun _ => rfl, rfl, rfl, Nat.zero_le 1, fun _ => rfl⟩

end

end KunobiDaemon.Observation
