import KunobiDaemon.Transport.Outstanding

/-! The current peer writer, replaceable without waiting for client input.

Every critical section of the slot's lock is one step. A writer is named by the order
in which it was handed over, and what `write_all`, `flush` and `shutdown_write` return
is up to the writer. Calls run concurrently, each under a name of its own. The log has
one entry for every step, with the calls it made to a writer and to `observe`.
-/

set_option autoImplicit false

namespace KunobiDaemon.Transport

structure WriterState where
  generation : Nat
  writer : Nat
  paused : Bool
  atBoundary : Bool
  written : Nat
  failed : Bool
  ended : Bool
  closed : Bool
  deriving DecidableEq, Repr

/-- How `write_all` and then `flush` ended. -/
inductive Outcome where
  | delivered
  | unflushed
  | refused
  deriving DecidableEq, Repr

/-- `bytes.last().is_none_or(|byte| *byte == b'\n')` -/
def endsRecord (window : List UInt8) : Bool := window.getLast?.all (· == 10)

namespace WriterState

def new : WriterState := ⟨0, 0, false, true, 0, false, false, false⟩

/-- `replace_paused` on a slot that is not closed -/
def replacePaused (state : WriterState) (writer written : Nat) : WriterState :=
  { state with
    generation := (state.generation + 1) % u64
    writer, written, atBoundary := true, failed := false, paused := true }

/-- Also returns the bytes written to the writer it freezes. -/
def tryPause (state : WriterState) : Option (Nat × WriterState) :=
  if state.paused || state.failed || state.ended || state.closed || !state.atBoundary then none
  else some (state.written, { state with paused := true })

theorem tryPause_eq_some {state after : WriterState} {offset : Nat} :
    state.tryPause = some (offset, after) ↔
      (state.paused = false ∧ state.failed = false ∧ state.ended = false ∧ state.closed = false ∧
        state.atBoundary = true) ∧ state.written = offset ∧ { state with paused := true } = after := by
  simp [tryPause, and_assoc]

def resume (state : WriterState) : WriterState := { state with paused := false }

def shutdown (state : WriterState) : WriterState := { state with ended := true }

def close (state : WriterState) : WriterState := { state with closed := true }

/-- What `write_observed` records once the writer has answered. -/
def wrote (state : WriterState) (window : List UInt8) : Outcome → WriterState
  | .delivered =>
      let counted := if state.written + window.length < u64 then
        { state with written := state.written + window.length } else { state with failed := true }
      { counted with atBoundary := endsRecord window }
  | .unflushed | .refused => { state with failed := true }

section
variable (state : WriterState) (window : List UInt8) (outcome : Outcome)

/-- A write changes what was written, and how. -/
theorem wrote_eq : ∃ atBoundary written failed,
    state.wrote window outcome = { state with atBoundary, written, failed } := by
  cases outcome with
  | delivered =>
      rw [wrote]
      split <;> exact ⟨_, _, _, rfl⟩
  | unflushed | refused => exact ⟨_, _, _, rfl⟩

@[simp] theorem wrote_writer : (state.wrote window outcome).writer = state.writer := by
  obtain ⟨_, _, _, same⟩ := state.wrote_eq window outcome
  rw [same]

@[simp] theorem wrote_generation : (state.wrote window outcome).generation = state.generation := by
  obtain ⟨_, _, _, same⟩ := state.wrote_eq window outcome
  rw [same]

@[simp] theorem wrote_paused : (state.wrote window outcome).paused = state.paused := by
  obtain ⟨_, _, _, same⟩ := state.wrote_eq window outcome
  rw [same]

@[simp] theorem wrote_ended : (state.wrote window outcome).ended = state.ended := by
  obtain ⟨_, _, _, same⟩ := state.wrote_eq window outcome
  rw [same]

@[simp] theorem wrote_closed : (state.wrote window outcome).closed = state.closed := by
  obtain ⟨_, _, _, same⟩ := state.wrote_eq window outcome
  rw [same]

end

end WriterState

/-- Where a call stands. -/
inductive Call where
  | fresh
  -- `write_observed`: about to take the lock, or waiting while the slot is paused
  | entering (window : List UInt8)
  | parked (window : List UInt8)
  -- after a failed write: about to take the lock again, or waiting for another generation
  | checking (window : List UInt8) (generation : Nat)
  | stalled (window : List UInt8) (generation : Nat)
  | returned (window : List UInt8)
  -- `replace_paused` outside its lock, and the `resume` that `replace_with_offset` still has to do
  | retiring (old : Nat) (resumes : Bool)
  | resuming
  | replaced
  deriving DecidableEq, Repr

namespace Call

/-- `notify_all` as one call sees it -/
def notified : Call → Call
  | .parked window => .entering window
  | .stalled window generation => .checking window generation
  | call => call

/-- The window of a `write_observed` call. -/
def window : Call → Option (List UInt8)
  | .entering window | .parked window | .checking window _ | .stalled window _ | .returned window => some window
  | .fresh | .retiring _ _ | .resuming | .replaced => none

end Call

/-- One window passed to a writer. -/
structure Attempt (C : Type) where
  call : C
  writer : Nat
  window : List UInt8
  outcome : Outcome
  deriving DecidableEq, Repr

inductive Event (C : Type) where
  | observe (call : C)
  | write (attempt : Attempt C)
  | shutdownWrite (writer : Nat)
  deriving DecidableEq, Repr

@[simp] def Event.attempt {C : Type} : Event C → Option (Attempt C)
  | .write attempt => some attempt
  | .observe _ | .shutdownWrite _ => none

structure Slot (C : Type) where
  state : WriterState
  /-- The offset each writer was handed over with, oldest first. -/
  writers : List Nat
  calls : C → Call
  log : List (List (Event C))

inductive Label (C : Type) where
  | write (call : C) (window : List UInt8)
  /-- Take the lock in the first loop of `write_observed`. -/
  | enter (call : C) (outcome : Outcome)
  /-- Take the lock in its second loop. -/
  | check (call : C)
  /-- Be unblocked by nothing. -/
  | spurious (call : C)
  /-- `replace_paused`, called by `replace_with_offset` if the call is to resume. -/
  | replacePaused (call : C) (written : Nat) (resumes : Bool)
  | retire (call : C)
  | resumeAfter (call : C)
  | tryPause
  | resume
  | shutdown
  | close
  deriving DecidableEq, Repr

/-- Whether a step resumes the slot or replaces its writer. -/
def Label.reopens {C : Type} : Label C → Bool
  | .replacePaused _ _ _ | .resumeAfter _ | .resume => true
  | .write _ _ | .enter _ _ | .check _ | .spurious _ | .retire _ | .tryPause | .shutdown | .close => false

namespace Slot
variable {C : Type}

def new : Slot C := ⟨.new, [0], fun _ => .fresh, []⟩

/-- Every window passed to a writer, in order. -/
def attempts (slot : Slot C) : List (Attempt C) := slot.log.flatten.filterMap Event.attempt

variable [DecidableEq C]

def attemptsBy (slot : Slot C) (call : C) : List (Attempt C) := slot.attempts.filter (·.call = call)

def attemptsOn (slot : Slot C) (writer : Nat) : List (Attempt C) := slot.attempts.filter (·.writer = writer)

/-- The windows fully written and flushed to a writer. -/
def delivered (slot : Slot C) (writer : Nat) : List (List UInt8) :=
  ((slot.attemptsOn writer).filter (·.outcome = .delivered)).map (·.window)

def move (slot : Slot C) (call : C) (place : Call) : C → Call :=
  Function.update slot.calls call place

/-- `notify_all` -/
def wake (slot : Slot C) : Slot C := { slot with calls := fun call => (slot.calls call).notified }

def record (slot : Slot C) (events : List (Event C)) : Slot C := { slot with log := slot.log ++ [events] }

/-- `write_observed` with the lock, in its first loop -/
def enter (slot : Slot C) (call : C) (window : List UInt8) (outcome : Outcome) : Slot C :=
  if slot.state.closed then { slot with calls := slot.move call (.returned window) }.record []
  else if slot.state.paused then { slot with calls := slot.move call (.parked window) }.record []
  else
    let written : List (Event C) :=
      [.observe call, .write ⟨call, slot.state.writer, window, outcome⟩]
    let state := slot.state.wrote window outcome
    if outcome = .delivered then
      { slot with state, calls := slot.move call (.returned window) }.record written
    else
      -- the failed generation is current and the slot is open, so the call waits at once
      { slot with state, calls := slot.move call (.stalled window state.generation) }.record
        (written ++ [Event.shutdownWrite slot.state.writer])

/-- `replace_paused` with the lock. The old writer is shut down after it. -/
def replacePaused (slot : Slot C) (call : C) (written : Nat) (resumes : Bool) : Slot C :=
  let writer := slot.writers.length
  let slot := { slot with writers := slot.writers ++ [written] }
  if slot.state.closed then
    { slot with calls := slot.move call (if resumes then .resuming else .replaced) }.record
      [.shutdownWrite writer]
  else
    let woken := slot.wake
    { woken with
      state := slot.state.replacePaused writer written
      calls := woken.move call (.retiring slot.state.writer resumes) }.record
        (if slot.state.ended then [.shutdownWrite writer] else [])

/-- One step. A `try_pause` that finds the lock taken returns without one. -/
def step (slot : Slot C) : Label C → Option (Slot C)
  | .write call window =>
      if slot.calls call = .fresh then some ({ slot with calls := slot.move call (.entering window) }.record [])
      else none
  | .enter call outcome =>
      match slot.calls call with
      | .entering window => some (slot.enter call window outcome)
      | _ => none
  | .check call =>
      match slot.calls call with
      | .checking window generation =>
          let place := if slot.state.generation = generation ∧ slot.state.closed = false
            then Call.stalled window generation else .returned window
          some ({ slot with calls := slot.move call place }.record [])
      | _ => none
  | .spurious call => some ({ slot with calls := slot.move call (slot.calls call).notified }.record [])
  | .replacePaused call written resumes =>
      if slot.calls call = .fresh ∧ written < u64 then some (slot.replacePaused call written resumes) else none
  | .retire call =>
      match slot.calls call with
      | .retiring old resumes =>
          some ({ slot with calls := slot.move call (if resumes then .resuming else .replaced) }.record
            [.shutdownWrite old])
      | _ => none
  | .resumeAfter call =>
      match slot.calls call with
      | .resuming =>
          let woken := slot.wake
          some ({ woken with state := slot.state.resume, calls := woken.move call .replaced }.record [])
      | _ => none
  | .tryPause => some ({ slot with state := (slot.state.tryPause.map Prod.snd).getD slot.state }.record [])
  | .resume => some ({ slot.wake with state := slot.state.resume }.record [])
  | .shutdown => some ({ slot with state := slot.state.shutdown }.record [.shutdownWrite slot.state.writer])
  | .close => some ({ slot.wake with state := slot.state.close }.record [.shutdownWrite slot.state.writer])

end Slot

section
variable {C : Type} [DecidableEq C]

/-- What a step does to the state, the writers and the log. -/
inductive Effect (slot : Slot C) : Label C → WriterState → List Nat → List (Event C) → Prop where
  | idle (label : Label C) : Effect slot label slot.state slot.writers []
  | paused {offset : Nat} {state : WriterState} : slot.state.tryPause = some (offset, state) →
      Effect slot .tryPause state slot.writers []
  | resumed {label : Label C} : label.reopens = true → Effect slot label slot.state.resume slot.writers []
  | shutdown : Effect slot .shutdown slot.state.shutdown slot.writers [.shutdownWrite slot.state.writer]
  | closed : Effect slot .close slot.state.close slot.writers [.shutdownWrite slot.state.writer]
  | retired {call : C} {old : Nat} {resumes : Bool} : slot.calls call = .retiring old resumes →
      Effect slot (.retire call) slot.state slot.writers [.shutdownWrite old]
  | rejected {call : C} {written : Nat} {resumes : Bool} : slot.state.closed = true → written < u64 →
      Effect slot (.replacePaused call written resumes) slot.state (slot.writers ++ [written])
        [.shutdownWrite slot.writers.length]
  | replaced {call : C} {written : Nat} {resumes : Bool} : slot.state.closed = false → written < u64 →
      Effect slot (.replacePaused call written resumes)
        (slot.state.replacePaused slot.writers.length written) (slot.writers ++ [written])
        (if slot.state.ended then [.shutdownWrite slot.writers.length] else [])
  | wrote {call : C} {window : List UInt8} {outcome : Outcome} : slot.calls call = .entering window →
      slot.state.closed = false → slot.state.paused = false →
      Effect slot (.enter call outcome) (slot.state.wrote window outcome) slot.writers
        (.observe call :: .write ⟨call, slot.state.writer, window, outcome⟩ ::
          if outcome = .delivered then [] else [.shutdownWrite slot.state.writer])

theorem enter_effect (slot : Slot C) {call : C} {window : List UInt8}
    (entering : slot.calls call = .entering window) (outcome : Outcome) : ∃ events,
      Effect slot (.enter call outcome) (slot.enter call window outcome).state
        (slot.enter call window outcome).writers events ∧
      (slot.enter call window outcome).log = slot.log ++ [events] := by
  unfold Slot.enter
  split
  · exact ⟨[], .idle _, rfl⟩
  · next opened =>
      split
      · exact ⟨[], .idle _, rfl⟩
      · next running =>
          have wrote : Effect slot (.enter call outcome) _ _ _ :=
            .wrote entering (by simpa using opened) (by simpa using running)
          by_cases delivered : outcome = .delivered
          · simp only [delivered, if_true] at wrote ⊢
            exact ⟨_, wrote, rfl⟩
          · simp only [delivered, if_false] at wrote ⊢
            exact ⟨_, wrote, rfl⟩

theorem step_effect {slot next : Slot C} {label : Label C} (stepped : slot.step label = some next) :
    ∃ events, Effect slot label next.state next.writers events ∧ next.log = slot.log ++ [events] := by
  cases label with
  | write call window =>
      simp only [Slot.step] at stepped
      split at stepped
      · cases stepped
        exact ⟨[], .idle _, rfl⟩
      · cases stepped
  | enter call outcome =>
      simp only [Slot.step] at stepped
      split at stepped
      · next window entering =>
          cases stepped
          exact enter_effect slot entering outcome
      · cases stepped
  | check call =>
      simp only [Slot.step] at stepped
      split at stepped
      · cases stepped
        exact ⟨[], .idle _, rfl⟩
      · cases stepped
  | spurious call =>
      cases stepped
      exact ⟨[], .idle _, rfl⟩
  | replacePaused call written resumes =>
      simp only [Slot.step] at stepped
      split at stepped
      · next allowed =>
          cases stepped
          unfold Slot.replacePaused
          by_cases closed : slot.state.closed = true
          · simp only [closed, if_true]
            exact ⟨_, .rejected closed allowed.2, rfl⟩
          · simp only [closed]
            exact ⟨_, .replaced (by simpa using closed) allowed.2, rfl⟩
      · cases stepped
  | retire call =>
      simp only [Slot.step] at stepped
      split at stepped
      · next old resumes retiring =>
          cases stepped
          exact ⟨_, .retired retiring, rfl⟩
      · cases stepped
  | resumeAfter call =>
      simp only [Slot.step] at stepped
      split at stepped
      · cases stepped
        exact ⟨[], .resumed rfl, rfl⟩
      · cases stepped
  | tryPause =>
      cases stepped
      cases froze : slot.state.tryPause with
      | none => exact ⟨[], by simpa [Slot.record, froze] using Effect.idle _, rfl⟩
      | some frozen => exact ⟨[], by simpa [Slot.record, froze] using Effect.paused froze, rfl⟩
  | resume =>
      cases stepped
      exact ⟨[], .resumed rfl, rfl⟩
  | shutdown =>
      cases stepped
      exact ⟨_, .shutdown, rfl⟩
  | close =>
      cases stepped
      exact ⟨_, .closed, rfl⟩

end

end KunobiDaemon.Transport
