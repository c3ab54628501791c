import KunobiDaemon.Transport.WriterSlot

/-! Each window goes to at most one writer, and a pause reports exact offsets. -/

set_option autoImplicit false

namespace KunobiDaemon.Transport

open Lib.Systems

section
variable {C : Type} {slot next : Slot C} {events : List (Event C)}

theorem attempts_of_log (logged : next.log = slot.log ++ [events]) :
    next.attempts = slot.attempts ++ events.filterMap Event.attempt := by
  simp [Slot.attempts, logged]

/-- A step that passes no window to a writer leaves the attempts alone. -/
theorem attempts_of_silent (logged : next.log = slot.log ++ [events])
    (silent : events.filterMap Event.attempt = []) : next.attempts = slot.attempts := by
  rw [attempts_of_log logged, silent, List.append_nil]

/-- How the state's counters stand to the windows attempted on the current writer. -/
structure Counted (slot : Slot C) : Prop where
  current : slot.state.writer < slot.writers.length
  latest : slot.state.closed = false → slot.writers.length = slot.state.writer + 1
  earlier : ∀ attempt ∈ slot.attempts, attempt.writer ≤ slot.state.writer
  generation : slot.state.generation = slot.state.writer % u64
  unfailed : slot.state.failed = false →
    ∀ attempt ∈ slot.attemptsOn slot.state.writer, attempt.outcome = .delivered
  exact : slot.state.failed = false → slot.state.written =
    slot.writers.getD slot.state.writer 0 + (slot.delivered slot.state.writer).flatten.length

theorem counted_new : Counted (Slot.new : Slot C) where
  current := by simp [Slot.new, WriterState.new]
  latest := by simp [Slot.new, WriterState.new]
  earlier := by simp [Slot.new, Slot.attempts]
  generation := rfl
  unfailed := by simp [Slot.new, Slot.attempts, Slot.attemptsOn]
  exact := by simp [Slot.new, Slot.attempts, Slot.attemptsOn, Slot.delivered, WriterState.new]

theorem attemptsOn_congr (same : next.attempts = slot.attempts) (writer : Nat) :
    next.attemptsOn writer = slot.attemptsOn writer := by
  rw [Slot.attemptsOn, Slot.attemptsOn, same]

theorem delivered_congr (same : next.attempts = slot.attempts) (writer : Nat) :
    next.delivered writer = slot.delivered writer := by
  rw [Slot.delivered, Slot.delivered, attemptsOn_congr same]

/-- Steps that only set flags. -/
theorem Counted.flags (counted : Counted slot) (attempts : next.attempts = slot.attempts)
    (writers : next.writers = slot.writers) (writer : next.state.writer = slot.state.writer)
    (generation : next.state.generation = slot.state.generation)
    (written : next.state.written = slot.state.written) (failed : next.state.failed = slot.state.failed)
    (closed : next.state.closed = false → slot.state.closed = false) : Counted next where
  current := by rw [writer, writers]; exact counted.current
  latest := by rw [writer, writers]; exact fun opened => counted.latest (closed opened)
  earlier := by rw [attempts, writer]; exact counted.earlier
  generation := by rw [generation, writer]; exact counted.generation
  unfailed := by rw [failed, writer, attemptsOn_congr attempts]; exact counted.unfailed
  exact := by rw [failed, writer, written, writers, delivered_congr attempts]; exact counted.exact

/-- A new writer has seen no window yet. -/
theorem Counted.fresh (counted : Counted slot) : slot.attemptsOn slot.writers.length = [] := by
  simp only [Slot.attemptsOn, List.filter_eq_nil_iff, decide_eq_true_eq]
  intro attempt member same
  have := counted.earlier attempt member
  have := counted.current
  omega

theorem Counted.replaced (counted : Counted slot) {written : Nat} (opened : slot.state.closed = false)
    (attempts : next.attempts = slot.attempts)
    (writers : next.writers = slot.writers ++ [written])
    (state : next.state = slot.state.replacePaused slot.writers.length written) : Counted next := by
  have fresh : next.attemptsOn next.state.writer = [] := by
    rw [attemptsOn_congr attempts, state]
    exact counted.fresh
  refine ⟨?_, fun _ => ?_, ?_, ?_, ?_, fun _ => ?_⟩
  · simp [writers, state, WriterState.replacePaused]
  · simp [writers, state, WriterState.replacePaused]
  · rw [attempts, state]
    intro attempt member
    exact Nat.le_of_lt (Nat.lt_of_le_of_lt (counted.earlier attempt member) counted.current)
  · simp only [state, WriterState.replacePaused]
    rw [counted.generation, counted.latest opened, Nat.mod_add_mod]
  · rw [fresh]
    simp
  · rw [Slot.delivered, fresh]
    simp [writers, state, WriterState.replacePaused]

theorem delivered_snoc {attempt : Attempt C} (attempts : next.attempts = slot.attempts ++ [attempt])
    (delivers : attempt.outcome = .delivered) :
    next.delivered attempt.writer = slot.delivered attempt.writer ++ [attempt.window] := by
  simp [Slot.delivered, Slot.attemptsOn, attempts, delivers]

theorem Counted.wrote (counted : Counted slot) (call : C) {window : List UInt8} {outcome : Outcome}
    (attempts : next.attempts = slot.attempts ++ [⟨call, slot.state.writer, window, outcome⟩])
    (writers : next.writers = slot.writers) (state : next.state = slot.state.wrote window outcome) :
    Counted next := by
  have writer : next.state.writer = slot.state.writer := by simp [state]
  -- Only a delivered window that fits the count leaves the slot unfailed.
  have unfailed : next.state.failed = false → outcome = .delivered ∧ slot.state.failed = false ∧
      next.state.written = slot.state.written + window.length := by
    rw [state]
    cases outcome with
    | delivered =>
        simp only [WriterState.wrote]
        split <;> simp
    | unflushed | refused => simp [WriterState.wrote]
  refine ⟨?_, ?_, ?_, ?_, ?_, ?_⟩
  · rw [writer, writers]
    exact counted.current
  · rw [writer, writers, state, WriterState.wrote_closed]
    exact counted.latest
  · rw [writer, attempts]
    simp only [List.mem_append, List.mem_singleton, or_imp, forall_and, forall_eq]
    exact ⟨counted.earlier, Nat.le_refl _⟩
  · rw [writer, state, WriterState.wrote_generation]
    exact counted.generation
  · intro good
    obtain ⟨rfl, before, -⟩ := unfailed good
    rw [writer, Slot.attemptsOn, attempts, List.filter_append]
    simp only [List.mem_append, or_imp, forall_and]
    refine ⟨counted.unfailed before, fun attempt member => ?_⟩
    simp only [List.mem_filter, List.mem_singleton] at member
    rw [member.1]
  · intro good
    obtain ⟨rfl, before, written⟩ := unfailed good
    rw [written, writer, writers, counted.exact before, delivered_snoc attempts rfl]
    simp [Nat.add_assoc]

/-- A writer handed to a closed slot is never installed. -/
theorem Counted.rejected (counted : Counted slot) {written : Nat} (closed : slot.state.closed = true)
    (attempts : next.attempts = slot.attempts) (writers : next.writers = slot.writers ++ [written])
    (state : next.state = slot.state) : Counted next where
  current := by
    rw [state, writers, List.length_append]
    exact Nat.lt_add_right _ counted.current
  latest := by simp [state, closed]
  earlier := by rw [attempts, state]; exact counted.earlier
  generation := by rw [state]; exact counted.generation
  unfailed := by rw [state, attemptsOn_congr attempts]; exact counted.unfailed
  exact := by
    rw [state, writers, delivered_congr attempts]
    simpa [List.getElem?_append_left counted.current] using counted.exact

theorem Counted.paused (counted : Counted slot) {offset : Nat} {state : WriterState}
    (froze : slot.state.tryPause = some (offset, state)) :
    (∃ base, slot.writers[slot.state.writer]? = some base ∧
      offset = base + (slot.delivered slot.state.writer).flatten.length) ∧
    ∀ attempt ∈ slot.attemptsOn slot.state.writer, attempt.outcome = .delivered := by
  obtain ⟨⟨-, unfailed, -⟩, rfl, -⟩ := WriterState.tryPause_eq_some.mp froze
  refine ⟨⟨slot.writers.getD slot.state.writer 0, ?_, counted.exact unfailed⟩, counted.unfailed unfailed⟩
  simp [List.getElem?_eq_getElem counted.current]

variable [DecidableEq C] {label : Label C}

theorem Counted.step (counted : Counted slot) (stepped : slot.step label = some next) : Counted next := by
  obtain ⟨events, effect, logged⟩ := step_effect stepped
  have attempts := attempts_of_log logged
  generalize state : next.state = after, writers : next.writers = handed at effect
  cases effect with
  | idle | resumed | shutdown | closed | retired =>
      apply counted.flags (by simpa [List.filterMap_cons] using attempts) writers <;>
        simp [state, WriterState.resume, WriterState.shutdown, WriterState.close]
  | paused froze =>
      obtain ⟨-, -, rfl⟩ := WriterState.tryPause_eq_some.mp froze
      apply counted.flags (by simpa [List.filterMap_cons] using attempts) writers <;> simp [state]
  | rejected closed => exact counted.rejected closed (by simpa [List.filterMap_cons] using attempts) writers state
  | replaced opened =>
      refine counted.replaced opened ?_ writers state
      rw [attempts]
      split <;> simp [List.filterMap_cons]
  | @wrote call window outcome entering opened running =>
      refine counted.wrote call ?_ writers state
      rw [attempts]
      split <;> rfl

end

section
variable {C : Type}

/-- A call whose window was attempted once, in vain, while this generation was current. -/
def Lost (window : List UInt8) (generation : Nat) (attempts : List (Attempt C)) : Prop :=
  ∃ attempt, attempts = [attempt] ∧ attempt.window = window ∧ attempt.outcome ≠ .delivered ∧
    generation = attempt.writer % u64

/-- What a call has done so far, by the place where it stands. -/
def Call.Accounted (state : WriterState) (attempts : List (Attempt C)) : Call → Prop
  | .fresh | .entering _ | .retiring _ _ | .resuming | .replaced => attempts = []
  | .parked _ => attempts = [] ∧ state.paused = true ∧ state.closed = false
  | .checking window generation => Lost window generation attempts
  | .stalled window generation =>
      Lost window generation attempts ∧ generation = state.generation ∧ state.closed = false
  | .returned window => (attempts = [] ∧ state.closed = true) ∨
      ∃ attempt, attempts = [attempt] ∧ attempt.window = window ∧
        (attempt.outcome = .delivered ∨ attempt.writer ≠ state.writer ∨ state.closed = true)

variable {call : Call} {state after : WriterState} {attempts : List (Attempt C)}

/-- A step that keeps the slot as paused, as closed and as old as it was wakes nobody. -/
theorem Call.Accounted.kept (accounted : call.Accounted state attempts)
    (paused : state.paused = true → after.paused = true) (closed : after.closed = state.closed)
    (generation : after.generation = state.generation) (writer : after.writer = state.writer) :
    call.Accounted after attempts := by
  cases call with
  | fresh | entering | retiring | resuming | replaced | checking => exact accounted
  | parked => exact ⟨accounted.1, paused accounted.2.1, closed ▸ accounted.2.2⟩
  | stalled => exact ⟨accounted.1, generation ▸ accounted.2.1, closed ▸ accounted.2.2⟩
  | returned =>
      rw [Accounted, closed, writer]
      exact accounted

/-- Whatever else changes, a step that notifies leaves no call blocked. -/
theorem Call.Accounted.notified (accounted : call.Accounted state attempts)
    (closed : state.closed = true → after.closed = true)
    (writer : ∀ attempt ∈ attempts, attempt.writer = after.writer → attempt.writer = state.writer) :
    call.notified.Accounted after attempts := by
  cases call with
  | fresh | entering | retiring | resuming | replaced | checking => exact accounted
  | parked => exact accounted.1
  | stalled => exact accounted.1
  | returned =>
      rcases accounted with ⟨none, shut⟩ | ⟨attempt, one, window, ended⟩
      · exact .inl ⟨none, closed shut⟩
      · refine .inr ⟨attempt, one, window, ?_⟩
        rcases ended with delivered | apart | shut
        · exact .inl delivered
        · exact .inr (.inl fun same => apart (writer attempt (by simp [one]) same))
        · exact .inr (.inr (closed shut))

end

section
variable {C : Type} {slot : Slot C} {label : Label C}

/-- An entry of the log that observes or writes a window does both, the one right before the other. -/
def Observed (events : List (Event C)) : Prop :=
  (∀ event ∈ events, ∃ writer, event = .shutdownWrite writer) ∨
  ∃ attempt rest, events = .observe attempt.call :: .write attempt :: rest ∧
    ∀ event ∈ rest, ∃ writer, event = .shutdownWrite writer

theorem observed_step {events : List (Event C)} {state : WriterState} {writers : List Nat}
    (effect : Effect slot label state writers events) : Observed events := by
  cases effect with
  | idle | paused | resumed => exact .inl nofun
  | shutdown | closed | retired | rejected => exact .inl (by simp)
  | replaced =>
      left
      split <;> simp
  | @wrote call window outcome =>
      refine .inr ⟨⟨call, slot.state.writer, window, outcome⟩, _, rfl, ?_⟩
      split <;> simp

end

theorem attempts_record {C : Type} (slot : Slot C) (events : List (Event C)) :
    (slot.record events).attempts = slot.attempts ++ events.filterMap Event.attempt :=
  attempts_of_log rfl

section
variable {C : Type} [DecidableEq C] {slot next : Slot C} {label : Label C}

def Accounts (slot : Slot C) : Prop :=
  ∀ call, (slot.calls call).Accounted slot.state (slot.attemptsBy call)

theorem attemptsBy_congr (same : next.attempts = slot.attempts) (call : C) :
    next.attemptsBy call = slot.attemptsBy call := by
  rw [Slot.attemptsBy, Slot.attemptsBy, same]

/-- One call moves, and the others stand where they may stand in the new state. -/
theorem accounted_move {calls : C → Call} {call : C} {place : Call} {state : WriterState}
    {attempts : C → List (Attempt C)} (there : place.Accounted state (attempts call))
    (others : ∀ other, other ≠ call → (calls other).Accounted state (attempts other)) (other : C) :
    (Function.update calls call place other).Accounted state (attempts other) := by
  by_cases same : other = call
  · subst same
    rwa [Function.update_self]
  · rw [Function.update_of_ne same]
    exact others other same

/-- A step that passes no window to a writer and leaves the calls accounted for. -/
theorem Accounts.silent {calls : C → Call} {state : WriterState} {writers : List Nat} {events : List (Event C)}
    (silent : events.filterMap Event.attempt = [])
    (accounted : ∀ call, (calls call).Accounted state (slot.attemptsBy call)) :
    Accounts (({ slot with state, writers, calls } : Slot C).record events) := by
  intro call
  have same : (({ slot with state, writers, calls } : Slot C).record events).attempts = slot.attempts := by
    rw [attempts_record, silent, List.append_nil]
    rfl
  rw [attemptsBy_congr same]
  exact accounted call

theorem Accounts.wrote (accounts : Accounts slot) {attempt : Attempt C} {place : Call}
    {window : List UInt8} {outcome : Outcome} (untried : slot.attemptsBy attempt.call = [])
    (attempts : next.attempts = slot.attempts ++ [attempt])
    (calls : next.calls = slot.move attempt.call place) (state : next.state = slot.state.wrote window outcome)
    (there : place.Accounted next.state [attempt]) : Accounts next := by
  have split (call : C) : next.attemptsBy call =
      slot.attemptsBy call ++ if attempt.call = call then [attempt] else [] := by
    rw [Slot.attemptsBy, attempts, List.filter_append, ← Slot.attemptsBy]
    simp [List.filter_cons]
  rw [Accounts, calls]
  refine accounted_move ?_ fun other apart => ?_
  · rw [split, untried]
    simpa using there
  · rw [split, if_neg apart.symm, List.append_nil, state]
    exact (accounts other).kept (by simp) (by simp) (by simp) (by simp)

theorem Accounts.enter (accounts : Accounts slot) (counted : Counted slot) {call : C} {window : List UInt8}
    (entering : slot.calls call = .entering window) (outcome : Outcome) :
    Accounts (slot.enter call window outcome) := by
  have untried : slot.attemptsBy call = [] := by
    have := accounts call
    rwa [entering] at this
  unfold Slot.enter
  split
  · next closed => exact .silent rfl (accounted_move (.inl ⟨untried, closed⟩) fun other _ => accounts other)
  · next opened =>
      have opened : slot.state.closed = false := by simpa using opened
      split
      · next paused =>
          exact .silent rfl (accounted_move ⟨untried, paused, opened⟩ fun other _ => accounts other)
      · split
        · next delivered =>
            exact accounts.wrote untried (attempts_record _ _) rfl rfl (.inr ⟨_, rfl, rfl, .inl delivered⟩)
        · next failed =>
            refine accounts.wrote untried (attempts_record _ _) rfl rfl ⟨⟨_, rfl, rfl, failed, ?_⟩, rfl, ?_⟩
            · rw [WriterState.wrote_generation]
              exact counted.generation
            · exact (slot.state.wrote_closed window outcome).trans opened

/-- A failed call returns once another writer is current or the slot is closed. -/
theorem Accounts.check (accounts : Accounts slot) (counted : Counted slot) {call : C} {window : List UInt8}
    {generation : Nat} (checking : slot.calls call = .checking window generation) :
    (if slot.state.generation = generation ∧ slot.state.closed = false then Call.stalled window generation
      else .returned window).Accounted slot.state (slot.attemptsBy call) := by
  have lost : Lost window generation (slot.attemptsBy call) := by
    have := accounts call
    rwa [checking] at this
  split
  · next waits => exact ⟨lost, waits.1.symm, waits.2⟩
  · next moved =>
      obtain ⟨attempt, one, same, -, current⟩ := lost
      refine .inr ⟨attempt, one, same, .inr ?_⟩
      by_cases closed : slot.state.closed = true
      · exact .inr closed
      · refine .inl fun here => moved ⟨?_, by simpa using closed⟩
        rw [current, here, counted.generation]

theorem Accounts.replacePaused (accounts : Accounts slot) (counted : Counted slot) {call : C}
    (fresh : slot.calls call = .fresh) (written : Nat) (resumes : Bool) :
    Accounts (slot.replacePaused call written resumes) := by
  have untried : slot.attemptsBy call = [] := by
    have := accounts call
    rwa [fresh] at this
  unfold Slot.replacePaused
  by_cases closed : slot.state.closed = true
  · simp only [closed, if_true]
    refine .silent rfl (accounted_move ?_ fun other _ => accounts other)
    split <;> exact untried
  · simp only [closed]
    refine .silent (by split <;> rfl) (accounted_move untried fun other _ => ?_)
    refine (accounts other).notified (by simp [closed]) fun attempt member same => ?_
    -- No window was attempted on the new writer yet.
    have earlier := counted.earlier attempt (List.mem_of_mem_filter member)
    have := counted.current
    simp only [WriterState.replacePaused] at same
    omega

theorem Accounts.step (accounts : Accounts slot) (counted : Counted slot)
    (stepped : slot.step label = some next) : Accounts next := by
  cases label with
  | write call window =>
      simp only [Slot.step] at stepped
      split at stepped
      · next fresh =>
          cases stepped
          have untried := accounts call
          rw [fresh] at untried
          exact .silent rfl (accounted_move untried fun other _ => accounts other)
      · cases stepped
  | enter call outcome =>
      simp only [Slot.step] at stepped
      split at stepped
      · next window entering =>
          cases stepped
          exact accounts.enter counted entering outcome
      · cases stepped
  | check call =>
      simp only [Slot.step] at stepped
      split at stepped
      · next window generation checking =>
          cases stepped
          exact .silent rfl (accounted_move (accounts.check counted checking) fun other _ => accounts other)
      · cases stepped
  | spurious call =>
      cases stepped
      refine .silent rfl (accounted_move ?_ fun other _ => accounts other)
      exact (accounts call).notified id fun _ _ => id
  | replacePaused call written resumes =>
      simp only [Slot.step] at stepped
      split at stepped
      · next allowed =>
          cases stepped
          exact accounts.replacePaused counted allowed.1 written resumes
      · cases stepped
  | retire call =>
      simp only [Slot.step] at stepped
      split at stepped
      · next old resumes retiring =>
          cases stepped
          have untried := accounts call
          rw [retiring] at untried
          refine .silent rfl (accounted_move ?_ fun other _ => accounts other)
          split <;> exact untried
      · cases stepped
  | resumeAfter call =>
      simp only [Slot.step] at stepped
      split at stepped
      · next resuming =>
          cases stepped
          have untried := accounts call
          rw [resuming] at untried
          exact .silent rfl (accounted_move untried fun other _ => (accounts other).notified id fun _ _ => id)
      · cases stepped
  | tryPause =>
      cases stepped
      refine .silent rfl fun call => ?_
      cases froze : slot.state.tryPause with
      | none => exact accounts call
      | some frozen =>
          obtain ⟨-, -, after⟩ := WriterState.tryPause_eq_some.mp froze
          simp only [Option.map_some, Option.getD_some, ← after]
          exact (accounts call).kept (fun _ => rfl) rfl rfl rfl
  | resume =>
      cases stepped
      exact .silent rfl fun call => (accounts call).notified id fun _ _ => id
  | shutdown =>
      cases stepped
      exact .silent rfl fun call => (accounts call).kept id rfl rfl rfl
  | close =>
      cases stepped
      exact .silent rfl fun call => (accounts call).notified (fun _ => rfl) fun _ _ => id

theorem observed_count {events : List (Event C)} (observed : Observed events) (call : C) :
    events.count (.observe call) = ((events.filterMap Event.attempt).filter (·.call = call)).length := by
  have shut (rest : List (Event C)) (all : ∀ event ∈ rest, ∃ writer, event = .shutdownWrite writer) :
      rest.count (.observe call) = 0 ∧ rest.filterMap Event.attempt = [] := by
    refine ⟨List.count_eq_zero.mpr fun member => ?_, List.filterMap_eq_nil_iff.mpr fun event member => ?_⟩
    · obtain ⟨writer, same⟩ := all _ member
      cases same
    · obtain ⟨writer, rfl⟩ := all _ member
      rfl
  rcases observed with all | ⟨attempt, rest, rfl, all⟩
  · simp [shut events all]
  · by_cases same : attempt.call = call <;>
      simp [List.filterMap_cons, shut rest all, same]

theorem observed_total {log : List (List (Event C))} (observed : ∀ events ∈ log, Observed events) (call : C) :
    log.flatten.count (.observe call) =
      ((log.flatten.filterMap Event.attempt).filter (·.call = call)).length := by
  induction log with
  | nil => rfl
  | cons events rest ih =>
      simp only [List.mem_cons, forall_eq_or_imp] at observed
      rw [List.flatten_cons, List.count_append, List.filterMap_append, List.filter_append, List.length_append,
        observed_count observed.1, ih observed.2]

/-- A window is attempted only while the slot is neither paused nor closed. -/
theorem attempts_step (stepped : slot.step label = some next) :
    next.attempts = slot.attempts ∨ (slot.state.paused = false ∧ slot.state.closed = false) := by
  obtain ⟨events, effect, logged⟩ := step_effect stepped
  generalize next.state = state, next.writers = writers at effect
  have attempts := attempts_of_log logged
  cases effect with
  | wrote _ opened running => exact .inr ⟨running, opened⟩
  | replaced =>
      left
      rw [attempts]
      split <;> simp [List.filterMap_cons]
  | idle | paused | resumed | shutdown | closed | retired | rejected =>
      exact .inl (by simpa [List.filterMap_cons] using attempts)

/-- Nothing but a resume or a replacement lifts a pause. -/
theorem paused_step (paused : slot.state.paused = true) (keeps : label.reopens = false)
    (stepped : slot.step label = some next) : next.state.paused = true := by
  obtain ⟨events, effect, -⟩ := step_effect stepped
  generalize next.state = state, next.writers = writers at effect
  cases effect with
  | idle | retired => exact paused
  | paused froze => simp [WriterState.tryPause_eq_some, paused] at froze
  | resumed reopens => simp [keeps] at reopens
  | shutdown | closed => exact paused
  | rejected | replaced => cases keeps
  | wrote => rwa [WriterState.wrote_paused]

theorem frozen {later : Slot C} (paused : slot.state.paused = true)
    (path : Path Slot.step (fun _ label => label.reopens = false) slot later) :
    later.attempts = slot.attempts := by
  have held : later.attempts = slot.attempts ∧ later.state.paused = true := by
    refine Path.invariant (I := fun later => later.attempts = slot.attempts ∧ later.state.paused = true)
      (fun before label after held keeps stepped => ?_) path ⟨rfl, paused⟩
    rcases attempts_step stepped with same | ⟨running, -⟩
    · exact ⟨same.trans held.1, paused_step held.2 keeps stepped⟩
    · simp [held.2] at running
  exact held.1

/-- What every interleaving keeps. -/
structure Kept (slot : Slot C) : Prop where
  counted : Counted slot
  accounts : Accounts slot
  observed : ∀ events ∈ slot.log, Observed events

theorem kept_new : Kept (Slot.new : Slot C) := ⟨counted_new, fun _ => rfl, nofun⟩

theorem Kept.step (kept : Kept slot) (stepped : slot.step label = some next) : Kept next := by
  refine ⟨kept.counted.step stepped, kept.accounts.step kept.counted stepped, ?_⟩
  obtain ⟨events, effect, logged⟩ := step_effect stepped
  rw [logged]
  simp only [List.mem_append, List.mem_singleton, or_imp, forall_and, forall_eq]
  exact ⟨kept.observed, observed_step effect⟩

theorem kept_of_path (path : Path Slot.step Any Slot.new slot) : Kept slot :=
  Path.invariant (fun _ _ _ kept _ stepped => kept.step stepped) path kept_new

/-- A call's window is attempted at most once, and it is the call's own. -/
theorem Accounts.attempted (accounts : Accounts slot) (call : C) :
    (slot.attemptsBy call).length ≤ 1 ∧
      ∀ attempt ∈ slot.attemptsBy call, (slot.calls call).window = some attempt.window := by
  have accounted := accounts call
  generalize slot.attemptsBy call = attempts at accounted
  cases place : slot.calls call with
  | fresh | entering | retiring | resuming | replaced =>
      rw [place] at accounted
      simp [show attempts = [] from accounted]
  | parked =>
      rw [place] at accounted
      simp [accounted.1]
  | checking =>
      rw [place] at accounted
      obtain ⟨attempt, rfl, window, -⟩ := accounted
      simp [Call.window, window]
  | stalled =>
      rw [place] at accounted
      obtain ⟨⟨attempt, rfl, window, -⟩, -⟩ := accounted
      simp [Call.window, window]
  | returned =>
      rw [place] at accounted
      rcases accounted with ⟨rfl, -⟩ | ⟨attempt, rfl, window, -⟩
      · simp
      · simp [Call.window, window]

theorem Accounts.skipped (accounts : Accounts slot) {call : C} {window : List UInt8}
    (returned : slot.calls call = .returned window) (untried : slot.attemptsBy call = []) :
    slot.state.closed = true := by
  have accounted := accounts call
  rw [returned, untried] at accounted
  rcases accounted with ⟨-, closed⟩ | ⟨attempt, one, -⟩
  · exact closed
  · cases one

theorem Accounts.waits (accounts : Accounts slot) {call : C} {window : List UInt8}
    (returned : slot.calls call = .returned window) (attempt : Attempt C)
    (member : attempt ∈ slot.attemptsBy call) :
    attempt.outcome = .delivered ∨ attempt.writer ≠ slot.state.writer ∨ slot.state.closed = true := by
  have accounted := accounts call
  rw [returned] at accounted
  rcases accounted with ⟨none, -⟩ | ⟨only, one, -, ended⟩
  · simp [none] at member
  · simp only [one, List.mem_singleton] at member
    exact member ▸ ended

theorem Accounts.parked (accounts : Accounts slot) {call : C} {window : List UInt8}
    (parked : slot.calls call = .parked window) : slot.state.paused = true ∧ slot.state.closed = false := by
  have accounted := accounts call
  rw [parked] at accounted
  exact accounted.2

/-- While generations do not wrap, the generation a call waits on is that of its writer. -/
theorem Kept.stalled (kept : Kept slot) (few : slot.writers.length ≤ u64) {call : C} {window : List UInt8}
    {generation : Nat} (stalled : slot.calls call = .stalled window generation) :
    slot.state.closed = false ∧ ∀ attempt ∈ slot.attemptsBy call, attempt.writer = slot.state.writer := by
  have accounted := kept.accounts call
  rw [stalled] at accounted
  obtain ⟨⟨only, one, -, -, current⟩, same, opened⟩ := accounted
  refine ⟨opened, fun attempt member => ?_⟩
  have earlier : attempt.writer ≤ slot.state.writer :=
    kept.counted.earlier attempt (List.mem_of_mem_filter member)
  have bound : slot.state.writer < u64 := Nat.lt_of_lt_of_le kept.counted.current few
  simp only [one, List.mem_singleton] at member
  rw [current, kept.counted.generation, ← member, Nat.mod_eq_of_lt bound,
    Nat.mod_eq_of_lt (Nat.lt_of_le_of_lt earlier bound)] at same
  exact same

theorem frozen_tryPause {later : Slot C} {offset : Nat} {state : WriterState}
    (froze : slot.state.tryPause = some (offset, state)) (stepped : slot.step .tryPause = some next)
    (path : Path Slot.step (fun _ label => label.reopens = false) next later) :
    later.attemptsOn slot.state.writer = slot.attemptsOn slot.state.writer := by
  obtain ⟨-, -, rfl⟩ := WriterState.tryPause_eq_some.mp froze
  cases stepped
  refine attemptsOn_congr ((frozen ?_ path).trans ?_) _
  · simp [Slot.record, froze]
  · rw [attempts_record, List.filterMap_nil, List.append_nil]
    rfl

/-- What the slot promises its callers. -/
structure Delivers (slot : Slot C) : Prop where
  once : ∀ call, (slot.attemptsBy call).length ≤ 1
  own : ∀ call, ∀ attempt ∈ slot.attemptsBy call, (slot.calls call).window = some attempt.window
  skipped : ∀ call window, slot.calls call = .returned window → slot.attemptsBy call = [] →
    slot.state.closed = true
  observed : ∀ events ∈ slot.log, Observed events
  observes : ∀ call, slot.log.flatten.count (.observe call) = (slot.attemptsBy call).length
  admitted : ∀ label next, slot.step label = some next → next.attempts ≠ slot.attempts →
    slot.state.paused = false ∧ slot.state.closed = false
  /-- What `try_pause` returns when it freezes the writer. -/
  exact : ∀ offset state, slot.state.tryPause = some (offset, state) →
    (∃ base, slot.writers[slot.state.writer]? = some base ∧
      offset = base + (slot.delivered slot.state.writer).flatten.length) ∧
    ∀ attempt ∈ slot.attemptsOn slot.state.writer, attempt.outcome = .delivered
  /-- Nothing reaches the frozen writer before a resume or a replacement. -/
  freezes : ∀ offset state next later, slot.state.tryPause = some (offset, state) →
    slot.step .tryPause = some next → Path Slot.step (fun _ label => label.reopens = false) next later →
    later.attemptsOn slot.state.writer = slot.attemptsOn slot.state.writer
  /-- A failed call returns only after a replacement or `close`. -/
  waits : ∀ call window, slot.calls call = .returned window → ∀ attempt ∈ slot.attemptsBy call,
    attempt.outcome = .delivered ∨ attempt.writer ≠ slot.state.writer ∨ slot.state.closed = true
  /-- No call is left blocked when what it waits for has happened. -/
  parked : ∀ call window, slot.calls call = .parked window →
    slot.state.paused = true ∧ slot.state.closed = false
  stalled : ∀ call window generation, slot.calls call = .stalled window generation →
    slot.state.closed = false ∧ ∀ attempt ∈ slot.attemptsBy call, attempt.writer = slot.state.writer

/-- For fewer than `2^64` replacements, whatever the calls, the writers' answers and the interleaving. -/
theorem slot_delivers {slot : Slot C} (path : Path Slot.step Any Slot.new slot)
    (few : slot.writers.length ≤ u64) : Delivers slot where
  once call := ((kept_of_path path).accounts.attempted call).1
  own call := ((kept_of_path path).accounts.attempted call).2
  skipped _ _ := (kept_of_path path).accounts.skipped
  observed := (kept_of_path path).observed
  observes := observed_total (kept_of_path path).observed
  admitted _ _ stepped changed := (attempts_step stepped).resolve_left changed
  exact _ _ := (kept_of_path path).counted.paused
  freezes _ _ _ _ := frozen_tryPause
  waits _ _ := (kept_of_path path).accounts.waits
  parked _ _ := (kept_of_path path).accounts.parked
  stalled _ _ _ := (kept_of_path path).stalled few

end

/-- One window is delivered, one fails and its call returns after the replacement. -/
def failedOver : List (Label (Fin 3)) :=
  [.write 0 [104, 10], .enter 0 .delivered, .tryPause, .resume, .write 1 [105], .enter 1 .refused,
    .replacePaused 2 5 true, .retire 2, .resumeAfter 2, .check 1]

theorem slot_delivers_failedOver : ∃ slot : Slot (Fin 3), replay Slot.step failedOver .new = some slot ∧
    slot.calls 1 = .returned [105] ∧ slot.state.writer = 1 ∧ Delivers slot :=
  ⟨_, rfl, rfl, rfl, slot_delivers (path_of_replay failedOver rfl) (by decide)⟩

end KunobiDaemon.Transport
