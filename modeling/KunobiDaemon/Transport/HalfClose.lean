import KunobiDaemon.Transport.Delivery

/-! Writes after a half-close.

`write_observed` tests `paused` and `closed` but neither `ended` nor `failed`, so a second
thread can write to a peer that `shutdown` or the failed write of a first thread half-closed.
-/

set_option autoImplicit false

namespace KunobiDaemon.Transport

open Lib.Systems

section
variable {C : Type}

def Slot.events (slot : Slot C) : List (Event C) := slot.log.flatten

/-- No byte is passed to a writer after its half-close. -/
def NeverAfter (slot : Slot C) : Prop :=
  slot.events.Pairwise fun earlier later => ∀ attempt, later = .write attempt → attempt.window ≠ [] →
    earlier ≠ .shutdownWrite attempt.writer

/-- A window with bytes is attempted only before the end of the request stream and while no
window has failed on the current writer. -/
def Live (slot : Slot C) (label : Label C) : Prop :=
  ∀ call outcome window, label = .enter call outcome → slot.calls call = .entering window → window ≠ [] →
    slot.state.paused = false → slot.state.closed = false →
    slot.state.ended = false ∧ ∀ attempt ∈ slot.attemptsOn slot.state.writer, attempt.outcome = .delivered

variable {slot next : Slot C}

/-- Which writers were half-closed, by what else happened to them. -/
structure Shut (slot : Slot C) : Prop where
  counted : Counted slot
  never : NeverAfter slot
  handed : ∀ writer, .shutdownWrite writer ∈ slot.events → writer < slot.writers.length
  current : .shutdownWrite slot.state.writer ∈ slot.events → slot.state.ended = true ∨
    slot.state.closed = true ∨ ∃ attempt ∈ slot.attemptsOn slot.state.writer, attempt.outcome ≠ .delivered
  ended : slot.state.ended = true → .shutdownWrite slot.state.writer ∈ slot.events
  failed : ∀ attempt ∈ slot.attempts, attempt.outcome ≠ .delivered → .shutdownWrite attempt.writer ∈ slot.events
  retiring : ∀ call old resumes, slot.calls call = .retiring old resumes →
    old < slot.writers.length ∧ old ≠ slot.state.writer

theorem shut_new : Shut (Slot.new : Slot C) where
  counted := counted_new
  never := .nil
  handed := nofun
  current := nofun
  ended := nofun
  failed := nofun
  retiring := nofun

theorem neverAfter_append {events : List (Event C)} (never : NeverAfter slot)
    (logged : next.events = slot.events ++ events) (silent : events.filterMap Event.attempt = []) :
    NeverAfter next := by
  have quiet : ∀ attempt, Event.write attempt ∉ events := fun attempt member => by
    simpa [Event.attempt] using List.filterMap_eq_nil_iff.mp silent _ member
  rw [NeverAfter, logged, List.pairwise_append]
  refine ⟨never, List.pairwise_of_forall_mem_list ?_, ?_⟩
  · rintro earlier - later member attempt rfl
    exact absurd member (quiet attempt)
  · rintro earlier - later member attempt rfl
    exact absurd member (quiet attempt)

theorem events_of_log {events : List (Event C)} (logged : next.log = slot.log ++ [events]) :
    next.events = slot.events ++ events := by
  simp [Slot.events, logged]

/-- A live writer was not half-closed before. -/
theorem Shut.never_wrote (shut : Shut slot) {call : C} {window : List UInt8} {outcome : Outcome}
    (opened : slot.state.closed = false)
    (recorded : next.events = slot.events ++ .observe call ::
      .write ⟨call, slot.state.writer, window, outcome⟩ ::
        if outcome = .delivered then [] else [.shutdownWrite slot.state.writer])
    (live : window ≠ [] → slot.state.ended = false ∧
      ∀ attempt ∈ slot.attemptsOn slot.state.writer, attempt.outcome = .delivered) : NeverAfter next := by
  rw [NeverAfter, recorded, List.pairwise_append]
  refine ⟨shut.never, ?_, ?_⟩
  · split <;> simp
  · rintro earlier before later here attempt rfl nonempty rfl
    have this_one : attempt = ⟨call, slot.state.writer, window, outcome⟩ := by
      split at here <;> simpa using here
    subst this_one
    obtain ⟨going, delivered⟩ := live nonempty
    rcases shut.current before with finished | closed | ⟨attempt, on, failed⟩
    · simp [going] at finished
    · simp [opened] at closed
    · exact failed (delivered attempt on)

theorem notified_eq_retiring {place : Call} {old : Nat} {resumes : Bool}
    (same : place.notified = .retiring old resumes) : place = .retiring old resumes := by
  cases place <;> first | exact same | cases same

variable [DecidableEq C] {label : Label C}

/-- A call that moves on, but not to retire a writer, leaves those that do as they were. -/
theorem retiring_of_update {calls : C → Call} {mover call : C} {place : Call} {old : Nat} {resumes : Bool}
    (apart : place ≠ .retiring old resumes)
    (same : Function.update calls mover place call = .retiring old resumes) :
    calls call = .retiring old resumes := by
  by_cases here : call = mover
  · subst here
    rw [Function.update_self] at same
    exact absurd same apart
  · rwa [Function.update_of_ne here] at same

/-- The writer a call is to retire is the one that call replaced. -/
theorem retiring_step (stepped : slot.step label = some next) {call : C} {old : Nat} {resumes : Bool}
    (retiring : next.calls call = .retiring old resumes) :
    slot.calls call = .retiring old resumes ∨
      (old = slot.state.writer ∧ next.state.writer = slot.writers.length) := by
  cases label with
  | write caller window =>
      simp only [Slot.step] at stepped
      split at stepped
      · cases stepped
        exact .inl (retiring_of_update (by simp) retiring)
      · cases stepped
  | enter caller outcome =>
      simp only [Slot.step] at stepped
      split at stepped
      · cases stepped
        left
        unfold Slot.enter at retiring
        (repeat' split at retiring) <;> exact retiring_of_update (by simp) retiring
      · cases stepped
  | check caller =>
      simp only [Slot.step] at stepped
      split at stepped
      · cases stepped
        refine .inl (retiring_of_update ?_ retiring)
        split <;> simp
      · cases stepped
  | spurious caller =>
      cases stepped
      left
      by_cases here : call = caller
      · subst here
        exact notified_eq_retiring (by simpa [Slot.record, Slot.move] using retiring)
      · simpa [Slot.record, Slot.move, Function.update_of_ne here] using retiring
  | replacePaused caller written resuming =>
      simp only [Slot.step] at stepped
      split at stepped
      · cases stepped
        unfold Slot.replacePaused at retiring
        by_cases closed : slot.state.closed = true
        · simp only [closed, if_true] at retiring
          refine .inl (retiring_of_update ?_ retiring)
          split <;> simp
        · simp only [closed] at retiring
          by_cases here : call = caller
          · subst here
            simp only [Slot.record, Slot.move, Function.update_self, Call.retiring.injEq, Bool.false_eq_true,
              if_false] at retiring
            refine .inr ⟨retiring.1.symm, ?_⟩
            simp [Slot.replacePaused, Slot.record, closed, WriterState.replacePaused]
          · simp only [Slot.record, Slot.move, Function.update_of_ne here, Bool.false_eq_true,
              if_false] at retiring
            exact .inl (notified_eq_retiring retiring)
      · cases stepped
  | retire caller =>
      simp only [Slot.step] at stepped
      split at stepped
      · cases stepped
        refine .inl (retiring_of_update ?_ retiring)
        split <;> simp
      · cases stepped
  | resumeAfter caller =>
      simp only [Slot.step] at stepped
      split at stepped
      · cases stepped
        have place : slot.wake.calls call = .retiring old resumes := retiring_of_update (by simp) retiring
        exact .inl (notified_eq_retiring place)
      · cases stepped
  | tryPause | shutdown =>
      cases stepped
      exact .inl retiring
  | resume | close =>
      cases stepped
      exact .inl (notified_eq_retiring retiring)

theorem Shut.retiring_kept (shut : Shut slot) (stepped : slot.step label = some next)
    (writer : next.state.writer = slot.state.writer) (grown : slot.writers.length ≤ next.writers.length)
    {call : C} {old : Nat} {resumes : Bool} (retiring : next.calls call = .retiring old resumes) :
    old < next.writers.length ∧ old ≠ next.state.writer := by
  rcases retiring_step stepped retiring with before | ⟨-, new⟩
  · obtain ⟨handed, apart⟩ := shut.retiring call old resumes before
    exact ⟨Nat.lt_of_lt_of_le handed grown, writer ▸ apart⟩
  · exact absurd (writer.symm.trans new) shut.counted.current.ne

/-- A step that passes no window to the writer and keeps it. -/
theorem Shut.silent (shut : Shut slot) {events : List (Event C)} (stepped : slot.step label = some next)
    (logged : next.log = slot.log ++ [events]) (silent : events.filterMap Event.attempt = [])
    (writer : next.state.writer = slot.state.writer) (grown : slot.writers.length ≤ next.writers.length)
    (ended : slot.state.ended = true → next.state.ended = true)
    (closed : slot.state.closed = true → next.state.closed = true)
    (ends : next.state.ended = true → slot.state.ended = true ∨ .shutdownWrite slot.state.writer ∈ events)
    (shuts : ∀ old, .shutdownWrite old ∈ events → old < next.writers.length ∧
      (old = slot.state.writer → next.state.ended = true ∨ next.state.closed = true)) : Shut next := by
  have recorded := events_of_log logged
  have attempts := attempts_of_silent logged silent
  refine ⟨shut.counted.step stepped, neverAfter_append shut.never recorded silent, ?_, ?_, ?_, ?_, ?_⟩
  · intro old member
    rw [recorded, List.mem_append] at member
    rcases member with member | member
    · exact Nat.lt_of_lt_of_le (shut.handed old member) grown
    · exact (shuts old member).1
  · rw [writer, recorded, List.mem_append, attemptsOn_congr attempts]
    rintro (member | member)
    · rcases shut.current member with finished | shut | failed
      · exact .inl (ended finished)
      · exact .inr (.inl (closed shut))
      · exact .inr (.inr failed)
    · rcases (shuts _ member).2 rfl with finished | shut
      · exact .inl finished
      · exact .inr (.inl shut)
  · rw [writer, recorded, List.mem_append]
    intro finished
    exact (ends finished).imp_left shut.ended
  · rw [attempts, recorded]
    exact fun attempt member failed => List.mem_append_left _ (shut.failed attempt member failed)
  · intro call old resumes retiring
    exact shut.retiring_kept stepped writer grown retiring

theorem Shut.replaced (shut : Shut slot) {caller : C} {written : Nat} {resuming : Bool}
    (stepped : slot.step (.replacePaused caller written resuming) = some next)
    (state : next.state = slot.state.replacePaused slot.writers.length written)
    (writers : next.writers = slot.writers ++ [written])
    (logged : next.log = slot.log ++ [if slot.state.ended then [.shutdownWrite slot.writers.length] else []]) :
    Shut next := by
  have recorded := events_of_log logged
  have silent : (if slot.state.ended then [.shutdownWrite slot.writers.length] else [] :
      List (Event C)).filterMap Event.attempt = [] := by
    split <;> rfl
  have attempts := attempts_of_silent logged silent
  have member (old : Nat) (member : .shutdownWrite old ∈ next.events) :
      .shutdownWrite old ∈ slot.events ∨ (slot.state.ended = true ∧ old = slot.writers.length) := by
    rw [recorded, List.mem_append] at member
    rcases member with member | member
    · exact .inl member
    · split at member
      · next finished => exact .inr ⟨finished, by simpa using member⟩
      · cases member
  have writer : next.state.writer = slot.writers.length := by rw [state]; rfl
  have ended : next.state.ended = slot.state.ended := by rw [state]; rfl
  refine ⟨shut.counted.step stepped, neverAfter_append shut.never recorded silent, ?_, ?_, ?_, ?_, ?_⟩
  · intro old shuts
    rw [writers, List.length_append]
    rcases member old shuts with before | ⟨-, new⟩
    · exact Nat.lt_add_right _ (shut.handed old before)
    · simp [new]
  · rw [writer, ended]
    intro shuts
    rcases member _ shuts with before | ⟨finished, -⟩
    · exact absurd (shut.handed _ before) (Nat.lt_irrefl _)
    · exact .inl finished
  · rw [writer, ended, recorded]
    intro finished
    simp [finished]
  · rw [attempts, recorded]
    exact fun attempt member failed => List.mem_append_left _ (shut.failed attempt member failed)
  · intro call old resumes retiring
    rw [writer, writers, List.length_append]
    rcases retiring_step stepped retiring with before | ⟨rfl, -⟩
    · have handed := (shut.retiring call old resumes before).1
      exact ⟨Nat.lt_add_right _ handed, handed.ne⟩
    · exact ⟨Nat.lt_add_right _ shut.counted.current, shut.counted.current.ne⟩

theorem Shut.wrote (shut : Shut slot) {call : C} {window : List UInt8} {outcome : Outcome}
    (stepped : slot.step (.enter call outcome) = some next) (opened : slot.state.closed = false)
    (state : next.state = slot.state.wrote window outcome) (writers : next.writers = slot.writers)
    (logged : next.log = slot.log ++ [.observe call :: .write ⟨call, slot.state.writer, window, outcome⟩ ::
      if outcome = .delivered then [] else [.shutdownWrite slot.state.writer]])
    (live : window ≠ [] → slot.state.ended = false ∧
      ∀ attempt ∈ slot.attemptsOn slot.state.writer, attempt.outcome = .delivered) : Shut next := by
  have recorded := events_of_log logged
  have attempts : next.attempts = slot.attempts ++ [⟨call, slot.state.writer, window, outcome⟩] := by
    rw [attempts_of_log logged]
    split <;> rfl
  have writer : next.state.writer = slot.state.writer := by simp [state]
  have member (old : Nat) (member : .shutdownWrite old ∈ next.events) :
      .shutdownWrite old ∈ slot.events ∨ (outcome ≠ .delivered ∧ old = slot.state.writer) := by
    rw [recorded, List.mem_append] at member
    rcases member with member | member
    · exact .inl member
    · by_cases delivers : outcome = .delivered
      · simp [delivers] at member
      · exact .inr ⟨delivers, by simpa [delivers] using member⟩
  refine ⟨shut.counted.step stepped, shut.never_wrote opened recorded live, ?_, ?_, ?_, ?_, ?_⟩
  · intro old shuts
    rw [writers]
    rcases member old shuts with before | ⟨-, rfl⟩
    · exact shut.handed old before
    · exact shut.counted.current
  · rw [writer]
    intro shuts
    rcases member _ shuts with before | ⟨failed, -⟩
    · rcases shut.current before with finished | closed | ⟨attempt, on, failed⟩
      · exact .inl (by simpa [state] using finished)
      · simp [opened] at closed
      · refine .inr (.inr ⟨attempt, ?_, failed⟩)
        rw [Slot.attemptsOn, attempts, List.filter_append]
        exact List.mem_append_left _ on
    · refine .inr (.inr ⟨⟨call, slot.state.writer, window, outcome⟩, ?_, failed⟩)
      simp [Slot.attemptsOn, attempts]
  · rw [writer, recorded]
    intro finished
    exact List.mem_append_left _ (shut.ended (by simpa [state] using finished))
  · rw [attempts, recorded]
    simp only [List.mem_append, List.mem_singleton]
    rintro attempt (before | rfl) failed
    · exact .inl (shut.failed attempt before failed)
    · exact .inr (by simp [show outcome ≠ .delivered from failed])
  · intro call old resumes retiring
    exact shut.retiring_kept stepped writer (by rw [writers]) retiring

theorem Shut.step (shut : Shut slot) (live : Live slot label) (stepped : slot.step label = some next) :
    Shut next := by
  obtain ⟨events, effect, logged⟩ := step_effect stepped
  generalize state : next.state = after, writers : next.writers = handed at effect
  cases effect with
  | idle | resumed =>
      apply shut.silent stepped logged rfl <;> simp [state, writers, WriterState.resume]
  | paused froze =>
      obtain ⟨-, -, rfl⟩ := WriterState.tryPause_eq_some.mp froze
      apply shut.silent stepped logged rfl <;> simp [state, writers]
  | shutdown | closed =>
      apply shut.silent stepped logged rfl <;>
        simp [state, writers, WriterState.shutdown, WriterState.close, shut.counted.current]
  | retired retiring =>
      obtain ⟨handed, apart⟩ := shut.retiring _ _ _ retiring
      apply shut.silent stepped logged rfl <;> simp +contextual [state, writers, handed, apart]
  | rejected closed =>
      apply shut.silent stepped logged rfl <;> simp +contextual [state, writers, closed]
  | replaced opened => exact shut.replaced stepped state writers logged
  | @wrote call window outcome entering opened running =>
      refine shut.wrote stepped opened state writers logged fun nonempty => ?_
      exact live call outcome window rfl entering nonempty running opened

/-- A window with bytes that is attempted on an ended or failed writer reaches a half-closed peer. -/
theorem Shut.broken (shut : Shut slot) (dead : ¬ Live slot label) (stepped : slot.step label = some next) :
    ¬ NeverAfter next := by
  simp only [Live, not_forall] at dead
  obtain ⟨call, outcome, window, rfl, entering, nonempty, running, opened, dead⟩ := dead
  have before : .shutdownWrite slot.state.writer ∈ slot.events := by
    cases finished : slot.state.ended with
    | true => exact shut.ended finished
    | false =>
        simp only [finished, true_and, not_forall] at dead
        obtain ⟨attempt, on, failed⟩ := dead
        simp only [Slot.attemptsOn, List.mem_filter, decide_eq_true_eq] at on
        exact on.2 ▸ shut.failed attempt on.1 failed
  have after : ∃ rest, next.events =
      slot.events ++ .observe call :: .write ⟨call, slot.state.writer, window, outcome⟩ :: rest := by
    simp only [Slot.step, entering, Slot.enter, opened, running, Bool.false_eq_true, if_false,
      Option.some.injEq] at stepped
    subst stepped
    split
    · exact ⟨[], events_of_log rfl⟩
    · exact ⟨[.shutdownWrite slot.state.writer], events_of_log rfl⟩
  obtain ⟨rest, recorded⟩ := after
  intro never
  rw [NeverAfter, recorded, List.pairwise_append] at never
  exact never.2.2 _ before (.write ⟨call, slot.state.writer, window, outcome⟩) (by simp) _ rfl nonempty rfl

/-- A run writes nothing to a half-closed peer exactly as long as it attempts no window with
bytes after the end of the requests or after a failure on the same writer. -/
theorem never_after_half_close_iff (labels : List (Label C)) :
    Throughout Slot.step NeverAfter labels Slot.new ↔ Meets Slot.step Live labels Slot.new :=
  throughout_iff_meets (fun _ => Shut.never) (fun _ _ _ => Shut.step) (fun _ _ _ => Shut.broken) labels shut_new

end

/-- `shutdown` half-closes the peer, and the next window is written to it all the same. -/
theorem writes_after_half_close : ∃ slot : Slot (Fin 1),
    replay Slot.step [.shutdown, .write 0 [97], .enter 0 .delivered] .new = some slot ∧
      slot.events = [.shutdownWrite 0, .observe 0, .write ⟨0, 0, [97], .delivered⟩] ∧ ¬ NeverAfter slot := by
  refine ⟨_, rfl, rfl, fun never => ?_⟩
  obtain ⟨apart, -⟩ := List.pairwise_cons.mp never
  exact apart (.write ⟨0, 0, [97], .delivered⟩) (.tail _ (.head _)) _ rfl nofun rfl

end KunobiDaemon.Transport
