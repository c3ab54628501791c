import KunobiDaemon.Transport.Delivery

/-! Where in the request stream a pause can fall.

`at_boundary` is set from the last window alone, and an empty window sets it, so it
says nothing about a record that an earlier window left open.
-/

set_option autoImplicit false

namespace KunobiDaemon.Transport

open Lib.Systems

section
variable {C : Type}

/-- What the current writer received so far. -/
def Slot.received (slot : Slot C) : List UInt8 := (slot.delivered slot.state.writer).flatten

/-- Empty, or its last byte is a newline. -/
def Closed (bytes : List UInt8) : Prop := bytes = [] ∨ bytes.getLast? = some 10

/-- `try_pause` freezes only at a record boundary. -/
def PausesBetweenRecords (slot : Slot C) : Prop :=
  ∀ offset state, slot.state.tryPause = some (offset, state) → Closed slot.received

/-- No empty window is delivered inside a record, on a slot that could still be paused. -/
def Whole (slot : Slot C) (label : Label C) : Prop :=
  ∀ call, label = .enter call .delivered → slot.calls call = .entering [] → slot.state.paused = false →
    slot.state.failed = false → slot.state.ended = false → slot.state.closed = false →
    slot.state.atBoundary = true

theorem closed_endsRecord {bytes window : List UInt8} (nonempty : window ≠ []) :
    Closed (bytes ++ window) ↔ endsRecord window = true := by
  obtain ⟨init, last, rfl⟩ := (List.eq_nil_or_concat window).resolve_left nonempty
  simp [Closed, endsRecord]

variable {slot next : Slot C}

/-- How `at_boundary` stands to what the current writer received. -/
structure Bounded (slot : Slot C) : Prop where
  counted : Counted slot
  fits : slot.state.written < u64
  inside : slot.state.atBoundary = false → ¬ Closed slot.received
  between : slot.state.failed = false → slot.state.ended = false → slot.state.atBoundary = true →
    Closed slot.received

theorem bounded_new : Bounded (Slot.new : Slot C) where
  counted := counted_new
  fits := Nat.two_pow_pos 64
  inside := by simp [Slot.new, WriterState.new]
  between := by simp [Slot.received, Slot.delivered, Slot.attemptsOn, Slot.attempts, Slot.new, Closed]

theorem Bounded.pauses (bounded : Bounded slot) : PausesBetweenRecords slot := by
  intro offset state froze
  obtain ⟨⟨-, failed, ended, -, boundary⟩, -, -⟩ := WriterState.tryPause_eq_some.mp froze
  exact bounded.between failed ended boundary

theorem Bounded.flags (bounded : Bounded slot) (counted : Counted next) (attempts : next.attempts = slot.attempts)
    (writer : next.state.writer = slot.state.writer) (written : next.state.written = slot.state.written)
    (boundary : next.state.atBoundary = slot.state.atBoundary) (failed : next.state.failed = slot.state.failed)
    (ended : next.state.ended = false → slot.state.ended = false) : Bounded next := by
  have received : next.received = slot.received := by
    rw [Slot.received, writer, delivered_congr attempts, Slot.received]
  refine ⟨counted, ?_, ?_, ?_⟩
  · rw [written]
    exact bounded.fits
  · rw [boundary, received]
    exact bounded.inside
  · rw [failed, boundary, received]
    exact fun good going => bounded.between good (ended going)

theorem Bounded.replaced (bounded : Bounded slot) (counted : Counted next) {written : Nat} (fits : written < u64)
    (attempts : next.attempts = slot.attempts)
    (state : next.state = slot.state.replacePaused slot.writers.length written) : Bounded next := by
  have received : next.received = [] := by
    have fresh : slot.delivered slot.writers.length = [] := by
      rw [Slot.delivered, bounded.counted.fresh]
      rfl
    rw [Slot.received, delivered_congr attempts, state, WriterState.replacePaused, fresh]
    rfl
  refine ⟨counted, ?_, ?_, fun _ _ _ => received ▸ .inl rfl⟩
  · simpa [state, WriterState.replacePaused] using fits
  · simp [state, WriterState.replacePaused]

/-- A delivered window that is not empty decides by its own last byte. -/
theorem Bounded.delivered (bounded : Bounded slot) (counted : Counted next) {call : C} {window : List UInt8}
    (attempts : next.attempts = slot.attempts ++ [⟨call, slot.state.writer, window, .delivered⟩])
    (state : next.state = slot.state.wrote window .delivered)
    (whole : window = [] → slot.state.failed = false → slot.state.ended = false →
      slot.state.atBoundary = true) : Bounded next := by
  have writer : next.state.writer = slot.state.writer := by simp [state]
  have received : next.received = slot.received ++ window := by
    rw [Slot.received, writer, delivered_snoc attempts rfl]
    simp [Slot.received]
  have boundary : next.state.atBoundary = endsRecord window := by
    rw [state, WriterState.wrote]
  have ended : next.state.ended = slot.state.ended := by simp [state]
  have failed : next.state.failed = false → slot.state.failed = false := by
    rw [state, WriterState.wrote]
    split <;> simp
  refine ⟨counted, ?_, ?_, ?_⟩
  · rw [state, WriterState.wrote]
    split
    · assumption
    · exact bounded.fits
  · rw [boundary, received]
    intro open_
    have nonempty : window ≠ [] := by
      rintro rfl
      cases open_
    rw [closed_endsRecord nonempty, open_]
    exact Bool.false_ne_true
  · rw [boundary, received, ended]
    intro good going closes
    by_cases empty : window = []
    · rw [empty, List.append_nil]
      exact bounded.between (failed good) going (whole empty (failed good) going)
    · exact (closed_endsRecord empty).mpr closes

theorem Bounded.failed (bounded : Bounded slot) (counted : Counted next) {call : C} {window : List UInt8}
    {outcome : Outcome} (lost : outcome ≠ .delivered)
    (attempts : next.attempts = slot.attempts ++ [⟨call, slot.state.writer, window, outcome⟩])
    (state : next.state = slot.state.wrote window outcome) : Bounded next := by
  have writer : next.state.writer = slot.state.writer := by simp [state]
  have received : next.received = slot.received := by
    simp [Slot.received, writer, Slot.delivered, Slot.attemptsOn, attempts, lost]
  have after : next.state = { slot.state with failed := true } := by
    rw [state]
    cases outcome with
    | delivered => exact absurd rfl lost
    | unflushed | refused => rfl
  refine ⟨counted, ?_, ?_, ?_⟩
  · rw [after]
    exact bounded.fits
  · rw [after, received]
    exact bounded.inside
  · simp [after]

variable [DecidableEq C] {label : Label C}

theorem Bounded.step (bounded : Bounded slot) (whole : Whole slot label) (stepped : slot.step label = some next) :
    Bounded next := by
  have counted := bounded.counted.step stepped
  obtain ⟨events, effect, logged⟩ := step_effect stepped
  have attempts := attempts_of_log logged
  generalize state : next.state = after, writers : next.writers = handed at effect
  cases effect with
  | idle | resumed | shutdown | closed | retired | rejected =>
      apply bounded.flags counted (by simpa [List.filterMap_cons] using attempts) <;>
        simp [state, WriterState.resume, WriterState.shutdown, WriterState.close]
  | paused froze =>
      obtain ⟨-, -, rfl⟩ := WriterState.tryPause_eq_some.mp froze
      apply bounded.flags counted (by simpa [List.filterMap_cons] using attempts) <;> simp [state]
  | replaced opened fits =>
      refine bounded.replaced counted fits ?_ state
      rw [attempts]
      split <;> simp [List.filterMap_cons]
  | @wrote call window outcome entering opened running =>
      have attempts : next.attempts = slot.attempts ++ [⟨call, slot.state.writer, window, outcome⟩] := by
        rw [attempts]
        split <;> rfl
      cases outcome with
      | delivered =>
          refine bounded.delivered counted attempts state ?_
          rintro rfl failed ended
          exact whole call rfl entering running failed ended opened
      | unflushed | refused => exact bounded.failed counted (by simp) attempts state

/-- An empty window inside a record leaves a slot that pauses there. -/
theorem Bounded.broken (bounded : Bounded slot) (split : ¬ Whole slot label)
    (stepped : slot.step label = some next) : ¬ PausesBetweenRecords next := by
  simp only [Whole, not_forall] at split
  obtain ⟨call, rfl, entering, running, failed, ended, opened, boundary⟩ := split
  simp only [Slot.step, entering, Slot.enter, opened, running, Bool.false_eq_true, if_false, if_true,
    Option.some.injEq] at stepped
  have state : next.state = slot.state.wrote [] .delivered := by rw [← stepped]; rfl
  have attempts : next.attempts = slot.attempts ++ [⟨call, slot.state.writer, [], .delivered⟩] := by
    rw [← stepped, attempts_record]
    rfl
  have received : next.received = slot.received := by
    have writer : next.state.writer = slot.state.writer := by simp [state]
    rw [Slot.received, writer, delivered_snoc attempts rfl]
    simp [Slot.received]
  intro pauses
  have froze : next.state.tryPause = some (slot.state.written, { next.state with paused := true }) := by
    rw [WriterState.tryPause_eq_some, state, WriterState.wrote]
    simp [bounded.fits, running, failed, ended, opened, endsRecord]
  exact bounded.inside (by simpa using boundary) (received ▸ pauses _ _ froze)

/-- A run pauses between records exactly as long as it delivers no empty window inside one. -/
theorem pauses_between_records_iff (labels : List (Label C)) :
    Throughout Slot.step PausesBetweenRecords labels Slot.new ↔ Meets Slot.step Whole labels Slot.new :=
  throughout_iff_meets (fun _ => Bounded.pauses) (fun _ _ _ => Bounded.step) (fun _ _ _ => Bounded.broken)
    labels bounded_new

end

/-- The window `a` leaves a record open, and an empty window makes the slot pause inside it. -/
theorem pauses_inside_record : ∃ slot : Slot (Fin 2),
    replay Slot.step [.write 0 [97], .enter 0 .delivered, .write 1 [], .enter 1 .delivered] .new = some slot ∧
      slot.state.tryPause.map Prod.fst = some 1 ∧ slot.received = [97] ∧ ¬ PausesBetweenRecords slot := by
  refine ⟨_, rfl, rfl, rfl, fun pauses => ?_⟩
  exact absurd (pauses 1 _ rfl) (by simp [Closed]; decide)

end KunobiDaemon.Transport
