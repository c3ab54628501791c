import KunobiDaemon.Replacement.Safety

/-! The replacement loop when the code between adapter calls takes no time.

Then the time of every event is a sum of calls, sleeps and prefaulting, and one turn has
one of the timed effects below. The number of clock readings is of no consequence.
-/

set_option autoImplicit false

namespace KunobiDaemon.Replacement

section
variable {E : Type}

/-- Nothing passes before a clock reading. -/
def World.Prompt (world : World E) : Prop := ∀ reads, world.lag reads = 0

/-- The deadline, if there is one, is still ahead. -/
def Open (deadline : Option Instant) (moment : Instant) : Prop :=
  ∀ limit, deadline = some limit → moment < limit

/-- The call that a turn makes. -/
def World.called (world : World E) (state : State E) : Call E :=
  let (took, answer) := world.perform state.history state.machine.step state.deadline
  ⟨state.machine.step, state.deadline, state.clock.now, state.clock.now + took, answer⟩

/-- How long the loop prefaults once the machine has moved. -/
def World.warming (world : World E) (before : Bool) (machine : Machine) (history : List (Call E)) : Duration :=
  if machine.committed = true ∧ before = false then world.prefault history else 0

/-- How long the loop sleeps before it repeats a step. -/
def pauseFor (deadline : Option Instant) (moment : Instant) : Duration :=
  match deadline with
  | none => pollInterval
  | some limit => min pollInterval (limit - moment)

/-- What happens to the deadline between two steps. -/
inductive Renewal where
  | keep
  | clear
  | restart (budget : Duration)

def Budgets.renewal (budgets : Budgets) (step previous : Step) : Renewal :=
  if step = .drain ∨ step = .retire then
    match budgets.drain with
    | none => .clear
    | some budget => .restart budget
  else if previous = .drain then .restart budgets.setup
  else .keep

/-- The next deadline, unless there is no such instant. -/
def World.renewed (world : World E) (deadline : Option Instant) (moment : Instant) :
    Renewal → Option (Option Instant)
  | .keep => some deadline
  | .clear => some none
  | .restart budget => if moment + budget ≤ world.latest then some (some (moment + budget)) else none

/-- What one turn does to a state in which the run still goes on. -/
inductive Timed (world : World E) (budgets : Budgets) (state : State E) : State E → Prop where
  | late {reads : Nat} : ¬ Open state.deadline state.clock.now →
      Timed world budgets state { state with
        clock := ⟨state.clock.now, reads⟩
        ending := some (.returned (.error (state.machine.failure .deadline))) }
  | failed {reads : Nat} {error : E} : Open state.deadline state.clock.now →
      (world.called state).answer = .error error →
      Timed world budgets state { state with
        clock := ⟨(world.called state).ended, reads⟩
        history := state.history ++ [world.called state]
        ending := some (.returned (.error (state.machine.failure (.adapter error)))) }
  | tardy {reads : Nat} {progress : Progress} : Open state.deadline state.clock.now →
      (world.called state).answer = .ok progress → state.machine.step ≠ .commit →
      ¬ Open state.deadline (world.called state).ended →
      Timed world budgets state { state with
        clock := ⟨(world.called state).ended, reads⟩
        history := state.history ++ [world.called state]
        ending := some (.returned (.error (state.machine.failure .deadline))) }
  | rejected {reads : Nat} {progress : Progress} {next : Machine} {failure : Failure E} :
      Open state.deadline state.clock.now → (world.called state).answer = .ok progress →
      (state.machine.step ≠ .commit → Open state.deadline (world.called state).ended) →
      state.machine.advance progress = (next, .error failure) →
      Timed world budgets state { state with
        machine := next
        clock := ⟨(world.called state).ended, reads⟩
        history := state.history ++ [world.called state]
        ending := some (.returned (.error failure)) }
  | finished {reads : Nat} {progress : Progress} {next : Machine} {outcome : Outcome} :
      Open state.deadline state.clock.now → (world.called state).answer = .ok progress →
      (state.machine.step ≠ .commit → Open state.deadline (world.called state).ended) →
      state.machine.advance (E := E) progress = (next, .ok (some outcome)) →
      Timed world budgets state { state with
        machine := next
        clock := ⟨(world.called state).ended +
          world.warming state.machine.committed next (state.history ++ [world.called state]), reads⟩
        history := state.history ++ [world.called state]
        ending := some (.returned (.ok outcome)) }
  | retried {reads : Nat} : Open state.deadline state.clock.now →
      (world.called state).answer = .ok .pending →
      state.machine.step = .recheck ∨ state.machine.step = .verify ∨ state.machine.step = .drain →
      Open state.deadline (world.called state).ended →
      Timed world budgets state { state with
        clock := ⟨(world.called state).ended + pauseFor state.deadline (world.called state).ended, reads⟩
        history := state.history ++ [world.called state] }
  | proceeded {reads : Nat} {moment : Instant} {deadline : Option Instant} :
      Open state.deadline state.clock.now → (world.called state).answer = .ok .done →
      (state.machine.step ≠ .commit → Open state.deadline (world.called state).ended) →
      state.machine.proceed.2 = none →
      (world.called state).ended +
        world.warming state.machine.committed state.machine.proceed.1 (state.history ++ [world.called state]) =
          moment →
      world.renewed state.deadline moment
        (budgets.renewal state.machine.proceed.1.step state.machine.step) = some deadline →
      Timed world budgets state { state with
        machine := state.machine.proceed.1
        clock := ⟨moment, reads⟩
        history := state.history ++ [world.called state]
        deadline := deadline }
  | overflowed {reads : Nat} {moment : Instant} : Open state.deadline state.clock.now →
      (world.called state).answer = .ok .done →
      (state.machine.step ≠ .commit → Open state.deadline (world.called state).ended) →
      state.machine.proceed.2 = none →
      (world.called state).ended +
        world.warming state.machine.committed state.machine.proceed.1 (state.history ++ [world.called state]) =
          moment →
      world.renewed state.deadline moment
        (budgets.renewal state.machine.proceed.1.step state.machine.step) = none →
      Timed world budgets state { state with
        machine := state.machine.proceed.1
        clock := ⟨moment, reads⟩
        history := state.history ++ [world.called state]
        ending := some .panicked }

variable {world : World E} {budgets : Budgets}

theorem expired_eq (prompt : world.Prompt) (clock : Reading) (deadline : Option Instant) :
    ∃ reads late, world.expired clock deadline = (⟨clock.now, reads⟩, late) ∧
      (late = true ↔ ¬ Open deadline clock.now) := by
  cases deadline with
  | none => exact ⟨_, _, rfl, by simp [Open]⟩
  | some limit =>
      refine ⟨clock.reads + 1, limit ≤ clock.now, ?_, by simp [Open]⟩
      simp [World.expired, World.read, prompt clock.reads]

theorem pause_eq (prompt : world.Prompt) (state : State E) :
    ∃ reads, state.pause world =
      { state with clock := ⟨state.clock.now + pauseFor state.deadline state.clock.now, reads⟩ } := by
  unfold State.pause pauseFor
  cases state.deadline with
  | none => exact ⟨_, rfl⟩
  | some limit =>
      simp only [World.read, prompt state.clock.reads, Nat.add_zero, Reading.pass]
      exact ⟨_, rfl⟩

/-- The next deadline is set, or the run is over. -/
theorem renew_eq (prompt : world.Prompt) (state : State E) (previous : Step) :
    ∃ reads, state.renew world budgets previous =
      match world.renewed state.deadline state.clock.now (budgets.renewal state.machine.step previous) with
      | some deadline => { state with clock := ⟨state.clock.now, reads⟩, deadline }
      | none => { state with clock := ⟨state.clock.now, reads⟩, ending := some .panicked } := by
  have restarted (budget : Duration) : ∃ reads, state.restart world budget =
      match world.renewed state.deadline state.clock.now (.restart budget) with
      | some deadline => { state with clock := ⟨state.clock.now, reads⟩, deadline }
      | none => { state with clock := ⟨state.clock.now, reads⟩, ending := some .panicked } := by
    refine ⟨state.clock.reads + 1, ?_⟩
    unfold State.restart World.after Clock.add World.clock World.renewed
    simp only [World.read, prompt state.clock.reads, Nat.add_zero]
    split <;> rename_i same <;> simp only [Prod.mk.injEq] at same <;> obtain ⟨rfl, same⟩ := same
    · rw [ite_eq_iff] at same
      obtain ⟨fits, same⟩ | ⟨-, none⟩ := same
      · cases same
        rw [if_pos fits]
      · cases none
    · rw [ite_eq_iff] at same
      obtain ⟨-, some⟩ | ⟨over_, -⟩ := same
      · cases some
      · rw [if_neg over_]
  unfold State.renew Budgets.renewal
  split
  · cases budgets.drain with
    | none => exact ⟨_, rfl⟩
    | some budget => exact restarted budget
  · split
    · exact restarted budgets.setup
    · exact ⟨_, rfl⟩

theorem warm_eq (state : State E) (before : Bool) :
    state.warm world before =
      { state with clock := ⟨state.clock.now + world.warming before state.machine state.history, state.clock.reads⟩ } := by
  unfold State.warm World.warming Reading.pass
  split <;> rfl

/-- The machine stays at its step if it waits, and leaves it if it proceeds. -/
theorem proceed_step {machine : Machine} (more : machine.proceed.2 = none) :
    machine.proceed.1.step ≠ machine.step := by
  obtain ⟨mode, step, committed⟩ := machine
  cases mode <;> cases step <;> simp_all [Machine.proceed]

/-- The effect of an answer that is handed to the machine. -/
theorem settle_timed (prompt : world.Prompt) {state : State E} {reads : Nat} {progress : Progress}
    (open_ : Open state.deadline state.clock.now)
    (answered : (world.called state).answer = .ok progress)
    (intime : state.machine.step ≠ .commit → Open state.deadline (world.called state).ended) :
    Timed world budgets state
      ({ state with
        clock := ⟨(world.called state).ended, reads⟩
        history := state.history ++ [world.called state] }.settle world budgets progress) := by
  unfold State.settle
  rcases advanced : state.machine.advance (E := E) progress with ⟨next, failure | outcome | outcome⟩
  · exact .rejected open_ answered intime advanced
  · simp only [warm_eq]
    rcases advance_cases advanced with ⟨rfl, rfl, -, retried⟩ | ⟨-, -, -, some⟩ | ⟨-, -, -, some⟩ |
      ⟨rfl, rfl, more⟩ | ⟨-, -, failed⟩
    · rw [if_neg (Classical.not_not.mpr rfl)]
      obtain ⟨reads, paused⟩ := pause_eq prompt _
      rw [paused]
      have cold : world.warming state.machine.committed state.machine
          (state.history ++ [world.called state]) = 0 := by simp [World.warming]
      have other : state.machine.step ≠ .commit := by rcases retried with same | same | same <;> simp [same]
      simp only [cold, Nat.add_zero]
      exact .retried open_ answered retried (intime other)
    · cases some
    · cases some
    · have more : state.machine.proceed.2 = none := (Except.ok.inj more).symm
      rw [if_pos (proceed_step more)]
      obtain ⟨reads, renewed⟩ := renew_eq prompt _ _
      rw [renewed]
      split
      · rename_i same
        exact .proceeded open_ answered intime more rfl same
      · rename_i same
        exact .overflowed open_ answered intime more rfl same
    · cases failed
  · simp only [warm_eq, State.finish]
    exact .finished open_ answered intime advanced

theorem turn_timed (prompt : world.Prompt) (budgets : Budgets) {state : State E} (running : state.ending = none) :
    Timed world budgets state (state.turn world budgets) := by
  unfold State.turn
  split
  · rename_i over_
    rw [running] at over_
    cases over_
  obtain ⟨reads, late, first, expired⟩ := expired_eq prompt state.clock state.deadline
  rw [first]
  cases late with
  | true => exact .late (expired.mp rfl)
  | false =>
      have open_ : Open state.deadline state.clock.now := Classical.not_not.mp fun closed => by
        cases expired.mpr closed
      have made : { state with clock := ⟨state.clock.now, reads⟩ }.call world =
          ({ state with
            clock := ⟨(world.called state).ended, reads⟩
            history := state.history ++ [world.called state] }, (world.called state).answer) := rfl
      simp only [made]
      cases answered : (world.called state).answer with
      | error error => exact .failed open_ answered
      | ok progress =>
          simp only
          split
          · rename_i commit
            exact settle_timed prompt open_ answered fun other => absurd commit other
          · rename_i other
            obtain ⟨reads, late, second, expired⟩ :=
              expired_eq prompt ⟨(world.called state).ended, reads⟩ state.deadline
            rw [second]
            cases late with
            | true => exact .tardy open_ answered other (expired.mp rfl)
            | false =>
                refine settle_timed prompt open_ answered fun _ => ?_
                exact Classical.not_not.mp fun closed => by cases expired.mpr closed

end

end KunobiDaemon.Replacement
