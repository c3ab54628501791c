import KunobiDaemon.Time
import KunobiDaemon.Replacement.Budgets

/-! The asynchronous replacement loop agrees with the blocking one.

`run_async` cancels a call at its deadline instead of looking at the clock after it, and
sleeps until an instant instead of for a duration. The next wake is computed before it is
cut at the deadline, so what is shown assumes that this instant is representable (`Roomy`).
No clock in use is that near to its last instant.
-/

set_option autoImplicit false

namespace KunobiDaemon.Replacement

section
variable {E : Type}

/-- The state of `run_async`, with every call that was begun, a cancelled one included. -/
structure AsyncState (E : Type) extends State E where
  asked : List (Step × Option Instant)

variable (world : World E)

/-- `sleep_until(deadline.map_or(wake, |limit| limit.min(wake)))`, where the wake is so far from now. -/
def State.sleepAsync (state : State E) (interval : Duration) : State E :=
  match world.after state.clock interval with
  | (clock, none) => { state with clock, ending := some .panicked }
  | (clock, some wake) =>
      let until_ := match state.deadline with
        | none => wake
        | some limit => min limit wake
      { state with clock := { clock with now := max clock.now until_ } }

def State.pauseAsync (state : State E) : State E := state.sleepAsync world pollInterval

/-- What the loop does with an answer that came in time. -/
def State.settleAsync (state : State E) (budgets : Budgets) (progress : Progress) : State E :=
  let step := state.machine.step
  let committedBefore := state.machine.committed
  match state.machine.advance (E := E) progress with
  | (machine, .error failure) => { state with machine }.finish (.error failure)
  | (machine, .ok (some outcome)) =>
      ({ state with machine }.warm world committedBefore).finish (.ok outcome)
  | (machine, .ok none) =>
      let state := { state with machine }.warm world committedBefore
      if machine.step ≠ step then state.renew world budgets step else state.pauseAsync world

/-- Perform the machine's step. Except for a commit, its call is dropped at the deadline. -/
def State.callAsync (state : State E) : State E × Option (Except E Progress) :=
  let (called, answer) := state.call world
  match state.deadline.filter fun _ => state.machine.step ≠ .commit with
  | none => (called, some answer)
  | some limit =>
      if called.clock.now ≤ limit then (called, some answer)
      else ({ state with clock := { state.clock with now := max state.clock.now limit } }, none)

/-- The call of an iteration, and what follows from it. -/
def State.attend (state : State E) (budgets : Budgets) : State E :=
  match state.callAsync world with
  | (state, none) => state.finish (.error (state.machine.failure .deadline))
  | (state, some (.error error)) => state.finish (.error (state.machine.failure (.adapter error)))
  | (state, some (.ok progress)) =>
      if state.machine.step = .commit then state.settleAsync world budgets progress
      else
        match world.expired state.clock state.deadline with
        | (clock, true) => { state with clock }.finish (.error (state.machine.failure .deadline))
        | (clock, false) => { state with clock }.settleAsync world budgets progress

/-- One iteration of the loop in `run_async`. -/
def AsyncState.turn (budgets : Budgets) (state : AsyncState E) : AsyncState E :=
  match state.ending with
  | some _ => state
  | none =>
      match world.expired state.clock state.deadline with
      | (clock, true) =>
          { state with toState := { state.toState with clock }.finish (.error (state.machine.failure .deadline)) }
      | (clock, false) =>
          { toState := { state.toState with clock }.attend world budgets
            asked := state.asked ++ [(state.machine.step, state.deadline)] }

/-- `run_async` after so many iterations. -/
def runAsync (mode : Mode) (budgets : Budgets) (start : Instant) : Nat → AsyncState E
  | 0 => ⟨enter world mode budgets start, []⟩
  | iterations + 1 => (runAsync mode budgets start iterations).turn world budgets

/-! ## Agreement -/

/-- Two endings that tell a caller the same, but for the reason of an error that came late. -/
inductive SameEnding (history : List (Call E)) : Option (Ending E) → Option (Ending E) → Prop where
  | going : SameEnding history none none
  | panicked : SameEnding history (some .panicked) (some .panicked)
  | returned {result : Except (Failure E) Outcome} :
      SameEnding history (some (.returned result)) (some (.returned result))
  | overdue {before : List (Call E)} {call : Call E} {limit : Instant} {error : E} {step : Step} {committed : Bool} :
      history = before ++ [call] → call.deadline = some limit → limit < call.ended → call.answer = .error error →
      SameEnding history (some (.returned (.error ⟨step, committed, .adapter error⟩)))
        (some (.returned (.error ⟨step, committed, .deadline⟩)))

/-- Both performed the same steps with the same deadlines, and go on or ended in the same way. -/
structure Agrees (state : State E) (async : AsyncState E) : Prop where
  asked : async.asked = state.history.map fun call => (call.step, call.deadline)
  ending : SameEnding state.history state.ending async.ending

/-- The loop sleeps after the call and performs the step once more. -/
structure Call.Retried (call : Call E) : Prop where
  pending : call.answer = .ok .pending
  step : call.step = .recheck ∨ call.step = .verify ∨ call.step = .drain
  open_ : Open call.deadline call.ended

/-- After every call that is repeated there is a representable instant a poll interval later. -/
def Roomy (world : World E) (history : List (Call E)) : Prop :=
  ∀ call ∈ history, call.Retried → call.ended + pollInterval ≤ world.latest

/-- The state with its clock read so many times. -/
def State.reread (state : State E) (reads : Nat) : State E := { state with clock := ⟨state.clock.now, reads⟩ }

/-- How a turn of `run_async` follows the same turn of `run`. -/
inductive Follows (world : World E) (state next : State E) (asked : List (Step × Option Instant)) :
    AsyncState E → Prop where
  | late {reads : Nat} : next.history = state.history → Follows world state next asked ⟨next.reread reads, asked⟩
  | same {reads : Nat} : next.history = state.history ++ [world.called state] →
      ((world.called state).Retried → (world.called state).ended + pollInterval ≤ world.latest) →
      Follows world state next asked ⟨next.reread reads, asked ++ [(state.machine.step, state.deadline)]⟩
  | cancelled {other : State E} : next.history = state.history ++ [world.called state] →
      ¬ (world.called state).Retried → next.ending ≠ none → SameEnding next.history next.ending other.ending →
      Follows world state next asked ⟨other, asked ++ [(state.machine.step, state.deadline)]⟩
  | overflowed {other : State E} : next.history = state.history ++ [world.called state] →
      (world.called state).Retried → world.latest < (world.called state).ended + pollInterval →
      next.ending = none → other.ending = some .panicked →
      Follows world state next asked ⟨other, asked ++ [(state.machine.step, state.deadline)]⟩

variable {world}

/-- Sleeping until an instant and sleeping for a duration end at the same time. -/
theorem wake_eq {now limit interval : Nat} (before : now < limit) :
    max now (min limit (now + interval)) = now + min interval (limit - now) := by
  omega

theorem sleepAsync_eq (prompt : world.Prompt) {state : State E} (interval : Duration)
    (open_ : Open state.deadline state.clock.now) :
    (state.clock.now + interval ≤ world.latest ∧ ∃ reads, state.sleepAsync world interval =
        { state with clock := ⟨state.clock.now + (match state.deadline with
          | none => interval
          | some limit => min interval (limit - state.clock.now)), reads⟩ }) ∨
      (world.latest < state.clock.now + interval ∧ (state.sleepAsync world interval).ending = some .panicked) := by
  unfold State.sleepAsync World.after Clock.add World.clock
  simp only [World.read, prompt state.clock.reads, Nat.add_zero]
  by_cases fits : state.clock.now + interval ≤ world.latest
  · refine .inl ⟨fits, state.clock.reads + 1, ?_⟩
    rw [if_pos fits]
    cases same : state.deadline with
    | none => simp only [Nat.max_eq_right (Nat.le_add_right _ _)]
    | some limit => simp only [wake_eq (open_ limit same)]
  · rw [if_neg fits]
    exact .inr ⟨Nat.lt_of_not_le fits, rfl⟩

theorem pauseAsync_eq (prompt : world.Prompt) {state : State E} (open_ : Open state.deadline state.clock.now) :
    (state.clock.now + pollInterval ≤ world.latest ∧ ∃ reads, state.pauseAsync world =
        { state with clock := ⟨state.clock.now + pauseFor state.deadline state.clock.now, reads⟩ }) ∨
      (world.latest < state.clock.now + pollInterval ∧ (state.pauseAsync world).ending = some .panicked) :=
  sleepAsync_eq prompt pollInterval open_

/-- The state after a call that was not dropped. -/
def State.answered (world : World E) (state : State E) (reads : Nat) : State E :=
  { state with
    clock := ⟨(world.called state).ended, reads⟩
    history := state.history ++ [world.called state] }

section
variable {state : State E} (budgets : Budgets) (reads : Nat)

/-- The call is not dropped if it is a commit or done by its deadline. -/
theorem callAsync_eq {answer : Except E Progress} (answered : (world.called state).answer = answer)
    (intime : state.machine.step ≠ .commit → ∀ limit, state.deadline = some limit → (world.called state).ended ≤ limit) :
    (state.reread reads).callAsync world = (state.answered world reads, some answer) := by
  have made : (state.reread reads).call world = (state.answered world reads, (world.called state).answer) := rfl
  unfold State.callAsync
  rw [made, answered]
  dsimp only
  split
  · rfl
  · rename_i limit filtered
    simp only [Option.filter_eq_some_iff, decide_eq_true_eq] at filtered
    exact if_pos (intime filtered.2 limit filtered.1)

theorem attend_settles (prompt : world.Prompt) {progress : Progress}
    (answered : (world.called state).answer = .ok progress)
    (intime : state.machine.step ≠ .commit → Open state.deadline (world.called state).ended) :
    ∃ later, (state.reread reads).attend world budgets =
      (state.answered world later).settleAsync world budgets progress := by
  unfold State.attend
  rw [callAsync_eq reads answered fun other limit same => Nat.le_of_lt (intime other limit same)]
  dsimp only
  split
  · exact ⟨reads, rfl⟩
  · rename_i other
    obtain ⟨later, late, read, expired⟩ := expired_eq prompt (state.answered world reads).clock state.deadline
    have same : (state.answered world reads).deadline = state.deadline := rfl
    rw [same, read]
    cases late with
    | true => exact absurd (intime other) (expired.mp rfl)
    | false => exact ⟨later, rfl⟩

theorem attend_fails {error : E} (answered : (world.called state).answer = .error error)
    (intime : state.machine.step ≠ .commit → ∀ limit, state.deadline = some limit →
      (world.called state).ended ≤ limit) :
    (state.reread reads).attend world budgets =
      (state.answered world reads).finish (.error (state.machine.failure (.adapter error))) := by
  unfold State.attend
  rw [callAsync_eq reads answered intime]
  rfl

/-- The call is dropped at its deadline. -/
theorem attend_cancels {limit : Instant} (other : state.machine.step ≠ .commit)
    (bounded : state.deadline = some limit) (late : limit < (world.called state).ended) :
    ((state.reread reads).attend world budgets).ending =
      some (.returned (.error (state.machine.failure .deadline))) := by
  have filtered : (state.reread reads).deadline.filter (fun _ => (state.reread reads).machine.step ≠ .commit) =
      some limit := by
    change state.deadline.filter (fun _ => state.machine.step ≠ .commit) = some limit
    rw [bounded, Option.filter_some, if_pos (by simpa using other)]
  have passed : ¬ ((state.reread reads).call world).1.clock.now ≤ limit := Nat.not_le.mpr late
  unfold State.attend State.callAsync
  simp only [filtered, if_neg passed]
  rfl

/-- An answer at the deadline itself is not used. -/
theorem attend_late (prompt : world.Prompt) {progress : Progress}
    (answered : (world.called state).answer = .ok progress) (other : state.machine.step ≠ .commit)
    (bounded : state.deadline = some (world.called state).ended) :
    ((state.reread reads).attend world budgets).ending =
      some (.returned (.error (state.machine.failure .deadline))) := by
  have step : (state.answered world reads).machine.step ≠ .commit := other
  unfold State.attend
  rw [callAsync_eq reads answered fun _ limit same => Nat.le_of_eq (Option.some.inj (bounded.symm.trans same))]
  dsimp only
  rw [if_neg step]
  obtain ⟨later, late, read, expired⟩ := expired_eq prompt (state.answered world reads).clock state.deadline
  have same : (state.answered world reads).deadline = state.deadline := rfl
  rw [same, read]
  cases late with
  | true => rfl
  | false =>
      have passed : ¬ Open state.deadline (world.called state).ended := fun open_ =>
        Nat.lt_irrefl _ (open_ _ bounded)
      cases expired.mpr passed

theorem advance_done (machine : Machine) :
    machine.advance (E := E) .done = (machine.proceed.1, .ok machine.proceed.2) := by
  obtain ⟨mode, step, committed⟩ := machine
  cases step <;> rfl

theorem advance_pending {machine : Machine}
    (retried : machine.step = .recheck ∨ machine.step = .verify ∨ machine.step = .drain) :
    machine.advance (E := E) .pending = (machine, .ok none) := by
  obtain ⟨mode, step, committed⟩ := machine
  rcases retried with same | same | same <;> cases same <;> rfl

/-- The machine moves on as in `run`. -/
theorem settleAsync_proceeds (prompt : world.Prompt) (more : state.machine.proceed.2 = none) :
    ∃ later, (state.answered world reads).settleAsync world budgets .done =
      (let moment := (world.called state).ended +
        world.warming state.machine.committed state.machine.proceed.1 (state.history ++ [world.called state])
      match world.renewed state.deadline moment
        (budgets.renewal state.machine.proceed.1.step state.machine.step) with
      | some deadline => { state.answered world later with
          machine := state.machine.proceed.1, clock := ⟨moment, later⟩, deadline }
      | none => { state.answered world later with
          machine := state.machine.proceed.1, clock := ⟨moment, later⟩, ending := some .panicked }) := by
  have advanced : (state.answered world reads).machine.advance (E := E) .done =
      (state.machine.proceed.1, .ok none) := more ▸ advance_done state.machine
  unfold State.settleAsync
  rw [advanced]
  dsimp only
  have moved : state.machine.proceed.1.step ≠ (state.answered world reads).machine.step := proceed_step more
  rw [warm_eq, if_pos moved]
  exact renew_eq prompt _ _

/-- The step is repeated as in `run`, unless there is no instant to wake at. -/
theorem settleAsync_repeats (prompt : world.Prompt)
    (retried : state.machine.step = .recheck ∨ state.machine.step = .verify ∨ state.machine.step = .drain)
    (intime : Open state.deadline (world.called state).ended) :
    ((world.called state).ended + pollInterval ≤ world.latest ∧
      ∃ later, (state.answered world reads).settleAsync world budgets .pending =
        { state.answered world later with
          clock := ⟨(world.called state).ended + pauseFor state.deadline (world.called state).ended, later⟩ }) ∨
    (world.latest < (world.called state).ended + pollInterval ∧
      ((state.answered world reads).settleAsync world budgets .pending).ending = some .panicked) := by
  have advanced : (state.answered world reads).machine.advance (E := E) .pending = (state.machine, .ok none) :=
    advance_pending retried
  have cold : (state.answered world reads).warm world state.machine.committed = state.answered world reads :=
    if_neg fun ⟨committed, uncommitted⟩ => by cases committed.symm.trans uncommitted
  have settles : (state.answered world reads).settleAsync world budgets .pending =
      (state.answered world reads).pauseAsync world := by
    unfold State.settleAsync
    rw [advanced]
    dsimp only
    have stays : ¬ state.machine.step ≠ (state.answered world reads).machine.step := fun moved => moved rfl
    rw [if_neg stays]
    exact congrArg (State.pauseAsync world) cold
  have open_ : Open (state.answered world reads).deadline (state.answered world reads).clock.now := intime
  rw [settles]
  exact pauseAsync_eq prompt open_

theorem turnAsync_eq (prompt : world.Prompt) (going : state.ending = none) (asked : List (Step × Option Instant)) :
    ∃ later, (¬ Open state.deadline state.clock.now → AsyncState.turn world budgets ⟨state.reread reads, asked⟩ =
        ⟨(state.reread later).finish (.error (state.machine.failure .deadline)), asked⟩) ∧
      (Open state.deadline state.clock.now → AsyncState.turn world budgets ⟨state.reread reads, asked⟩ =
        ⟨(state.reread later).attend world budgets, asked ++ [(state.machine.step, state.deadline)]⟩) := by
  have none : (state.reread reads).ending = none := going
  obtain ⟨later, late, read, expired⟩ :=
    expired_eq prompt (state.reread reads).clock (state.reread reads).deadline
  refine ⟨later, ?_⟩
  unfold AsyncState.turn
  split
  · rename_i stopped
    rw [none] at stopped
    cases stopped
  · rw [read]
    cases late with
    | true => exact ⟨fun _ => rfl, fun open_ => absurd open_ (expired.mp rfl)⟩
    | false => exact ⟨fun closed => absurd (expired.mpr closed) Bool.false_ne_true, fun _ => rfl⟩

/-- One turn of `run` decides the same turn of `run_async`. -/
theorem Timed.follows {budgets : Budgets} (prompt : world.Prompt) {next : State E}
    (timed : Timed world budgets state next) (going : state.ending = none) (asked : List (Step × Option Instant)) :
    Follows world state next asked (AsyncState.turn world budgets ⟨state.reread reads, asked⟩) := by
  obtain ⟨later, gives_up, attends⟩ := turnAsync_eq budgets reads prompt going asked
  -- Only a step that waits is repeated.
  have waits (retried : (world.called state).Retried) : state.machine.advance (E := E) .pending =
      (state.machine, .ok none) := advance_pending retried.step
  cases timed with
  | late closed =>
      rw [gives_up closed]
      exact .late rfl
  | failed open_ answered =>
      have single : ¬ (world.called state).Retried := fun retried => by cases answered.symm.trans retried.pending
      rw [attends open_]
      by_cases intime : state.machine.step ≠ .commit → ∀ limit, state.deadline = some limit →
          (world.called state).ended ≤ limit
      · rw [attend_fails budgets later answered intime]
        exact .same rfl fun retried => absurd retried single
      · simp only [Classical.not_imp, not_forall, Nat.not_le] at intime
        obtain ⟨other, limit, same, late⟩ := intime
        refine .cancelled rfl single (Option.some_ne_none _) ?_
        rw [attend_cancels budgets later other same late]
        exact .overdue rfl same late answered
  | tardy open_ answered other closed =>
      have single : ¬ (world.called state).Retried := fun retried => closed retried.open_
      rw [attends open_]
      simp only [Open, not_forall, Nat.not_lt] at closed
      obtain ⟨limit, same, reached⟩ := closed
      refine .cancelled rfl single (Option.some_ne_none _) ?_
      rcases Nat.lt_or_eq_of_le reached with late | rfl
      · rw [attend_cancels budgets later other same late]
        exact .returned
      · rw [attend_late budgets later prompt answered other same]
        exact .returned
  | rejected open_ answered intime advanced =>
      obtain ⟨after, settles⟩ := attend_settles budgets later prompt answered intime
      have same : (state.answered world after).machine.advance _ = _ := advanced
      rw [attends open_, settles, State.settleAsync, same]
      refine .same rfl fun retried => ?_
      cases answered.symm.trans retried.pending
      cases (waits retried).symm.trans advanced
  | finished open_ answered intime advanced =>
      obtain ⟨after, settles⟩ := attend_settles budgets later prompt answered intime
      have same : (state.answered world after).machine.advance (E := E) _ = _ := advanced
      rw [attends open_, settles, State.settleAsync, same]
      dsimp only
      rw [warm_eq]
      refine .same rfl fun retried => ?_
      cases answered.symm.trans retried.pending
      cases (waits retried).symm.trans advanced
  | retried open_ answered retried intime =>
      obtain ⟨after, settles⟩ := attend_settles budgets later prompt answered fun _ => intime
      rw [attends open_, settles]
      obtain ⟨room, final, paused⟩ | ⟨full, panicked⟩ := settleAsync_repeats budgets after prompt retried intime
      · rw [paused]
        exact .same rfl fun _ => room
      · exact .overflowed rfl ⟨answered, retried, intime⟩ full going panicked
  | proceeded open_ answered intime more warmed renewed =>
      obtain ⟨after, settles⟩ := attend_settles budgets later prompt answered intime
      obtain ⟨final, moves⟩ := settleAsync_proceeds budgets after prompt more
      rw [attends open_, settles, moves]
      subst warmed
      simp only [renewed]
      exact .same rfl fun retried => by cases answered.symm.trans retried.pending
  | overflowed open_ answered intime more warmed renewed =>
      obtain ⟨after, settles⟩ := attend_settles budgets later prompt answered intime
      obtain ⟨final, moves⟩ := settleAsync_proceeds budgets after prompt more
      rw [attends open_, settles, moves]
      subst warmed
      simp only [renewed]
      exact .same rfl fun retried => by cases answered.symm.trans retried.pending

end

/-! ## Whole runs -/

/-- Both loops are at the same point of the same run. -/
def Level (state : State E) (async : AsyncState E) : Prop :=
  ∃ reads, async = ⟨state.reread reads, state.history.map fun call => (call.step, call.deadline)⟩

/-- Both loops are level, or both are over in the same way. -/
def Abreast (state : State E) (async : AsyncState E) : Prop :=
  Level state async ∨ (Agrees state async ∧ state.ending ≠ none)

theorem Abreast.agrees {state : State E} {async : AsyncState E} (abreast : Abreast state async) :
    Agrees state async := by
  obtain ⟨reads, rfl⟩ | ⟨agrees, -⟩ := abreast
  · refine ⟨rfl, ?_⟩
    change SameEnding state.history state.ending state.ending
    rcases state.ending with _ | result | _
    · exact .going
    · exact .returned
    · exact .panicked
  · exact agrees

theorem SameEnding.ne_none {history : List (Call E)} {ending other : Option (Ending E)}
    (same : SameEnding history ending other) (stopped : ending ≠ none) : other ≠ none := by
  cases same with
  | going => exact absurd rfl stopped
  | panicked | returned | overdue => nofun

theorem turnAsync_over {budgets : Budgets} {async : AsyncState E} (stopped : async.ending ≠ none) :
    async.turn world budgets = async := by
  unfold AsyncState.turn
  split
  · rfl
  · rename_i going
    exact absurd going stopped

/-- A turn keeps the loops abreast exactly if a repeated call leaves room for its wake. -/
theorem Abreast.turn (prompt : world.Prompt) (budgets : Budgets) {state : State E} {async : AsyncState E}
    (abreast : Abreast state async) (roomy : Roomy world state.history) :
    (Roomy world (state.turn world budgets).history →
      Abreast (state.turn world budgets) (async.turn world budgets)) ∧
    (Agrees (state.turn world budgets) (async.turn world budgets) →
      Roomy world (state.turn world budgets).history) := by
  cases going : state.ending with
  | some ending =>
      have stopped : async.ending ≠ none := abreast.agrees.ending.ne_none (by simp [going])
      rw [turn_over going, turnAsync_over stopped]
      exact ⟨fun _ => abreast, fun _ => roomy⟩
  | none =>
      obtain ⟨reads, rfl⟩ | ⟨-, stopped⟩ := abreast
      · have follows := (turn_timed prompt budgets going).follows reads prompt going
          (state.history.map fun call => (call.step, call.deadline))
        generalize state.turn world budgets = next at follows ⊢
        generalize AsyncState.turn world budgets _ = other at follows ⊢
        have extended (fresh : (world.called state).Retried →
            (world.called state).ended + pollInterval ≤ world.latest) :
            Roomy world (state.history ++ [world.called state]) := by
          intro call member retried
          rw [List.mem_append, List.mem_singleton] at member
          rcases member with earlier | rfl
          · exact roomy call earlier retried
          · exact fresh retried
        have recorded : (state.history ++ [world.called state]).map (fun call => (call.step, call.deadline)) =
            state.history.map (fun call => (call.step, call.deadline)) ++ [(state.machine.step, state.deadline)] :=
          List.map_append
        cases follows with
        | late unmade =>
            rw [unmade]
            exact ⟨fun _ => .inl ⟨_, by rw [unmade]⟩, fun _ => roomy⟩
        | same made room =>
            rw [made]
            exact ⟨fun _ => .inl ⟨_, by rw [made, recorded]⟩, fun _ => extended room⟩
        | cancelled made single stopped same =>
            rw [made]
            refine ⟨fun _ => .inr ⟨⟨by rw [made, recorded], same⟩, stopped⟩, fun _ => extended fun retried => ?_⟩
            exact absurd retried single
        | overflowed made retried full still panicked =>
            constructor
            · intro room
              have enough := room (world.called state) (made ▸ mem_calls) retried
              exact absurd enough (Nat.not_le.mpr full)
            · rintro ⟨-, same⟩
              rw [still, panicked] at same
              cases same
      · exact absurd going stopped

section
variable (world : World E) (mode : Mode) (budgets : Budgets) (start : Instant)

theorem begins_abreast : Abreast (run world mode budgets start 0) (runAsync world mode budgets start 0) ∧
    Roomy world (run world mode budgets start 0).history := by
  have unmade : (run world mode budgets start 0).history = [] := (restart_retimed world _ _).2.1
  refine ⟨.inl ⟨(run world mode budgets start 0).clock.reads, ?_⟩, ?_⟩
  · rw [unmade]
    rfl
  · rw [unmade]
    exact fun _ member => absurd member List.not_mem_nil

/-- While the instants that `run_async` computes are representable, the two loops agree: they perform the
same steps with the same deadlines, both go on or both end, and end alike but for the reason of an error
that came after its deadline. -/
theorem run_agrees (prompt : world.Prompt)
    (representable : ∀ n, Roomy world (run world mode budgets start n).history) (n : Nat) :
    Agrees (run world mode budgets start n) (runAsync world mode budgets start n) := by
  have abreast : Abreast (run world mode budgets start n) (runAsync world mode budgets start n) := by
    induction n with
    | zero => exact (begins_abreast world mode budgets start).1
    | succ n ih => exact (ih.turn prompt budgets (representable n)).1 (representable (n + 1))
  exact abreast.agrees

theorem brisk_overlap_agrees :
    (∀ n, Roomy brisk (run brisk .overlap ⟨30_000_000, some 3⟩ 0 n).history) ∧
    ∀ n, Agrees (run brisk .overlap ⟨30_000_000, some 3⟩ 0 n) (runAsync brisk .overlap ⟨30_000_000, some 3⟩ 0 n) := by
  have stopped : (run brisk .overlap ⟨30_000_000, some 3⟩ 0 8).ending ≠ none := by decide
  have early : ∀ n, ∀ call ∈ (run brisk .overlap ⟨30_000_000, some 3⟩ 0 n).history,
      call.ended + pollInterval ≤ brisk.latest :=
    run_forall (P := fun state => ∀ call ∈ state.history, call.ended + pollInterval ≤ brisk.latest) 8 stopped
      (by decide)
  have roomy : ∀ n, Roomy brisk (run brisk .overlap ⟨30_000_000, some 3⟩ 0 n).history :=
    fun n call member _ => early n call member
  exact ⟨roomy, run_agrees brisk .overlap ⟨30_000_000, some 3⟩ 0 (fun _ => rfl) roomy⟩

/-- They agree only then: a wake past the last instant stops `run_async` alone. -/
theorem roomy_of_agrees (prompt : world.Prompt)
    (agrees : ∀ n, Agrees (run world mode budgets start n) (runAsync world mode budgets start n)) (n : Nat) :
    Roomy world (run world mode budgets start n).history := by
  have both : Abreast (run world mode budgets start n) (runAsync world mode budgets start n) ∧
      Roomy world (run world mode budgets start n).history := by
    induction n with
    | zero => exact begins_abreast world mode budgets start
    | succ n ih =>
        obtain ⟨keeps, reveals⟩ := ih.1.turn prompt budgets ih.2
        have roomy := reveals (agrees (n + 1))
        exact ⟨keeps roomy, roomy⟩
  exact both.2

end

end

/-- An adapter that always asks to be called again. -/
def stalling : World Unit where
  perform _ _ _ := (0, .ok .pending)
  prefault _ := 0
  lag _ := 0
  latest := lastInstant

-- 10 ms before the last instant `run` would sleep to its deadline.
example :
    (run stalling .overlap ⟨10_000_000, none⟩ (lastInstant - 10_000_000) 2).ending =
      some (.returned (.error ⟨.recheck, false, .deadline⟩)) ∧
    (runAsync stalling .overlap ⟨10_000_000, none⟩ (lastInstant - 10_000_000) 2).ending = some .panicked := by
  decide

end KunobiDaemon.Replacement
