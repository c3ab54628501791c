import KunobiDaemon.Replacement.Prompt
import Mathlib.Order.WellFounded

/-! What the budgets give each call of a replacement, and by when a run is over. -/

set_option autoImplicit false

namespace KunobiDaemon.Replacement

open Lib.Histories

/-- Which moment the deadline of a step counts from. -/
inductive Phase where
  | setup
  | draining
  | restarted
  | retiring
  deriving DecidableEq, Repr

def Step.phase (mode : Mode) : Step → Phase
  | .recheck | .prepare => .setup
  | .drain => .draining
  | .start | .verify | .validate | .commit => if mode = .exclusive then .restarted else .setup
  | .retire => .retiring

theorem phase_eq_draining {mode : Mode} {step : Step} : step.phase mode = .draining ↔ step = .drain := by
  cases mode <;> cases step <;> decide

theorem phase_eq_retiring {mode : Mode} {step : Step} : step.phase mode = .retiring ↔ step = .retire := by
  cases mode <;> cases step <;> decide

deriving instance DecidableEq for Ending

section
variable {E : Type}

/-- A call of the step answered `Done` at the moment. -/
def DoneAt (history : List (Call E)) (step : Step) (moment : Instant) : Prop :=
  ∃ call ∈ history, call.step = step ∧ call.answer = .ok .done ∧ call.ended = moment

/-- The deadline that a call gets after the calls before it. Where the code takes no time, a
step is entered when the one before it has answered `Done`, or has been prefaulted for. -/
def Budgets.Gives (budgets : Budgets) (world : World E) (start : Instant) (before : List (Call E))
    (deadline : Option Instant) : Phase → Prop
  | .setup => deadline = some (start + budgets.setup)
  | .draining => ∃ entered, DoneAt before .prepare entered ∧ deadline = budgets.drain.map (entered + ·)
  | .restarted => ∃ drained, DoneAt before .drain drained ∧ deadline = some (drained + budgets.setup)
  | .retiring => ∃ committed, DoneAt before .commit committed ∧
      deadline = budgets.drain.map (committed + world.prefault before + ·)

/-- A call within its budget, after the calls before it. -/
structure Granted (world : World E) (mode : Mode) (budgets : Budgets) (start : Instant)
    (before : List (Call E)) (call : Call E) : Prop where
  open_ : ∀ limit, call.deadline = some limit → call.began < limit
  given : budgets.Gives world start before call.deadline (call.step.phase mode)
  spaced : ∀ earlier last, before = earlier ++ [last] → last.step = call.step →
    last.ended + pauseFor last.deadline last.ended ≤ call.began

def Enforced (world : World E) (mode : Mode) (budgets : Budgets) (start : Instant) (history : List (Call E)) : Prop :=
  ∀ before call later, history = before ++ call :: later → Granted world mode budgets start before call

/-- The call ended by the deadline it was given. -/
def Call.Kept (call : Call E) : Prop := ∀ limit ∈ call.deadline, call.ended ≤ limit

instance (call : Call E) : Decidable call.Kept := inferInstanceAs (Decidable (∀ limit ∈ call.deadline, _))

/-- The call made the new selection authoritative. -/
def Call.committed (call : Call E) : Bool :=
  match call.step, call.answer with
  | .commit, .ok .done => true
  | _, _ => false

/-- How long prefaulting took in a run that made these calls. -/
def World.prefaulted (world : World E) (history : List (Call E)) : Duration :=
  match history.findIdx? Call.committed with
  | some index => world.prefault (history.take (index + 1))
  | none => 0

/-- By when the calls of a phase are over, besides prefaulting. -/
def Budgets.horizon (budgets : Budgets) (start : Instant) : Phase → Instant
  | .setup => start + budgets.setup
  | .draining | .retiring => start + budgets.setup + budgets.drain.getD 0
  | .restarted => start + 2 * budgets.setup + budgets.drain.getD 0

/-- By when a run is over. Without a drain budget only retirement, which is one call, has no bound. -/
def Punctual (world : World E) (budgets : Budgets) (start : Instant) (state : State E) : Mode → Prop
  | .exclusive => ∀ drain, budgets.drain = some drain →
      state.clock.now ≤ start + 2 * budgets.setup + drain + world.prefaulted state.history
  | .overlap =>
      (∀ drain, budgets.drain = some drain →
        state.clock.now ≤ start + budgets.setup + world.prefaulted state.history + drain) ∧
      (∀ call ∈ state.history, call.step = .retire →
        call.began ≤ start + budgets.setup + world.prefaulted state.history) ∧
      ((∀ call ∈ state.history, call.step ≠ .retire) →
        state.clock.now ≤ start + budgets.setup + world.prefaulted state.history)

/-- The run has a bound. -/
def Budgets.Finite (budgets : Budgets) (mode : Mode) : Prop := mode = .exclusive → budgets.drain ≠ none

/-! ## What a call adds -/

section
variable {world : World E} {mode : Mode} {budgets : Budgets} {start : Instant}
variable {history : List (Call E)} {call : Call E} {step : Step} {moment : Instant} {deadline : Option Instant}

theorem DoneAt.snoc (asked : call.step = step) (answered : call.answer = .ok .done) (ended : call.ended = moment) :
    DoneAt (history ++ [call]) step moment :=
  ⟨call, List.mem_append_right _ (List.mem_singleton.mpr rfl), asked, answered, ended⟩

theorem DoneAt.mono (done : DoneAt history step moment) : DoneAt (history ++ [call]) step moment := by
  obtain ⟨other, member, rest⟩ := done
  exact ⟨other, List.mem_append_left _ member, rest⟩

/-- A deadline stays what it is while the phase goes on. Retirement is a single call. -/
theorem Budgets.Gives.mono {phase : Phase} (given : budgets.Gives world start history deadline phase)
    (other : phase ≠ .retiring) : budgets.Gives world start (history ++ [call]) deadline phase := by
  cases phase with
  | setup => exact given
  | draining =>
      obtain ⟨entered, done, same⟩ := given
      exact ⟨entered, done.mono, same⟩
  | restarted =>
      obtain ⟨drained, done, same⟩ := given
      exact ⟨drained, done.mono, same⟩
  | retiring => exact absurd rfl other

theorem committed_iff : call.committed = true ↔ call.step = .commit ∧ call.answer = .ok .done := by
  unfold Call.committed
  split
  · simp_all
  · rename_i other
    simp only [Bool.false_eq_true, false_iff]
    exact fun ⟨commit, done⟩ => other commit done

theorem prefaulted_snoc (plain : call.committed = false) :
    world.prefaulted (history ++ [call]) = world.prefaulted history := by
  unfold World.prefaulted
  rw [List.findIdx?_append]
  cases found : history.findIdx? Call.committed with
  | none => simp [plain]
  | some index =>
      have bound : index < history.length := (List.findIdx?_eq_some_iff_findIdx_eq.mp found).1
      simp [List.take_append_of_le_length bound]

theorem prefaulted_commit (world : World E) (first : ¬ DoneIn history .commit) (commit : call.committed = true) :
    world.prefaulted history = 0 ∧ world.prefaulted (history ++ [call]) = world.prefault (history ++ [call]) := by
  have missing : history.findIdx? Call.committed = none := by
    rw [List.findIdx?_eq_none_iff]
    intro other member
    by_contra selected
    rw [Bool.not_eq_false, committed_iff] at selected
    exact first ⟨other, member, selected⟩
  unfold World.prefaulted
  rw [List.findIdx?_append, missing]
  have whole : (history ++ [call]).take (history.length + 1) = history ++ [call] := by
    rw [List.take_of_length_le (by simp)]
  simp [commit, whole]

theorem Standing.no_retire {machine : Machine} (standing : Standing mode machine history) :
    ∀ call ∈ history, call.step ≠ .retire := by
  intro call member retire
  obtain ⟨rechecks, drains, verifies, trail⟩ := standing.trail
  have among : Step.retire ∈ steps history := retire ▸ List.mem_map_of_mem member
  rw [trail] at among
  simp only [performed, List.mem_append, List.mem_replicate, List.mem_ite_nil_right, List.mem_singleton,
    reduceCtorEq, and_false, or_false] at among

end

/-! ## The invariant of a run that goes on -/

structure Running (world : World E) (mode : Mode) (budgets : Budgets) (start : Instant) (machine : Machine)
    (deadline : Option Instant) (now : Instant) (history : List (Call E)) : Prop where
  standing : Standing mode machine history
  given : budgets.Gives world start history deadline (machine.step.phase mode)
  spaced : ∀ earlier last, history = earlier ++ [last] → last.step = machine.step →
    last.ended + pauseFor last.deadline last.ended ≤ now
  ahead : ∀ limit, deadline = some limit → now ≤ limit
  bounded : budgets.Finite mode → ∀ limit, deadline = some limit →
    limit ≤ budgets.horizon start (machine.step.phase mode) + world.prefaulted history
  arrived : machine.step = .retire → now ≤ start + budgets.setup + world.prefaulted history

/-- The same of a state. -/
def State.Running (world : World E) (mode : Mode) (budgets : Budgets) (start : Instant) (state : State E) : Prop :=
  Replacement.Running world mode budgets start state.machine state.deadline state.clock.now state.history

/-- The transitions of the machine by what happens to the deadline. -/
inductive Passage (budgets : Budgets) (machine : Machine) : Prop where
  | kept : machine.step ≠ .commit → machine.proceed.1.step.phase machine.mode = machine.step.phase machine.mode →
      budgets.renewal machine.proceed.1.step machine.step = .keep → machine.proceed.1.step ≠ .retire →
      Passage budgets machine
  | drains : machine.mode = .exclusive → machine.step = .prepare → machine.proceed.1.step = .drain →
      Passage budgets machine
  | restarts : machine.mode = .exclusive → machine.step = .drain → machine.proceed.1.step = .start →
      Passage budgets machine
  | retires : machine.mode = .overlap → machine.step = .commit → machine.proceed.1.step = .retire →
      machine.proceed.1.committed = true → Passage budgets machine

theorem passage (budgets : Budgets) {machine : Machine} (used : machine.step.Used machine.mode)
    (more : machine.proceed.2 = none) : Passage budgets machine := by
  obtain ⟨mode, step, committed⟩ := machine
  cases mode <;> cases step <;> simp [Step.Used, Machine.proceed] at used more
  case overlap.commit => exact .retires rfl rfl rfl rfl
  case exclusive.prepare => exact .drains rfl rfl rfl
  case exclusive.drain => exact .restarts rfl rfl rfl
  all_goals exact .kept (by simp) rfl rfl (by simp [Machine.proceed])

section
variable {world : World E} {mode : Mode} {budgets : Budgets} {start : Instant} {state : State E}

theorem Running.initial : Running world mode budgets start (Machine.new mode) (some (start + budgets.setup)) start [] where
  standing := .initial mode
  given := rfl
  spaced := by simp
  ahead := by
    rintro limit ⟨⟩
    exact Nat.le_add_right _ _
  bounded := by
    rintro - limit ⟨⟩
    exact Nat.le_add_right _ _
  arrived := nofun

theorem State.Running.granted (running : state.Running world mode budgets start)
    (open_ : Open state.deadline state.clock.now) :
    Granted world mode budgets start state.history (world.called state) :=
  ⟨open_, running.given, running.spaced⟩

/-- The deadline of a run with a bound, or the one retirement that has none. -/
theorem State.Running.limited (running : state.Running world mode budgets start) (finite : budgets.Finite mode) :
    (∃ limit, state.deadline = some limit) ∨
      state.machine.step = .retire ∧ mode = .overlap ∧ budgets.drain = none := by
  have given := running.given
  cases phase : state.machine.step.phase mode with
  | setup => exact .inl ⟨_, phase ▸ given⟩
  | draining =>
      rw [phase] at given
      obtain ⟨entered, -, same⟩ := given
      have exclusive : mode = .exclusive := running.standing.used.1 (phase_eq_draining.mp phase)
      obtain ⟨drain, some_⟩ := Option.ne_none_iff_exists'.mp (finite exclusive)
      rw [some_] at same
      exact .inl ⟨_, same⟩
  | restarted =>
      rw [phase] at given
      obtain ⟨drained, -, same⟩ := given
      exact .inl ⟨_, same⟩
  | retiring =>
      rw [phase] at given
      obtain ⟨committed, -, same⟩ := given
      have retires : state.machine.step = .retire := phase_eq_retiring.mp phase
      cases drain : budgets.drain with
      | none => exact .inr ⟨retires, running.standing.used.2 retires, rfl⟩
      | some budget =>
          rw [drain] at same
          exact .inl ⟨_, same⟩

/-! ## One turn -/

theorem Timed.enforced {next : State E} (timed : Timed world budgets state next)
    (running : state.Running world mode budgets start)
    (enforced : Enforced world mode budgets start state.history) :
    Enforced world mode budgets start next.history := by
  cases timed with
  | late => exact enforced
  | failed open_ | tardy open_ | rejected open_ | finished open_ | retried open_ | proceeded open_
  | overflowed open_ => exact forall_split_snoc enforced (running.granted open_)

/-- A call that is not a commit takes no prefaulting with it. -/
theorem plain_call (other : state.machine.step = .commit → (world.called state).answer ≠ .ok .done) :
    world.prefaulted (state.history ++ [world.called state]) = world.prefaulted state.history := by
  apply prefaulted_snoc
  rw [← Bool.not_eq_true, committed_iff]
  exact fun ⟨commit, done⟩ => other commit done

/-- A step that is repeated keeps its deadline, and the loop does not sleep past it. -/
theorem State.Running.retried (running : state.Running world mode budgets start)
    (answered : (world.called state).answer = .ok .pending)
    (retried : state.machine.step = .recheck ∨ state.machine.step = .verify ∨ state.machine.step = .drain)
    (intime : Open state.deadline (world.called state).ended) :
    Replacement.Running world mode budgets start state.machine state.deadline
      ((world.called state).ended + pauseFor state.deadline (world.called state).ended)
      (state.history ++ [world.called state]) where
  standing := running.standing.retried rfl answered retried
  given := by
    refine running.given.mono fun retiring => ?_
    rw [phase_eq_retiring.mp retiring] at retried
    simp at retried
  spaced := by
    intro earlier last same _
    obtain ⟨-, same⟩ := List.append_inj' same rfl
    cases same
    exact Nat.le_refl _
  ahead := by
    intro limit same
    have before : (world.called state).ended < limit := intime limit same
    simp only [pauseFor, same]
    grind
  bounded := by
    rw [plain_call (by simp [answered])]
    exact running.bounded
  arrived := by
    intro retire
    rw [retire] at retried
    simp at retried

theorem renewed_drain {step previous : Step} {old deadline : Option Instant} {moment : Instant}
    (renewed : world.renewed old moment (budgets.renewal step previous) = some deadline)
    (drains : step = .drain ∨ step = .retire) : deadline = budgets.drain.map (moment + ·) := by
  unfold Budgets.renewal at renewed
  rw [if_pos drains] at renewed
  cases drain : budgets.drain with
  | none =>
      rw [drain] at renewed
      cases renewed
      rfl
  | some budget =>
      simp only [drain, World.renewed, Option.ite_none_right_eq_some, Option.some.injEq] at renewed
      exact renewed.2.symm

theorem le_drain {moment limit : Instant} (same : budgets.drain.map (moment + ·) = some limit) : moment ≤ limit := by
  obtain ⟨budget, -, rfl⟩ := Option.map_eq_some_iff.mp same
  exact Nat.le_add_right _ _

theorem renewed_setup {old deadline : Option Instant} {moment : Instant}
    (renewed : world.renewed old moment (budgets.renewal .start .drain) = some deadline) :
    deadline = some (moment + budgets.setup) := by
  simp only [Budgets.renewal, World.renewed, reduceCtorEq, or_self, if_false, if_true,
    Option.ite_none_right_eq_some, Option.some.injEq] at renewed
  exact renewed.2.symm

theorem proceed_committed {machine : Machine} (other : machine.step ≠ .commit) :
    machine.proceed.1.committed = machine.committed := by
  obtain ⟨mode, step, committed⟩ := machine
  cases mode <;> cases step <;> first | rfl | exact absurd rfl other

/-- Only a commit is followed by prefaulting. -/
theorem cold_call (other : state.machine.step ≠ .commit) :
    world.warming state.machine.committed state.machine.proceed.1 (state.history ++ [world.called state]) = 0 := by
  rw [World.warming, proceed_committed other, if_neg (by simp)]

/-- A commit is followed by all the prefaulting of the run. -/
theorem State.Running.warmed (running : state.Running world mode budgets start)
    (commit : state.machine.step = .commit) (answered : (world.called state).answer = .ok .done) :
    world.warming state.machine.committed state.machine.proceed.1 (state.history ++ [world.called state]) =
        world.prefault (state.history ++ [world.called state]) ∧
      world.prefaulted (state.history ++ [world.called state]) =
        world.prefault (state.history ++ [world.called state]) ∧
      world.prefaulted state.history = 0 := by
  have before : state.machine.committed = false := by
    rw [← Bool.not_eq_true, running.standing.selected, commit]
    nofun
  have first : ¬ DoneIn state.history .commit := by
    rw [← running.standing.committed_iff, before]
    nofun
  have after : state.machine.proceed.1.committed = true := by
    simp only [Machine.proceed, commit]
    split <;> rfl
  obtain ⟨none, all⟩ := prefaulted_commit world first (committed_iff.mpr ⟨commit, answered⟩)
  exact ⟨if_pos ⟨after, before⟩, all, none⟩

/-- The next step has the deadline that its phase gives it. -/
theorem State.Running.proceeded (running : state.Running world mode budgets start) (kept : (world.called state).Kept)
    {moment : Instant} {deadline : Option Instant}
    (answered : (world.called state).answer = .ok .done) (more : state.machine.proceed.2 = none)
    (warmed : (world.called state).ended +
      world.warming state.machine.committed state.machine.proceed.1 (state.history ++ [world.called state]) = moment)
    (renewed : world.renewed state.deadline moment
      (budgets.renewal state.machine.proceed.1.step state.machine.step) = some deadline) :
    Replacement.Running world mode budgets start state.machine.proceed.1 deadline moment
      (state.history ++ [world.called state]) := by
  have standing := running.standing.proceeded rfl answered more
  have spaced (earlier : List (Call E)) (last : Call E)
      (same : state.history ++ [world.called state] = earlier ++ [last])
      (asked : last.step = state.machine.proceed.1.step) :
      last.ended + pauseFor last.deadline last.ended ≤ moment := by
    obtain ⟨-, same⟩ := List.append_inj' same rfl
    cases same
    exact absurd asked.symm (proceed_step more)
  have given := running.given
  have bounded := running.bounded
  have limited := running.limited
  obtain rfl := running.standing.same
  cases passage budgets running.standing.used more with
  | kept other phase keep working =>
      rw [cold_call other, Nat.add_zero] at warmed
      rw [keep] at renewed
      cases renewed
      subst warmed
      refine ⟨standing, ?_, spaced, kept, ?_, fun retire => absurd retire working⟩
      · rw [phase]
        exact given.mono fun retiring => working (phase_eq_retiring.mp (phase.trans retiring))
      · rw [phase, plain_call fun commit => absurd commit other]
        exact bounded
  | drains exclusive prepare drain =>
      rw [cold_call (by simp [prepare]), Nat.add_zero] at warmed
      obtain rfl := renewed_drain renewed (.inl drain)
      subst warmed
      rw [prepare] at given
      refine ⟨standing, ?_, spaced, ?_, ?_, fun retire => by simp [drain] at retire⟩
      · rw [drain]
        exact ⟨_, .snoc prepare answered rfl, rfl⟩
      · exact fun limit same => le_drain same
      · intro _ limit same
        obtain ⟨budget, some_, rfl⟩ := Option.map_eq_some_iff.mp same
        have ended := kept _ given
        simp only [drain, Step.phase, Budgets.horizon, some_, Option.getD_some]
        grind
  | restarts exclusive drain begins =>
      rw [cold_call (by simp [drain]), Nat.add_zero] at warmed
      rw [begins, drain] at renewed
      obtain rfl := renewed_setup renewed
      subst warmed
      refine ⟨standing, ?_, spaced, ?_, ?_, fun retire => by simp [begins] at retire⟩
      · rw [begins, exclusive]
        exact ⟨_, .snoc drain answered rfl, rfl⟩
      · rintro limit ⟨⟩
        exact Nat.le_add_right _ _
      · rintro finite limit ⟨⟩
        obtain ⟨limit, same⟩ | ⟨retire, -⟩ := limited finite
        · have ended := kept _ same
          have horizon := bounded finite limit same
          rw [plain_call (by simp [drain])]
          simp only [drain, begins, exclusive, Step.phase, Budgets.horizon, if_true] at horizon ⊢
          grind
        · simp [drain] at retire
  | retires overlap commit retire selected =>
      obtain ⟨warming, all, none⟩ := running.warmed commit answered
      rw [warming] at warmed
      obtain rfl := renewed_drain renewed (.inr retire)
      subst warmed
      rw [commit, overlap] at given
      have ended := kept _ given
      refine ⟨standing, ?_, spaced, ?_, ?_, fun _ => ?_⟩
      · rw [retire]
        exact ⟨_, .snoc commit answered rfl, rfl⟩
      · exact fun limit same => le_drain same
      · intro _ limit same
        obtain ⟨budget, some_, rfl⟩ := Option.map_eq_some_iff.mp same
        simp only [retire, Step.phase, Budgets.horizon, some_, Option.getD_some, all]
        grind
      · rw [all]
        grind

theorem mem_calls {history : List (Call E)} {call : Call E} : call ∈ history ++ [call] :=
  List.mem_append_right _ (List.mem_singleton.mpr rfl)

theorem Timed.running {next : State E} (timed : Timed world budgets state next)
    (running : state.Running world mode budgets start) (kept : ∀ call ∈ next.history, call.Kept)
    (going : next.ending = none) : next.Running world mode budgets start := by
  cases timed with
  | late | failed | tardy | rejected | finished | overflowed => cases going
  | retried _ answered retried intime => exact running.retried answered retried intime
  | proceeded _ answered _ more warmed renewed =>
      exact running.proceeded (kept _ mem_calls) answered more warmed renewed

/-! ## The end of a run -/

theorem horizon_le (budgets : Budgets) (start : Instant) (phase : Phase) :
    budgets.horizon start phase ≤ start + 2 * budgets.setup + budgets.drain.getD 0 := by
  cases phase <;> simp only [Budgets.horizon] <;> grind

/-- The horizon of `Overlap` does not wait for a drain before it retires. -/
theorem horizon_overlap {step : Step} (used : step.Used .overlap) (working : step ≠ .retire) :
    budgets.horizon start (step.phase .overlap) = start + budgets.setup := by
  cases step with
  | recheck | prepare | start | verify | validate | commit => rfl
  | drain => cases used.1 rfl
  | retire => exact absurd rfl working

/-- What is over by the deadline is over by the end of its phase. -/
theorem State.Running.punctual (running : state.Running world mode budgets start) {next : State E} (more : Duration)
    (time : ∀ limit, state.deadline = some limit → next.clock.now ≤ limit + more)
    (warmed : world.prefaulted next.history = world.prefaulted state.history + more)
    (calls : ∀ call ∈ next.history, call.step = .retire →
      state.machine.step = .retire ∧ call.began = state.clock.now)
    (idle : state.machine.step = .retire → next.clock.now = state.clock.now ∨ ∃ call ∈ next.history, call.step = .retire) :
    Punctual world budgets start next mode := by
  have within (finite : budgets.Finite mode) (limit : Instant) (same : state.deadline = some limit) :
      next.clock.now ≤ budgets.horizon start (state.machine.step.phase mode) + world.prefaulted next.history := by
    have ended := time limit same
    have bounded := running.bounded finite limit same
    grind
  have standing := running.standing
  have limited := running.limited
  have arrived := running.arrived
  cases mode with
  | exclusive =>
      intro drain some_
      obtain ⟨limit, same⟩ | ⟨-, overlap, -⟩ := limited fun _ => by simp [some_]
      · have ended := within (fun _ => by simp [some_]) limit same
        have horizon := horizon_le budgets start (state.machine.step.phase .exclusive)
        rw [some_, Option.getD_some] at horizon
        grind
      · cases overlap
  | overlap =>
      refine ⟨fun drain some_ => ?_, fun call member retire => ?_, fun none => ?_⟩
      · obtain ⟨limit, same⟩ | ⟨-, -, none⟩ := limited nofun
        · have ended := within nofun limit same
          by_cases retire : state.machine.step = .retire
          · simp only [retire, Step.phase, Budgets.horizon, some_, Option.getD_some] at ended
            grind
          · rw [horizon_overlap standing.used retire] at ended
            grind
        · rw [some_] at none
          cases none
      · obtain ⟨retires, began⟩ := calls call member retire
        have entered := arrived retires
        grind
      · by_cases retire : state.machine.step = .retire
        · obtain same | ⟨call, member, asked⟩ := idle retire
          · have entered := arrived retire
            grind
          · exact absurd asked (none call member)
        · obtain ⟨limit, same⟩ | ⟨retires, -⟩ := limited nofun
          · have ended := within nofun limit same
            rw [horizon_overlap standing.used retire] at ended
            exact ended
          · exact absurd retires retire

/-- The same after a call. -/
theorem State.Running.punctual_call (running : state.Running world mode budgets start) {next : State E}
    (more : Duration) (kept : (world.called state).Kept)
    (made : next.history = state.history ++ [world.called state])
    (time : next.clock.now = (world.called state).ended + more)
    (warmed : world.prefaulted next.history = world.prefaulted state.history + more) :
    Punctual world budgets start next mode := by
  refine running.punctual more ?_ warmed ?_ fun retire => .inr ⟨world.called state, ?_, retire⟩
  · intro limit same
    rw [time]
    exact Nat.add_le_add_right (kept limit same) more
  · intro call member retire
    rw [made, List.mem_append, List.mem_singleton] at member
    rcases member with earlier | rfl
    · exact absurd retire (running.standing.no_retire call earlier)
    · exact ⟨retire, rfl⟩
  · rw [made]
    exact mem_calls

theorem Timed.punctual {next : State E} (timed : Timed world budgets state next)
    (running : state.Running world mode budgets start) (kept : ∀ call ∈ next.history, call.Kept)
    {result : Except (Failure E) Outcome} (going : state.ending = none)
    (returned : next.ending = some (.returned result)) : Punctual world budgets start next mode := by
  cases timed with
  | late =>
      refine running.punctual 0 (fun limit same => running.ahead limit same) rfl ?_ fun _ => .inl rfl
      intro call member retire
      exact absurd retire (running.standing.no_retire call member)
  | failed _ answered =>
      exact running.punctual_call 0 (kept _ mem_calls) rfl rfl (plain_call (by simp [answered]))
  | tardy _ _ other =>
      exact running.punctual_call 0 (kept _ mem_calls) rfl rfl (plain_call fun commit => absurd commit other)
  | rejected _ answered _ advanced =>
      have other : (world.called state).answer ≠ .ok .done := by
        rcases advance_cases advanced with ⟨-, rfl, -⟩ | ⟨-, -, rfl, -⟩ | ⟨-, -, rfl, -⟩ | ⟨-, -, ok⟩ | ⟨-, notDone, -⟩
        · simp [answered]
        · simp [answered]
        · simp [answered]
        · cases ok
        · simpa [answered] using notDone
      exact running.punctual_call 0 (kept _ mem_calls) rfl rfl (plain_call fun _ => other)
  | @finished _ _ after _ _ answered _ advanced =>
      have unmoved (same : after = state.machine) : world.warming state.machine.committed after
          (state.history ++ [world.called state]) = 0 := by rw [same, World.warming, if_neg (by simp)]
      rcases advance_cases advanced with ⟨-, -, none, -⟩ | ⟨same, recheck, -⟩ | ⟨same, retire, -⟩ |
        ⟨rfl, rfl, -⟩ | ⟨-, -, none⟩
      · cases none
      · rw [unmoved same]
        exact running.punctual_call 0 (kept _ mem_calls) rfl rfl (plain_call (by simp [recheck]))
      · rw [unmoved same]
        exact running.punctual_call 0 (kept _ mem_calls) rfl rfl (plain_call (by simp [retire]))
      · by_cases commit : state.machine.step = .commit
        · obtain ⟨warming, all, none⟩ := running.warmed commit answered
          rw [warming]
          refine running.punctual_call _ (kept _ mem_calls) rfl rfl ?_
          rw [all, none, Nat.zero_add]
        · rw [cold_call commit]
          exact running.punctual_call 0 (kept _ mem_calls) rfl rfl (plain_call fun same => absurd same commit)
      · cases none
  | retried => cases going.symm.trans returned
  | proceeded => cases going.symm.trans returned
  | overflowed => cases returned

/-- How far a run is from its end: the steps ahead, and then the time left for this one. -/
def State.left (state : State E) : Nat × Nat :=
  (7 - state.machine.step.rank, state.deadline.getD 0 - state.clock.now)

theorem rank_proceed_lt {machine : Machine} (used : machine.step.Used machine.mode)
    (more : machine.proceed.2 = none) : 7 - machine.proceed.1.step.rank < 7 - machine.step.rank := by
  obtain ⟨mode, step, committed⟩ := machine
  cases mode <;> cases step <;> simp_all [Machine.proceed, Step.rank, Step.Used]

theorem called_onward : state.clock.now ≤ (world.called state).ended := Nat.le_add_right _ _

/-- A turn after which the run goes on leaves less: a retry uses up time, and every other turn a step. -/
theorem Timed.less {next : State E} (timed : Timed world budgets state next)
    (running : state.Running world mode budgets start) (finite : budgets.Finite mode) (going : next.ending = none) :
    Prod.Lex (· < ·) (· < ·) next.left state.left := by
  cases timed with
  | late | failed | tardy | rejected | finished | overflowed => cases going
  | retried _ _ retried intime =>
      obtain ⟨limit, same⟩ | ⟨retire, -⟩ := running.limited finite
      · refine Prod.Lex.right _ ?_
        have before : (world.called state).ended < limit := intime limit same
        have onward : state.clock.now ≤ (world.called state).ended := called_onward
        simp only [same, Option.getD_some, pauseFor, pollInterval]
        grind
      · rw [retire] at retried
        simp at retried
  | proceeded _ _ _ more =>
      refine Prod.Lex.left _ _ (rank_proceed_lt ?_ more)
      rw [running.standing.same]
      exact running.standing.used

end

/-! ## Whole runs -/

section
variable (world : World E) (mode : Mode) (budgets : Budgets) (start : Instant)

/-- A run keeps to its budgets up to here, and if it is over it was over in time. -/
structure Disciplined (state : State E) : Prop where
  running : state.ending = none → state.Running world mode budgets start
  enforced : Enforced world mode budgets start state.history
  punctual : ∀ result, state.ending = some (.returned result) → Punctual world budgets start state mode

variable {world mode budgets start}

theorem turn_over {state : State E} {ending : Ending E} (stopped : state.ending = some ending) :
    state.turn world budgets = state := by
  unfold State.turn
  split
  · rfl
  · rename_i going
    rw [stopped] at going
    cases going

theorem Disciplined.turn (prompt : world.Prompt) {state : State E}
    (disciplined : Disciplined world mode budgets start state)
    (kept : ∀ call ∈ (state.turn world budgets).history, call.Kept) :
    Disciplined world mode budgets start (state.turn world budgets) := by
  cases going : state.ending with
  | some ending =>
      rw [turn_over going]
      exact disciplined
  | none =>
      have timed := turn_timed prompt budgets going
      have running := disciplined.running going
      refine ⟨timed.running running kept, timed.enforced running disciplined.enforced, fun result returned => ?_⟩
      exact timed.punctual running kept going returned

theorem enter_disciplined (prompt : world.Prompt) (fits : (enter world mode budgets start).ending ≠ some .panicked) :
    Disciplined world mode budgets start (enter world mode budgets start) := by
  unfold enter State.restart World.after Clock.add World.clock at fits ⊢
  simp only [World.read, prompt 0, Nat.add_zero] at fits ⊢
  split
  · rename_i limit same
    simp only [Prod.mk.injEq, Option.ite_none_right_eq_some, Option.some.injEq] at same
    obtain ⟨rfl, -, rfl⟩ := same
    exact ⟨fun _ => .initial, by simp [Enforced], fun _ ended => by cases ended⟩
  · rename_i same
    rw [same] at fits
    exact absurd rfl fits

/-- A run with a bound is over after so many turns. -/
theorem exists_over (prompt : world.Prompt) (finite : budgets.Finite mode)
    (disciplined : ∀ n, Disciplined world mode budgets start (run world mode budgets start n)) :
    ∃ n, (run world mode budgets start n).ending ≠ none := by
  by_contra endless
  simp only [not_exists, Classical.not_not] at endless
  have : IsWellFounded (Nat × Nat) (Prod.Lex (· < ·) (· < ·)) :=
    ⟨WellFounded.prod_lex wellFounded_lt wellFounded_lt⟩
  obtain ⟨n, stuck⟩ := WellFounded.not_rel_apply_succ (r := Prod.Lex (· < ·) (· < ·))
    fun n => (run world mode budgets start n).left
  have timed := turn_timed prompt budgets (endless n)
  exact stuck (timed.less ((disciplined n).running (endless n)) finite (endless (n + 1)))

/-- Budgets are enforced for every call of a run whose calls keep to their deadlines, and bound
the run itself, however often a step answered `Pending`. -/
theorem run_within_budgets (world : World E) (mode : Mode) (budgets : Budgets) (start : Instant)
    (prompt : world.Prompt) (fits : ∀ n, (run world mode budgets start n).ending ≠ some .panicked)
    (kept : ∀ n, ∀ call ∈ (run world mode budgets start n).history, call.Kept) :
    (∀ n, Enforced world mode budgets start (run world mode budgets start n).history) ∧
    (∀ n result, (run world mode budgets start n).ending = some (.returned result) →
      Punctual world budgets start (run world mode budgets start n) mode) ∧
    (budgets.Finite mode → ∃ n result, (run world mode budgets start n).ending = some (.returned result)) := by
  have disciplined : ∀ n, Disciplined world mode budgets start (run world mode budgets start n) := by
    intro n
    induction n with
    | zero => exact enter_disciplined prompt (fits 0)
    | succ n ih => exact ih.turn prompt (kept (n + 1))
  refine ⟨fun n => (disciplined n).enforced, fun n => (disciplined n).punctual, fun finite => ?_⟩
  obtain ⟨n, stopped⟩ := exists_over prompt finite disciplined
  cases ending : (run world mode budgets start n).ending with
  | none => exact absurd ending stopped
  | some how =>
      cases how with
      | returned result => exact ⟨n, result, ending⟩
      | panicked => exact absurd ending (fits n)

/-- Checking a property until a run is over checks it of the whole run. -/
theorem run_forall {P : State E → Prop} (turns : Nat)
    (stopped : (run world mode budgets start turns).ending ≠ none)
    (checked : ∀ n ≤ turns, P (run world mode budgets start n)) (n : Nat) : P (run world mode budgets start n) := by
  have still (more : Nat) :
      run world mode budgets start (turns + more) = run world mode budgets start turns := by
    obtain ⟨ending, same⟩ := Option.ne_none_iff_exists'.mp stopped
    induction more with
    | zero => rfl
    | succ more ih =>
        rw [Nat.add_succ, run, ih]
        exact turn_over same
  rcases Nat.le_total n turns with before | after
  · exact checked n before
  · obtain ⟨more, rfl⟩ := Nat.exists_eq_add_of_le after
    rw [still more]
    exact checked turns (Nat.le_refl _)

end

end

/-- An adapter whose first recheck is repeated and whose calls each take 2 ns. -/
def brisk : World Unit where
  perform history _ _ := (2, .ok (if history.isEmpty then .pending else .done))
  prefault _ := 5
  lag _ := 0
  latest := 1_000_000_000

theorem brisk_overlap_within_budgets :
    (∀ n, Enforced brisk .overlap ⟨30_000_000, some 3⟩ 0 (run brisk .overlap ⟨30_000_000, some 3⟩ 0 n).history) ∧
    ∃ n result, (run brisk .overlap ⟨30_000_000, some 3⟩ 0 n).ending = some (.returned result) := by
  -- One repeated recheck and seven steps that are done.
  have stopped : (run brisk .overlap ⟨30_000_000, some 3⟩ 0 8).ending ≠ none := by decide
  have fits : ∀ n, (run brisk .overlap ⟨30_000_000, some 3⟩ 0 n).ending ≠ some .panicked :=
    run_forall (P := fun state => state.ending ≠ some .panicked) 8 stopped (by decide)
  have kept : ∀ n, ∀ call ∈ (run brisk .overlap ⟨30_000_000, some 3⟩ 0 n).history, call.Kept :=
    run_forall (P := fun state => ∀ call ∈ state.history, call.Kept) 8 stopped (by decide)
  have within := run_within_budgets brisk .overlap ⟨30_000_000, some 3⟩ 0 (fun _ => rfl) fits kept
  exact ⟨within.1, within.2.2 nofun⟩

end KunobiDaemon.Replacement
