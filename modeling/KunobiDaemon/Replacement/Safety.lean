import KunobiDaemon.Lib.Histories
import KunobiDaemon.Replacement.Run
import Mathlib.Data.List.Count

/-! What a replacement may have done, and may claim, at every point of a run.

One turn has one of a few effects on the machine, the calls and the result,
whatever the clock says (`turn_effect`). Everything below follows from those
effects alone, so it holds for every driver, budget and clock.
-/

set_option autoImplicit false

namespace KunobiDaemon.Replacement

open Lib.Histories

section
variable {E : Type}

/-! ## The effects of a turn -/

/-- What one turn does to the machine, the calls made and the ending. -/
inductive Effect (machine : Machine) (history : List (Call E)) :
    Machine → List (Call E) → Option (Ending E) → Prop where
  | late : Effect machine history machine history
      (some (.returned (.error (machine.failure .deadline))))
  | failed {call : Call E} {error : E} : call.step = machine.step → call.answer = .error error →
      Effect machine history machine (history ++ [call])
        (some (.returned (.error (machine.failure (.adapter error)))))
  | tardy {call : Call E} {progress : Progress} : call.step = machine.step →
      call.answer = .ok progress → machine.step ≠ .commit →
      Effect machine history machine (history ++ [call])
        (some (.returned (.error (machine.failure .deadline))))
  | rejected {call : Call E} {progress : Progress} {next : Machine} {failure : Failure E} :
      call.step = machine.step → call.answer = .ok progress →
      machine.advance progress = (next, .error failure) →
      Effect machine history next (history ++ [call]) (some (.returned (.error failure)))
  | finished {call : Call E} {progress : Progress} {next : Machine} {outcome : Outcome} :
      call.step = machine.step → call.answer = .ok progress →
      machine.advance (E := E) progress = (next, .ok (some outcome)) →
      Effect machine history next (history ++ [call]) (some (.returned (.ok outcome)))
  | moved {call : Call E} {progress : Progress} {next : Machine} {ending : Option (Ending E)} :
      call.step = machine.step → call.answer = .ok progress →
      machine.advance (E := E) progress = (next, .ok none) →
      ending = none ∨ ending = some .panicked →
      Effect machine history next (history ++ [call]) ending

/-- Two states that differ in time only, the second one perhaps after a panic. -/
def Retimed (state next : State E) : Prop :=
  next.machine = state.machine ∧ next.history = state.history ∧
    (next.ending = state.ending ∨ next.ending = some .panicked)

variable (world : World E)

theorem restart_retimed (state : State E) (budget : Duration) :
    Retimed state (state.restart world budget) := by
  unfold State.restart
  split
  · exact ⟨rfl, rfl, .inl rfl⟩
  · exact ⟨rfl, rfl, .inr rfl⟩

theorem renew_retimed (state : State E) (budgets : Budgets) (previous : Step) :
    Retimed state (state.renew world budgets previous) := by
  unfold State.renew
  split
  · split
    · exact ⟨rfl, rfl, .inl rfl⟩
    · exact restart_retimed world state _
  · split
    · exact restart_retimed world state _
    · exact ⟨rfl, rfl, .inl rfl⟩

theorem pause_retimed (state : State E) : Retimed state (state.pause world) := by
  unfold State.pause
  split <;> exact ⟨rfl, rfl, .inl rfl⟩

@[simp] theorem warm_machine (state : State E) (before : Bool) :
    (state.warm world before).machine = state.machine := by
  unfold State.warm; split <;> rfl

@[simp] theorem warm_history (state : State E) (before : Bool) :
    (state.warm world before).history = state.history := by
  unfold State.warm; split <;> rfl

@[simp] theorem warm_ending (state : State E) (before : Bool) :
    (state.warm world before).ending = state.ending := by
  unfold State.warm; split <;> rfl

theorem Retimed.moved {machine : Machine} {history : List (Call E)} {state next : State E}
    {call : Call E} {progress : Progress} (timed : Retimed state next) (running : state.ending = none)
    (recorded : state.history = history ++ [call]) (asked : call.step = machine.step)
    (answered : call.answer = .ok progress)
    (advanced : machine.advance (E := E) progress = (state.machine, .ok none)) :
    Effect machine history next.machine next.history next.ending := by
  obtain ⟨same, kept, ending⟩ := timed
  rw [running] at ending
  rw [same, kept, recorded]
  exact .moved asked answered advanced ending

/-- The effect of an answer that is handed to the machine. -/
theorem settle_effect {state : State E} {machine : Machine} {budgets : Budgets}
    {history : List (Call E)} {call : Call E} {progress : Progress} (running : state.ending = none)
    (same : state.machine = machine) (recorded : state.history = history ++ [call])
    (asked : call.step = machine.step) (answered : call.answer = .ok progress) :
    Effect machine history (state.settle world budgets progress).machine
      (state.settle world budgets progress).history (state.settle world budgets progress).ending := by
  subst same
  unfold State.settle
  rcases advanced : state.machine.advance (E := E) progress with ⟨next, failure | outcome | outcome⟩
  · simpa only [State.finish, recorded] using Effect.rejected asked answered advanced
  · -- The step moves on or is retried; either only changes the clock and the deadline.
    simp only
    split
    · exact (renew_retimed world _ _ _).moved (by simpa using running) (by simpa using recorded)
        asked answered (by simpa using advanced)
    · exact (pause_retimed world _).moved (by simpa using running) (by simpa using recorded)
        asked answered (by simpa using advanced)
  · simpa only [State.finish, warm_machine, warm_history, recorded]
      using Effect.finished asked answered advanced

theorem turn_effect {state : State E} (budgets : Budgets) (running : state.ending = none) :
    Effect state.machine state.history (state.turn world budgets).machine
      (state.turn world budgets).history (state.turn world budgets).ending := by
  unfold State.turn
  simp only [running]
  rcases world.expired state.clock state.deadline with ⟨clock, late | late⟩
  · simp only [State.call]
    rcases (world.perform state.history state.machine.step state.deadline).2 with error | progress
    · exact .failed rfl rfl
    · simp only
      split
      · exact settle_effect world rfl rfl rfl rfl rfl
      · rename_i notCommit
        split
        · exact .tardy rfl rfl notCommit
        · exact settle_effect world rfl rfl rfl rfl rfl
  · exact .late

end

/-! ## The order of the steps -/

/-- The steps of a whole replacement with so many retries of the steps that may
be retried: `Recheck+ Prepare [Drain+] Start Verify+ Validate Commit [Retire]`. -/
def order (mode : Mode) (rechecks drains verifies : Nat) : List Step :=
  List.replicate (rechecks + 1) .recheck ++ [.prepare] ++
    (match mode with
      | .exclusive => List.replicate (drains + 1) .drain
      | .overlap => []) ++
    [.start] ++ List.replicate (verifies + 1) .verify ++ [.validate, .commit] ++
    (match mode with
      | .exclusive => []
      | .overlap => [.retire])

/-- The position of a step in that order. -/
def Step.rank : Step → Nat
  | .recheck => 0
  | .prepare => 1
  | .drain => 2
  | .start => 3
  | .verify => 4
  | .validate => 5
  | .commit => 6
  | .retire => 7

/-- Only `Exclusive` drains and only `Overlap` retires. -/
def Step.Used (mode : Mode) (step : Step) : Prop :=
  (step = .drain → mode = .exclusive) ∧ (step = .retire → mode = .overlap)

/-- The steps already performed when the machine stands at a step. The retried
ones were performed once more than counted, except the step itself. -/
def performed (mode : Mode) (rechecks drains verifies : Nat) (step : Step) : List Step :=
  List.replicate (if step = .recheck then rechecks else rechecks + 1) .recheck ++
    (if 1 < step.rank then [.prepare] else []) ++
    (if 2 ≤ step.rank ∧ mode = .exclusive then
      List.replicate (if step = .drain then drains else drains + 1) .drain else []) ++
    (if 3 < step.rank then [.start] else []) ++
    (if 4 ≤ step.rank then
      List.replicate (if step = .verify then verifies else verifies + 1) .verify else []) ++
    (if 5 < step.rank then [.validate] else []) ++
    (if 6 < step.rank then [.commit] else [])

/-- The step performed next extends the steps performed so far within the order. -/
theorem performed_snoc (mode : Mode) (rechecks drains verifies : Nat) {step : Step}
    (used : step.Used mode) :
    performed mode rechecks drains verifies step ++ [step] <+: order mode rechecks drains verifies := by
  cases mode <;> cases step <;>
    simp_all [performed, order, Step.rank, Step.Used, List.replicate_succ', List.append_assoc]

theorem performed_retry (mode : Mode) (rechecks drains verifies : Nat) {step : Step}
    (used : step.Used mode) (retried : step = .recheck ∨ step = .verify ∨ step = .drain) :
    ∃ rechecks' drains' verifies', performed mode rechecks drains verifies step ++ [step] =
      performed mode rechecks' drains' verifies' step := by
  refine ⟨if step = .recheck then rechecks + 1 else rechecks,
    if step = .drain then drains + 1 else drains, if step = .verify then verifies + 1 else verifies, ?_⟩
  rcases retried with rfl | rfl | rfl <;> cases mode <;>
    simp_all [performed, Step.rank, Step.Used, List.replicate_succ', List.append_assoc]

/-- A step that is passed leads to the steps performed before the next one, which
was not performed yet. -/
theorem performed_next (rechecks drains verifies : Nat) {machine : Machine}
    (used : machine.step.Used machine.mode) (more : machine.proceed.2 = none) :
    ∃ drains' verifies', performed machine.mode rechecks drains verifies machine.step ++ [machine.step] =
      performed machine.mode rechecks drains' verifies' machine.proceed.1.step := by
  obtain ⟨mode, step, committed⟩ := machine
  refine ⟨if step = .prepare then 0 else drains, if step = .start then 0 else verifies, ?_⟩
  cases mode <;> cases step <;>
    simp_all [Machine.proceed, performed, Step.rank, Step.Used, List.replicate_succ', List.append_assoc]

theorem count_order (mode : Mode) (rechecks drains verifies : Nat) {step : Step}
    (single : step ∈ [Step.prepare, .start, .validate, .commit, .retire]) :
    (order mode rechecks drains verifies).count step ≤ 1 := by
  cases mode <;> simp only [List.mem_cons, List.not_mem_nil, or_false] at single <;>
    rcases single with rfl | rfl | rfl | rfl | rfl <;>
    simp [order, List.count_append, List.count_replicate]

/-! ## Invariants of a run -/

section
variable {E : Type}
variable {mode : Mode} {machine : Machine} {history : List (Call E)} {call : Call E}

def steps (history : List (Call E)) : List Step := history.map (·.step)

/-- Some call of the step answered `Done`. -/
def DoneIn (history : List (Call E)) (step : Step) : Prop :=
  ∃ call ∈ history, call.step = step ∧ call.answer = .ok .done

theorem DoneIn.mono {step : Step} (done : DoneIn history step)
    (later : List (Call E)) : DoneIn (history ++ later) step := by
  obtain ⟨call, member, same, answered⟩ := done
  exact ⟨call, List.mem_append_left later member, same, answered⟩

/-- Every call was preceded by a `Done` answer from each earlier step of the mode. -/
def Justified (mode : Mode) (history : List (Call E)) : Prop :=
  ∀ before call later, history = before ++ call :: later →
    ∀ earlier : Step, earlier.Used mode → earlier.rank < call.step.rank → DoneIn before earlier

/-- What holds while a run goes on: where the machine stands says which steps
were performed and which of them answered `Done`. -/
structure Standing (mode : Mode) (machine : Machine) (history : List (Call E)) : Prop where
  same : machine.mode = mode
  used : machine.step.Used mode
  trail : ∃ rechecks drains verifies,
    steps history = performed mode rechecks drains verifies machine.step
  passed : ∀ earlier : Step, earlier.Used mode → earlier.rank < machine.step.rank → DoneIn history earlier
  selected : machine.committed = true ↔ machine.step = .retire
  uncommitted : DoneIn history .commit → machine.step = .retire
  justified : Justified mode history

/-- The machine's next call keeps every call justified. -/
theorem Standing.justified_snoc (standing : Standing mode machine history) (asked : call.step = machine.step) :
    Justified mode (history ++ [call]) := by
  refine forall_split_snoc standing.justified fun earlier used rank => ?_
  exact standing.passed earlier used (asked ▸ rank)

theorem steps_snoc_eq {before : List Step} (trail : steps history = before) (asked : call.step = machine.step) :
    steps (history ++ [call]) = before ++ [machine.step] := by
  simp only [← trail, ← asked, steps, List.map_append, List.map_cons, List.map_nil]

theorem Standing.steps_snoc (standing : Standing mode machine history) (asked : call.step = machine.step) :
    ∃ rechecks drains verifies,
      steps (history ++ [call]) <+: order mode rechecks drains verifies := by
  obtain ⟨rechecks, drains, verifies, trail⟩ := standing.trail
  refine ⟨rechecks, drains, verifies, ?_⟩
  rw [steps_snoc_eq trail asked]
  exact performed_snoc mode rechecks drains verifies standing.used

/-- An answer either leaves the machine where it is or is `Done`. -/
theorem advance_cases {next : Machine} {progress : Progress}
    {result : Except (Failure E) (Option Outcome)} (advanced : machine.advance progress = (next, result)) :
    (next = machine ∧ progress = .pending ∧ result = .ok none ∧
      (machine.step = .recheck ∨ machine.step = .verify ∨ machine.step = .drain)) ∨
    (next = machine ∧ machine.step = .recheck ∧ progress = .unchanged ∧ result = .ok (some .unchanged)) ∨
    (next = machine ∧ machine.step = .retire ∧ progress = .pending ∧
      result = .ok (some .retirementPending)) ∨
    (progress = .done ∧ next = machine.proceed.1 ∧ result = .ok machine.proceed.2) ∨
    (next = machine ∧ progress ≠ .done ∧ result = .error (machine.failure .invalidProgress)) := by
  cases progress <;> cases at_ : machine.step <;>
    simp only [Machine.advance, at_, Prod.mk.injEq] at advanced <;>
    obtain ⟨rfl, rfl⟩ := advanced <;> simp

theorem doneIn_snoc {step : Step} :
    DoneIn (history ++ [call]) step ↔
      DoneIn history step ∨ (call.step = step ∧ call.answer = .ok .done) := by
  simp only [DoneIn, List.mem_append, List.mem_singleton]
  constructor
  · rintro ⟨other, member | rfl, asked, answered⟩
    · exact .inl ⟨other, member, asked, answered⟩
    · exact .inr ⟨asked, answered⟩
  · rintro (⟨other, member, asked, answered⟩ | ⟨asked, answered⟩)
    · exact ⟨other, .inl member, asked, answered⟩
    · exact ⟨call, .inr rfl, asked, answered⟩

theorem Standing.initial (mode : Mode) : Standing mode (Machine.new mode) ([] : List (Call E)) where
  same := rfl
  used := ⟨nofun, nofun⟩
  trail := ⟨0, 0, 0, by simp [steps, performed, Machine.new, Step.rank]⟩
  passed := by simp [Machine.new, Step.rank]
  selected := by simp [Machine.new]
  uncommitted := by simp [DoneIn]
  justified := by simp [Justified]

/-- A retried step changes nothing but the number of retries. -/
theorem Standing.retried (standing : Standing mode machine history) (asked : call.step = machine.step)
    (answered : call.answer = .ok .pending)
    (retried : machine.step = .recheck ∨ machine.step = .verify ∨ machine.step = .drain) :
    Standing mode machine (history ++ [call]) where
  same := standing.same
  used := standing.used
  trail := by
    obtain ⟨rechecks, drains, verifies, trail⟩ := standing.trail
    obtain ⟨rechecks', drains', verifies', more⟩ :=
      performed_retry mode rechecks drains verifies standing.used retried
    exact ⟨rechecks', drains', verifies', (steps_snoc_eq trail asked).trans more⟩
  passed := fun earlier used rank => (standing.passed earlier used rank).mono _
  selected := standing.selected
  uncommitted := by
    rw [doneIn_snoc]
    rintro (done | ⟨-, done⟩)
    · exact standing.uncommitted done
    · simp [answered] at done
  justified := standing.justified_snoc asked

/-- Every step before the one the machine proceeds to is the one it proceeds from
or comes before that. -/
theorem rank_proceed (more : machine.proceed.2 = none)
    {earlier : Step} (used : earlier.Used machine.mode)
    (rank : earlier.rank < machine.proceed.1.step.rank) :
    earlier = machine.step ∨ earlier.rank < machine.step.rank := by
  obtain ⟨mode, step, committed⟩ := machine
  cases mode <;> cases step <;> cases earlier <;> simp_all [Machine.proceed, Step.rank, Step.Used]

theorem Standing.proceeded (standing : Standing mode machine history) (asked : call.step = machine.step)
    (answered : call.answer = .ok .done) (more : machine.proceed.2 = none) :
    Standing mode machine.proceed.1 (history ++ [call]) := by
  obtain rfl := standing.same
  have kept : machine.proceed.1.mode = machine.mode := by
    unfold Machine.proceed
    split <;> (try split) <;> rfl
  refine ⟨kept, ?_, ?_, ?_, ?_, ?_, standing.justified_snoc asked⟩
  · have used := standing.used
    obtain ⟨mode, step, committed⟩ := machine
    cases mode <;> cases step <;> simp_all [Machine.proceed, Step.Used]
  · obtain ⟨rechecks, drains, verifies, trail⟩ := standing.trail
    obtain ⟨drains', verifies', more⟩ := performed_next rechecks drains verifies standing.used more
    exact ⟨rechecks, drains', verifies', (steps_snoc_eq trail asked).trans more⟩
  · intro earlier used rank
    rcases rank_proceed more used rank with rfl | rank
    · exact doneIn_snoc.mpr (.inr ⟨asked, answered⟩)
    · exact (standing.passed earlier used rank).mono _
  · have selected := standing.selected
    obtain ⟨mode, step, committed⟩ := machine
    cases mode <;> cases step <;> simp_all [Machine.proceed]
  · rw [doneIn_snoc]
    rintro (done | ⟨commit, -⟩)
    · -- A commit that answered before leaves nothing but retirement, which ends the run.
      have retiring := standing.uncommitted done
      simp [Machine.proceed, retiring] at more
    · rw [asked] at commit
      simp only [Machine.proceed, commit] at more ⊢
      split at more
      · cases more
      · rename_i overlap
        simp [overlap]

/-! ## Safety of every run -/

/-- The result tells the caller that the new selection is authoritative. -/
def ClaimsCommit : Except (Failure E) Outcome → Prop
  | .ok .complete | .ok .retirementPending => True
  | .ok .unchanged => False
  | .error failure => failure.committed = true

/-- The last call was of the step and got the answer. -/
def LastAnswer (history : List (Call E)) (step : Step) (progress : Progress) : Prop :=
  ∃ before call, history = before ++ [call] ∧ call.step = step ∧ call.answer = .ok progress

/-- A call of `Start` that came after a `Done` answer from `Drain`. -/
def DrainedBeforeStart (history : List (Call E)) : Prop :=
  ∃ before call later, history = before ++ call :: later ∧ call.step = .start ∧ DoneIn before .drain

/-- What a result says is what the calls showed. -/
structure Truthful (mode : Mode) (history : List (Call E)) (ending : Option (Ending E)) : Prop where
  claimed : ∀ result, ending = some (.returned result) → (ClaimsCommit result ↔ DoneIn history .commit)
  unchanged : ending = some (.returned (.ok .unchanged)) → LastAnswer history .recheck .unchanged
  retirement : ending = some (.returned (.ok .retirementPending)) → LastAnswer history .retire .pending
  complete : ending = some (.returned (.ok .complete)) →
    LastAnswer history (match mode with | .exclusive => .commit | .overlap => .retire) .done

/-- A replacement that performed its steps in order, committed only what was
proved before, and reports truthfully. -/
structure Safe (mode : Mode) (state : State E) : Prop extends
    Truthful mode state.history state.ending where
  ordered : ∃ rechecks drains verifies,
    steps state.history <+: order mode rechecks drains verifies
  once : ∀ step ∈ [Step.prepare, .start, .validate, .commit, .retire],
    (steps state.history).count step ≤ 1
  earned : ∀ before call later, state.history = before ++ call :: later → call.step = .commit →
    DoneIn before .start ∧ DoneIn before .verify ∧ DoneIn before .validate ∧
      (mode = .exclusive → DrainedBeforeStart before)

theorem Justified.drained (justified : Justified .exclusive history)
    (started : DoneIn history .start) : DrainedBeforeStart history := by
  obtain ⟨call, member, asked, -⟩ := started
  obtain ⟨before, later, split⟩ := List.append_of_mem member
  refine ⟨before, call, later, split, asked, ?_⟩
  exact justified before call later split .drain ⟨fun _ => rfl, nofun⟩ (by simp [asked, Step.rank])

theorem Justified.earned (justified : Justified mode history)
    {before later : List (Call E)} (split : history = before ++ call :: later)
    (commit : call.step = .commit) :
    DoneIn before .start ∧ DoneIn before .verify ∧ DoneIn before .validate ∧
      (mode = .exclusive → DrainedBeforeStart before) := by
  have reached := justified before call later split
  have started : DoneIn before .start := reached .start ⟨nofun, nofun⟩ (by simp [commit, Step.rank])
  refine ⟨started, reached .verify ⟨nofun, nofun⟩ (by simp [commit, Step.rank]),
    reached .validate ⟨nofun, nofun⟩ (by simp [commit, Step.rank]), ?_⟩
  rintro rfl
  have restricted : Justified .exclusive before := by
    intro first other rest inner
    exact justified first other (rest ++ call :: later) (by simp [split, inner])
  exact restricted.drained started

theorem Truthful.safe {state : State E}
    (truthful : Truthful mode state.history state.ending)
    (ordered : ∃ rechecks drains verifies, steps state.history <+: order mode rechecks drains verifies)
    (justified : Justified mode state.history) : Safe mode state where
  toTruthful := truthful
  ordered := ordered
  once := by
    obtain ⟨rechecks, drains, verifies, ordered⟩ := ordered
    intro step single
    exact Nat.le_trans (ordered.sublist.count_le step)
      (count_order mode rechecks drains verifies single)
  earned := fun _ _ _ split commit => justified.earned split commit

/-- A turn that made the machine's call is safe if what it returns is true. -/
theorem Standing.safe {state : State E} (standing : Standing mode machine history)
    (asked : call.step = machine.step) (recorded : state.history = history ++ [call])
    (truthful : Truthful mode state.history state.ending) : Safe mode state := by
  apply truthful.safe
  · rw [recorded]
    exact standing.steps_snoc asked
  · rw [recorded]
    exact standing.justified_snoc asked

theorem claimed_of {result : Except (Failure E) Outcome}
    (claimed : ClaimsCommit result ↔ DoneIn history .commit) (other : Except (Failure E) Outcome)
    (same : some (Ending.returned result) = some (.returned other)) :
    ClaimsCommit other ↔ DoneIn history .commit := by
  cases same
  exact claimed

theorem Truthful.failure {failure : Failure E}
    (claimed : failure.committed = true ↔ DoneIn history .commit) :
    Truthful mode history (some (.returned (.error failure))) :=
  ⟨claimed_of claimed, nofun, nofun, nofun⟩

theorem Truthful.silent {ending : Option (Ending E)}
    (silent : ending = none ∨ ending = some .panicked) : Truthful mode history ending := by
  rcases silent with rfl | rfl <;> exact ⟨nofun, nofun, nofun, nofun⟩

theorem Standing.committed_iff (standing : Standing mode machine history) :
    machine.committed = true ↔ DoneIn history .commit := by
  refine ⟨fun committed => ?_, fun done => standing.selected.mpr (standing.uncommitted done)⟩
  have retiring := standing.selected.mp committed
  exact standing.passed .commit ⟨nofun, nofun⟩ (by simp [retiring, Step.rank])

/-- A call that did not answer `Done` to `Commit` leaves the claim to the machine. -/
theorem Standing.committed_snoc (standing : Standing mode machine history) (asked : call.step = machine.step)
    (other : machine.step = .commit → call.answer ≠ .ok .done) :
    machine.committed = true ↔ DoneIn (history ++ [call]) .commit := by
  rw [doneIn_snoc, ← standing.committed_iff]
  constructor
  · exact .inl
  · rintro (committed | ⟨commit, done⟩)
    · exact committed
    · exact absurd done (other (asked ▸ commit))

theorem Standing.finished {next : Machine} (standing : Standing mode machine history) {progress : Progress}
    {outcome : Outcome} (asked : call.step = machine.step) (answered : call.answer = .ok progress)
    (advanced : machine.advance (E := E) progress = (next, .ok (some outcome))) :
    Truthful mode (history ++ [call]) (some (.returned (.ok outcome))) := by
  have last : ∀ step, machine.step = step → LastAnswer (history ++ [call]) step progress :=
    fun step same => ⟨history, call, rfl, asked.trans same, answered⟩
  rcases advance_cases advanced with ⟨-, -, none, -⟩ | ⟨-, recheck, rfl, same⟩ |
    ⟨-, retire, rfl, same⟩ | ⟨rfl, -, same⟩ | ⟨-, -, none⟩
  · simp at none
  · simp only [Except.ok.injEq, Option.some.injEq] at same
    subst same
    have unclaimed : ¬ DoneIn (history ++ [call]) .commit := by
      rw [← standing.committed_snoc asked (by simp [recheck]), standing.selected]
      simp [recheck]
    exact ⟨claimed_of ⟨False.elim, unclaimed⟩, fun _ => last _ recheck, nofun, nofun⟩
  · simp only [Except.ok.injEq, Option.some.injEq] at same
    subst same
    have done := (standing.committed_iff.mp (standing.selected.mpr retire)).mono [call]
    exact ⟨claimed_of ⟨fun _ => done, fun _ => trivial⟩, nofun, fun _ => last _ retire, nofun⟩
  · -- Only a commit in `Exclusive` or a retirement in `Overlap` completes the run.
    simp only [Except.ok.injEq] at same
    obtain rfl := standing.same
    have used := standing.used
    have final : outcome = .complete ∧
        machine.step = (match machine.mode with | .exclusive => .commit | .overlap => .retire) := by
      obtain ⟨mode, step, flag⟩ := machine
      cases mode <;> cases step <;> simp_all [Machine.proceed, Step.Used]
    obtain ⟨rfl, stands⟩ := final
    have done : DoneIn (history ++ [call]) .commit := by
      cases mode : machine.mode <;> rw [mode] at stands
      · exact (standing.committed_iff.mp (standing.selected.mpr stands)).mono [call]
      · exact doneIn_snoc.mpr (.inr ⟨asked.trans stands, answered⟩)
    exact ⟨claimed_of ⟨fun _ => done, fun _ => trivial⟩, nofun, nofun, fun _ => last _ stands⟩
  · simp at none

/-- An effect keeps the run safe, and standing as long as it goes on. -/
theorem Effect.safe {state : State E}
    (effect : Effect machine history state.machine state.history state.ending)
    (standing : Standing mode machine history) :
    Safe mode state ∧ (state.ending = none → Standing mode state.machine state.history) := by
  obtain ⟨next, deadline, clock, calls, ending⟩ := state
  simp only at effect
  cases effect with
  | late =>
      -- No call was made, so the steps so far are still a prefix of the order.
      obtain ⟨rechecks, drains, verifies, trail⟩ := standing.trail
      have ordered := (List.prefix_append _ [machine.step]).trans
        (performed_snoc mode rechecks drains verifies standing.used)
      exact ⟨(Truthful.failure standing.committed_iff).safe
        ⟨rechecks, drains, verifies, trail ▸ ordered⟩ standing.justified, nofun⟩
  | failed asked answered =>
      have claimed := standing.committed_snoc asked (by simp [answered])
      exact ⟨standing.safe asked rfl (.failure claimed), nofun⟩
  | tardy asked answered notCommit =>
      have claimed := standing.committed_snoc asked (fun commit => absurd commit notCommit)
      exact ⟨standing.safe asked rfl (.failure claimed), nofun⟩
  | rejected asked answered advanced =>
      rcases advance_cases advanced with ⟨-, -, ok, -⟩ | ⟨-, -, -, ok⟩ | ⟨-, -, -, ok⟩ | ⟨-, -, ok⟩ |
        ⟨rfl, notDone, failed⟩
      · cases ok
      · cases ok
      · cases ok
      · cases ok
      · cases failed
        have claimed := standing.committed_snoc asked (by simpa [answered] using fun _ => notDone)
        exact ⟨standing.safe asked rfl (.failure claimed), nofun⟩
  | finished asked answered advanced =>
      exact ⟨standing.safe asked rfl (standing.finished asked answered advanced), nofun⟩
  | moved asked answered advanced silent =>
      refine ⟨standing.safe asked rfl (.silent silent), fun _ => ?_⟩
      rcases advance_cases advanced with ⟨rfl, rfl, -, retried⟩ | ⟨-, -, -, some⟩ | ⟨-, -, -, some⟩ |
        ⟨rfl, rfl, more⟩ | ⟨-, -, failed⟩
      · exact standing.retried asked answered retried
      · cases some
      · cases some
      · exact standing.proceeded asked answered (Except.ok.inj more).symm
      · cases failed

theorem run_standing (world : World E) (mode : Mode) (budgets : Budgets) (start : Instant)
    (iterations : Nat) :
    Safe mode (run world mode budgets start iterations) ∧
      ((run world mode budgets start iterations).ending = none →
        Standing mode (run world mode budgets start iterations).machine
          (run world mode budgets start iterations).history) := by
  induction iterations with
  | zero =>
      obtain ⟨same, kept, ending⟩ := restart_retimed world
        ⟨Machine.new mode, none, ⟨start, 0⟩, [], none⟩ budgets.setup
      have standing : Standing mode (run world mode budgets start 0).machine
          (run world mode budgets start 0).history := by
        simp only [run, enter, same, kept]
        exact .initial mode
      refine ⟨(Truthful.silent ending).safe ⟨0, 0, 0, ?_⟩ standing.justified, fun _ => standing⟩
      simp [kept, steps]
  | succ iterations ih =>
      obtain ⟨safe, standing⟩ := ih
      simp only [run]
      cases finished : (run world mode budgets start iterations).ending with
      | none => exact (turn_effect world budgets finished).safe (standing finished)
      | some ending =>
          -- The run is over and stays as it is.
          have still : (run world mode budgets start iterations).turn world budgets =
              run world mode budgets start iterations := by
            simp only [State.turn, finished]
          rw [still]
          exact ⟨safe, standing⟩

/-- Safety of a replacement at every point of every run: whatever the driver
answers, however long its calls take and whatever the clock reads. -/
theorem run_safe (world : World E) (mode : Mode) (budgets : Budgets) (start : Instant)
    (iterations : Nat) : Safe mode (run world mode budgets start iterations) :=
  (run_standing world mode budgets start iterations).1

end

end KunobiDaemon.Replacement
