import KunobiDaemon.Selection.Honesty

/-! The asynchronous observer, and that it agrees with the blocking one.

`await_selection_async` drops a probe at the deadline of its round instead of looking at the
clock after it. A probe that outlasts its round proves nothing to either, and with its budget
spent each decides by the record alone.
-/

set_option autoImplicit false

namespace KunobiDaemon.Selection

/-- Evidence whose probe can be dropped. -/
structure AsyncEvidence (W P X : Type) extends Evidence W P X where
  /-- The world in which a probe begun in this one was dropped at its deadline. -/
  cancel : W → Instant → W
  cancel_late : ∀ world deadline, deadline ≤ time (cancel world deadline)

section
variable {W P X : Type} (evidence : AsyncEvidence W P X)

/-- `timeout_at(until, evidence.probe())`, which looks at the probe before it looks at the clock. -/
def AsyncEvidence.timeoutAt (world : W) (deadline : Instant) : W × Option (Except X (Option P)) :=
  let (answered, answer) := evidence.probe world deadline
  if evidence.time answered ≤ max (evidence.time world) deadline then (answered, some answer)
  else (evidence.cancel world deadline, none)

/-- The rest of a round of `await_selection_async`, once its record has been read. -/
def State.inspectAsync (state : State W P X) (committed : Bool) (read : Instant) : State W P X :=
  match evidence.add state.start state.watch.until_ with
  | none => { state with ending := some .panicked }
  | some deadline =>
      let calls := state.calls ++ [.probe]
      match evidence.timeoutAt state.world deadline with
      | (world, some (.error error)) =>
          let round := ⟨committed, read, deadline, .error error, none, none, false⟩
          { state with
            world, calls, rounds := state.rounds ++ [round], ending := some (.returned (.error error)) }
      | (world, some (.ok answer)) =>
          { state with world, calls }.conclude evidence.toEvidence committed read deadline answer
      | (world, none) => { state with world, calls }.conclude evidence.toEvidence committed read deadline none

/-- One iteration of the loop in `await_selection_async`. -/
def State.turnAsync (state : State W P X) : State W P X :=
  match state.ending with
  | some _ => state
  | none =>
      let (world, answer) := evidence.committed state.world
      let calls := state.calls ++ [.committed]
      match answer with
      | .error error => { state with world, calls, ending := some (.returned (.error error)) }
      | .ok committed =>
          let world := evidence.read world
          let read := evidence.time world
          let watch := state.watch.record (read - state.start) committed
          { state with world, watch, calls }.inspectAsync evidence committed read

/-- `await_selection_async` after so many iterations. -/
def awaitSelectionAsync (budget : Budget) (world : W) : Nat → State W P X
  | 0 => enter evidence.toEvidence budget world
  | iterations + 1 => (awaitSelectionAsync budget world iterations).turnAsync evidence

end

section
variable {W P X : Type}

/-- What a round read, until when it was allowed to last, and whether it ended in a wait. -/
def Round.plan (round : Round P X) : Bool × Instant × Bool := (round.committed, round.deadline, round.waited)

/-- Both made the same calls in the same rounds with the same deadlines, and go on or ended in the same way. -/
structure Agrees (state async : State W P X) : Prop where
  calls : async.calls = state.calls
  rounds : async.rounds.map Round.plan = state.rounds.map Round.plan
  ending : async.ending = state.ending

/-- Where the next turn begins its probe, and with what deadline. -/
def State.nextProbe (evidence : Evidence W P X) (state : State W P X) : Option (W × Instant) :=
  match state.ending, (evidence.committed state.world).2 with
  | none, .ok committed =>
      (evidence.add state.start (state.noted evidence committed).until_).map fun deadline =>
        (evidence.read (evidence.committed state.world).1, deadline)
  | _, _ => none

/-- The next probe does not answer with an error after its deadline. -/
def State.Punctual (evidence : Evidence W P X) (state : State W P X) : Prop :=
  ∀ world deadline error, state.nextProbe evidence = some (world, deadline) →
    (evidence.probe world deadline).2 = .error error → evidence.time (evidence.probe world deadline).1 ≤ deadline

/-- What an observer reports whose budget is spent. -/
def Watch.expired (watch : Watch) : Selection P :=
  match watch.committedAt with
  | some _ => .committed
  | none => .notCommitted

/-- A probe that outlasts its round leaves the decision to the record. -/
structure Concludes (state : State W P X) (committed : Bool) (deadline : Instant) (next : State W P X) : Prop where
  calls : next.calls = state.calls
  rounds : next.rounds.map Round.plan = state.rounds.map Round.plan ++ [(committed, deadline, false)]
  ending : next.ending = some (.returned (.ok state.watch.expired))

theorem filter_late (evidence : Evidence W P X) {world : W} {deadline : Instant}
    (late : deadline ≤ evidence.time world) (answer : Option P) :
    (evidence.filter world deadline answer).2.2 = none := by
  cases answer with
  | none => rfl
  | some proof =>
      have late : deadline ≤ evidence.time (evidence.read world) := Nat.le_trans late (evidence.read_onward world)
      exact if_neg (Nat.not_lt_of_le late)

theorem conclude_late (evidence : Evidence W P X) {state : State W P X} {deadline : Instant} (committed : Bool)
    (read : Instant) (answer : Option P) (given : evidence.add state.start state.watch.until_ = some deadline)
    (late : deadline ≤ evidence.time state.world) :
    Concludes state committed deadline (state.conclude evidence committed read deadline answer) := by
  have unproven := filter_late evidence late answer
  have onward := filter_onward evidence state.world deadline answer
  unfold State.conclude
  generalize evidence.filter state.world deadline answer = filtered at unproven onward
  obtain ⟨world, checked, proof⟩ := filtered
  cases unproven
  have expired : state.watch.until_ ≤ evidence.time (evidence.read world) - state.start := by
    have spent := (Clock.add_eq_some.mp given).2
    have read_onward := evidence.read_onward world
    dsimp only [Instant, Duration] at *
    omega
  have decided : ∀ decision, state.watch.decide (evidence.time (evidence.read world) - state.start) false = decision →
      decision = match state.watch.committedAt with
        | some _ => .committed
        | none => .notCommitted := by
    rintro _ rfl
    unfold Watch.decide
    rw [decide_eq_true expired]
    cases state.watch.committedAt <;> rfl
  dsimp only [Option.isSome]
  rw [decided _ rfl]
  cases since : state.watch.committedAt with
  | some _ =>
      dsimp only
      exact ⟨rfl, List.map_append, by rw [Watch.expired, since]⟩
  | none =>
      dsimp only
      exact ⟨rfl, List.map_append, by rw [Watch.expired, since]⟩

theorem Concludes.agrees {state other next async : State W P X} {committed : Bool} {deadline : Instant}
    (concludes : Concludes state committed deadline next) (also : Concludes other committed deadline async)
    (calls : other.calls = state.calls) (rounds : other.rounds = state.rounds) (watch : other.watch = state.watch) :
    Agrees next async where
  calls := by rw [concludes.calls, also.calls, calls]
  rounds := by rw [concludes.rounds, also.rounds, rounds]
  ending := by rw [concludes.ending, also.ending, watch]

/-- The two stay in one state until one of them is over, and then both are. -/
def Follows (state async : State W P X) : Prop :=
  async = state ∨ state.ending ≠ none ∧ Agrees state async

theorem Follows.agrees {state async : State W P X} (follows : Follows state async) : Agrees state async := by
  rcases follows with rfl | ⟨-, agrees⟩
  · exact ⟨rfl, rfl, rfl⟩
  · exact agrees

variable (evidence : AsyncEvidence W P X)

theorem inspect_follows {state : State W P X} (committed : Bool) (read : Instant)
    (punctual : ∀ deadline error, evidence.add state.start state.watch.until_ = some deadline →
      (evidence.probe state.world deadline).2 = .error error →
      evidence.time (evidence.probe state.world deadline).1 ≤ deadline) :
    Follows (state.inspect evidence.toEvidence committed read) (state.inspectAsync evidence committed read) := by
  cases given : evidence.add state.start state.watch.until_ with
  | none =>
      simp only [State.inspect, State.inspectAsync, given]
      exact .inl rfl
  | some deadline =>
      have punctual := fun error => punctual deadline error given
      obtain ⟨⟨answered, answer⟩, probed⟩ : ∃ probed, evidence.probe state.world deadline = probed := ⟨_, rfl⟩
      simp only [State.inspect, State.inspectAsync, AsyncEvidence.timeoutAt, given, probed] at punctual ⊢
      by_cases intime : evidence.time answered ≤ max (evidence.time state.world) deadline
      · rw [if_pos intime]
        cases answer <;> exact .inl rfl
      · rw [if_neg intime]
        have outlasts : deadline ≤ evidence.time answered :=
          Nat.le_trans (Nat.le_max_right _ _) (Nat.le_of_not_le intime)
        cases answer with
        | error error =>
            exact absurd (Nat.le_trans (punctual error rfl) (Nat.le_max_right _ _)) intime
        | ok answer =>
            let calls := state.calls ++ [.probe]
            have blocking : Concludes { state with world := answered, calls } committed deadline _ :=
              conclude_late evidence.toEvidence committed read answer given outlasts
            have async : Concludes { state with world := evidence.cancel state.world deadline, calls }
                committed deadline _ :=
              conclude_late evidence.toEvidence committed read none given (evidence.cancel_late _ _)
            refine .inr ⟨?_, blocking.agrees async rfl rfl rfl⟩
            rw [blocking.ending]
            exact Option.some_ne_none _

theorem turn_follows {state : State W P X} (punctual : state.Punctual evidence.toEvidence) :
    Follows (state.turn evidence.toEvidence) (state.turnAsync evidence) := by
  unfold State.turn State.turnAsync
  cases ending : state.ending with
  | some _ => exact .inl rfl
  | none =>
      dsimp only
      cases answer : (evidence.committed state.world).2 with
      | error error => exact .inl rfl
      | ok committed =>
          dsimp only
          refine inspect_follows evidence committed _ fun deadline error given => punctual _ deadline error ?_
          simp only [State.nextProbe, ending, answer]
          exact Option.map_eq_some_iff.mpr ⟨deadline, given, rfl⟩

theorem turn_of_ended {state : State W P X} (ended : state.ending ≠ none) :
    state.turn evidence.toEvidence = state ∧ state.turnAsync evidence = state := by
  unfold State.turn State.turnAsync
  cases ending : state.ending with
  | none => exact absurd ending ended
  | some _ => exact ⟨rfl, rfl⟩

theorem async_observer_agrees (budget : Budget) (world : W)
    (punctual : ∀ iterations,
      (awaitSelection evidence.toEvidence budget world iterations).Punctual evidence.toEvidence)
    (iterations : Nat) :
    Agrees (awaitSelection evidence.toEvidence budget world iterations)
      (awaitSelectionAsync evidence budget world iterations) := by
  apply Follows.agrees
  induction iterations with
  | zero => exact .inl rfl
  | succ iterations ih =>
      rw [awaitSelection, awaitSelectionAsync]
      rcases ih with same | ⟨ended, agrees⟩
      · rw [same]
        exact turn_follows evidence (punctual iterations)
      · have ended' : (awaitSelectionAsync evidence budget world iterations).ending ≠ none := by
          rw [agrees.ending]
          exact ended
        rw [(turn_of_ended evidence ended).1, (turn_of_ended evidence ended').2]
        exact .inr ⟨ended, agrees⟩

end

/-- How long each call takes and what it answers, in order. -/
structure Script (P X : Type) where
  committed : Nat → Duration × Except X Bool
  probe : Nat → Duration × Except X (Option P)
  wait : Nat → Duration

/-- The time, and how many calls of a script were made. -/
structure Playing where
  time : Instant
  committed : Nat := 0
  probe : Nat := 0
  wait : Nat := 0

/-- A script as evidence. Only its calls take time. -/
def Script.evidence {P X : Type} (script : Script P X) : AsyncEvidence Playing P X where
  time world := world.time
  read world := world
  read_onward _ := Nat.le_refl _
  latest := lastInstant
  committed world :=
    let (took, answer) := script.committed world.committed
    ({ world with time := world.time + took, committed := world.committed + 1 }, answer)
  probe world _ :=
    let (took, answer) := script.probe world.probe
    ({ world with time := world.time + took, probe := world.probe + 1 }, answer)
  wait world _ := { world with time := world.time + script.wait world.wait, wait := world.wait + 1 }
  committed_onward _ := Nat.le_add_right _ _
  probe_onward _ _ := Nat.le_add_right _ _
  wait_onward _ _ := Nat.le_add_right _ _
  cancel world deadline := { world with time := max world.time deadline, probe := world.probe + 1 }
  cancel_late _ _ := Nat.le_max_right _ _

/-- The second round reads a commit, and its probe outlasts the proof budget. -/
def lateProof : Script Unit Unit where
  committed n := (5, .ok (n == 1))
  probe n := if n = 0 then (10, .ok none) else (500, .ok (some ()))
  wait _ := 20

theorem late_proof_agrees :
    (awaitSelection lateProof.evidence.toEvidence ⟨1000, 100⟩ ⟨0, 0, 0, 0⟩ 2).ending =
      some (.returned (.ok .committed)) ∧
    Agrees (awaitSelection lateProof.evidence.toEvidence ⟨1000, 100⟩ ⟨0, 0, 0, 0⟩ 2)
      (awaitSelectionAsync lateProof.evidence ⟨1000, 100⟩ ⟨0, 0, 0, 0⟩ 2) := by
  refine ⟨rfl, async_observer_agrees _ _ _ (fun iterations world deadline error _ erred => ?_) 2⟩
  -- No probe of the script answers with an error.
  have answers : ∀ n, ∃ proof, (lateProof.probe n).2 = .ok proof := by
    intro n
    cases n <;> exact ⟨_, rfl⟩
  obtain ⟨proof, answered⟩ := answers world.probe
  cases answered.symm.trans erred

end KunobiDaemon.Selection
