import KunobiDaemon.Selection.Await
import Mathlib.Data.List.Induction

/-! What an observer may have reported, and when it stops, at every point of a wait.

One turn has one of five effects, whatever the world answers and however long it takes
(`turn_effect`). Each round is judged by the watch that all rounds up to it make (`watched`).
-/

set_option autoImplicit false

namespace KunobiDaemon.Selection

namespace Watch

theorem until_le_commit (watch : Watch) : watch.until_ ≤ watch.budget.commit := by
  unfold until_
  split
  · exact Nat.min_le_right _ _
  · exact Nat.le_refl _

theorem until_le_proof {watch : Watch} {since : Duration} (committed : watch.committedAt = some since) :
    watch.until_ ≤ since + watch.budget.proof := by
  unfold until_
  rw [committed]
  exact Nat.le_trans (Nat.min_le_left _ _) (Nat.min_le_left _ _)

theorem decide_eq_wait {watch : Watch} {elapsed : Duration} {proven : Bool} :
    watch.decide elapsed proven = .wait ↔ proven = false ∧ elapsed < watch.until_ := by
  cases proven with
  | true => simp [decide]
  | false =>
      by_cases expired : watch.until_ ≤ elapsed
      · cases at_ : watch.committedAt <;> simp [decide, at_, expired, Nat.not_lt.mpr expired]
      · cases at_ : watch.committedAt <;> simp [decide, at_, expired, Nat.lt_of_not_le expired]

theorem decide_eq_current {watch : Watch} {elapsed : Duration} {proven : Bool} :
    watch.decide elapsed proven = .current ↔ proven = true := by
  cases proven with
  | true => simp [decide]
  | false =>
      by_cases expired : watch.until_ ≤ elapsed <;>
        cases at_ : watch.committedAt <;> simp [decide, at_, expired]

theorem decide_eq_committed {watch : Watch} {elapsed : Duration} {proven : Bool}
    (decided : watch.decide elapsed proven = .committed) :
    proven = false ∧ ∃ since, watch.committedAt = some since := by
  unfold decide at decided
  split at decided
  · cases decided
  · rename_i unproven
    split at decided
    · cases decided
    · exact ⟨by simpa using unproven, _, ‹_›⟩
    · cases decided

theorem decide_eq_notCommitted {watch : Watch} {elapsed : Duration} {proven : Bool}
    (decided : watch.decide elapsed proven = .notCommitted) :
    watch.committedAt = none ∧ watch.budget.commit ≤ elapsed := by
  unfold decide at decided
  split at decided
  · cases decided
  · split at decided
    · cases decided
    · cases decided
    · rename_i never expired
      exact ⟨never, by simpa [until_, never] using expired⟩

@[simp] theorem record_budget (watch : Watch) (elapsed : Duration) (committed : Bool) :
    (watch.record elapsed committed).budget = watch.budget := by
  unfold record
  split <;> rfl

/-- Reading the record can only bring the end of the wait closer. -/
theorem until_record_le (watch : Watch) (elapsed : Duration) (committed : Bool) :
    (watch.record elapsed committed).until_ ≤ watch.until_ := by
  cases since : watch.committedAt with
  | some => simp [record, since]
  | none =>
      have bound := until_le_commit (watch.record elapsed committed)
      rw [record_budget] at bound
      simpa [until_, since] using bound

end Watch

section
variable {W P X : Type}

/-- The watch after these rounds. -/
def watched (budget : Budget) (start : Instant) (rounds : List (Round P X)) : Watch :=
  rounds.foldl (fun watch round => watch.record (round.read - start) round.committed) (.new budget)

theorem watched_snoc (budget : Budget) (start : Instant) (rounds : List (Round P X)) (round : Round P X) :
    watched budget start (rounds ++ [round]) =
      (watched budget start rounds).record (round.read - start) round.committed := by
  simp [watched]

@[simp] theorem watched_budget (budget : Budget) (start : Instant) (rounds : List (Round P X)) :
    (watched budget start rounds).budget = budget := by
  induction rounds using List.reverseRecOn with
  | nil => rfl
  | append_singleton rounds round ih => rw [watched_snoc, Watch.record_budget, ih]

/-- The first of these rounds that read the record as committed. -/
def firstCommitted (rounds : List (Round P X)) : Option (Round P X) := rounds.find? (·.committed)

theorem committedAt_watched (budget : Budget) (start : Instant) (rounds : List (Round P X)) :
    (watched budget start rounds).committedAt = (firstCommitted rounds).map fun first => first.read - start := by
  induction rounds using List.reverseRecOn with
  | nil => rfl
  | append_singleton rounds round ih =>
      unfold firstCommitted at ih ⊢
      rw [watched_snoc, Watch.record, List.find?_append]
      cases found : rounds.find? (·.committed) with
      | some first => simp [found, ih]
      | none => cases committed : round.committed <;> simp [found, ih, committed]

/-- How a call ends that decides so after a round with this timely proof. -/
def Decision.ending (decision : Decision) (proof : Option P) : Option (Ending P X) :=
  match decision, proof with
  | .current, some proof => some (.returned (.ok (.current proof)))
  | .current, none => some .panicked
  | .committed, _ => some (.returned (.ok .committed))
  | .notCommitted, _ => some (.returned (.ok .notCommitted))
  | .wait, _ => none

/-- A round's probe was given the deadline that its record calls for. -/
structure Round.Bounded (latest start : Instant) (watch : Watch) (round : Round P X) : Prop where
  begun : start ≤ round.read
  deadline : round.deadline = start + watch.until_
  fits : round.deadline ≤ latest

/-- A round was decided by its own readings. -/
structure Round.Judged (start : Instant) (watch : Watch) (round : Round P X) (decision : Decision) : Prop where
  decided : ∃ now, start ≤ now ∧ round.decided = some now ∧
    watch.decide (now - start) round.timely.isSome = decision
  waited : round.waited = (decision == .wait)

/-- The watch of the next round, once its record has been read. -/
def State.noted (evidence : Evidence W P X) (state : State W P X) (committed : Bool) : Watch :=
  state.watch.record (evidence.time (evidence.read (evidence.committed state.world).1) - state.start) committed

/-- What one turn does. -/
inductive Effect (evidence : Evidence W P X) (state : State W P X) : State W P X → Prop where
  | failed {world : W} {error : X} : (evidence.committed state.world).2 = .error error →
      Effect evidence state
        { state with
          world, calls := state.calls ++ [.committed], ending := some (.returned (.error error)) }
  | panicked {world : W} {committed : Bool} : (evidence.committed state.world).2 = .ok committed →
      evidence.latest < state.start + (state.noted evidence committed).until_ →
      Effect evidence state
        { state with
          world, watch := state.noted evidence committed, calls := state.calls ++ [.committed],
          ending := some .panicked }
  | erred {world : W} {watch : Watch} {round : Round P X} {error : X} :
      (evidence.committed state.world).2 = .ok round.committed →
      round.read = evidence.time (evidence.read (evidence.committed state.world).1) →
      watch = state.watch.record (round.read - state.start) round.committed →
      round.Bounded evidence.latest state.start watch → round.waited = false →
      (evidence.probe (evidence.read (evidence.committed state.world).1) round.deadline).2 = .error error →
      Effect evidence state
        { state with
          world, watch, rounds := state.rounds ++ [round], calls := state.calls ++ [.committed] ++ [.probe],
          ending := some (.returned (.error error)) }
  | concluded {decided : W} {watch : Watch} {round : Round P X} {decision : Decision} :
      watch = state.watch.record (round.read - state.start) round.committed →
      round.Bounded evidence.latest state.start watch → round.Judged state.start watch decision →
      decision ≠ .wait →
      Effect evidence state
        { state with
          world := decided, watch, rounds := state.rounds ++ [round],
          calls := state.calls ++ [.committed] ++ [.probe], ending := decision.ending round.timely }
  | waited {decided : W} {watch : Watch} {round : Round P X} :
      watch = state.watch.record (round.read - state.start) round.committed →
      round.Bounded evidence.latest state.start watch → round.Judged state.start watch .wait →
      evidence.time state.world ≤ evidence.time decided → round.decided = some (evidence.time decided) →
      Effect evidence state
        { state with
          world := evidence.wait decided round.deadline, watch, rounds := state.rounds ++ [round],
          calls := state.calls ++ [.committed] ++ [.probe] ++ [.wait] }

theorem filter_timely (evidence : Evidence W P X) (world : W) (deadline : Instant) (answer : Option P)
    (committed : Bool) (read : Instant) (decided : Option Instant) (waited : Bool) :
    (Round.timely (X := X) ⟨committed, read, deadline, .ok answer,
      (evidence.filter world deadline answer).2.1, decided, waited⟩) =
      (evidence.filter world deadline answer).2.2 := by
  cases answer <;> rfl

theorem filter_onward (evidence : Evidence W P X) (world : W) (deadline : Instant) (answer : Option P) :
    evidence.time world ≤ evidence.time (evidence.filter world deadline answer).1 := by
  cases answer with
  | none => exact Nat.le_refl _
  | some => exact evidence.read_onward world

theorem conclude_effect (evidence : Evidence W P X) {before : State W P X} {world : W} {committed : Bool}
    {read deadline : Instant} {watch : Watch} (answer : Option P)
    (late : before.start ≤ evidence.time before.world)
    (onward : evidence.time before.world ≤ evidence.time world) (begun : before.start ≤ read)
    (noted : watch = before.watch.record (read - before.start) committed)
    (given : evidence.add before.start watch.until_ = some deadline) :
    Effect evidence before
      (State.conclude evidence { before with world, watch, calls := before.calls ++ [.committed] ++ [.probe] }
        committed read deadline answer) := by
  have timely := filter_timely evidence world deadline answer committed read
  have later := Nat.le_trans onward (filter_onward evidence world deadline answer)
  unfold State.conclude
  dsimp only
  generalize evidence.filter world deadline answer = filtered at timely later
  obtain ⟨world, checked, proof⟩ := filtered
  have later := Nat.le_trans later (evidence.read_onward world)
  dsimp only at timely later ⊢
  generalize evidence.read world = world at later
  have reached := Nat.le_trans late later
  generalize decides : watch.decide (evidence.time world - before.start) proof.isSome = decision
  -- From here on the round is known by what it logged.
  generalize logged : (⟨committed, read, deadline, .ok answer, checked, some (evidence.time world),
    decision == .wait⟩ : Round P X) = round
  have shown : round.timely = proof := by
    rw [← logged]
    exact timely _ _
  have decided : round.decided = some (evidence.time world) := by rw [← logged]
  have judged : round.Judged before.start watch decision := by
    refine ⟨⟨_, reached, decided, ?_⟩, by rw [← logged]⟩
    rw [shown, decides]
  have noted : watch = before.watch.record (round.read - before.start) round.committed := by
    rw [noted, ← logged]
  have bounded : round.Bounded evidence.latest before.start watch := by
    obtain ⟨fits, rfl⟩ := Clock.add_eq_some.mp given
    rw [← logged]
    exact ⟨begun, rfl, fits⟩
  cases decision with
  | wait =>
      have same : deadline = round.deadline := by rw [← logged]
      dsimp only
      rw [same]
      exact .waited noted bounded judged later decided
  | current =>
      have ends : Effect evidence before { before with
          world, watch, rounds := before.rounds ++ [round], calls := before.calls ++ [.committed] ++ [.probe],
          ending := Decision.current.ending round.timely } :=
        .concluded noted bounded judged nofun
      rw [shown] at ends
      cases proof <;> exact ends
  | committed => exact .concluded noted bounded judged nofun
  | notCommitted => exact .concluded noted bounded judged nofun

theorem turn_effect (evidence : Evidence W P X) {state : State W P X} (running : state.ending = none)
    (late : state.start ≤ evidence.time state.world) : Effect evidence state (state.turn evidence) := by
  have first := evidence.committed_onward state.world
  unfold State.turn
  rw [running]
  rcases told : evidence.committed state.world with ⟨world, error | committed⟩
  · exact .failed (by rw [told])
  · have second := Nat.le_trans first (evidence.read_onward _)
    rw [told] at second
    dsimp only at second ⊢
    unfold State.inspect
    dsimp only
    generalize noted : state.watch.record (evidence.time (evidence.read world) - state.start) committed = watch
    cases given : evidence.add state.start watch.until_ with
    | none =>
        have same : watch = state.noted evidence committed := by rw [State.noted, told, noted]
        subst same
        apply Effect.panicked
        · rw [told]
        · simpa [Clock.add] using given
    | some deadline =>
        have third := Nat.le_trans second (evidence.probe_onward (evidence.read world) deadline)
        have begun := Nat.le_trans late second
        have bound := Clock.add_eq_some.mp given
        rcases asked : evidence.probe (evidence.read world) deadline with ⟨probed, error | answer⟩
        · have bounded : Round.Bounded evidence.latest state.start watch
              (⟨committed, evidence.time (evidence.read world), deadline, .error error, none, none, false⟩ :
                Round P X) :=
            ⟨begun, bound.2.symm, by rw [← bound.2]; exact bound.1⟩
          simp only [asked]
          refine .erred ?_ ?_ noted.symm bounded rfl ?_
          · rw [told]
          · rw [told]
          · rw [told, asked]
        · simp only [asked] at third ⊢
          rw [← running]
          exact conclude_effect evidence answer late third begun noted.symm given

/-- A round that cannot name the instant of its deadline panics before it probes. -/
theorem turn_panicked (evidence : Evidence W P X) {state : State W P X} {committed : Bool}
    (running : state.ending = none) (told : (evidence.committed state.world).2 = .ok committed)
    (past : evidence.latest < state.start + (state.noted evidence committed).until_) :
    (state.turn evidence).ending = some .panicked := by
  have unfit : evidence.add state.start (state.noted evidence committed).until_ = none := by
    simpa [Clock.add] using past
  rw [State.noted] at unfit
  unfold State.turn
  rw [running]
  generalize evidence.committed state.world = asked at told unfit
  obtain ⟨world, answer⟩ := asked
  cases told
  dsimp only
  rw [State.inspect, unfit]

/-- A round whose probe fails returns the error, and is on record. -/
theorem turn_erred (evidence : Evidence W P X) {state : State W P X} {committed : Bool} {deadline : Instant} {error : X}
    (running : state.ending = none) (told : (evidence.committed state.world).2 = .ok committed)
    (given : evidence.add state.start (state.noted evidence committed).until_ = some deadline)
    (failed : (evidence.probe (evidence.read (evidence.committed state.world).1) deadline).2 = .error error) :
    (state.turn evidence).ending = some (.returned (.error error)) ∧
    ∃ round, (state.turn evidence).rounds = state.rounds ++ [round] ∧ round.committed = committed := by
  rw [State.noted] at given
  unfold State.turn
  rw [running]
  generalize evidence.committed state.world = asked at told given failed
  obtain ⟨world, answer⟩ := asked
  cases told
  dsimp only at failed ⊢
  rw [State.inspect, given]
  rcases asked : evidence.probe (evidence.read world) deadline with ⟨probed, answer⟩
  rw [asked] at failed
  cases failed
  simp only [asked, true_and]
  exact ⟨_, rfl, rfl⟩

/-- Every round had the deadline of its watch, and only one that was not over led to a wait. -/
def Kept (latest : Instant) (budget : Budget) (start : Instant) (rounds : List (Round P X)) : Prop :=
  ∀ earlier round later, rounds = earlier ++ round :: later →
    round.Bounded latest start (watched budget start (earlier ++ [round])) ∧
    (round.waited = true → round.Judged start (watched budget start (earlier ++ [round])) .wait)

namespace Kept

variable {latest start : Instant} {budget : Budget} {rounds : List (Round P X)}

theorem nil : Kept latest budget start ([] : List (Round P X)) := by
  intro earlier round later made
  simp at made

theorem snoc {round : Round P X} {watch : Watch} (kept : Kept latest budget start rounds)
    (noted : watch = watched budget start (rounds ++ [round])) (bounded : round.Bounded latest start watch)
    (judged : round.waited = true → round.Judged start watch .wait) :
    Kept latest budget start (rounds ++ [round]) := by
  intro earlier last later made
  rcases List.eq_nil_or_concat later with rfl | ⟨front, back, rfl⟩
  · obtain ⟨rfl, rfl⟩ := List.append_singleton_inj.mp made
    rw [← noted]
    exact ⟨bounded, judged⟩
  · rw [List.concat_eq_append, ← List.cons_append, ← List.append_assoc] at made
    exact kept earlier last front (List.append_singleton_inj.mp made).1

theorem begun (kept : Kept latest budget start rounds) {round : Round P X} (mem : round ∈ rounds) :
    start ≤ round.read := by
  obtain ⟨earlier, later, made⟩ := List.append_of_mem mem
  exact (kept earlier round later made).1.begun

theorem deadline_le_commit (kept : Kept latest budget start rounds) {round : Round P X} (mem : round ∈ rounds) :
    round.deadline ≤ start + budget.commit := by
  obtain ⟨earlier, later, made⟩ := List.append_of_mem mem
  have bound := (watched budget start (earlier ++ [round])).until_le_commit
  rw [watched_budget] at bound
  rw [(kept earlier round later made).1.deadline]
  exact Nat.add_le_add_left bound start

/-- No deadline lies further than the proof budget beyond the first committed read. -/
theorem deadline_le_proof (kept : Kept latest budget start rounds) {earlier later : List (Round P X)}
    {round first : Round P X} (made : rounds = earlier ++ round :: later)
    (found : firstCommitted (earlier ++ [round]) = some first) :
    round.deadline ≤ first.read + budget.proof := by
  have mem : first ∈ rounds := by
    have early := List.mem_of_find?_eq_some found
    rw [made]
    simp only [List.mem_append, List.mem_cons] at early ⊢
    tauto
  have since := committedAt_watched budget start (earlier ++ [round])
  rw [found, Option.map_some] at since
  have bound := Watch.until_le_proof since
  rw [watched_budget] at bound
  have begun := kept.begun mem
  rw [(kept earlier round later made).1.deadline]
  calc start + (watched budget start (earlier ++ [round])).until_
    _ ≤ start + (first.read - start + budget.proof) := Nat.add_le_add_left bound start
    _ = first.read + budget.proof := by rw [← Nat.add_assoc, Nat.add_sub_cancel' begun]

/-- A round that led to a wait was decided before its deadline. -/
theorem waited (kept : Kept latest budget start rounds) {round : Round P X} (mem : round ∈ rounds)
    (waits : round.waited = true) : ∃ now, round.decided = some now ∧ now < round.deadline := by
  obtain ⟨earlier, later, made⟩ := List.append_of_mem mem
  have ⟨bounded, judged⟩ := kept earlier round later made
  obtain ⟨now, reached, decided, waiting⟩ := (judged waits).decided
  have early := (Watch.decide_eq_wait.mp waiting).2
  refine ⟨now, decided, ?_⟩
  rw [bounded.deadline]
  exact (Nat.sub_lt_iff_lt_add' reached).mp early

end Kept

/-- The calls of so many rounds that each led to a wait. -/
def cycles (rounds : Nat) : List Call := (List.replicate rounds [Call.committed, .probe, .wait]).flatten

theorem cycles_succ (rounds : Nat) : cycles (rounds + 1) = cycles rounds ++ [.committed, .probe, .wait] := by
  simp [cycles, List.replicate_succ']

/-- A call that has made so many rounds and is about to make another. -/
structure Underway (evidence : Evidence W P X) (budget : Budget) (state : State W P X) (rounds : Nat) : Prop where
  running : state.ending = none
  late : state.start ≤ evidence.time state.world
  watch : state.watch = watched budget state.start state.rounds
  kept : Kept evidence.latest budget state.start state.rounds
  made : state.rounds.length = rounds
  calls : state.calls = cycles rounds

theorem underway_enter (evidence : Evidence W P X) (budget : Budget) (world : W) :
    Underway evidence budget (enter evidence budget world) 0 :=
  ⟨rfl, Nat.le_refl _, rfl, Kept.nil, rfl, rfl⟩

/-- Only a turn that waits leaves the call running. -/
theorem Effect.of_running {evidence : Evidence W P X} {state next : State W P X} (effect : Effect evidence state next)
    (running : next.ending = none) :
    ∃ decided watch round, watch = state.watch.record (round.read - state.start) round.committed ∧
      round.Bounded evidence.latest state.start watch ∧ round.Judged state.start watch .wait ∧
      evidence.time state.world ≤ evidence.time decided ∧ round.decided = some (evidence.time decided) ∧
      next = { state with
        world := evidence.wait decided round.deadline, watch, rounds := state.rounds ++ [round],
        calls := state.calls ++ [.committed] ++ [.probe] ++ [.wait] } := by
  cases effect with
  | failed => cases running
  | panicked => cases running
  | erred => cases running
  | concluded noted bounded judged ends =>
      rename_i decided watch round decision
      cases decision with
      | wait => exact absurd rfl ends
      | current => cases shown : round.timely <;> simp [Decision.ending, shown] at running
      | committed => cases running
      | notCommitted => cases running
  | waited noted bounded judged onward decided =>
      exact ⟨_, _, _, noted, bounded, judged, onward, decided, rfl⟩

namespace Underway

variable {evidence : Evidence W P X} {budget : Budget} {state next : State W P X} {rounds : Nat}

theorem watch_snoc (underway : Underway evidence budget state rounds) {round : Round P X} {watch : Watch}
    (noted : watch = state.watch.record (round.read - state.start) round.committed) :
    watch = watched budget state.start (state.rounds ++ [round]) := by
  rw [watched_snoc, ← underway.watch, noted]

/-- A turn that does not end the call leaves it under way. -/
theorem turn (underway : Underway evidence budget state rounds) (effect : Effect evidence state next)
    (running : next.ending = none) : Underway evidence budget next (rounds + 1) := by
  obtain ⟨world, watch, round, noted, bounded, judged, onward, decided, rfl⟩ := effect.of_running running
  have same := underway.watch_snoc noted
  refine ⟨running, ?_, same, underway.kept.snoc same bounded fun _ => judged, ?_, ?_⟩
  · have waits := evidence.wait_onward world round.deadline
    exact Nat.le_trans underway.late (Nat.le_trans onward waits)
  · simp [underway.made]
  · simp [underway.calls, cycles_succ]

end Underway

/-- A call is under way, or it is over since the turn that ended it. -/
theorem await_cases (evidence : Evidence W P X) (budget : Budget) (world : W) (n : Nat) :
    Underway evidence budget (awaitSelection evidence budget world n) n ∨
    ∃ m, Underway evidence budget (awaitSelection evidence budget world m) m ∧
      Effect evidence (awaitSelection evidence budget world m) (awaitSelection evidence budget world n) ∧
      (awaitSelection evidence budget world n).ending ≠ none := by
  induction n with
  | zero => exact .inl (underway_enter evidence budget world)
  | succ n ih =>
      rcases ih with underway | ⟨m, underway, effect, finished⟩
      · have effect := turn_effect evidence underway.running underway.late
        by_cases running : ((awaitSelection evidence budget world n).turn evidence).ending = none
        · exact .inl (underway.turn effect running)
        · exact .inr ⟨n, underway, effect, running⟩
      · have stays : awaitSelection evidence budget world (n + 1) = awaitSelection evidence budget world n := by
          obtain ⟨ending, finished⟩ := Option.ne_none_iff_exists'.mp finished
          rw [awaitSelection, State.turn, finished]
        rw [stays]
        exact .inr ⟨m, underway, effect, finished⟩

/-- Probes and waits keep to the budget. -/
structure Paced (budget : Budget) (start : Instant) (rounds : List (Round P X)) : Prop where
  deadline_commit : ∀ round ∈ rounds, round.deadline ≤ start + budget.commit
  deadline_proof : ∀ earlier round later first, rounds = earlier ++ round :: later →
    firstCommitted (earlier ++ [round]) = some first → round.deadline ≤ first.read + budget.proof
  wait_commit : ∀ round ∈ rounds, round.waited = true →
    ∃ now, round.decided = some now ∧ now < start + budget.commit
  wait_proof : ∀ earlier round later first, rounds = earlier ++ round :: later →
    firstCommitted (earlier ++ [round]) = some first → round.waited = true →
    ∃ now, round.decided = some now ∧ now < first.read + budget.proof

/-- What an observer may show at any point of its wait. -/
structure Honest (budget : Budget) (state : State W P X) : Prop extends
    Paced budget state.start state.rounds where
  current : ∀ proof, state.ending = some (.returned (.ok (.current proof))) →
    ∃ rounds last now, state.rounds = rounds ++ [last] ∧
      last.answer = .ok (some proof) ∧ last.checked = some now ∧ now < last.deadline
  committed : state.ending = some (.returned (.ok .committed)) →
    (∃ round ∈ state.rounds, round.committed = true) ∧
    ∃ rounds last, state.rounds = rounds ++ [last] ∧ last.timely = none
  notCommitted : state.ending = some (.returned (.ok .notCommitted)) →
    (∀ round ∈ state.rounds, round.committed = false) ∧
    ∃ rounds last now, state.rounds = rounds ++ [last] ∧
      last.decided = some now ∧ state.start + budget.commit ≤ now
  ordered : ∃ n, state.calls <+: cycles n
  whole : ∀ ending, state.ending = some ending →
    (∃ error, ending = .returned (.error error)) ∨
    (state.rounds ≠ [] ∧ ∃ selection, ending = .returned (.ok selection))

/-- So many rounds have taken a pause each, or the next one comes too late to wait. -/
def Spent (evidence : Evidence W P X) (pause : Duration) (state : State W P X) (rounds : Nat) : Prop :=
  state.start + rounds * pause ≤ evidence.time state.world ∨
  state.start + state.watch.until_ ≤ evidence.time state.world

/-- The first round can name the instant by which it must end, if it gets to ask for it: the commit budget
after the start or, if its record is committed, the proof budget after it was read, whichever comes first. -/
def FirstDeadlineFits (evidence : Evidence W P X) (budget : Budget) (world : W) : Prop :=
  let start := evidence.time (evidence.read world)
  match evidence.committed (evidence.read world) with
  | (_, .error _) => True
  | (_, .ok false) => start + budget.commit ≤ evidence.latest
  | (after, .ok true) =>
      let elapsed : Duration := evidence.time (evidence.read after) - start
      start + min (elapsed.saturatingAdd budget.proof) budget.commit ≤ evidence.latest

theorem firstDeadlineFits_iff {evidence : Evidence W P X} {budget : Budget} {world : W} :
    FirstDeadlineFits evidence budget world ↔
      ∀ committed, (evidence.committed (enter evidence budget world).world).2 = .ok committed →
        (enter evidence budget world).start + ((enter evidence budget world).noted evidence committed).until_ ≤
          evidence.latest := by
  unfold FirstDeadlineFits enter State.noted
  dsimp only
  rcases evidence.committed (evidence.read world) with ⟨after, error | committed⟩
  · exact ⟨fun _ _ => nofun, fun _ => trivial⟩
  · constructor
    · rintro fits _ ⟨⟩
      cases committed <;> exact fits
    · intro fits
      cases committed <;> exact fits _ rfl

theorem Kept.paced {latest start : Instant} {budget : Budget} {rounds : List (Round P X)}
    (kept : Kept latest budget start rounds) : Paced budget start rounds where
  deadline_commit _ mem := kept.deadline_le_commit mem
  deadline_proof _ _ _ _ made found := kept.deadline_le_proof made found
  wait_commit round mem waits := by
    obtain ⟨now, decided, early⟩ := kept.waited mem waits
    exact ⟨now, decided, Nat.lt_of_lt_of_le early (kept.deadline_le_commit mem)⟩
  wait_proof earlier round later first made found waits := by
    obtain ⟨now, decided, early⟩ := kept.waited (by simp [made]) waits
    exact ⟨now, decided, Nat.lt_of_lt_of_le early (kept.deadline_le_proof made found)⟩

/-- A call that returns has made a round, unless it returns an error. -/
theorem whole_of_returned {rounds : List (Round P X)} {result : Except X (Selection P)}
    (made : ∀ selection, result = .ok selection → rounds ≠ []) (ending : Ending P X)
    (ended : some (Ending.returned result) = some ending) :
    (∃ error, ending = .returned (.error error)) ∨
    (rounds ≠ [] ∧ ∃ selection, ending = .returned (.ok selection)) := by
  cases ended
  cases result with
  | error error => exact .inl ⟨error, rfl⟩
  | ok selection => exact .inr ⟨made selection rfl, selection, rfl⟩

theorem timely_eq_some {round : Round P X} {proof : P} (timely : round.timely = some proof) :
    round.answer = .ok (some proof) ∧ ∃ now, round.checked = some now ∧ now < round.deadline := by
  unfold Round.timely at timely
  split at timely
  · rename_i given now answered checked
    split at timely
    · cases timely
      exact ⟨answered, now, checked, ‹_›⟩
    · cases timely
  · cases timely

namespace Underway

variable {evidence : Evidence W P X} {budget : Budget} {state next : State W P X} {rounds : Nat}

theorem honest (underway : Underway evidence budget state rounds) : Honest budget state := by
  have running := underway.running
  refine ⟨underway.kept.paced, ?_, ?_, ?_, ⟨rounds, ?_⟩, ?_⟩
  · simp [running]
  · simp [running]
  · simp [running]
  · exact underway.calls ▸ List.prefix_refl _
  · simp [running]

theorem calls_read_prefix (underway : Underway evidence budget state rounds) :
    state.calls ++ [.committed] <+: cycles (rounds + 1) := by
  rw [underway.calls, cycles_succ]
  exact ⟨[.probe, .wait], by simp⟩

theorem calls_probed_prefix (underway : Underway evidence budget state rounds) :
    state.calls ++ [.committed] ++ [.probe] <+: cycles (rounds + 1) := by
  rw [underway.calls, cycles_succ]
  exact ⟨[.wait], by simp⟩

/-- Once a round has had a deadline, the next one can be given its own. -/
theorem fits (underway : Underway evidence budget state rounds) (some_ : rounds ≠ 0) :
    state.start + state.watch.until_ ≤ evidence.latest := by
  rcases List.eq_nil_or_concat state.rounds with none_ | ⟨front, last, made⟩
  · rw [← underway.made, none_] at some_
    exact absurd rfl some_
  · rw [List.concat_eq_append] at made
    have bounded := (underway.kept front last [] made).1
    rw [underway.watch, made, ← bounded.deadline]
    exact bounded.fits

theorem honest_of_failed (underway : Underway evidence budget state rounds) (error : X) (world : W) :
    Honest budget
      { state with world, calls := state.calls ++ [.committed], ending := some (.returned (.error error)) } := by
  exact ⟨underway.kept.paced, nofun, nofun, nofun, ⟨_, underway.calls_read_prefix⟩, whole_of_returned nofun⟩

theorem honest_of_erred (underway : Underway evidence budget state rounds) (error : X) (world : W)
    {watch : Watch} {round : Round P X}
    (noted : watch = state.watch.record (round.read - state.start) round.committed)
    (bounded : round.Bounded evidence.latest state.start watch) (stayed : round.waited = false) :
    Honest budget
      { state with
        world, watch, rounds := state.rounds ++ [round], calls := state.calls ++ [.committed] ++ [.probe],
        ending := some (.returned (.error error)) } := by
  have kept := underway.kept.snoc (underway.watch_snoc noted) bounded (by simp [stayed])
  exact ⟨kept.paced, nofun, nofun, nofun, ⟨_, underway.calls_probed_prefix⟩, whole_of_returned nofun⟩

theorem honest_of_concluded (underway : Underway evidence budget state rounds) (world : W) {watch : Watch}
    {round : Round P X} {decision : Decision}
    (noted : watch = state.watch.record (round.read - state.start) round.committed)
    (bounded : round.Bounded evidence.latest state.start watch)
    (judged : round.Judged state.start watch decision) (ends : decision ≠ .wait) :
    Honest budget
      { state with
        world, watch, rounds := state.rounds ++ [round], calls := state.calls ++ [.committed] ++ [.probe],
        ending := decision.ending round.timely } := by
  have same := underway.watch_snoc noted
  have kept := underway.kept.snoc same bounded fun waits => by
    rw [judged.waited, beq_iff_eq] at waits
    exact absurd waits ends
  have since := committedAt_watched budget state.start (state.rounds ++ [round])
  rw [← same] at since
  have ordered := underway.calls_probed_prefix
  obtain ⟨now, reached, decided, decides⟩ := judged.decided
  cases decision with
  | wait => exact absurd rfl ends
  | current =>
      obtain ⟨proof, timely⟩ := Option.isSome_iff_exists.mp (Watch.decide_eq_current.mp decides)
      obtain ⟨answered, at_, checked, early⟩ := timely_eq_some timely
      rw [timely]
      refine ⟨kept.paced, ?_, nofun, nofun, ⟨_, ordered⟩, whole_of_returned fun _ _ => by simp⟩
      intro given ended
      cases ended
      exact ⟨_, round, at_, rfl, answered, checked, early⟩
  | committed =>
      obtain ⟨unproven, at_, noted⟩ := Watch.decide_eq_committed decides
      refine ⟨kept.paced, nofun, fun _ => ?_, nofun, ⟨_, ordered⟩, whole_of_returned fun _ _ => by simp⟩
      rw [noted] at since
      obtain ⟨first, found, -⟩ := Option.map_eq_some_iff.mp since.symm
      refine ⟨⟨first, List.mem_of_find?_eq_some found, by simpa using List.find?_some found⟩, ?_⟩
      exact ⟨_, round, rfl, by simpa using unproven⟩
  | notCommitted =>
      obtain ⟨never, expired⟩ := Watch.decide_eq_notCommitted decides
      refine ⟨kept.paced, nofun, nofun, fun _ => ?_, ⟨_, ordered⟩, whole_of_returned fun _ _ => by simp⟩
      rw [never] at since
      have none_ := List.find?_eq_none.mp (Option.map_eq_none_iff.mp since.symm)
      rw [same, watched_budget] at expired
      refine ⟨by simpa using none_, _, round, now, rfl, decided, ?_⟩
      exact (Nat.le_sub_iff_add_le' reached).mp expired

/-- The next round of a call uses up another pause of its budget, or it comes too late to wait. -/
theorem spent (underway : Underway evidence budget state rounds) (effect : Effect evidence state next)
    (running : next.ending = none) {pause : Duration}
    (waits : ∀ world limit, evidence.time world + pause ≤ evidence.time (evidence.wait world limit) ∨
      limit ≤ evidence.time (evidence.wait world limit))
    (spent : Spent evidence pause state rounds) :
    rounds * pause < budget.commit ∧ Spent evidence pause next (rounds + 1) := by
  unfold Spent at spent ⊢
  obtain ⟨world, watch, round, noted, bounded, judged, onward, decided, rfl⟩ := effect.of_running running
  obtain ⟨now, reached, found, waiting⟩ := judged.decided
  cases decided.symm.trans found
  have early := (Watch.decide_eq_wait.mp waiting).2
  have shrinks := Watch.until_record_le state.watch (round.read - state.start) round.committed
  have bound := Watch.until_le_commit watch
  rw [underway.watch_snoc noted, watched_budget, ← underway.watch_snoc noted] at bound
  rw [← noted] at shrinks
  -- The wait takes a pause or reaches the deadline, and no later deadline is further away.
  have waited := waits world round.deadline
  rw [bounded.deadline] at waited ⊢
  dsimp only [Instant, Duration] at *
  rw [Nat.succ_mul]
  omega

end Underway

section
variable (evidence : Evidence W P X) (budget : Budget) (world : W)

/-- A call whose first deadline fits never panics. -/
theorem await_not_panicked (fits : FirstDeadlineFits evidence budget world) {rounds : Nat} {committed : Bool}
    (underway : Underway evidence budget (awaitSelection evidence budget world rounds) rounds)
    (told : (evidence.committed (awaitSelection evidence budget world rounds).world).2 = .ok committed) :
    (awaitSelection evidence budget world rounds).start +
      ((awaitSelection evidence budget world rounds).noted evidence committed).until_ ≤ evidence.latest := by
  cases rounds with
  | zero => exact firstDeadlineFits_iff.mp fits committed told
  | succ rounds =>
      apply Nat.le_trans (Nat.add_le_add_left _ _) (underway.fits (Nat.succ_ne_zero rounds))
      exact Watch.until_record_le _ _ committed

theorem await_honest (fits : FirstDeadlineFits evidence budget world) (n : Nat) :
    Honest budget (awaitSelection evidence budget world n) := by
  rcases await_cases evidence budget world n with underway | ⟨m, underway, effect, finished⟩
  · exact underway.honest
  · generalize awaitSelection evidence budget world n = state at effect
    cases effect with
    | failed => exact underway.honest_of_failed _ _
    | panicked told past =>
        have within := await_not_panicked evidence budget world fits underway told
        exact absurd past (Nat.not_lt.mpr within)
    | erred _ _ noted bounded stayed _ => exact underway.honest_of_erred _ _ noted bounded stayed
    | concluded noted bounded judged ends => exact underway.honest_of_concluded _ noted bounded judged ends
    | waited noted bounded judged onward decided =>
        exact (underway.turn (.waited noted bounded judged onward decided) underway.running).honest

theorem await_underway {n : Nat} (running : (awaitSelection evidence budget world n).ending = none) :
    Underway evidence budget (awaitSelection evidence budget world n) n := by
  rcases await_cases evidence budget world n with underway | ⟨m, -, -, finished⟩
  · exact underway
  · exact absurd running finished

theorem await_running_before {n : Nat} (running : (awaitSelection evidence budget world (n + 1)).ending = none) :
    (awaitSelection evidence budget world n).ending = none := by
  by_contra finished
  obtain ⟨ending, finished⟩ := Option.ne_none_iff_exists'.mp finished
  rw [awaitSelection, State.turn, finished] at running
  exact absurd (finished.symm.trans running) (Option.some_ne_none ending)

theorem await_spent {pause : Duration}
    (waits : ∀ world limit, evidence.time world + pause ≤ evidence.time (evidence.wait world limit) ∨
      limit ≤ evidence.time (evidence.wait world limit)) (n : Nat)
    (running : (awaitSelection evidence budget world (n + 1)).ending = none) :
    n * pause < budget.commit ∧ Spent evidence pause (awaitSelection evidence budget world (n + 1)) (n + 1) := by
  induction n with
  | zero =>
      have underway := underway_enter evidence budget world
      have spent : Spent evidence pause (enter evidence budget world) 0 := .inl (by simp [enter])
      exact underway.spent (turn_effect evidence underway.running underway.late) running waits spent
  | succ n ih =>
      have before := await_running_before evidence budget world running
      have underway := await_underway evidence budget world before
      exact underway.spent (turn_effect evidence underway.running underway.late) running waits (ih before).2

theorem await_ends {pause : Duration} (positive : 0 < pause)
    (waits : ∀ world limit, evidence.time world + pause ≤ evidence.time (evidence.wait world limit) ∨
      limit ≤ evidence.time (evidence.wait world limit)) :
    (awaitSelection evidence budget world (budget.commit / pause + 2)).ending ≠ none := by
  intro running
  have spent := (await_spent evidence budget world waits (budget.commit / pause + 1) running).1
  have enough := Nat.lt_mul_div_succ budget.commit positive
  rw [Nat.mul_comm] at enough
  exact absurd spent (Nat.not_lt.mpr (Nat.le_of_lt enough))

/-- An observer claims only what its evidence shows, and its wait ends, exactly if its first deadline fits. -/
theorem await_honest_iff :
    ((∀ n, Honest budget (awaitSelection evidence budget world n)) ∧
      ∀ pause, 0 < pause →
        (∀ world limit, evidence.time world + pause ≤ evidence.time (evidence.wait world limit) ∨
          limit ≤ evidence.time (evidence.wait world limit)) →
        ∃ result, (awaitSelection evidence budget world (budget.commit / pause + 2)).ending =
          some (.returned result)) ↔
    FirstDeadlineFits evidence budget world := by
  constructor
  · rintro ⟨honest, -⟩
    refine firstDeadlineFits_iff.mpr fun committed told => ?_
    by_contra past
    have panics : (awaitSelection evidence budget world 1).ending = some .panicked :=
      turn_panicked evidence rfl told (Nat.lt_of_not_le past)
    rcases (honest 1).whole _ panics with ⟨_, returned⟩ | ⟨-, _, returned⟩
    · cases returned
    · cases returned
  · intro fits
    refine ⟨await_honest evidence budget world fits, ?_⟩
    intro pause positive waits
    obtain ⟨ending, finished⟩ := Option.ne_none_iff_exists'.mp (await_ends evidence budget world positive waits)
    rcases (await_honest evidence budget world fits _).whole ending finished with ⟨error, rfl⟩ | ⟨-, selection, rfl⟩
    · exact ⟨_, finished⟩
    · exact ⟨_, finished⟩

end

end

/-- Evidence of a candidate that is never selected, on a clock with the instants of a Unix system. -/
def unselected : Evidence Instant Unit Unit where
  time := id
  read := id
  read_onward _ := Nat.le_refl _
  latest := lastInstant
  committed world := (world, .ok false)
  probe world _ := (world, .ok none)
  wait world limit := max world limit
  committed_onward _ := Nat.le_refl _
  probe_onward _ _ := Nat.le_refl _
  wait_onward _ _ := Nat.le_max_left _ _

/-- A wait without a bound panics after its first record read, before any probe. -/
theorem unbounded_wait_panics :
    (awaitSelection unselected ⟨Duration.max, Duration.max⟩ 0 1).ending = some .panicked ∧
    (awaitSelection unselected ⟨Duration.max, Duration.max⟩ 0 1).rounds = [] ∧
    ¬ Honest ⟨Duration.max, Duration.max⟩ (awaitSelection unselected ⟨Duration.max, Duration.max⟩ 0 1) := by
  have panics : (awaitSelection unselected ⟨Duration.max, Duration.max⟩ 0 1).ending = some .panicked := rfl
  refine ⟨panics, rfl, ?_⟩
  intro honest
  rcases honest.whole _ panics with ⟨_, returned⟩ | ⟨-, _, returned⟩
  · cases returned
  · cases returned

end KunobiDaemon.Selection
