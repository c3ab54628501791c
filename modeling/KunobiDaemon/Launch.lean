import Mathlib.Algebra.Order.BigOperators.Group.List
import Mathlib.Algebra.Order.Group.Nat
import KunobiDaemon.Time

/-! Waiting until a daemon that was just spawned is live.

The world says how long each probe takes and what it finds, given every probe before it, and when
the daemon exits. The exit handle is exact, and nothing but probes and waits takes time.
-/

set_option autoImplicit false

namespace KunobiDaemon.Launch

/-- Gap between unsuccessful liveness probes. -/
def POLL : Duration := 25_000_000

/-- How `wait_until_live` ended. -/
inductive Startup where
  | live
  | exited
  | timedOut
  deriving DecidableEq, Repr

/-- A call of `is_live`. -/
structure Probe where
  started : Instant
  finished : Instant
  live : Bool
  deriving DecidableEq, Repr

structure World where
  probe : List Probe → Duration × Bool
  exit : Option Instant
  /-- The last representable instant: adding past it panics. -/
  latest : Instant

inductive Ending where
  | returned (startup : Startup)
  | panicked
  deriving DecidableEq, Repr

structure State where
  time : Instant
  /-- Every probe made so far, oldest first. -/
  probes : List Probe := []
  /-- When the exit was observed. -/
  observed : Option Instant := none
  ending : Option Ending := none
  deriving DecidableEq, Repr

section
variable (world : World) (deadline : Instant)

/-- The next probe after these, started at this time. -/
def World.next (probes : List Probe) (now : Instant) : Probe :=
  let (took, live) := world.probe probes
  ⟨now, now + took, live⟩

/-- When a wait for the exit returns, and whether the daemon has exited. -/
def World.exitsBy (now limit : Instant) : Instant × Bool :=
  match world.exit with
  | some exit => if exit ≤ max now limit then (max now exit, true) else (max now limit, false)
  | none => (max now limit, false)

def State.probe (state : State) : State :=
  let probe := world.next state.probes state.time
  { state with time := probe.finished, probes := state.probes ++ [probe] }

/-- After the exit was observed. -/
def State.lastProbe (state : State) : State :=
  let live := (world.next state.probes state.time).live
  { state.probe world with ending := some (.returned (if live then .live else .exited)) }

/-- One iteration of the loop. -/
def State.turn (state : State) : State :=
  match state.ending with
  | some _ => state
  | none =>
      let live := (world.next state.probes state.time).live
      let state := state.probe world
      let now := state.time
      if live then { state with ending := some (.returned .live) }
      else if now ≥ deadline then { state with ending := some (.returned .timedOut) }
      else if now + POLL > world.latest then { state with ending := some .panicked }
      else
        let (time, exited) := world.exitsBy now (min deadline (now + POLL))
        if exited then { state with time, observed := some time }.lastProbe world
        else { state with time }

/-- So many iterations of `wait_until_live`. -/
def waitUntilLive (start : Instant) : Nat → State
  | 0 => { time := start }
  | n + 1 => (waitUntilLive start n).turn world deadline

end

variable {world : World} {deadline start : Instant} {state : State}

/-- All that one iteration can do. -/
inductive Turn (world : World) (deadline : Instant) (state : State) : State → Prop where
  | live : (world.next state.probes state.time).live = true →
      Turn world deadline state { state.probe world with ending := some (.returned .live) }
  | timedOut : (world.next state.probes state.time).live = false → deadline ≤ (state.probe world).time →
      Turn world deadline state { state.probe world with ending := some (.returned .timedOut) }
  | panicked : (world.next state.probes state.time).live = false → (state.probe world).time < deadline →
      world.latest < (state.probe world).time + POLL →
      Turn world deadline state { state.probe world with ending := some .panicked }
  | exited {exit : Instant} : (world.next state.probes state.time).live = false →
      (state.probe world).time < deadline → world.exit = some exit → exit ≤ deadline →
      Turn world deadline state
        ({ state.probe world with
            time := max (state.probe world).time exit, observed := some (max (state.probe world).time exit) }.lastProbe
          world)
  | waited {time : Instant} : (world.next state.probes state.time).live = false →
      (state.probe world).time < time → time ≤ deadline → (∀ exit, world.exit = some exit → time < exit) →
      Turn world deadline state { state.probe world with time }

theorem turn_effect (running : state.ending = none) : Turn world deadline state (state.turn world deadline) := by
  unfold State.turn
  rw [running]
  dsimp only
  split
  · rename_i live
    exact .live live
  · rename_i dead
    rw [Bool.not_eq_true] at dead
    split
    · rename_i late
      exact .timedOut dead late
    · rename_i early
      have early := Nat.lt_of_not_le early
      split
      · rename_i beyond
        exact .panicked dead early beyond
      · -- The wait is shorter than the time that is left.
        have later : (state.probe world).time < min deadline ((state.probe world).time + POLL) :=
          Nat.lt_min.mpr ⟨early, Nat.lt_add_of_pos_right (by decide)⟩
        have limit := Nat.max_eq_right (Nat.le_of_lt later)
        unfold World.exitsBy
        rw [limit]
        cases exits : world.exit with
        | none => exact .waited dead later (Nat.min_le_left _ _) (by rw [exits]; nofun)
        | some exit =>
            dsimp only
            split
            · rename_i soon
              exact .exited dead early exits (Nat.le_trans soon (Nat.min_le_left _ _))
            · rename_i later_
              refine .waited dead later (Nat.min_le_left _ _) fun other same => ?_
              cases exits.symm.trans same
              exact Nat.lt_of_not_le later_

/-- A call that has made so many iterations and goes on. -/
structure Underway (world : World) (deadline start : Instant) (state : State) (made : Nat) : Prop where
  running : state.ending = none
  dead : ∀ probe ∈ state.probes, probe.live = false
  paced : start + made ≤ state.time
  /-- Only at its start can it be late, or the daemon have exited. -/
  waiting : (made = 0 ∧ state.time = start) ∨
    (state.time ≤ deadline ∧ ∀ exit, world.exit = some exit → state.time < exit)

theorem turn_ended (ended : state.ending ≠ none) : state.turn world deadline = state := by
  unfold State.turn
  cases ending : state.ending with
  | none => exact absurd ending ended
  | some _ => rfl

theorem dead_probe (dead : ∀ probe ∈ state.probes, probe.live = false)
    (next : (world.next state.probes state.time).live = false) :
    ∀ probe ∈ (state.probe world).probes, probe.live = false := by
  intro probe member
  rcases List.mem_append.mp member with earlier | last
  · exact dead probe earlier
  · rw [List.mem_singleton.mp last]
    exact next

/-- A call is under way, or ended in one of its iterations. -/
theorem wait_cases (world : World) (deadline start : Instant) (n : Nat) :
    Underway world deadline start (waitUntilLive world deadline start n) n ∨
    ∃ made, Underway world deadline start (waitUntilLive world deadline start made) made ∧
      Turn world deadline (waitUntilLive world deadline start made) (waitUntilLive world deadline start n) ∧
      (waitUntilLive world deadline start n).ending ≠ none := by
  induction n with
  | zero => exact .inl ⟨rfl, nofun, Nat.le_refl _, .inl ⟨rfl, rfl⟩⟩
  | succ n ih =>
      rw [waitUntilLive]
      rcases ih with underway | ⟨made, underway, effect, ended⟩
      · have effect : Turn world deadline _ ((waitUntilLive world deadline start n).turn world deadline) :=
          turn_effect underway.running
        generalize turned : (waitUntilLive world deadline start n).turn world deadline = next at effect
        cases effect with
        | waited dead later within running =>
            refine .inl ⟨underway.running, dead_probe underway.dead dead, ?_, .inr ⟨within, running⟩⟩
            have paced := underway.paced
            have onward : (waitUntilLive world deadline start n).time ≤
                ((waitUntilLive world deadline start n).probe world).time := Nat.le_add_right _ _
            dsimp only [Instant] at *
            omega
        | live dead => exact .inr ⟨n, underway, .live dead, nofun⟩
        | timedOut dead late => exact .inr ⟨n, underway, .timedOut dead late, nofun⟩
        | panicked dead early beyond => exact .inr ⟨n, underway, .panicked dead early beyond, nofun⟩
        | exited dead early exits soon => exact .inr ⟨n, underway, .exited dead early exits soon, nofun⟩
      · rw [turn_ended ended]
        exact .inr ⟨made, underway, effect, ended⟩

/-- What the outcome of a call says is so. -/
structure Truthful (world : World) (deadline : Instant) (state : State) : Prop where
  live : state.ending = some (.returned .live) → ∃ probe ∈ state.probes, probe.live = true
  exited : state.ending = some (.returned .exited) →
    ∃ exit seen, world.exit = some exit ∧ state.observed = some seen ∧ exit ≤ seen ∧
      ∃ probe ∈ state.probes, seen ≤ probe.started ∧ probe.live = false
  timedOut : state.ending = some (.returned .timedOut) →
    deadline ≤ state.time ∧ (∀ probe ∈ state.probes, probe.live = false) ∧
      ∀ exit, world.exit = some exit → deadline ≤ exit

/-- A call is over one probe after the deadline and two probes after the exit. -/
structure Timely (world : World) (deadline start : Instant) (longest : Duration) (state : State) : Prop where
  deadline : state.time ≤ max start deadline + longest
  exit : ∀ exit, world.exit = some exit → state.time ≤ max start exit + 2 * longest

structure Honest (world : World) (deadline start : Instant) : Prop where
  truthful : ∀ n, Truthful world deadline (waitUntilLive world deadline start n)
  returns : ∀ longest,
    (∀ n, ∀ probe ∈ (waitUntilLive world deadline start n).probes, probe.finished - probe.started ≤ longest) →
    ∃ n startup, (waitUntilLive world deadline start n).ending = some (.returned startup) ∧
      Timely world deadline start longest (waitUntilLive world deadline start n)

/-- The next probe, if it fails, is over before the deadline and before the last instants of the clock, or the
daemon did not exit before the deadline. -/
structure Sheltered (world : World) (deadline : Instant) (state : State) : Prop where
  outlasts : state.ending = none → (world.next state.probes state.time).live = false →
    deadline ≤ (world.next state.probes state.time).finished → ∀ exit, world.exit = some exit → deadline ≤ exit
  fits : state.ending = none → (world.next state.probes state.time).live = false →
    (world.next state.probes state.time).finished < deadline →
    (world.next state.probes state.time).finished + POLL ≤ world.latest

theorem truthful_turn {made : Nat} {next : State} (underway : Underway world deadline start state made)
    (sheltered : Sheltered world deadline state) (effect : Turn world deadline state next) :
    Truthful world deadline next := by
  have last : world.next state.probes state.time ∈ (state.probe world).probes :=
    List.mem_append_right _ List.mem_cons_self
  cases effect with
  | live live => exact ⟨fun _ => ⟨_, last, live⟩, nofun, nofun⟩
  | timedOut dead late =>
      refine ⟨nofun, nofun, fun _ => ⟨late, dead_probe underway.dead dead, ?_⟩⟩
      exact sheltered.outlasts underway.running dead late
  | panicked => exact ⟨nofun, nofun, nofun⟩
  | waited =>
      have running : (state.probe world).ending = none := underway.running
      refine ⟨fun ended => ?_, fun ended => ?_, fun ended => ?_⟩
      all_goals cases running.symm.trans ended
  | @exited exit dead early exits soon =>
      let observed : State := { state.probe world with
        time := max (state.probe world).time exit, observed := some (max (state.probe world).time exit) }
      have again : world.next observed.probes observed.time ∈ (observed.lastProbe world).probes :=
        List.mem_append_right _ List.mem_cons_self
      cases live : (world.next observed.probes observed.time).live with
      | true =>
          have returns : (observed.lastProbe world).ending = some (.returned .live) := by
            simp only [State.lastProbe, live, if_true]
          refine ⟨fun _ => ⟨_, again, live⟩, fun ended => ?_, fun ended => ?_⟩
          all_goals cases returns.symm.trans ended
      | false =>
          have returns : (observed.lastProbe world).ending = some (.returned .exited) := by
            simp only [State.lastProbe, live, Bool.false_eq_true, if_false]
          refine ⟨fun ended => ?_, fun _ => ?_, fun ended => ?_⟩
          · cases returns.symm.trans ended
          · exact ⟨exit, _, exits, rfl, Nat.le_max_right _ _, _, again, Nat.le_refl _, live⟩
          · cases returns.symm.trans ended

section
variable {longest : Duration}

theorem probe_time (brief : ∀ probe ∈ (state.probe world).probes, probe.finished - probe.started ≤ longest) :
    (state.probe world).time ≤ state.time + longest := by
  have brief := brief (world.next state.probes state.time) (List.mem_append_right _ List.mem_cons_self)
  exact Nat.sub_le_iff_le_add'.mp brief

/-- At most one probe ends after the deadline, and two after the exit. -/
theorem returns_timely {made : Nat} {next : State} (underway : Underway world deadline start state made)
    (sheltered : Sheltered world deadline state) (effect : Turn world deadline state next)
    (ended : next.ending ≠ none) (brief : ∀ probe ∈ next.probes, probe.finished - probe.started ≤ longest) :
    ∃ startup, next.ending = some (.returned startup) ∧ Timely world deadline start longest next := by
  have late : state.time ≤ max start deadline ∧ ∀ exit, world.exit = some exit → state.time ≤ max start exit := by
    rcases underway.waiting with ⟨-, same⟩ | ⟨within, running⟩
    · rw [same]
      exact ⟨Nat.le_max_left _ _, fun exit _ => Nat.le_max_left _ _⟩
    · exact ⟨Nat.le_trans within (Nat.le_max_right _ _),
        fun exit exits => Nat.le_trans (Nat.le_of_lt (running exit exits)) (Nat.le_max_right _ _)⟩
  have once (time : (state.probe world).time ≤ state.time + longest) :
      (state.probe world).time ≤ max start deadline + longest ∧
        ∀ exit, world.exit = some exit → (state.probe world).time ≤ max start exit + 2 * longest := by
    refine ⟨Nat.le_trans time (Nat.add_le_add_right late.1 _), fun exit exits => ?_⟩
    have late := late.2 exit exits
    dsimp only [Instant, Duration] at *
    omega
  cases effect with
  | live live => exact ⟨_, rfl, (once (probe_time brief)).1, (once (probe_time brief)).2⟩
  | timedOut dead past => exact ⟨_, rfl, (once (probe_time brief)).1, (once (probe_time brief)).2⟩
  | panicked dead early beyond =>
      exact absurd (sheltered.fits underway.running dead early) (Nat.not_le_of_lt beyond)
  | waited => exact absurd underway.running ended
  | @exited exit dead early exits soon =>
      -- The last probe starts at the exit, or when the probe it fell into ended.
      have first : (state.probe world).time ≤ state.time + longest :=
        probe_time fun probe member => brief probe (List.mem_append_left _ member)
      have last : (State.lastProbe world _).time ≤ _ + longest := probe_time brief
      have late := late.2 exit exits
      refine ⟨_, rfl, Nat.le_trans last ?_, fun other same => Nat.le_trans last ?_⟩
      · dsimp only [Instant, Duration] at *
        omega
      · cases exits.symm.trans same
        dsimp only [Instant, Duration] at *
        omega

end

theorem probes_mono {m n : Nat} (le : m ≤ n) :
    (waitUntilLive world deadline start m).probes ⊆ (waitUntilLive world deadline start n).probes := by
  induction le with
  | refl => exact fun _ member => member
  | @step n _ ih =>
      refine fun _ member => ?_
      have member := ih member
      rw [waitUntilLive]
      cases running : (waitUntilLive world deadline start n).ending with
      | some _ =>
          rw [turn_ended (by rw [running]; nofun)]
          exact member
      | none =>
          have effect : Turn world deadline _ ((waitUntilLive world deadline start n).turn world deadline) :=
            turn_effect running
          generalize (waitUntilLive world deadline start n).turn world deadline = next at effect
          cases effect with
          | exited => exact List.mem_append_left _ (List.mem_append_left _ member)
          | _ => exact List.mem_append_left _ member

theorem ended_stays {m n : Nat} (ended : (waitUntilLive world deadline start m).ending ≠ none) (le : m ≤ n) :
    waitUntilLive world deadline start n = waitUntilLive world deadline start m := by
  induction le with
  | refl => rfl
  | step _ ih =>
      rw [waitUntilLive, ih]
      exact turn_ended ended

/-- An iteration past the time to the deadline was the last one, at the latest. -/
theorem wait_ends (world : World) (deadline start : Instant) :
    (waitUntilLive world deadline start (deadline - start + 1)).ending ≠ none := by
  rcases wait_cases world deadline start (deadline - start + 1) with underway | ⟨_, _, _, ended⟩
  · have paced := underway.paced
    rcases underway.waiting with ⟨none, -⟩ | ⟨within, -⟩
    · cases none
    · dsimp only [Instant] at *
      omega
  · exact ended

/-- No call panics if every call returns. -/
theorem Honest.never_panics (honest : Honest world deadline start) (n : Nat) :
    (waitUntilLive world deadline start n).ending ≠ some .panicked := by
  intro panicked
  have ended : (waitUntilLive world deadline start n).ending ≠ none := by
    rw [panicked]
    nofun
  let took (probe : Probe) : Duration := probe.finished - probe.started
  obtain ⟨m, startup, returns, -⟩ := honest.returns
    (((waitUntilLive world deadline start n).probes.map took).sum) fun m probe member => by
      have member : probe ∈ (waitUntilLive world deadline start n).probes := by
        rcases Nat.le_total m n with before | after
        · exact probes_mono before member
        · rw [ended_stays ended after] at member
          exact member
      exact List.le_sum_of_mem (List.mem_map_of_mem member)
  have ended' : (waitUntilLive world deadline start m).ending ≠ none := by
    rw [returns]
    nofun
  have same : waitUntilLive world deadline start m = waitUntilLive world deadline start n := by
    rcases Nat.le_total m n with before | after
    · exact (ended_stays ended' before).symm
    · exact ended_stays ended after
  rw [same, panicked] at returns
  cases returns

theorem turn_timedOut (running : state.ending = none) (dead : (world.next state.probes state.time).live = false)
    (late : deadline ≤ (state.probe world).time) :
    (state.turn world deadline).ending = some (.returned .timedOut) := by
  rw [State.turn, running]
  simp only [dead, Bool.false_eq_true, if_false]
  rw [if_pos late]

theorem turn_panicked (running : state.ending = none) (dead : (world.next state.probes state.time).live = false)
    (early : (state.probe world).time < deadline) (beyond : world.latest < (state.probe world).time + POLL) :
    (state.turn world deadline).ending = some .panicked := by
  rw [State.turn, running]
  simp only [dead, Bool.false_eq_true, if_false]
  rw [if_neg (Nat.not_le_of_lt early), if_pos beyond]

theorem wait_until_live_is_honest (world : World) (deadline start : Instant) :
    Honest world deadline start ↔ ∀ n, Sheltered world deadline (waitUntilLive world deadline start n) := by
  constructor
  · intro honest n
    refine ⟨fun running dead late => ?_, fun running dead early => ?_⟩
    · exact ((honest.truthful (n + 1)).timedOut (turn_timedOut running dead late)).2.2
    · by_contra beyond
      exact honest.never_panics (n + 1) (turn_panicked running dead early (Nat.lt_of_not_le beyond))
  · intro sheltered
    refine ⟨fun n => ?_, fun longest brief => ?_⟩
    · rcases wait_cases world deadline start n with underway | ⟨made, underway, effect, -⟩
      · have running := underway.running
        refine ⟨fun ended => ?_, fun ended => ?_, fun ended => ?_⟩
        all_goals cases running.symm.trans ended
      · exact truthful_turn underway (sheltered made) effect
    · have ended := wait_ends world deadline start
      rcases wait_cases world deadline start (deadline - start + 1) with underway | ⟨made, underway, effect, -⟩
      · exact absurd underway.running ended
      · obtain ⟨startup, returns⟩ := returns_timely underway (sheltered made) effect ended (brief _)
        exact ⟨_, startup, returns⟩

/-- Every probe takes 120 and finds nothing, and the daemon exits at 60. -/
def slowProbe : World where
  probe _ := (120, false)
  exit := some 60
  latest := lastInstant

/-- The daemon exited before the deadline, during the only probe. -/
theorem exit_during_probe_times_out :
    (waitUntilLive slowProbe 100 0 1).ending = some (.returned .timedOut) ∧ slowProbe.exit = some 60 ∧
      ¬ Honest slowProbe 100 0 := by
  have timedOut : (waitUntilLive slowProbe 100 0 1).ending = some (.returned .timedOut) := by decide
  refine ⟨timedOut, rfl, fun honest => ?_⟩
  have exits := ((honest.truthful 1).timedOut timedOut).2.2 60 rfl
  revert exits
  decide

end KunobiDaemon.Launch
