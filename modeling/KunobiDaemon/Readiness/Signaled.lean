import KunobiDaemon.Readiness.Listening
import KunobiDaemon.Selection.Honesty
import Mathlib.Data.Nat.Find

/-! Selection evidence woken by a daemon's readiness channel.

The evidence that is wrapped, the daemon's events and the clock are one world, so events come at
any point of a round. A wait in such a world is a run of the observer among the steps of others
(`wait_hosted`).
-/

set_option autoImplicit false

namespace KunobiDaemon.Readiness

open Selection (Evidence Budget Selection awaitSelection Effect)

/-- Why a signaled wait failed. -/
inductive SignaledError (X : Type) where
  | evidence (error : X)
  | notReady (reason : NotReady)
  deriving DecidableEq, Repr

/-- Evidence in a world in which a daemon with a channel has been started. -/
structure Launch (W P X : Type) extends Evidence W P X where
  opened : Instant
  /-- What the reading thread has posted so far. -/
  posts : W → List Post
  /-- Taking the channel's lock. -/
  lock : W → W
  /-- `Condvar::wait_timeout` -/
  sleep : W → Duration → W
  lock_onward : ∀ world, time world ≤ time (lock world)
  sleep_onward : ∀ world remaining, time world ≤ time (sleep world remaining)

namespace Launch

variable {W P X : Type} (launch : Launch W P X)

def inner (world : W) : Inner := .after (launch.posts world)

/-- `Channel::failure`, and the world it leaves. -/
def failure (silence : Duration) (world : W) : W × Option NotReady :=
  let world := launch.read world
  let now := launch.time world - launch.opened
  let world := launch.lock world
  (world, (launch.inner world).failure now silence)

/-- One iteration of `Channel::wait_for_news`: over in a world, or to be tried again in one. -/
def listen (silence : Duration) (since : Nat) (until_ : Instant) (world : W) : W ⊕ W :=
  let world := launch.read world
  match (launch.inner world).quietFor since (launch.time world - launch.opened) silence with
  | none => .inl world
  | some quiet =>
      let world := launch.read world
      let remaining := min quiet (until_ - launch.time world)
      if remaining = 0 then .inl world else .inr (launch.sleep world remaining)

/-- `Channel::wait_for_news`, if it is over within so many iterations. -/
def waitForNews (silence : Duration) (since : Nat) (until_ : Instant) : Nat → W → Option W
  | 0, _ => none
  | iterations + 1, world =>
      match launch.listen silence since until_ world with
      | .inl world => some world
      | .inr world => waitForNews silence since until_ iterations world

/-- Every wait for news is over at some time. -/
def Wakes (silence : Duration) : Prop :=
  ∀ since until_ world, ∃ iterations, (launch.waitForNews silence since until_ iterations world).isSome = true

theorem listen_onward {silence : Duration} {since : Nat} {until_ : Instant} {world next : W}
    (listened : launch.listen silence since until_ world = .inl next ∨
      launch.listen silence since until_ world = .inr next) : launch.time world ≤ launch.time next := by
  have first := launch.read_onward world
  have second := Nat.le_trans first (launch.read_onward _)
  unfold listen at listened
  dsimp only at listened
  split at listened
  · rcases listened with finished | again
    · cases finished
      exact first
    · cases again
  · split at listened
    · rcases listened with finished | again
      · cases finished
        exact second
      · cases again
    · rcases listened with finished | again
      · cases finished
      · cases again
        exact Nat.le_trans second (launch.sleep_onward _ _)

theorem waitForNews_onward {silence : Duration} {since : Nat} {until_ : Instant} {iterations : Nat} {world next : W}
    (woken : launch.waitForNews silence since until_ iterations world = some next) :
    launch.time world ≤ launch.time next := by
  induction iterations generalizing world with
  | zero => cases woken
  | succ iterations ih =>
      rw [waitForNews] at woken
      cases listened : launch.listen silence since until_ world with
      | inl finished =>
          rw [listened] at woken
          cases woken
          exact launch.listen_onward (.inl listened)
      | inr again =>
          rw [listened] at woken
          exact Nat.le_trans (launch.listen_onward (.inr listened)) (ih woken)

end Launch

/-- The world of signaled evidence, with the channel's version when the current round began. -/
structure Rounds (W : Type) where
  world : W
  seen : Nat

namespace Signaled

variable {W P X : Type} (launch : Launch W P X) (silence : Duration)

def committed (rounds : Rounds W) : Rounds W × Except (SignaledError X) Bool :=
  let (world, answer) := launch.committed rounds.world
  ({ rounds with world }, answer.mapError .evidence)

def probe (rounds : Rounds W) (deadline : Instant) : Rounds W × Except (SignaledError X) (Option P) :=
  -- News from here on wakes the wait after this round.
  let world := launch.lock rounds.world
  let seen := (launch.inner world).version
  let (world, answer) := launch.probe world deadline
  match answer with
  | .error error => (⟨world, seen⟩, .error (.evidence error))
  | .ok (some proof) => (⟨world, seen⟩, .ok (some proof))
  | .ok none =>
      let (world, failure) := launch.failure silence world
      match failure with
      | some reason => (⟨world, seen⟩, .error (.notReady reason))
      | none => (⟨world, seen⟩, .ok none)

def wait (wakes : launch.Wakes silence) (rounds : Rounds W) (until_ : Instant) : Rounds W :=
  let world := launch.lock rounds.world
  if (launch.inner world).version ≠ rounds.seen then { rounds with world }
  else
    let world := launch.lock world
    if (launch.inner world).isReady then { rounds with world := launch.wait world until_ }
    else
      let woken := wakes rounds.seen until_ (launch.lock world)
      { rounds with
        world := (launch.waitForNews silence rounds.seen until_ (Nat.find woken) (launch.lock world)).get
          (Nat.find_spec woken) }

theorem probe_onward (rounds : Rounds W) (deadline : Instant) :
    launch.time rounds.world ≤ launch.time (probe launch silence rounds deadline).1.world := by
  have locked := launch.lock_onward rounds.world
  have probed := Nat.le_trans locked (launch.probe_onward _ deadline)
  rcases asked : launch.probe (launch.lock rounds.world) deadline with ⟨world, error | _ | proof⟩
  · simpa [probe, asked] using probed
  · rw [asked] at probed
    have judged : launch.time world ≤ launch.time (launch.failure silence world).1 :=
      Nat.le_trans (launch.read_onward _) (launch.lock_onward _)
    rcases failed : launch.failure silence world with ⟨after, none | reason⟩
    · simpa [probe, asked, failed] using Nat.le_trans probed judged
    · simpa [probe, asked, failed] using Nat.le_trans probed judged
  · simpa [probe, asked] using probed

theorem wait_onward (wakes : launch.Wakes silence) (rounds : Rounds W) (until_ : Instant) :
    launch.time rounds.world ≤ launch.time (wait launch silence wakes rounds until_).world := by
  have locked := launch.lock_onward rounds.world
  have twice := Nat.le_trans locked (launch.lock_onward _)
  unfold wait
  dsimp only
  split
  · exact locked
  · split
    · exact Nat.le_trans twice (launch.wait_onward _ _)
    · apply Nat.le_trans (Nat.le_trans twice (launch.lock_onward _))
      exact launch.waitForNews_onward (Option.some_get _).symm

/-- `Signaled`, as the evidence that `await_selection` asks. -/
def evidence (wakes : launch.Wakes silence) : Evidence (Rounds W) P (SignaledError X) where
  time rounds := launch.time rounds.world
  read rounds := { rounds with world := launch.read rounds.world }
  read_onward rounds := launch.read_onward rounds.world
  latest := launch.latest
  committed := committed launch
  probe := probe launch silence
  wait := wait launch silence wakes
  committed_onward rounds := launch.committed_onward rounds.world
  probe_onward := probe_onward launch silence
  wait_onward := wait_onward launch silence wakes

theorem committed_not_notReady (rounds : Rounds W) (reason : NotReady) :
    (committed launch rounds).2 ≠ .error (.notReady reason) := by
  unfold committed
  dsimp only
  cases (launch.committed rounds.world).2 <;> simp [Except.mapError]

theorem committed_eq_ok {rounds : Rounds W} {answer : Bool} :
    (committed launch rounds).2 = .ok answer ↔ (launch.committed rounds.world).2 = .ok answer := by
  unfold committed
  dsimp only
  cases (launch.committed rounds.world).2 <;> simp [Except.mapError]

/-- A probe says that the daemon is not ready only if it proves nothing and the channel has failed by then. -/
theorem probe_eq_notReady {rounds : Rounds W} {deadline : Instant} {reason : NotReady} :
    (probe launch silence rounds deadline).2 = .error (.notReady reason) ↔
      (launch.probe (launch.lock rounds.world) deadline).2 = .ok none ∧
      (launch.failure silence (launch.probe (launch.lock rounds.world) deadline).1).2 = some reason := by
  rcases asked : launch.probe (launch.lock rounds.world) deadline with ⟨world, error | _ | proof⟩
  · simp [probe, asked]
  · rcases failed : launch.failure silence world with ⟨after, none | reason⟩
    · simp [probe, asked, failed]
    · simp [probe, asked, failed]
  · simp [probe, asked]

end Signaled

/-! ## Among the steps of others -/

namespace Listening

open Lib.Systems

/-- What others do while the observer does not move. -/
def Others (_ : System) : Label → Prop
  | .tick _ | .post _ _ | .record | .notifyAll | .notifyOne => True
  | _ => False

theorem place_of_others {system next : System} (path : Path System.step Others system next) :
    next.place = system.place ∨ ∃ nap, system.place = .parked nap ∧ next.place = .listening nap.round := by
  refine path.invariant (I := fun next => next.place = system.place ∨
    ∃ nap, system.place = .parked nap ∧ next.place = .listening nap.round) ?_ (.inl rfl)
  intro s label t known other stepped
  have moved : t.place = s.place ∨ t.place = s.place.notified := by
    cases label with
    | tick | post =>
        simp only [System.step] at stepped
        split at stepped <;> cases stepped
        exact .inl rfl
    | record =>
        simp only [System.step] at stepped
        split at stepped
        · split at stepped <;> cases stepped
          exact .inl rfl
        · cases stepped
    | notifyAll =>
        simp only [System.step] at stepped
        split at stepped <;> cases stepped
        exact .inr rfl
    | notifyOne =>
        simp only [System.step] at stepped
        split at stepped <;> cases stepped
        exact .inl rfl
    | _ => exact other.elim
  rcases moved with same | woken
  · rw [same]
    exact known
  · rcases known with same | ⟨nap, parked, listening⟩
    · rw [woken, same]
      cases system.place with
      | parked nap => exact .inr ⟨nap, rfl, rfl⟩
      | _ => exact .inl rfl
    · rw [woken, listening]
      exact .inr ⟨nap, parked, rfl⟩

variable {W P X : Type} (launch : Launch W P X) (silence : Duration)

/-- An operation of the launch during which others may do anything. -/
inductive Meanwhile (world : W) : W → Prop where
  | lock : Meanwhile world (launch.lock world)
  | sleep (remaining : Duration) : Meanwhile world (launch.sleep world remaining)
  | wait (until_ : Instant) : Meanwhile world (launch.wait world until_)

/-- A state of the system for each world of the launch. Where the observer stands is its own affair, and
reading the clock takes time and nothing else. -/
structure Hosts (shows : W → System → Prop) : Prop where
  inner : ∀ {world system}, shows world system → system.inner = launch.inner world
  time : ∀ {world system}, shows world system → system.time = launch.time world
  opened : ∀ {world system}, shows world system → system.opened = launch.opened
  silence : ∀ {world system}, shows world system → system.silence = silence
  mode : ∀ {world system}, shows world system → system.mode = .blocking
  stands : ∀ {world system} place, shows world system → shows world { system with place }
  read : ∀ {world system}, shows world system → launch.time (launch.read world) ≤ lastInstant ∧
    shows (launch.read world) { system with time := launch.time (launch.read world) }
  others : ∀ {world next system}, shows world system → system.place.holds .blocking = false →
    Meanwhile launch world next → ∃ later, Path System.step Others system later ∧ shows next later

variable {launch silence} {shows : W → System → Prop} {world : W} {system : System}

/-- The wait is over in a state for the world. -/
def Ends (shows : W → System → Prop) (world : W) (system : System) : Prop :=
  ∃ next, Path System.step Any system next ∧ next.place = .reading ∧ shows world next

theorem Ends.later {next : System} (path : Path System.step Any system next) (ends : Ends shows world next) :
    Ends shows world system := by
  obtain ⟨last, rest, here, shown⟩ := ends
  exact ⟨last, path.trans rest, here, shown⟩

theorem Ends.own {next : System} (label : Label) (stepped : system.step label = some next)
    (ends : Ends shows world next) : Ends shows world system :=
  ends.later (.single ⟨label, trivial, stepped⟩)

section
variable (hosts : Hosts launch silence shows)
include hosts

/-- The observer is where it was, unless it was parked and has been woken. -/
theorem Hosts.meanwhile {next : W} (shown : shows world system) (free : system.place.holds .blocking = false)
    (operation : Meanwhile launch world next) :
    ∃ later, Path System.step Any system later ∧ shows next later ∧
      (later.place = system.place ∨ ∃ nap, system.place = .parked nap ∧ later.place = .listening nap.round) := by
  obtain ⟨later, path, shown⟩ := hosts.others shown free operation
  have anyhow : Path System.step Any system later :=
    path.lift id fun _ _ ⟨label, _, stepped⟩ => ⟨label, trivial, stepped⟩
  exact ⟨later, anyhow, shown, place_of_others path⟩

theorem Hosts.stays {next : W} {place : Place} (shown : shows world system) (here : system.place = place)
    (free : place.holds .blocking = false) (awake : ∀ nap, place ≠ .parked nap) (operation : Meanwhile launch world next) :
    ∃ later, Path System.step Any system later ∧ shows next later ∧ later.place = place := by
  obtain ⟨later, path, shown, still | ⟨nap, parked, -⟩⟩ := hosts.meanwhile shown (here ▸ free) operation
  · exact ⟨later, path, shown, still.trans here⟩
  · exact absurd (here.symm.trans parked) (awake nap)

theorem Hosts.reads (shown : shows world system) :
    ∃ next, Path System.step Any system next ∧ shows (launch.read world) next ∧ next.place = system.place := by
  obtain ⟨representable, read⟩ := hosts.read shown
  have onward : system.time ≤ launch.time (launch.read world) := hosts.time shown ▸ launch.read_onward world
  exact ⟨_, .single ⟨.tick _, trivial, if_pos ⟨onward, representable⟩⟩, read, rfl⟩

theorem Hosts.goes (shown : shows world system) (label : Label) (place : Place)
    (stepped : system.step label = some { system with place }) :
    ∃ next, Path System.step Any system next ∧ shows world next ∧ next.place = place :=
  ⟨_, .single ⟨label, trivial, stepped⟩, hosts.stands place shown, rfl⟩

theorem Hosts.ends (shown : shows world system) (label : Label)
    (stepped : system.step label = some { system with place := .reading }) : Ends shows world system := by
  obtain ⟨next, path, shown, here⟩ := hosts.goes shown label .reading stepped
  exact ⟨next, path, here, shown⟩

/-- The observer takes the lock and reads the clock; all the while nothing is recorded. -/
theorem timed_hosted {round : Round} (shown : shows world system) (here : system.place = .listening round) :
    ∃ next, Path System.step Any system next ∧ shows (launch.read world) next ∧
      next.place = .timed round (launch.time (launch.read world) - launch.opened) := by
  obtain ⟨locked, locks, shown, here⟩ := hosts.goes shown .lock (.locked round) (by
    simp only [System.step, here, hosts.mode shown])
  obtain ⟨later, reads, shown, same⟩ := hosts.reads shown
  have elapsed : later.elapsed = launch.time (launch.read world) - launch.opened := by
    rw [System.elapsed, hosts.time shown, hosts.opened shown]
  obtain ⟨timed, asks, shown, here⟩ := hosts.goes shown .elapsed (.timed round later.elapsed) (by
    simp only [System.step, same.trans here])
  exact ⟨timed, (locks.trans reads).trans asks, shown, elapsed ▸ here⟩

/-- One iteration of `wait_for_news`. -/
theorem listen_hosted {round : Round} (shown : shows world system) (here : system.place = .listening round) :
    match launch.listen silence round.seen round.deadline world with
    | .inl ended => Ends shows ended system
    | .inr again => ∃ next, Path System.step Any system next ∧ shows again next ∧ next.place = .listening round := by
  obtain ⟨timed, path, shown, here⟩ := timed_hosted hosts shown here
  unfold Launch.listen
  dsimp only
  rw [← hosts.inner shown]
  cases asked : timed.inner.quietFor round.seen (launch.time (launch.read world) - launch.opened) silence with
  | none =>
      refine .later path (hosts.ends shown .quietFor ?_)
      simp only [System.step, here, hosts.silence shown, asked]
  | some quiet =>
      obtain ⟨hushed, hushes, shown, here⟩ := hosts.goes shown .quietFor (.quiet round quiet) (by
        simp only [System.step, here, hosts.silence shown, asked])
      obtain ⟨later, reads, shown, same⟩ := hosts.reads shown
      have arrives := (path.trans hushes).trans reads
      have here := same.trans here
      dsimp only
      by_cases passed : min quiet (round.deadline - launch.time (launch.read (launch.read world))) = 0
      · rw [if_pos passed]
        refine .later arrives (hosts.ends shown .remaining ?_)
        simp only [System.step, here, hosts.time shown, if_pos passed]
      · rw [if_neg passed]
        obtain ⟨parked, parks, shown, here⟩ := hosts.goes shown .remaining (.parked ⟨round, later.time,
          min quiet (round.deadline - launch.time (launch.read (launch.read world)))⟩) (by
            simp only [System.step, here, hosts.time shown, if_neg passed, hosts.mode shown])
        obtain ⟨woken, sleeps, shown, stays⟩ := hosts.meanwhile shown (by rw [here]; rfl) (.sleep _)
        have slept := (arrives.trans parks).trans sleeps
        rcases stays with still | ⟨nap, parked, listening⟩
        · -- Nobody has woken it, so its timer ends or the condition variable wakes it for no reason.
          obtain ⟨next, wakes, shown, here⟩ := hosts.goes shown .spurious (.listening round) (by
            simp only [System.step, still.trans here])
          exact ⟨next, slept.trans wakes, shown, here⟩
        · cases here.symm.trans parked
          exact ⟨woken, slept, shown, listening⟩

theorem news_hosted {round : Round} {iterations : Nat} {ended : W} (shown : shows world system)
    (here : system.place = .listening round)
    (woken : launch.waitForNews silence round.seen round.deadline iterations world = some ended) :
    Ends shows ended system := by
  induction iterations generalizing world system with
  | zero => cases woken
  | succ iterations ih =>
      have listened := listen_hosted hosts shown here
      rw [Launch.waitForNews] at woken
      cases told : launch.listen silence round.seen round.deadline world with
      | inl over_ =>
          rw [told] at listened woken
          cases woken
          exact listened
      | inr again =>
          rw [told] at listened woken
          obtain ⟨next, path, shown, here⟩ := listened
          exact .later path (ih shown here woken)

/-- A wait of `Signaled` is a run of the observer, from its first question to the next round. -/
theorem wait_hosted (wakes : launch.Wakes silence) {rounds : Rounds W} {until_ : Instant}
    (shown : shows rounds.world system) (here : system.place = .comparing ⟨rounds.seen, until_⟩) :
    Ends shows (Signaled.wait launch silence wakes rounds until_).world system := by
  unfold Signaled.wait
  dsimp only
  obtain ⟨asking, locks, shown, here⟩ := hosts.stays shown here rfl nofun .lock
  refine .later locks ?_
  rw [← hosts.inner shown]
  by_cases fresh : asking.inner.version ≠ rounds.seen
  · rw [if_pos fresh]
    refine hosts.ends shown .compare ?_
    simp only [System.step, here, if_pos fresh]
  · rw [if_neg fresh]
    obtain ⟨compared, compares, shown, here⟩ := hosts.goes shown .compare (.compared ⟨rounds.seen, until_⟩) (by
      simp only [System.step, here, if_neg fresh])
    obtain ⟨judging, relocks, shown, here⟩ := hosts.stays shown here rfl nofun .lock
    refine .later (compares.trans relocks) ?_
    rw [← hosts.inner shown]
    by_cases ready : judging.inner.isReady = true
    · rw [if_pos ready]
      obtain ⟨pacing, paces, shown, here⟩ := hosts.goes shown .isReady (.pacing ⟨rounds.seen, until_⟩) (by
        simp only [System.step, here, if_pos ready])
      obtain ⟨paced, waits, shown, here⟩ := hosts.stays shown here rfl nofun (.wait until_)
      refine .later (paces.trans waits) (hosts.ends shown .paced ?_)
      simp only [System.step, here]
    · rw [if_neg ready]
      obtain ⟨listening, listens, shown, here⟩ := hosts.goes shown .isReady (.listening ⟨rounds.seen, until_⟩) (by
        simp only [System.step, here, if_neg ready])
      obtain ⟨free, relocks, shown, here⟩ := hosts.stays shown here rfl nofun .lock
      exact .later (listens.trans relocks) (news_hosted hosts shown here (Option.some_get _).symm)

end

/-- A daemon that says nothing, by a clock that stays at its last instant. -/
def silent : Launch Instant Unit Unit where
  time := id
  read := id
  read_onward := Nat.le_refl
  latest := lastInstant
  committed world := (world, .ok false)
  probe world _ := (world, .ok none)
  wait world limit := max world (min limit lastInstant)
  committed_onward := Nat.le_refl
  probe_onward world _ := Nat.le_refl world
  wait_onward _ _ := Nat.le_max_left _ _
  opened := 0
  posts _ := []
  lock := id
  sleep world remaining := max world (min (world + remaining) lastInstant)
  lock_onward := Nat.le_refl
  sleep_onward _ _ := Nat.le_max_left _ _

/-- Its worlds are states of the system in which nobody posts. -/
theorem silent_hosts (bound : Duration) : Hosts silent bound fun world system =>
    world ≤ lastInstant ∧ system = { System.open_ 0 bound with
      time := world, start := system.start, watch := system.watch, place := system.place } where
  inner shown := by rw [shown.2]; rfl
  time shown := by rw [shown.2]; rfl
  opened shown := by rw [shown.2]; rfl
  silence shown := by rw [shown.2]; rfl
  mode shown := by rw [shown.2]; rfl
  stands place shown := by
    refine ⟨shown.1, ?_⟩
    rw [shown.2]
  read shown := by
    refine ⟨shown.1, shown.1, ?_⟩
    rw [shown.2]
    rfl
  others := by
    intro world next system ⟨within, same⟩ free operation
    have bounds : world ≤ next ∧ next ≤ lastInstant := by
      cases operation with
      | lock => exact ⟨Nat.le_refl _, within⟩
      | sleep | wait => exact ⟨Nat.le_max_left _ _, Nat.max_le.mpr ⟨within, Nat.min_le_right _ _⟩⟩
    refine ⟨{ system with time := next }, .single ⟨.tick next, trivial, ?_⟩, bounds.2, ?_⟩
    · rw [same]
      exact if_pos bounds
    · rw [same]

end Listening

section
variable {W P X : Type}

/-- What may be returned about a candidate that is authoritative. -/
def Respectful : Except (SignaledError X) (Selection P) → Prop
  | .ok (.current _) | .ok .committed | .error (.evidence _) => True
  | .ok .notCommitted | .error (.notReady _) => False

/-- A round read the record as committed. -/
def ReadCommitted (state : Selection.State (Rounds W) P (SignaledError X)) : Prop :=
  ∃ round ∈ state.rounds, round.committed = true

/-- If the next round brings no proof, and the record has been read as committed by then, the channel has not failed. -/
def Patient (launch : Launch W P X) (silence : Duration) (wakes : launch.Wakes silence)
    (state : Selection.State (Rounds W) P (SignaledError X)) : Prop :=
  ∀ committed deadline world, state.ending = none →
    (launch.committed state.world.world).2 = .ok committed → (committed = true ∨ ReadCommitted state) →
    launch.add state.start (state.noted (Signaled.evidence launch silence wakes) committed).until_ = some deadline →
    launch.probe (launch.lock (launch.read (launch.committed state.world.world).1)) deadline = (world, .ok none) →
    (launch.failure silence world).2 = none

variable (launch : Launch W P X) (silence : Duration) (wakes : launch.Wakes silence) (budget : Budget)

/-- A round that ends the call with a verdict about a committed record respects it. -/
theorem respectful_of_concluded {state : Selection.State (Rounds W) P (SignaledError X)} {made : Nat}
    (underway : Selection.Underway (Signaled.evidence launch silence wakes) budget state made)
    {watch : Selection.Watch} {round : Selection.Round P (SignaledError X)} {decision : Selection.Decision}
    {result : Except (SignaledError X) (Selection P)}
    (noted : watch = state.watch.record (round.read - state.start) round.committed)
    (judged : round.Judged state.start watch decision)
    (seen : ∃ other ∈ state.rounds ++ [round], other.committed = true)
    (ended : decision.ending round.timely = some (.returned result)) : Respectful result := by
  obtain ⟨now, reached, decided, decides⟩ := judged.decided
  cases decision with
  | wait => cases ended
  | committed =>
      cases ended
      exact trivial
  | current =>
      cases timely : round.timely with
      | none =>
          rw [timely] at ended
          cases ended
      | some proof =>
          rw [timely] at ended
          cases ended
          exact trivial
  | notCommitted =>
      have never := (Selection.Watch.decide_eq_notCommitted decides).1
      rw [underway.watch_snoc noted, Selection.committedAt_watched, Option.map_eq_none_iff] at never
      obtain ⟨other, mem, committed⟩ := seen
      exact absurd committed (List.find?_eq_none.mp never other mem)

theorem signaled_respectful {state next : Selection.State (Rounds W) P (SignaledError X)} {made : Nat}
    {result : Except (SignaledError X) (Selection P)}
    (underway : Selection.Underway (Signaled.evidence launch silence wakes) budget state made)
    (effect : Effect (Signaled.evidence launch silence wakes) state next)
    (patient : Patient launch silence wakes state) (seen : ReadCommitted next)
    (ended : next.ending = some (.returned result)) : Respectful result := by
  cases effect with
  | failed told =>
      rename_i world error
      cases ended
      cases error with
      | evidence => exact trivial
      | notReady reason => exact absurd told (Signaled.committed_not_notReady launch _ reason)
  | panicked => cases ended
  | waited => cases underway.running.symm.trans ended
  | concluded noted bounded judged ends =>
      exact respectful_of_concluded launch silence wakes budget underway noted judged seen ended
  | @erred world watch round error told readAt noted bounded stayed failed =>
      cases ended
      cases error with
      | evidence => exact trivial
      | notReady reason =>
          -- The probe can only have said so because the channel had failed.
          obtain ⟨unproven, failure⟩ := (Signaled.probe_eq_notReady launch silence).mp failed
          have committed : round.committed = true ∨ ReadCommitted state := by
            obtain ⟨other, mem, committed⟩ := seen
            rcases List.mem_append.mp mem with earlier | last
            · exact .inr ⟨other, earlier, committed⟩
            · rw [List.mem_singleton.mp last] at committed
              exact .inl committed
          have given : launch.add state.start
              (state.noted (Signaled.evidence launch silence wakes) round.committed).until_ = some round.deadline := by
            rw [Selection.State.noted, ← readAt, ← noted]
            exact Clock.add_eq_some.mpr ⟨bounded.deadline ▸ bounded.fits, bounded.deadline.symm⟩
          have quiet := patient round.committed round.deadline _ underway.running
            ((Signaled.committed_eq_ok launch).mp told) committed given (Prod.ext rfl unproven)
          cases quiet.symm.trans failure

theorem patient_of_respectful {state : Selection.State (Rounds W) P (SignaledError X)}
    (respectful : ∀ result, ReadCommitted (state.turn (Signaled.evidence launch silence wakes)) →
      (state.turn (Signaled.evidence launch silence wakes)).ending = some (.returned result) → Respectful result) :
    Patient launch silence wakes state := by
  intro committed deadline world running told seen given probed
  by_contra failed
  obtain ⟨reason, failure⟩ := Option.ne_none_iff_exists'.mp failed
  have notReady : (Signaled.probe launch silence
      ⟨launch.read (launch.committed state.world.world).1, state.world.seen⟩ deadline).2 =
      .error (.notReady reason) := by
    rw [Signaled.probe_eq_notReady, probed]
    exact ⟨rfl, failure⟩
  obtain ⟨ended, round, rounds, same⟩ :=
    Selection.turn_erred (Signaled.evidence launch silence wakes) running
      ((Signaled.committed_eq_ok launch).mpr told) given notReady
  refine respectful _ ?_ ended
  rw [ReadCommitted, rounds]
  rcases seen with now | ⟨other, earlier, before⟩
  · exact ⟨round, by simp, same.trans now⟩
  · exact ⟨other, by simp [earlier], before⟩

/-- A committed selection is respected exactly if the channel never fails while it is unproven. -/
theorem signaled_respectful_iff (world : Rounds W) :
    (∀ n result, ReadCommitted (awaitSelection (Signaled.evidence launch silence wakes) budget world n) →
      (awaitSelection (Signaled.evidence launch silence wakes) budget world n).ending = some (.returned result) →
      Respectful result) ↔
    ∀ n, Patient launch silence wakes (awaitSelection (Signaled.evidence launch silence wakes) budget world n) := by
  constructor
  · intro respectful n
    exact patient_of_respectful launch silence wakes (respectful (n + 1))
  · intro patient n result seen ended
    rcases Selection.await_cases (Signaled.evidence launch silence wakes) budget world n with
      underway | ⟨m, underway, effect, -⟩
    · exact absurd (underway.running.symm.trans ended) nofun
    · exact signaled_respectful launch silence wakes budget underway effect (patient m) seen ended

end

/-- A candidate that is committed but never proven, started by this launcher, whose channel ended with the event. -/
def launched (event : Event) : Launch Instant Unit Unit where
  time := id
  read := id
  read_onward := Nat.le_refl
  latest := lastInstant
  committed world := (world, .ok true)
  probe world _ := (world, .ok none)
  wait world limit := max world limit
  committed_onward := Nat.le_refl
  probe_onward world _ := Nat.le_refl world
  wait_onward := Nat.le_max_left
  opened := 0
  posts _ := [⟨0, event, none⟩]
  lock := id
  sleep world remaining := world + remaining
  lock_onward := Nat.le_refl
  sleep_onward := Nat.le_add_right

theorem launched_wakes {event : Event} (final : event ≠ .progress) (silence : Duration) :
    (launched event).Wakes silence := by
  intro since until_ world
  refine ⟨1, ?_⟩
  have answered : ((launched event).inner world).quietFor since world silence = none := by
    unfold Inner.quietFor
    split
    · rfl
    · cases event with
      | progress => exact absurd rfl final
      | ready | malformed | closed => rfl
  rw [Launch.waitForNews, Launch.listen]
  dsimp only
  rw [show (launched event).read world = world from rfl, show (launched event).time world - (launched event).opened =
    world from rfl, answered]
  rfl

/-- A channel that said ready hides nothing. -/
theorem ready_channel_respectful :
    (launched .ready).Wakes 50 ∧
    ∀ n result, ReadCommitted (awaitSelection (Signaled.evidence (launched .ready) 50
        (launched_wakes (by decide) 50)) ⟨1000, 100⟩ ⟨0, 0⟩ n) →
      (awaitSelection (Signaled.evidence (launched .ready) 50 (launched_wakes (by decide) 50)) ⟨1000, 100⟩ ⟨0, 0⟩
        n).ending = some (.returned result) → Respectful result := by
  refine ⟨launched_wakes (by decide) 50, ?_⟩
  apply (signaled_respectful_iff (launched .ready) 50 (launched_wakes (by decide) 50) ⟨1000, 100⟩ ⟨0, 0⟩).mpr
  intro n committed deadline world _ _ _ _ _
  rfl

/-- The launcher is told that the daemon died, although its first round read the record as committed. The evidence
alone would have told it so. -/
theorem dead_channel_hides_commit :
    ReadCommitted (awaitSelection (Signaled.evidence (launched .closed) 50
      (launched_wakes (by decide) 50)) ⟨1000, 100⟩ ⟨0, 0⟩ 1) ∧
    (awaitSelection (Signaled.evidence (launched .closed) 50 (launched_wakes (by decide) 50)) ⟨1000, 100⟩ ⟨0, 0⟩
      1).ending = some (.returned (.error (.notReady .died))) ∧
    (awaitSelection (launched .closed).toEvidence ⟨1000, 100⟩ 0 2).ending = some (.returned (.ok .committed)) :=
  ⟨⟨_, List.mem_singleton.mpr rfl, rfl⟩, rfl, rfl⟩

end KunobiDaemon.Readiness
