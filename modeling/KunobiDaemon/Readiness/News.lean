import KunobiDaemon.Readiness.Listening

/-! `Signaled` sleeps through no news, but for a `ready` between its two questions.

A wait compares the channel's version with its round's, and then asks whether the daemon is ready. A
`ready` that is recorded in between sends it into the wrapped evidence's wait, although it is news. Any
other news is found at the next check, or wakes the observer.
-/

set_option autoImplicit false

namespace KunobiDaemon.Readiness.Listening

open Lib.Systems

/-- The round a wait belongs to. -/
def Place.waits : Place → Option Round
  | .comparing round | .compared round | .pacing round | .listening round | .locked round | .timed round _
  | .quiet round _ => some round
  | .parked nap | .pending nap => some nap.round
  | .idle | .reading | .read _ | .probing _ | .unproven _ | .failing _ _ | .judging _ _ | .deciding _ _
  | .panicked => none

/-- Places where nothing can be missed. -/
def Place.lively : Place → Bool
  | .compared _ | .pacing _ | .quiet _ _ | .parked _ | .pending _ => false
  | .idle | .reading | .read _ | .probing _ | .unproven _ | .failing _ _ | .judging _ _ | .deciding _ _
  | .comparing _ | .listening _ | .locked _ | .timed _ _ | .panicked => true

/-- All that one step can do. -/
inductive Moves (s : System) : Label → System → Prop where
  | ticks {later : Instant} : s.time ≤ later → Moves s (.tick later) { s with time := later }
  | posts {event : Event} {detail : Option String} : s.poster = .reading → firstFinal s.posted = none →
      Moves s (.post event detail) { s with poster := .timed ⟨s.elapsed, event, detail⟩ }
  | records {news : Post} : s.poster = .timed news → s.place.holds s.mode = false →
      Moves s .record { s with inner := s.inner.post news, posted := s.posted ++ [news], poster := .recorded }
  | notifies : s.poster = .recorded → Moves s .notifyAll { s with poster := .notified, place := s.place.notified }
  | permits : s.poster = .notified → Moves s .notifyOne { s with poster := .reading, permit := true }
  /-- The observer goes where it misses nothing. -/
  | goes {label : Label} {mode : Mode} {start : Instant} {watch : Selection.Watch} {permit : Bool} {place : Place} :
      place.lively = true → Moves s label { s with mode, start, watch, permit, place }
  | compares {round : Round} : s.inner.version = round.seen → Moves s .compare { s with place := .compared round }
  | paces {round : Round} : s.place = .compared round → s.inner.isReady = true →
      Moves s .isReady { s with place := .pacing round }
  | quiets {round : Round} {now quiet : Duration} : s.place = .timed round now → s.inner.version = round.seen →
      Moves s .quietFor { s with place := .quiet round quiet }
  | parks {round : Round} {quiet remaining : Duration} : s.place = .quiet round quiet → s.mode = .blocking →
      Moves s .remaining { s with place := .parked ⟨round, s.time, remaining⟩ }
  | pends {round : Round} {quiet remaining : Duration} : s.place = .quiet round quiet → s.mode = .async →
      Moves s .remaining { s with place := .pending ⟨round, s.time, remaining⟩ }

variable {s t : System} {label : Label}

theorem quietFor_eq_some {inner : Inner} {since : Nat} {now silence quiet : Duration}
    (quieted : inner.quietFor since now silence = some quiet) : inner.version = since := by
  unfold Inner.quietFor at quieted
  split at quieted
  · cases quieted
  · rename_i same
    exact Classical.not_not.mp same

theorem moves_of_step (stepped : s.step label = some t) : Moves s label t := by
  cases label with
  | tick later =>
      simp only [System.step, Option.ite_none_right_eq_some, Option.some.injEq] at stepped
      obtain ⟨⟨onward, -⟩, rfl⟩ := stepped
      exact .ticks onward
  | post event detail =>
      simp only [System.step] at stepped
      split at stepped <;> cases stepped
      rename_i reading unsettled
      exact .posts reading unsettled
  | record =>
      simp only [System.step] at stepped
      split at stepped
      · rename_i news timed
        simp only [Option.ite_none_left_eq_some, Bool.not_eq_true, Option.some.injEq] at stepped
        obtain ⟨free, rfl⟩ := stepped
        exact .records timed free
      · cases stepped
  | notifyAll =>
      simp only [System.step] at stepped
      split at stepped <;> cases stepped
      rename_i recorded
      exact .notifies recorded
  | notifyOne =>
      simp only [System.step] at stepped
      split at stepped <;> cases stepped
      rename_i notified
      exact .permits notified
  | committed answer =>
      simp only [System.step] at stepped
      split at stepped <;> cases stepped
      · unfold System.note
        refine .goes ?_
        split <;> rfl
      · exact .goes rfl
  | awaitSelection | probe | answer | filter | paced | lock | cancel | elapsed =>
      simp only [System.step] at stepped
      split at stepped <;> cases stepped
      all_goals exact .goes rfl
  | expire | takePermit =>
      simp only [System.step] at stepped
      split at stepped
      · simp only [Option.ite_none_right_eq_some, Option.some.injEq] at stepped
        obtain ⟨-, rfl⟩ := stepped
        exact .goes rfl
      · cases stepped
  | failure =>
      simp only [System.step] at stepped
      split at stepped
      · split at stepped <;> cases stepped
        all_goals exact .goes rfl
      · cases stepped
  | decide =>
      simp only [System.step] at stepped
      split at stepped
      · split at stepped <;> cases stepped
        all_goals exact .goes rfl
      · cases stepped
  | compare =>
      simp only [System.step] at stepped
      split at stepped
      · split at stepped <;> cases stepped
        · exact .goes rfl
        · rename_i same
          exact .compares (Classical.not_not.mp same)
      · cases stepped
  | isReady =>
      simp only [System.step] at stepped
      split at stepped
      · rename_i round compared
        split at stepped <;> cases stepped
        · rename_i ready
          exact .paces compared ready
        · exact .goes rfl
      · cases stepped
  | quietFor =>
      simp only [System.step] at stepped
      split at stepped
      · rename_i round now timed
        split at stepped <;> cases stepped
        · exact .goes rfl
        · rename_i quieted
          exact .quiets timed (quietFor_eq_some quieted)
      · cases stepped
  | remaining =>
      simp only [System.step] at stepped
      split at stepped
      · rename_i round quiet hushed
        split at stepped
        · cases stepped
          exact .goes rfl
        · split at stepped <;> cases stepped
          · rename_i blocking
            exact .parks hushed blocking
          · rename_i async
            exact .pends hushed async
      · cases stepped
  | timeout =>
      simp only [System.step] at stepped
      split at stepped
      · simp only [Option.ite_none_right_eq_some, Option.some.injEq] at stepped
        obtain ⟨-, rfl⟩ := stepped
        exact .goes rfl
      · simp only [Option.ite_none_right_eq_some, Option.some.injEq] at stepped
        obtain ⟨-, rfl⟩ := stepped
        exact .goes rfl
      · cases stepped
  | spurious =>
      simp only [System.step] at stepped
      split at stepped <;> cases stepped
      all_goals exact .goes rfl

/-! ## What every interleaving keeps -/

/-- A wake-up is stored, or about to be given. -/
def Stirred (s : System) : Prop := s.permit = true ∨ s.poster = .recorded ∨ s.poster = .notified

/-- What an observer that may miss something can rely on. -/
def Minds (s : System) : Place → Prop
  | .compared round => round.seen ≤ s.inner.version ∧ (s.inner.version = round.seen ∨ s.inner.isReady = false)
  | .pacing round => s.inner.version = round.seen ∧ s.inner.isReady = true
  | .quiet round _ => s.inner.version ≠ round.seen → s.mode = .async ∧ Stirred s
  | .parked nap => s.inner.version ≠ nap.round.seen → s.poster = .recorded
  | .pending nap => s.inner.version ≠ nap.round.seen → Stirred s
  | .idle | .reading | .read _ | .probing _ | .unproven _ | .failing _ _ | .judging _ _ | .deciding _ _
  | .comparing _ | .listening _ | .locked _ | .timed _ _ | .panicked => True

structure Alert (s : System) : Prop where
  version : s.inner.version = s.posted.length
  tracked : Tracked s.posted s.inner.tracker
  past : lastPosted s.posted ≤ s.elapsed
  timed : ∀ news, s.poster = .timed news →
    firstFinal s.posted = none ∧ lastPosted s.posted ≤ news.at_ ∧ news.at_ ≤ s.elapsed
  minds : Minds s s.place

/-- A `ready` is not recorded between the two questions of a wait. -/
def hasty (s : System) : Label → Bool
  | .record =>
      match s.place, s.poster with
      | .compared _, .timed news => news.event = .ready
      | _, _ => false
  | _ => false

def Unhurried (s : System) (label : Label) : Prop := hasty s label = false

instance (s : System) (label : Label) : Decidable (Unhurried s label) :=
  inferInstanceAs (Decidable (hasty s label = false))

theorem isReady_iff {posted : List Post} {inner : Inner} (tracked : Tracked posted inner.tracker) :
    inner.isReady = true ↔ firstFinal posted = some .ready := by
  rw [Inner.isReady, decide_eq_true_eq]
  cases first : firstFinal posted with
  | none =>
      rcases (tracked.unsettled first).1 with state | state <;> rw [state] <;> exact iff_of_false nofun nofun
  | some event =>
      obtain ⟨final, state⟩ := tracked.settled event first
      rw [state]
      cases event with
      | progress => exact absurd rfl final
      | ready => exact iff_of_true rfl rfl
      | malformed | closed => exact iff_of_false nofun nofun

theorem minds_of_lively {place : Place} (lively : place.lively = true) : Minds s place := by
  cases place with
  | compared | pacing | quiet | parked | pending => cases lively
  | _ => trivial

theorem alert_open (opened : Instant) (silence : Duration) : Alert (.open_ opened silence) where
  version := rfl
  tracked := .new
  past := Nat.zero_le _
  timed := nofun
  minds := trivial

namespace Minds
variable {place : Place}

theorem posts (minds : Minds s place) {news : Post} (reading : s.poster = .reading) :
    Minds { s with poster := .timed news } place := by
  have stirred : Stirred s → s.permit = true := by
    rintro (permit | recorded | notified)
    · exact permit
    · cases reading.symm.trans recorded
    · cases reading.symm.trans notified
  cases place with
  | compared | pacing => exact minds
  | quiet => exact fun fresh => ⟨(minds fresh).1, .inl (stirred (minds fresh).2)⟩
  | parked => exact fun fresh => nomatch reading.symm.trans (minds fresh)
  | pending => exact fun fresh => .inl (stirred (minds fresh))
  | _ => trivial

theorem notifies (minds : Minds s place) : Minds { s with poster := .notified } place.notified := by
  cases place with
  | compared | pacing => exact minds
  | quiet => exact fun fresh => ⟨(minds fresh).1, .inr (.inr rfl)⟩
  | pending => exact fun _ => .inr (.inr rfl)
  | _ => trivial

theorem permits (minds : Minds s place) (notified : s.poster = .notified) :
    Minds { s with poster := .reading, permit := true } place := by
  cases place with
  | compared | pacing => exact minds
  | quiet => exact fun fresh => ⟨(minds fresh).1, .inl rfl⟩
  | parked => exact fun fresh => nomatch notified.symm.trans (minds fresh)
  | pending => exact fun _ => .inl rfl
  | _ => trivial

end Minds

namespace Alert

/-- An observer that is elsewhere. -/
theorem moved (alert : Alert s) {mode : Mode} {start : Instant} {watch : Selection.Watch} {permit : Bool} {place : Place}
    (minds : Minds { s with mode, start, watch, permit, place } place) :
    Alert { s with mode, start, watch, permit, place } :=
  { alert with minds }

theorem records (alert : Alert s) {news : Post} (timed : s.poster = .timed news)
    (free : s.place.holds s.mode = false) (unhurried : Unhurried s .record) :
    Alert { s with inner := s.inner.post news, posted := s.posted ++ [news], poster := .recorded } := by
  obtain ⟨unsettled, later, read⟩ := alert.timed news timed
  have tracked : Tracked (s.posted ++ [news]) (s.inner.post news).tracker := by
    rw [post_tracker]
    exact alert.tracked.snoc later
  have version : (s.inner.post news).version = s.inner.version + 1 := by
    unfold Inner.post
    dsimp only
    split <;> rfl
  refine ⟨?_, tracked, ?_, nofun, ?_⟩
  · rw [version, List.length_append, ← alert.version]
    rfl
  · rw [lastPosted_snoc]
    exact read
  · have minds := alert.minds
    dsimp only
    cases here : s.place with
    | compared round =>
        -- What is recorded here is not `ready`, and nothing before it was.
        rw [here] at minds
        refine ⟨version ▸ Nat.le_succ_of_le minds.1, .inr (Bool.eq_false_iff.mpr fun ready => ?_)⟩
        rw [isReady_iff tracked, firstFinal_append, unsettled, Option.none_or] at ready
        simp only [Unhurried, hasty, here, timed, decide_eq_false_iff_not] at unhurried
        have same := List.mem_of_find?_eq_some ready
        simp only [List.map_cons, List.map_nil, List.mem_singleton] at same
        exact unhurried same.symm
    | pacing round =>
        rw [here] at minds
        cases unsettled.symm.trans ((isReady_iff alert.tracked).mp minds.2)
    | quiet round rest =>
        rw [here, Place.holds, decide_eq_false_iff_not] at free
        refine fun _ => ⟨?_, .inr (.inl rfl)⟩
        cases mode : s.mode with
        | blocking => exact absurd mode free
        | async => rfl
    | parked nap => exact fun _ => rfl
    | pending nap => exact fun _ => .inr (.inl rfl)
    | _ => trivial

theorem step (alert : Alert s) (unhurried : Unhurried s label) (stepped : s.step label = some t) : Alert t := by
  have minds := alert.minds
  cases moves_of_step stepped with
  | ticks onward =>
      rename_i later
      have passed : s.elapsed ≤ later - s.opened := Nat.sub_le_sub_right onward _
      exact { alert with
        past := Nat.le_trans alert.past passed
        timed := fun news timed =>
          ⟨(alert.timed news timed).1, (alert.timed news timed).2.1, Nat.le_trans (alert.timed news timed).2.2 passed⟩ }
  | posts reading unsettled =>
      exact { alert with
        timed := fun news same => by
          cases same
          exact ⟨unsettled, alert.past, Nat.le_refl _⟩
        minds := minds.posts reading }
  | records timed free => exact alert.records timed free unhurried
  | notifies => exact { alert with timed := nofun, minds := minds.notifies }
  | permits notified => exact { alert with timed := nofun, minds := minds.permits notified }
  | goes lively => exact alert.moved (minds_of_lively lively)
  | compares same => exact alert.moved ⟨Nat.le_of_eq same.symm, .inl same⟩
  | paces compared ready =>
      rw [compared] at minds
      refine alert.moved ⟨minds.2.resolve_right ?_, ready⟩
      rw [ready]
      nofun
  | quiets _ same => exact alert.moved fun fresh => absurd same fresh
  | parks quiet blocking =>
      rw [quiet] at minds
      exact alert.moved fun fresh => nomatch blocking.symm.trans (minds fresh).1
  | pends quiet =>
      rw [quiet] at minds
      exact alert.moved fun fresh => (minds fresh).2

end Alert

/-! ## Returning from a wait -/

/-- The steps of a wait that take no time and need no timer. -/
def Label.own : Label → Bool
  | .compare | .isReady | .lock | .elapsed | .quietFor | .remaining | .takePermit => true
  | _ => false

/-- The wait returns by steps of its own, outside the wrapped evidence's wait. -/
def Returns (s : System) : Prop :=
  ∃ labels t, (∀ label ∈ labels, label.own = true) ∧ replay System.step labels s = some t ∧
    t.place = .reading ∧ t.time = s.time

theorem Returns.now (reading : s.place = .reading) : Returns s :=
  ⟨[], s, nofun, rfl, reading, rfl⟩

theorem Returns.later (returns : Returns t) (own : label.own = true) (stepped : s.step label = some t)
    (instant : t.time = s.time) : Returns s := by
  obtain ⟨labels, last, owned, replayed, reading, time⟩ := returns
  refine ⟨label :: labels, last, ?_, ?_, reading, time.trans instant⟩
  · intro other member
    rcases List.mem_cons.mp member with rfl | member
    · exact own
    · exact owned other member
  · simp only [replay, stepped, Option.bind_some, replayed]

section
variable {round : Round} {nap : Nap} {now quiet : Duration} (fresh : s.inner.version ≠ round.seen)
include fresh

theorem returns_timed (timed : s.place = .timed round now) : Returns s := by
  have stepped : s.step .quietFor = some { s with place := .reading } := by
    simp only [System.step, timed, Inner.quietFor, if_pos fresh]
  exact (Returns.now rfl).later rfl stepped rfl

theorem returns_locked (locked : s.place = .locked round) : Returns s := by
  have stepped : s.step .elapsed = some { s with place := .timed round s.elapsed } := by
    simp only [System.step, locked]
  have rest : Returns { s with place := .timed round s.elapsed } := returns_timed fresh rfl
  exact rest.later rfl stepped rfl

theorem returns_listening (listening : s.place = .listening round) : Returns s := by
  cases mode : s.mode with
  | blocking =>
      have stepped : s.step .lock = some { s with place := .locked round } := by
        simp only [System.step, listening, mode]
      have rest : Returns { s with place := .locked round } := returns_locked fresh rfl
      exact rest.later rfl stepped rfl
  | async =>
      have stepped : s.step .elapsed = some { s with place := .timed round s.elapsed } := by
        simp only [System.step, listening, mode]
      have rest : Returns { s with place := .timed round s.elapsed } := returns_timed fresh rfl
      exact rest.later rfl stepped rfl

theorem returns_compared (compared : s.place = .compared round) (unready : s.inner.isReady = false) : Returns s := by
  have stepped : s.step .isReady = some { s with place := .listening round } := by
    simp only [System.step, compared, unready, Bool.false_eq_true, if_false]
  have rest : Returns { s with place := .listening round } := returns_listening fresh rfl
  exact rest.later rfl stepped rfl

theorem returns_comparing (comparing : s.place = .comparing round) : Returns s := by
  have stepped : s.step .compare = some { s with place := .reading } := by
    simp only [System.step, comparing, if_pos fresh]
  exact (Returns.now rfl).later rfl stepped rfl

omit fresh in
theorem returns_pending (fresh : s.inner.version ≠ nap.round.seen) (pending : s.place = .pending nap)
    (permit : s.permit = true) : Returns s := by
  have stepped : s.step .takePermit = some { s with place := .listening nap.round, permit := false } := by
    simp only [System.step, pending, permit, if_true]
  have rest : Returns { s with place := .listening nap.round, permit := false } := returns_listening fresh rfl
  exact rest.later rfl stepped rfl

theorem returns_quiet (hushed : s.place = .quiet round quiet) (async : s.mode = .async) (permit : s.permit = true) :
    Returns s := by
  by_cases over_ : min quiet (round.deadline - s.time) = 0
  · have stepped : s.step .remaining = some { s with place := .reading } := by
      simp only [System.step, hushed, if_pos over_]
    exact (Returns.now rfl).later rfl stepped rfl
  · have stepped : s.step .remaining =
        some { s with place := .pending ⟨round, s.time, min quiet (round.deadline - s.time)⟩ } := by
      simp only [System.step, hushed, if_neg over_, async]
    have rest : Returns { s with place := .pending ⟨round, s.time, min quiet (round.deadline - s.time)⟩ } :=
      returns_pending fresh rfl permit
    exact rest.later rfl stepped rfl

end

/-- No news is slept through. -/
structure Heeds (s : System) : Prop where
  /-- The wrapped evidence's wait is entered only for a `ready` that its round's probe could know of. -/
  paced : ∀ round, s.place = .pacing round →
    s.posted.length = round.seen ∧ firstFinal (s.posted.take round.seen) = some .ready
  parked : ∀ nap, s.place = .parked nap → s.posted.length ≠ nap.round.seen → s.poster = .recorded
  pending : ∀ nap, s.place = .pending nap → s.posted.length ≠ nap.round.seen → Stirred s
  /-- A wait with news returns without waiting, once the notifications of the news are given. -/
  returns : ∀ round, s.place.waits = some round → s.posted.length ≠ round.seen →
    s.poster ≠ .recorded → s.poster ≠ .notified → Returns s

theorem Alert.heeds (alert : Alert s) : Heeds s := by
  have minds := alert.minds
  constructor
  · intro round pacing
    rw [pacing] at minds
    have same : s.posted.length = round.seen := alert.version.symm.trans minds.1
    refine ⟨same, ?_⟩
    rw [← same, List.take_length]
    exact (isReady_iff alert.tracked).mp minds.2
  · intro nap parked fresh
    rw [parked] at minds
    exact minds (alert.version ▸ fresh)
  · intro nap pending fresh
    rw [pending] at minds
    exact minds (alert.version ▸ fresh)
  · intro round waits fresh unrecorded unnotified
    have permit : Stirred s → s.permit = true := fun stirred =>
      stirred.resolve_right (not_or.mpr ⟨unrecorded, unnotified⟩)
    rw [← alert.version] at fresh
    cases place : s.place with
    | comparing =>
        rw [place] at waits minds
        cases waits
        exact returns_comparing fresh place
    | compared =>
        rw [place] at waits minds
        cases waits
        exact returns_compared fresh place (minds.2.resolve_left fresh)
    | pacing =>
        rw [place] at waits minds
        cases waits
        exact absurd minds.1 fresh
    | listening =>
        rw [place] at waits minds
        cases waits
        exact returns_listening fresh place
    | locked =>
        rw [place] at waits minds
        cases waits
        exact returns_locked fresh place
    | timed =>
        rw [place] at waits minds
        cases waits
        exact returns_timed fresh place
    | quiet =>
        rw [place] at waits minds
        cases waits
        exact returns_quiet fresh place (minds fresh).1 (permit (minds fresh).2)
    | parked =>
        rw [place] at waits minds
        cases waits
        exact absurd (minds fresh) unrecorded
    | pending =>
        rw [place] at waits minds
        cases waits
        exact returns_pending fresh place (permit (minds fresh))
    | _ =>
        rw [place] at waits
        cases waits

/-- A `ready` that is recorded between the two questions sends the observer into the wrapped evidence's wait. -/
theorem Alert.enters (alert : Alert s) (hurried : ¬ Unhurried s label) (stepped : s.step label = some t) :
    ∃ u, t.step .isReady = some u ∧ ¬ Heeds u := by
  rw [Unhurried, Bool.not_eq_false] at hurried
  unfold hasty at hurried
  split at hurried
  · split at hurried
    · rename_i round news compared timed
      rw [decide_eq_true_eq] at hurried
      simp only [System.step, timed, compared, Place.holds, Bool.false_eq_true, if_false, Option.some.injEq] at stepped
      subst stepped
      obtain ⟨unsettled, later, -⟩ := alert.timed news timed
      have tracked : Tracked (s.posted ++ [news]) (s.inner.post news).tracker := by
        rw [post_tracker]
        exact alert.tracked.snoc later
      have ready : (s.inner.post news).isReady = true := by
        rw [isReady_iff tracked, firstFinal_append, unsettled, Option.none_or]
        simp [firstFinal, hurried]
      let u : System := { s with
        inner := s.inner.post news, posted := s.posted ++ [news], poster := .recorded, place := .pacing round }
      have enters : System.step { s with
          inner := s.inner.post news, posted := s.posted ++ [news], poster := .recorded,
          place := .compared round } .isReady = some u := by
        simp only [System.step, ready, if_true, u]
      refine ⟨u, enters, fun heeds => ?_⟩
      have minds := alert.minds
      rw [compared, Minds, alert.version] at minds
      have same : s.posted.length + 1 = round.seen := by
        simpa [u] using (heeds.paced round rfl).1
      omega
    · cases hurried
  · cases hurried

/-- Every run in which no `ready` is recorded between the two questions of a wait heeds all news,
and one that is recorded there is slept through. -/
theorem signaled_heeds_news (opened : Instant) (silence : Duration) :
    (∀ s, Path System.step Unhurried (.open_ opened silence) s → Heeds s) ∧
    (∀ s label t, Path System.step Unhurried (.open_ opened silence) s → ¬ Unhurried s label →
      s.step label = some t → ∃ u, t.step .isReady = some u ∧ ¬ Heeds u) := by
  have alert {s : System} (reached : Path System.step Unhurried (.open_ opened silence) s) : Alert s :=
    reached.invariant (fun _ _ _ alert unhurried stepped => alert.step unhurried stepped) (alert_open opened silence)
  exact ⟨fun s reached => (alert reached).heeds, fun s label t reached => (alert reached).enters⟩

/-- The daemon gets ready while a wait stands between its two questions. -/
theorem ready_between_questions_is_missed :
    ∃ (s : System) (round : Round), Path System.step Any (.open_ 0 50) s ∧ s.place = .pacing round ∧
      firstFinal (s.posted.take round.seen) = none ∧ s.posted.length ≠ round.seen ∧ ¬ Heeds s := by
  have reached : Path System.step Any (.open_ 0 50) _ :=
    path_of_replay
      [.awaitSelection .blocking ⟨1000, 100⟩, .committed (.ok false), .probe, .answer .unproven, .elapsed, .failure,
        .filter, .decide, .compare, .post .ready none, .record, .isReady] rfl
  refine ⟨_, ⟨0, 1000⟩, reached, rfl, rfl, by decide, fun heeds => ?_⟩
  have known := (heeds.paced ⟨0, 1000⟩ rfl).1
  cases known

end KunobiDaemon.Readiness.Listening
