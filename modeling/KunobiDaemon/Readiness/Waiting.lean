import KunobiDaemon.Lib.Systems
import KunobiDaemon.Readiness.Channel

/-! Waiting on a readiness channel while its thread posts.

The thread posts one event after the other: it reads the time, records the event
under the lock, notifies the condition variable, and last `Notify`, which keeps one
permit. Its caller waits any number of times, blocking or not, and time passes
between all steps. A blocking wait holds the lock from before it reads the time
until it returns or parks; the other reads the time first.
-/

set_option autoImplicit false

namespace KunobiDaemon.Readiness

open Lib.Systems

/-- A call of `wait` or `wait_async`, and how many events had been recorded when it began. -/
structure Call where
  silence : Duration
  began : Nat
  deriving DecidableEq, Repr

/-- A caller with nothing to report: the time it read, the events it had seen, and the timer it
started. -/
structure Parking where
  call : Call
  now : Duration
  seen : Nat
  remaining : Duration
  started : Duration
  deriving DecidableEq, Repr

/-- When its timer ends. -/
def Parking.ends (parking : Parking) : Duration := parking.started + parking.remaining

inductive Waiter where
  | idle
  /-- In `wait`, without the lock. -/
  | locking (call : Call)
  /-- In `wait`, with the lock. -/
  | locked (call : Call)
  /-- In `wait`, with the lock and the time. -/
  | checking (call : Call) (now : Duration)
  /-- In `Condvar::wait_timeout`, not woken. -/
  | parked (parking : Parking)
  /-- In `wait_async`, with a new `notified`. -/
  | polling (call : Call)
  /-- In `wait_async`, with the time. -/
  | timed (call : Call) (now : Duration)
  /-- Awaiting `timeout(remaining, notified)`. -/
  | pending (parking : Parking)
  deriving DecidableEq, Repr

namespace Waiter

def holds : Waiter → Bool
  | .locked _ | .checking _ _ => true
  | .idle | .locking _ | .parked _ | .polling _ | .timed _ _ | .pending _ => false

/-- After `notify_all` -/
def notified : Waiter → Waiter
  | .parked parking => .locking parking.call
  | waiter => waiter

end Waiter

/-- The thread in `post`. -/
inductive Poster where
  | reading
  /-- Has read the time. -/
  | timed (news : Post)
  /-- Has released the lock. -/
  | recorded
  /-- Has notified the condition variable. -/
  | notified
  deriving DecidableEq, Repr

/-- A wait that returned: the events recorded and the time read when it decided. -/
structure Return where
  call : Call
  seen : Nat
  now : Duration
  answer : Except NotReady Unit
  deriving Repr

structure System where
  opened : Instant
  time : Instant
  inner : Inner := {}
  permit : Bool := false
  poster : Poster := .reading
  waiter : Waiter := .idle
  /-- Every event recorded, in order. -/
  posted : List Post := []
  returns : List Return := []
  deriving Repr

inductive Label where
  | tick (later : Instant)
  | post (event : Event) (detail : Option String)
  | record
  | notifyAll
  | notifyOne
  | wait (silence : Duration)
  | waitAsync (silence : Duration)
  | lock
  | elapsed
  | decide
  | timeout
  /-- The condition variable wakes for no reason, or the runtime ends a timer it cannot hold. -/
  | spurious
  | takePermit
  | cancel
  deriving DecidableEq, Repr

namespace System

def elapsed (system : System) : Duration := system.time - system.opened

def open_ (opened : Instant) : System := { opened, time := opened }

def answer (system : System) (call : Call) (now : Duration) (answer : Except NotReady Unit) : System :=
  { system with waiter := .idle, returns := ⟨call, system.posted.length, now, answer⟩ :: system.returns }

def check (system : System) (call : Call) (now : Duration) (park : Parking → Waiter) : System :=
  match system.inner.tracker.decide now call.silence with
  | .ready => system.answer call now (.ok ())
  | .notReady reason => system.answer call now (.error reason)
  | .wait remaining =>
      { system with waiter := park ⟨call, now, system.posted.length, remaining, system.elapsed⟩ }

def step (system : System) : Label → Option System
  | .tick later =>
      if system.time ≤ later ∧ later ≤ lastInstant then some { system with time := later } else none
  | .post event detail =>
      match system.poster with
      | .reading => some { system with poster := .timed ⟨system.elapsed, event, detail⟩ }
      | _ => none
  | .record =>
      match system.poster with
      | .timed news =>
          if system.waiter.holds then none
          else some { system with
            inner := system.inner.post news, posted := system.posted ++ [news], poster := .recorded }
      | _ => none
  | .notifyAll =>
      match system.poster with
      | .recorded => some { system with poster := .notified, waiter := system.waiter.notified }
      | _ => none
  | .notifyOne =>
      match system.poster with
      | .notified => some { system with poster := .reading, permit := true }
      | _ => none
  | .wait silence =>
      match system.waiter with
      | .idle => some { system with waiter := .locking ⟨silence, system.posted.length⟩ }
      | _ => none
  | .waitAsync silence =>
      match system.waiter with
      | .idle => some { system with waiter := .polling ⟨silence, system.posted.length⟩ }
      | _ => none
  | .lock =>
      match system.waiter with
      | .locking call => some { system with waiter := .locked call }
      | _ => none
  | .elapsed =>
      match system.waiter with
      | .locked call => some { system with waiter := .checking call system.elapsed }
      | .polling call => some { system with waiter := .timed call system.elapsed }
      | _ => none
  | .decide =>
      match system.waiter with
      | .checking call now => some (system.check call now .parked)
      | .timed call now => some (system.check call now .pending)
      | _ => none
  | .timeout =>
      match system.waiter with
      | .parked parking =>
          if parking.ends ≤ system.elapsed then some { system with waiter := .locking parking.call } else none
      | .pending parking =>
          if parking.ends ≤ system.elapsed then some { system with waiter := .polling parking.call } else none
      | _ => none
  | .spurious =>
      match system.waiter with
      | .parked parking => some { system with waiter := .locking parking.call }
      | .pending parking => some { system with waiter := .polling parking.call }
      | _ => none
  | .takePermit =>
      match system.waiter with
      | .pending parking =>
          if system.permit then some { system with waiter := .polling parking.call, permit := false } else none
      | _ => none
  | .cancel =>
      match system.waiter with
      | .polling _ | .timed _ _ | .pending _ => some { system with waiter := .idle }
      | _ => none

end System

/-! ## What the events say -/

/-- What an event decides, if it is final. -/
def Event.conclusion : Event → Option (Except NotReady Unit)
  | .progress => none
  | .ready => some (.ok ())
  | .malformed => some (.error .malformed)
  | .closed => some (.error .died)

def Event.state : Event → State
  | .progress => .progressing
  | .ready => .ready
  | .malformed => .malformed
  | .closed => .died

def firstFinal (posted : List Post) : Option Event := (posted.map Post.event).find? (· ≠ .progress)

/-- When the last event was posted, or else the opening. -/
def lastPosted (posted : List Post) : Duration := (posted.getLast?.map Post.at_).getD 0

theorem firstFinal_append (first second : List Post) :
    firstFinal (first ++ second) = (firstFinal first).or (firstFinal second) := by
  simp only [firstFinal, List.map_append, List.find?_append]

theorem firstFinal_append_of_some {first : List Post} {event : Event} (final : firstFinal first = some event)
    (second : List Post) : firstFinal (first ++ second) = some event := by
  rw [firstFinal_append, final]
  rfl

theorem firstFinal_of_take {posted : List Post} {n : Nat} {event : Event}
    (final : firstFinal (posted.take n) = some event) : firstFinal posted = some event := by
  have whole := firstFinal_append_of_some final (posted.drop n)
  rwa [List.take_append_drop] at whole

theorem lastPosted_snoc (posted : List Post) (news : Post) : lastPosted (posted ++ [news]) = news.at_ := by
  simp [lastPosted]

/-- What a tracker has made of events in the order of their times. -/
structure Tracked (posted : List Post) (tracker : Tracker) : Prop where
  unsettled : firstFinal posted = none →
    (tracker.state = .waiting ∨ tracker.state = .progressing) ∧ tracker.lastMessage = lastPosted posted
  settled : ∀ event, firstFinal posted = some event → event ≠ .progress ∧ tracker.state = event.state

theorem post_tracker (inner : Inner) (news : Post) :
    (inner.post news).tracker = inner.tracker.record news.at_ news.event := by
  unfold Inner.post
  dsimp only
  split <;> rfl

namespace Tracked

theorem new : Tracked [] {} where
  unsettled _ := ⟨.inl rfl, rfl⟩
  settled event final := by cases final

theorem snoc {posted : List Post} {tracker : Tracker} (tracked : Tracked posted tracker) {news : Post}
    (later : lastPosted posted ≤ news.at_) : Tracked (posted ++ [news]) (tracker.record news.at_ news.event) := by
  have alone : firstFinal [news] = if news.event = .progress then none else some news.event := by
    by_cases progress : news.event = .progress <;> simp [firstFinal, progress]
  cases before : firstFinal posted with
  | some event =>
      obtain ⟨final, same⟩ := tracked.settled event before
      have kept : tracker.record news.at_ news.event = tracker := by
        unfold Tracker.record
        rw [same]
        cases event with
        | progress => exact absurd rfl final
        | ready | malformed | closed => rfl
      rw [kept]
      constructor
      · intro none
        rw [firstFinal_append_of_some before] at none
        cases none
      · intro other found
        rw [firstFinal_append_of_some before, Option.some.injEq] at found
        exact found ▸ ⟨final, same⟩
  | none =>
      obtain ⟨state, last⟩ := tracked.unsettled before
      have recorded : tracker.record news.at_ news.event = ⟨news.event.state, news.at_⟩ := by
        unfold Tracker.record
        rw [last, Nat.max_eq_right later]
        rcases state with state | state <;> rw [state] <;> cases news.event <;> rfl
      rw [recorded]
      constructor
      · intro none
        rw [firstFinal_append, before, Option.none_or, alone] at none
        split at none
        · rename_i progress
          exact ⟨.inr (by rw [progress]; rfl), (lastPosted_snoc posted news).symm⟩
        · cases none
      · intro event found
        rw [firstFinal_append, before, Option.none_or, alone] at found
        split at found
        · cases found
        · rename_i final
          rw [Option.some.injEq] at found
          exact found ▸ ⟨final, rfl⟩

end Tracked

/-- The difference a waiter takes does not underflow. -/
theorem decide_eq_wait {tracker : Tracker} {now silence remaining : Duration}
    (waits : tracker.decide now silence = .wait remaining) :
    now < tracker.lastMessage.saturatingAdd silence ∧
      now + remaining = tracker.lastMessage.saturatingAdd silence := by
  unfold Tracker.decide at waits
  split at waits
  · cases waits
  · cases waits
  · cases waits
  all_goals
    dsimp only at waits
    split at waits
    · cases waits
    · rename_i early
      rw [Decision.wait.injEq] at waits
      subst waits
      exact ⟨Nat.lt_of_not_le early, Nat.add_sub_cancel' (Nat.le_of_not_le early)⟩

/-- What the clock shows is less than any saturated sum that is not exact. -/
theorem saturatingAdd_le_iff {a b now : Duration} (shown : now ≤ lastInstant) :
    a.saturatingAdd b ≤ now ↔ a + b ≤ now := by
  have below : now < Duration.max := Nat.lt_of_le_of_lt shown (by decide)
  unfold Duration.saturatingAdd
  rcases Nat.le_total (a + b) Duration.max with exact_ | beyond
  · rw [Nat.min_eq_left exact_]
  · rw [Nat.min_eq_right beyond]
    exact iff_of_false (Nat.not_le.mpr below) (Nat.not_le.mpr (Nat.lt_of_lt_of_le below beyond))

/-- What a check finds in the events. -/
inductive Checked (posted : List Post) (now silence : Duration) : Decision → Prop where
  | ready : firstFinal posted = some .ready → Checked posted now silence .ready
  | failed {event : Event} {reason : NotReady} : firstFinal posted = some event →
      event.conclusion = some (.error reason) → Checked posted now silence (.notReady reason)
  | silent : firstFinal posted = none → lastPosted posted + silence ≤ now →
      Checked posted now silence (.notReady .silent)
  | wait {remaining : Duration} : firstFinal posted = none →
      now + remaining = (lastPosted posted).saturatingAdd silence → Checked posted now silence (.wait remaining)

theorem Tracked.checked {posted : List Post} {tracker : Tracker} (tracked : Tracked posted tracker) {now : Duration}
    (shown : now ≤ lastInstant) (silence : Duration) : Checked posted now silence (tracker.decide now silence) := by
  cases first : firstFinal posted with
  | some event =>
      obtain ⟨final, same⟩ := tracked.settled event first
      unfold Tracker.decide
      rw [same]
      cases event with
      | progress => exact absurd rfl final
      | ready => exact .ready first
      | malformed | closed => exact .failed first rfl
  | none =>
      obtain ⟨state, last⟩ := tracked.unsettled first
      have decided : tracker.decide now silence =
          if now ≥ (lastPosted posted).saturatingAdd silence then .notReady .silent
          else .wait ((lastPosted posted).saturatingAdd silence - now) := by
        unfold Tracker.decide
        rw [last]
        rcases state with state | state <;> rw [state]
      rw [decided]
      split
      · rename_i reached
        exact .silent first ((saturatingAdd_le_iff shown).mp reached)
      · rename_i early
        exact .wait first (Nat.add_sub_cancel' (Nat.le_of_not_le early))

/-- A check after a final event returns its conclusion. -/
theorem check_settled {system : System} (tracked : Tracked system.posted system.inner.tracker) {event : Event}
    {answer : Except NotReady Unit} (first : firstFinal system.posted = some event)
    (concludes : event.conclusion = some answer) (call : Call) (now : Duration) (park : Parking → Waiter) :
    system.check call now park = system.answer call now answer := by
  obtain ⟨-, same⟩ := tracked.settled event first
  unfold System.check Tracker.decide
  rw [same]
  cases event with
  | progress => cases concludes
  | ready | malformed | closed =>
      cases concludes
      rfl

/-! ## What every interleaving keeps -/

/-- A parked caller had seen no final event, and its timer is the rest of the silence. -/
structure Parking.Right (posted : List Post) (parking : Parking) : Prop where
  began : parking.call.began ≤ parking.seen
  seen : parking.seen ≤ posted.length
  unsettled : firstFinal (posted.take parking.seen) = none
  rest : parking.now + parking.remaining =
    (lastPosted (posted.take parking.seen)).saturatingAdd parking.call.silence
  started : parking.now ≤ parking.started

/-- A wait returned the conclusion of the first final event it could see, or a silence. -/
structure Return.Right (posted : List Post) (result : Return) : Prop where
  began : result.call.began ≤ result.seen
  seen : result.seen ≤ posted.length
  answer : (∃ event, firstFinal (posted.take result.seen) = some event ∧
      event.conclusion = some result.answer) ∨
    (firstFinal (posted.take result.seen) = none ∧ result.answer = .error .silent ∧
      lastPosted (posted.take result.seen) + result.call.silence ≤ result.now)

/-- What a caller knows, and that it cannot miss what it does not know. -/
def Waiter.Informed (posted : List Post) (now : Duration) (poster : Poster) (permit : Bool) : Waiter → Prop
  | .idle => True
  | .locking call | .locked call | .polling call => call.began ≤ posted.length
  | .checking call time | .timed call time => call.began ≤ posted.length ∧ time ≤ now
  | .parked parking => parking.Right posted ∧ parking.started ≤ now ∧
      (posted.length ≠ parking.seen → poster = .recorded)
  | .pending parking => parking.Right posted ∧ parking.started ≤ now ∧
      (posted.length ≠ parking.seen → permit = true ∨ poster = .recorded ∨ poster = .notified)

structure Attentive (system : System) : Prop where
  onward : system.opened ≤ system.time
  shown : system.time ≤ lastInstant
  tracked : Tracked system.posted system.inner.tracker
  past : lastPosted system.posted ≤ system.elapsed
  timed : ∀ news, system.poster = .timed news → lastPosted system.posted ≤ news.at_ ∧ news.at_ ≤ system.elapsed
  informed : system.waiter.Informed system.posted system.elapsed system.poster system.permit
  returned : ∀ result ∈ system.returns, result.Right system.posted ∧ result.now ≤ system.elapsed

theorem attentive_open {opened : Instant} (shown : opened ≤ lastInstant) : Attentive (System.open_ opened) where
  onward := Nat.le_refl _
  shown := shown
  tracked := .new
  past := Nat.zero_le _
  timed news timed := by cases timed
  informed := trivial
  returned result member := by cases member

theorem Parking.Right.snoc {posted : List Post} {parking : Parking} (right : parking.Right posted) (news : Post) :
    parking.Right (posted ++ [news]) := by
  have same : (posted ++ [news]).take parking.seen = posted.take parking.seen :=
    List.take_append_of_le_length right.seen
  refine ⟨right.began, ?_, same ▸ right.unsettled, same ▸ right.rest, right.started⟩
  rw [List.length_append]
  exact Nat.le_add_right_of_le right.seen

theorem Parking.Right.within {posted : List Post} {parking : Parking} (right : parking.Right posted) :
    parking.call.began ≤ posted.length :=
  Nat.le_trans right.began right.seen

theorem Return.Right.snoc {posted : List Post} {result : Return} (right : result.Right posted) (news : Post) :
    result.Right (posted ++ [news]) := by
  have same : (posted ++ [news]).take result.seen = posted.take result.seen :=
    List.take_append_of_le_length right.seen
  refine ⟨right.began, ?_, same ▸ right.answer⟩
  rw [List.length_append]
  exact Nat.le_add_right_of_le right.seen

namespace Waiter.Informed
variable {posted : List Post} {now : Duration} {poster : Poster} {permit : Bool} {waiter : Waiter}

theorem later (informed : waiter.Informed posted now poster permit) {time : Duration} (onward : now ≤ time) :
    waiter.Informed posted time poster permit := by
  cases waiter with
  | idle | locking | locked | polling => exact informed
  | checking | timed => exact ⟨informed.1, Nat.le_trans informed.2 onward⟩
  | parked | pending => exact ⟨informed.1, Nat.le_trans informed.2.1 onward, informed.2.2⟩

theorem recorded (informed : waiter.Informed posted now poster permit) (news : Post) :
    waiter.Informed (posted ++ [news]) now .recorded permit := by
  have longer {n : Nat} (within : n ≤ posted.length) : n ≤ (posted ++ [news]).length := by
    rw [List.length_append]
    exact Nat.le_add_right_of_le within
  cases waiter with
  | idle => trivial
  | locking | locked | polling => exact longer informed
  | checking | timed => exact ⟨longer informed.1, informed.2⟩
  | parked => exact ⟨informed.1.snoc news, informed.2.1, fun _ => rfl⟩
  | pending => exact ⟨informed.1.snoc news, informed.2.1, fun _ => .inr (.inl rfl)⟩

/-- Nobody is parked after `notify_all`. -/
theorem notified (informed : waiter.Informed posted now poster permit) :
    waiter.notified.Informed posted now .notified permit := by
  cases waiter with
  | idle | locking | locked | polling | checking | timed => exact informed
  | parked => exact informed.1.within
  | pending => exact ⟨informed.1, informed.2.1, fun _ => .inr (.inr rfl)⟩

theorem permitted (informed : waiter.Informed posted now .notified permit) :
    waiter.Informed posted now .reading true := by
  cases waiter with
  | idle | locking | locked | polling | checking | timed => exact informed
  | parked => exact ⟨informed.1, informed.2.1, fun news => nomatch informed.2.2 news⟩
  | pending => exact ⟨informed.1, informed.2.1, fun _ => .inl rfl⟩

/-- A post that begins tells a caller nothing yet. -/
theorem posting (informed : waiter.Informed posted now .reading permit) (news : Post) :
    waiter.Informed posted now (.timed news) permit := by
  cases waiter with
  | idle | locking | locked | polling | checking | timed => exact informed
  | parked => exact ⟨informed.1, informed.2.1, fun news => nomatch informed.2.2 news⟩
  | pending =>
      refine ⟨informed.1, informed.2.1, fun news => ?_⟩
      rcases informed.2.2 news with kept | recorded | notified
      · exact .inl kept
      · cases recorded
      · cases notified

end Waiter.Informed

namespace Attentive
variable {system next : System}

theorem elapsed_shown (attentive : Attentive system) : system.elapsed ≤ lastInstant :=
  Nat.le_trans (Nat.sub_le _ _) attentive.shown

theorem informed_at (attentive : Attentive system) {waiter : Waiter} (here : system.waiter = waiter) :
    waiter.Informed system.posted system.elapsed system.poster system.permit :=
  here ▸ attentive.informed

theorem tick (attentive : Attentive system) {later : Instant} (onward : system.time ≤ later)
    (shown : later ≤ lastInstant) : Attentive { system with time := later } := by
  have passed : system.elapsed ≤ later - system.opened := Nat.sub_le_sub_right onward _
  exact {
    onward := Nat.le_trans attentive.onward onward
    shown := shown
    tracked := attentive.tracked
    past := Nat.le_trans attentive.past passed
    timed news timed := ⟨(attentive.timed news timed).1, Nat.le_trans (attentive.timed news timed).2 passed⟩
    informed := attentive.informed.later passed
    returned result member :=
      ⟨(attentive.returned result member).1, Nat.le_trans (attentive.returned result member).2 passed⟩ }

/-- A step of the caller alone. -/
theorem moved (attentive : Attentive system) {waiter : Waiter} {permit : Bool}
    (informed : waiter.Informed system.posted system.elapsed system.poster permit) :
    Attentive { system with waiter, permit } :=
  { attentive with informed }

theorem record (attentive : Attentive system) {news : Post} (timed : system.poster = .timed news) :
    Attentive { system with
      inner := system.inner.post news, posted := system.posted ++ [news], poster := .recorded } := by
  obtain ⟨later, read⟩ := attentive.timed news timed
  exact { attentive with
    tracked := by
      rw [post_tracker]
      exact attentive.tracked.snoc later
    past := by
      rw [lastPosted_snoc]
      exact read
    timed := fun _ other => nomatch other
    informed := attentive.informed.recorded news
    returned := fun result member =>
      ⟨(attentive.returned result member).1.snoc news, (attentive.returned result member).2⟩ }

theorem answer (attentive : Attentive system) {call : Call} {now : Duration} {answer : Except NotReady Unit}
    (began : call.began ≤ system.posted.length) (past : now ≤ system.elapsed)
    (right : (∃ event, firstFinal system.posted = some event ∧ event.conclusion = some answer) ∨
      (firstFinal system.posted = none ∧ answer = .error .silent ∧
        lastPosted system.posted + call.silence ≤ now)) :
    Attentive (system.answer call now answer) :=
  { attentive with
    informed := trivial
    returned := by
      intro result member
      rcases List.mem_cons.mp member with rfl | earlier
      · refine ⟨⟨began, Nat.le_refl _, ?_⟩, past⟩
        dsimp only [System.answer]
        rw [List.take_length]
        exact right
      · exact attentive.returned result earlier }

theorem check (attentive : Attentive system) {call : Call} {now : Duration} {park : Parking → Waiter}
    (began : call.began ≤ system.posted.length) (past : now ≤ system.elapsed)
    (parks : ∀ parking : Parking, parking.Right system.posted → parking.started = system.elapsed →
      parking.seen = system.posted.length →
      (park parking).Informed system.posted system.elapsed system.poster system.permit) :
    Attentive (system.check call now park) := by
  unfold System.check
  have checked := attentive.tracked.checked (Nat.le_trans past attentive.elapsed_shown) call.silence
  revert checked
  generalize system.inner.tracker.decide now call.silence = decision
  intro checked
  cases checked with
  | ready first => exact attentive.answer began past (.inl ⟨.ready, first, rfl⟩)
  | failed first concludes => exact attentive.answer began past (.inl ⟨_, first, concludes⟩)
  | silent first reached => exact attentive.answer began past (.inr ⟨first, rfl, reached⟩)
  | wait first rest =>
      refine attentive.moved (parks _ ⟨began, Nat.le_refl _, ?_, ?_, past⟩ rfl rfl)
      · rw [List.take_length]
        exact first
      · rw [List.take_length]
        exact rest

theorem step (attentive : Attentive system) (label : Label) (stepped : system.step label = some next) :
    Attentive next := by
  cases label with
  | tick later =>
      simp only [System.step, Option.ite_none_right_eq_some, Option.some.injEq] at stepped
      obtain ⟨⟨onward, shown⟩, rfl⟩ := stepped
      exact attentive.tick onward shown
  | post event detail =>
      simp only [System.step] at stepped
      split at stepped <;> cases stepped
      rename_i reading
      have informed := attentive.informed
      rw [reading] at informed
      exact { attentive with
        timed := fun news same => by
          cases same
          exact ⟨attentive.past, Nat.le_refl _⟩
        informed := informed.posting _ }
  | record =>
      simp only [System.step] at stepped
      split at stepped
      · rename_i news timed
        split at stepped <;> cases stepped
        exact attentive.record timed
      · cases stepped
  | notifyAll =>
      simp only [System.step] at stepped
      split at stepped <;> cases stepped
      exact { attentive with
        timed := fun _ other => by cases other
        informed := attentive.informed.notified }
  | notifyOne =>
      simp only [System.step] at stepped
      split at stepped <;> cases stepped
      rename_i notified
      have informed := attentive.informed
      rw [notified] at informed
      exact { attentive with
        timed := fun _ other => by cases other
        informed := informed.permitted }
  | wait silence | waitAsync silence =>
      simp only [System.step] at stepped
      split at stepped <;> cases stepped
      exact attentive.moved (Nat.le_refl _)
  | lock =>
      simp only [System.step] at stepped
      split at stepped <;> cases stepped
      rename_i locking
      have informed := attentive.informed_at locking
      exact attentive.moved informed
  | elapsed =>
      simp only [System.step] at stepped
      split at stepped <;> cases stepped
      all_goals
        rename_i here
        have informed := attentive.informed_at here
        exact attentive.moved ⟨informed, Nat.le_refl _⟩
  | decide =>
      simp only [System.step] at stepped
      split at stepped <;> cases stepped
      all_goals
        rename_i here
        have informed := attentive.informed_at here
        refine attentive.check informed.1 informed.2 fun parking right started seen =>
          ⟨right, Nat.le_of_eq started, fun news => absurd seen.symm news⟩
  | timeout =>
      simp only [System.step] at stepped
      split at stepped
      · rename_i here
        split at stepped <;> cases stepped
        exact attentive.moved (attentive.informed_at here).1.within
      · rename_i here
        split at stepped <;> cases stepped
        exact attentive.moved (attentive.informed_at here).1.within
      · cases stepped
  | spurious =>
      simp only [System.step] at stepped
      split at stepped <;> cases stepped
      all_goals
        rename_i here
        exact attentive.moved (attentive.informed_at here).1.within
  | takePermit =>
      simp only [System.step] at stepped
      split at stepped
      · rename_i here
        split at stepped <;> cases stepped
        exact attentive.moved (attentive.informed_at here).1.within
      · cases stepped
  | cancel =>
      simp only [System.step] at stepped
      split at stepped <;> cases stepped
      all_goals exact attentive.moved trivial

theorem path (attentive : Attentive system) (path : Path System.step Any system next) : Attentive next :=
  Path.invariant (fun _ label _ sound _ stepped => sound.step label stepped) path attentive

end Attentive

theorem Event.conclusion_ne_silent (event : Event) : event.conclusion ≠ some (.error .silent) := by
  cases event with
  | progress | ready | malformed | closed => exact nofun

/-- Every wait returns the conclusion of the first final event, or a silence that has passed; a
wait that begins after a final event returns at once; and no caller is left parked with news. -/
theorem waits_miss_no_news {opened : Instant} (shown : opened ≤ lastInstant) {system : System}
    (reached : Path System.step Any (.open_ opened) system) :
    (∀ result ∈ system.returns,
      (∀ event, firstFinal (system.posted.take result.call.began) = some event →
        event.conclusion = some result.answer ∧ firstFinal system.posted = some event) ∧
      (result.answer ≠ .error .silent → ∃ event, firstFinal (system.posted.take result.seen) = some event ∧
        event.conclusion = some result.answer) ∧
      (result.answer = .error .silent → firstFinal (system.posted.take result.seen) = none ∧
        lastPosted (system.posted.take result.seen) + result.call.silence ≤ result.now ∧
        result.now ≤ system.elapsed)) ∧
    (∀ event answer, firstFinal system.posted = some event → event.conclusion = some answer →
      system.waiter = .idle → ∀ silence,
      ∀ labels ∈ [[.wait silence, .lock, .elapsed, .decide], [.waitAsync silence, .elapsed, .decide]],
      ∃ next result, replay System.step labels system = some next ∧ next.waiter = .idle ∧
        next.returns = result :: system.returns ∧ result.answer = answer) ∧
    (∀ (tracker : Tracker) (now silence remaining : Duration), tracker.decide now silence = .wait remaining →
      now < tracker.lastMessage.saturatingAdd silence ∧
      now + remaining = tracker.lastMessage.saturatingAdd silence) ∧
    ∀ parking, system.waiter = .parked parking ∨ system.waiter = .pending parking →
      firstFinal (system.posted.take parking.seen) = none ∧
      (∀ instant ≤ lastInstant, parking.now + parking.remaining ≤ instant ↔
        lastPosted (system.posted.take parking.seen) + parking.call.silence ≤ instant) ∧
      parking.now ≤ parking.started ∧
      parking.ends = parking.now + parking.remaining + (parking.started - parking.now) ∧
      (system.posted.length ≠ parking.seen → system.poster = .reading →
        system.waiter = .pending parking ∧ system.permit = true) := by
  have attentive := (attentive_open shown).path reached
  refine ⟨fun result member => ?_, fun event answer first concludes idle silence labels member => ?_,
    fun tracker now silence remaining => decide_eq_wait, fun parking here => ?_⟩
  · obtain ⟨right, read⟩ := attentive.returned result member
    refine ⟨fun event before => ?_, fun spoken => ?_, fun silent => ?_⟩
    · have whole := firstFinal_of_take before
      have prior : (system.posted.take result.seen).take result.call.began = system.posted.take result.call.began := by
        rw [List.take_take, Nat.min_eq_left right.began]
      have still := firstFinal_of_take (prior ▸ before)
      rcases right.answer with ⟨other, first, concludes⟩ | ⟨none, -⟩
      · rw [still, Option.some.injEq] at first
        exact ⟨first ▸ concludes, whole⟩
      · rw [still] at none
        cases none
    · rcases right.answer with found | ⟨-, silent, -⟩
      · exact found
      · exact absurd silent spoken
    · rcases right.answer with ⟨event, -, concludes⟩ | ⟨none, -, passed⟩
      · rw [silent] at concludes
        exact absurd concludes event.conclusion_ne_silent
      · exact ⟨none, passed, read⟩
  · have settled (waiter : Waiter) (park : Parking → Waiter) (call : Call) (now : Duration) :
        System.check { system with waiter } call now park = system.answer call now answer :=
      check_settled attentive.tracked first concludes call now park
    simp only [List.mem_cons, List.not_mem_nil, or_false] at member
    rcases member with rfl | rfl
    all_goals
      refine ⟨system.answer ⟨silence, system.posted.length⟩ system.elapsed answer, _, ?_, rfl, rfl, rfl⟩
      simp only [replay, System.step, idle, Option.bind_some, settled]
      rfl
  · have known : parking.Right system.posted ∧ (system.posted.length ≠ parking.seen → system.poster = .reading →
        system.waiter = .pending parking ∧ system.permit = true) := by
      rcases here with here | here
      · have informed := attentive.informed_at here
        refine ⟨informed.1, fun news done => ?_⟩
        rw [informed.2.2 news] at done
        cases done
      · have informed := attentive.informed_at here
        refine ⟨informed.1, fun news done => ⟨here, ?_⟩⟩
        rcases informed.2.2 news with kept | recorded | notified
        · exact kept
        · rw [recorded] at done
          cases done
        · rw [notified] at done
          cases done
    refine ⟨known.1.unsettled, fun instant within => ?_, known.1.started, ?_, known.2⟩
    · rw [known.1.rest, saturatingAdd_le_iff within]
    · have started := known.1.started
      unfold Parking.ends
      grind

/-- Progress while a caller waits, and then `ready` once it has parked. -/
def startup : List Label :=
  [.wait 100, .tick 7, .post .progress (some "loading"), .record, .notifyAll, .notifyOne, .lock, .elapsed, .decide,
    .tick 50, .post .ready none, .record, .notifyAll, .lock, .elapsed, .decide]

theorem startup_returns_ready : ∃ system, replay System.step startup (.open_ 5) = some system ∧
    system.returns.map (fun result => (result.call, result.seen, result.now)) = [(⟨100, 0⟩, 2, 45)] ∧
    ∃ result ∈ system.returns, result.answer = .ok () ∧
      ∃ event, firstFinal (system.posted.take result.seen) = some event ∧
        event.conclusion = some result.answer := by
  obtain ⟨system, replayed⟩ : ∃ system, replay System.step startup (.open_ 5) = some system := ⟨_, rfl⟩
  have news := waits_miss_no_news (by decide) (path_of_replay startup replayed)
  cases replayed
  refine ⟨_, rfl, rfl, _, List.mem_singleton.mpr rfl, rfl, ?_⟩
  exact (news.1 _ (List.mem_singleton.mpr rfl)).2.1 nofun

/-- Time that passes between the reading and the start of the timer is waited for once more. -/
theorem timer_outlasts_the_silence : ∃ system parking, Path System.step Any (.open_ 0) system ∧
    system.waiter = .parked parking ∧
    lastPosted (system.posted.take parking.seen) + parking.call.silence = 100 ∧ parking.ends = 103 := by
  obtain ⟨system, replayed⟩ : ∃ system,
      replay System.step [.wait 100, .lock, .elapsed, .tick 3, .decide] (.open_ 0) = some system := ⟨_, rfl⟩
  have path := path_of_replay _ replayed
  cases replayed
  exact ⟨_, _, path, rfl, rfl, rfl⟩

end KunobiDaemon.Readiness
