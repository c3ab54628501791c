import KunobiDaemon.Lib.Systems
import KunobiDaemon.Publication.Windows

/-! One call of `retry_open`, against any answers of its closures.

The events of a call are the answers it got and the times it read, oldest first. The denials that
were retried and the check that found no publication outlive the pauses between the opens. A call
ends because every event uses up some of what is left: denials, looks without a publication, or time.
-/

set_option autoImplicit false

namespace KunobiDaemon.Publication.Windows

open Lib.Systems

inductive Event where
  | opened (answer : Except IoError File)
  | checked (publishing : Bool)
  /-- The clock was read to plan a pause. -/
  | paused (now : Instant)
  /-- The clock was read after a pause. -/
  | woke (now : Instant)
  deriving DecidableEq

/-- A call of `retry_open`, with the last time it read. -/
structure Call where
  deadline : Instant
  time : Instant
  reader : Reader := {}
  events : List Event := []

namespace Call

def after (call : Call) (event : Event) (reader : Reader) (time : Instant) : Call :=
  { call with time, reader, events := call.events ++ [event] }

/-- The clock does not go back, and a pause lasts at least as long as planned. -/
def step (call : Call) : Event → Option Call
  | .opened answer =>
      match call.reader.place with
      | .opening => some (call.after (.opened answer) (call.reader.opened answer) call.time)
      | _ => none
  | .checked publishing =>
      match call.reader.place with
      | .missed error => some (call.after (.checked publishing) (call.reader.checked error publishing) call.time)
      | _ => none
  | .paused now =>
      match call.reader.place with
      | .pausing =>
          if call.time ≤ now then some (call.after (.paused now) (call.reader.paused call.deadline now) now) else none
      | _ => none
  | .woke now =>
      match call.reader.place with
      | .napping ends =>
          if call.time ≤ now ∧ ends ≤ now then
            some (call.after (.woke now) (call.reader.woke call.deadline now) now)
          else none
      | _ => none

end Call

/-- A call that has done nothing yet, at any time. -/
def Call.retryOpen (deadline time : Instant) : Call := { deadline, time }

/-! ## What a call does -/

/-- An open refused with `ERROR_ACCESS_DENIED`. -/
def Event.denied : Event → Bool
  | .opened (.error error) => error.rawOsError = some ERROR_ACCESS_DENIED
  | _ => false

def Event.opens : Event → Bool
  | .opened _ => true
  | _ => false

def Event.pauses : Event → Bool
  | .paused _ => true
  | _ => false

/-- The opens since the last pause. -/
def recent (events : List Event) : Nat := (events.reverse.takeWhile fun event => !event.pauses).countP Event.opens

/-- An answer that is neither a denial nor a missing record is final. -/
def Final : Except IoError File → Prop
  | .ok _ => True
  | .error error => error.rawOsError ≠ some ERROR_ACCESS_DENIED ∧ error.kind ≠ .notFound

/-- What the events before an event give for it. -/
def Grounded (before : List Event) : Event → Prop
  | .opened _ => recent before < 10
  | .checked _ => ∃ earlier error, before = earlier ++ [.opened (.error error)] ∧ error.kind = .notFound
  | .paused _ =>
      ∃ earlier error, before = earlier ++ [.opened (.error error), .checked true] ∧ error.kind = .notFound
  | .woke _ => ∃ earlier now, before = earlier ++ [.paused now]

/-- An open that found no record, and a check after it that found no publication. -/
def Miss (error : IoError) : List Event := [.opened (.error error), .checked false]

/-- A miss with no publication found since. -/
def Clean (events : List Event) : Prop :=
  ∃ before error between, events = before ++ Miss error ++ between ∧ error.kind = .notFound ∧ .checked true ∉ between

/-- Two misses with no publication found between them. -/
def Missing (events : List Event) : Prop :=
  ∃ before error, events = before ++ Miss error ∧ error.kind = .notFound ∧ Clean before

/-- Enough of the opens were denied for a denial to stand. -/
def Tried (events : List Event) : Prop := DENIED_RETRIES < events.countP Event.denied

/-- A call that has not returned goes on with any answer and any later time. -/
def Call.Ready (call : Call) : Prop :=
  match call.reader.place with
  | .opening => ∀ answer, (call.step (.opened answer)).isSome = true
  | .missed _ => ∀ publishing, (call.step (.checked publishing)).isSome = true
  | .pausing => ∀ now, call.time ≤ now → (call.step (.paused now)).isSome = true
  | .napping ends => ∀ now, call.time ≤ now → ends ≤ now → (call.step (.woke now)).isSome = true
  | .returned _ => True

/-- The pauses that fit before the deadline. -/
def Call.rounds (call : Call) : Nat := (call.deadline - call.time + (Backoff.FIRST - 1)) / Backoff.FIRST

/-- A call that does only what it should, and whose answer is earned. -/
structure Earned (call : Call) : Prop where
  grounded : ∀ before event after, call.events = before ++ event :: after → Grounded before event
  final : ∀ before answer after, call.events = before ++ .opened answer :: after → Final answer →
    after = [] ∧ call.reader.place = .returned answer
  found : ∀ file, call.reader.place = .returned (.ok file) → .opened (.ok file) ∈ call.events
  missing : ∀ error, call.reader.place = .returned (.error error) → error.kind = .notFound →
    call.time < call.deadline → Missing call.events
  denied : ∀ error, call.reader.place = .returned (.error error) →
    error.rawOsError = some ERROR_ACCESS_DENIED → Tried call.events
  timely : ∀ ends, call.reader.place = .napping ends → ends ≤ call.deadline
  late : ∀ before event after now, call.events = before ++ event :: after → event = .paused now ∨ event = .woke now →
    call.deadline ≤ now → after = [] ∧ ∃ error, call.reader.place = .returned (.error error)
  opened : ∀ result, call.reader.place = .returned result → ∃ answer rest, call.events = .opened answer :: rest
  ready : call.Ready

/-! ## What one event can do -/

variable {call next : Call} {event : Event}

/-- What an event makes of a reader, and the time it reads. -/
inductive Turn (call : Call) : Event → Reader → Instant → Prop where
  | found {file : File} : call.reader.place = .opening →
      Turn call (.opened (.ok file)) { call.reader with place := .returned (.ok file) } call.time
  | denied {error : IoError} : call.reader.place = .opening → error.rawOsError = some ERROR_ACCESS_DENIED →
      call.reader.denied < DENIED_RETRIES →
      Turn call (.opened (.error error)) { call.reader with denied := call.reader.denied + 1 } call.time
  | missed {error : IoError} : call.reader.place = .opening →
      (error.rawOsError = some ERROR_ACCESS_DENIED → DENIED_RETRIES ≤ call.reader.denied) → error.kind = .notFound →
      Turn call (.opened (.error error)) { call.reader with place := .missed error } call.time
  | failed {error : IoError} : call.reader.place = .opening →
      (error.rawOsError = some ERROR_ACCESS_DENIED → DENIED_RETRIES ≤ call.reader.denied) → error.kind ≠ .notFound →
      Turn call (.opened (.error error)) { call.reader with place := .returned (.error error) } call.time
  | published {error : IoError} : call.reader.place = .missed error →
      Turn call (.checked true) { call.reader with rechecked := false, missing := some error, place := .pausing } call.time
  | rechecks {error : IoError} : call.reader.place = .missed error → call.reader.rechecked = false →
      Turn call (.checked false) { call.reader with rechecked := true, place := .opening } call.time
  | concluded {error : IoError} : call.reader.place = .missed error → call.reader.rechecked = true →
      Turn call (.checked false) { call.reader with place := .returned (.error error) } call.time
  | late {now : Instant} : call.reader.place = .pausing → call.deadline ≤ now →
      Turn call (.paused now) call.reader.gaveUp now
  | naps {now : Instant} : call.reader.place = .pausing → call.time ≤ now → now < call.deadline →
      Turn call (.paused now)
        { call.reader with
          pause := min Backoff.LONGEST (call.reader.pause * 2)
          place := .napping (now + min (call.deadline - now) call.reader.pause) } now
  | overran {now ends : Instant} : call.reader.place = .napping ends → call.deadline ≤ now →
      Turn call (.woke now) call.reader.gaveUp now
  | woke {now ends : Instant} : call.reader.place = .napping ends → ends ≤ now → now < call.deadline →
      Turn call (.woke now) { call.reader with place := .opening } now

theorem turn_opened (answer : Except IoError File) (opening : call.reader.place = .opening) :
    Turn call (.opened answer) (call.reader.opened answer) call.time := by
  cases answer with
  | ok file => exact .found opening
  | error error =>
      unfold Reader.opened
      dsimp only
      split
      · rename_i denied
        exact .denied opening denied.1 denied.2
      · rename_i stands
        have enough : error.rawOsError = some ERROR_ACCESS_DENIED → DENIED_RETRIES ≤ call.reader.denied :=
          fun denied => Nat.le_of_not_lt fun few => stands ⟨denied, few⟩
        split
        · rename_i kind
          exact .missed opening enough kind
        · rename_i kind
          exact .failed opening enough kind

theorem turn_checked {error : IoError} (publishing : Bool) (missed : call.reader.place = .missed error) :
    Turn call (.checked publishing) (call.reader.checked error publishing) call.time := by
  cases publishing with
  | true => exact .published missed
  | false =>
      cases rechecked : call.reader.rechecked with
      | true => simpa [Reader.checked, rechecked] using Turn.concluded missed rechecked
      | false => simpa [Reader.checked, rechecked] using Turn.rechecks missed rechecked

theorem turn_paused {now : Instant} (pausing : call.reader.place = .pausing) (later : call.time ≤ now) :
    Turn call (.paused now) (call.reader.paused call.deadline now) now := by
  rcases Nat.lt_or_ge now call.deadline with early | late
  · have left : call.deadline - now ≠ 0 := by
      dsimp only [Instant] at *
      omega
    simpa [Reader.paused, Backoff.nextPause, left] using Turn.naps pausing later early
  · rw [Reader.paused, Backoff.nextPause_eq_none.mpr late]
    exact .late pausing late

theorem turn_woke {now ends : Instant} (napping : call.reader.place = .napping ends) (passed : ends ≤ now) :
    Turn call (.woke now) (call.reader.woke call.deadline now) now := by
  unfold Reader.woke
  split
  · rename_i over_
    exact .overran napping (Nat.sub_eq_zero_iff_le.mp over_)
  · rename_i left
    exact .woke napping passed (Nat.lt_of_not_le fun late => left (Nat.sub_eq_zero_of_le late))

theorem turn_of_step (stepped : call.step event = some next) :
    ∃ reader time, Turn call event reader time ∧ next = call.after event reader time := by
  cases event with
  | opened answer =>
      simp only [Call.step] at stepped
      split at stepped
      · rename_i opening
        cases stepped
        exact ⟨_, _, turn_opened answer opening, rfl⟩
      · cases stepped
  | checked publishing =>
      simp only [Call.step] at stepped
      split at stepped
      · rename_i missed
        cases stepped
        exact ⟨_, _, turn_checked publishing missed, rfl⟩
      · cases stepped
  | paused now =>
      simp only [Call.step] at stepped
      split at stepped
      · rename_i pausing
        obtain ⟨later, same⟩ := Option.ite_none_right_eq_some.mp stepped
        cases same
        exact ⟨_, _, turn_paused pausing later, rfl⟩
      · cases stepped
  | woke now =>
      simp only [Call.step] at stepped
      split at stepped
      · rename_i napping
        obtain ⟨passed, same⟩ := Option.ite_none_right_eq_some.mp stepped
        cases same
        exact ⟨_, _, turn_woke napping passed.2, rfl⟩
      · cases stepped

/-! ## What a call keeps -/

theorem recent_concat (events : List Event) (event : Event) :
    recent (events ++ [event]) = if event.pauses then 0 else recent events + if event.opens then 1 else 0 := by
  unfold recent
  rw [List.reverse_append, List.reverse_singleton, List.singleton_append, List.takeWhile_cons]
  cases event.pauses with
  | true => simp
  | false => simp [List.countP_cons]

theorem denials_concat (events : List Event) (event : Event) :
    (events ++ [event]).countP Event.denied = events.countP Event.denied + if event.denied then 1 else 0 := by
  simp [List.countP_append, List.countP_cons]

theorem Tried.more {events : List Event} (tried : Tried events) (event : Event) : Tried (events ++ [event]) := by
  unfold Tried at *
  rw [denials_concat]
  omega

theorem Clean.more {events : List Event} (clean : Clean events) {event : Event} (other : event ≠ .checked true) :
    Clean (events ++ [event]) := by
  obtain ⟨before, error, between, rfl, kind, quiet⟩ := clean
  refine ⟨before, error, between ++ [event], by simp, kind, fun found => ?_⟩
  rcases List.mem_append.mp found with old | new
  · exact quiet old
  · exact other (List.mem_singleton.mp new).symm

/-- An event after which a call may go on. -/
def Event.Ongoing (deadline : Instant) : Event → Prop
  | .opened answer => ¬ Final answer
  | .checked _ => True
  | .paused now | .woke now => now < deadline

def Call.Running (call : Call) : Prop := ∀ event ∈ call.events, event.Ongoing call.deadline

/-- How a call came to its answer. -/
inductive Settled (call : Call) : Except IoError File → Prop where
  | opened {before : List Event} {answer : Except IoError File} :
      call.events = before ++ [.opened answer] → (∀ event ∈ before, event.Ongoing call.deadline) →
      (∀ error, answer = .error error → error.kind ≠ .notFound) → Settled call answer
  | missed {error : IoError} : call.Running → Missing call.events → Settled call (.error error)
  | late {before : List Event} {last : Event} {error : IoError} :
      call.events = before ++ [last] → (∀ event ∈ before, event.Ongoing call.deadline) → last.opens = false →
      call.deadline ≤ call.time → Settled call (.error error)

/-- What holds at each place of a call. -/
def Placed (call : Call) : Place → Prop
  | .opening => call.Running ∧ recent call.events ≤ call.reader.denied + call.reader.rechecked.toNat
  | .missed error =>
      call.Running ∧ error.kind = .notFound ∧ (error.rawOsError = some ERROR_ACCESS_DENIED → Tried call.events) ∧
        recent call.events ≤ call.reader.denied + call.reader.rechecked.toNat + 1 ∧
        ∃ earlier, call.events = earlier ++ [.opened (.error error)] ∧ (call.reader.rechecked = true → Clean earlier)
  | .pausing =>
      call.Running ∧ (∃ earlier error, call.events = earlier ++ [.opened (.error error), .checked true] ∧
        error.kind = .notFound) ∧ call.reader.rechecked = false
  | .napping ends =>
      call.Running ∧ (∃ earlier now, call.events = earlier ++ [.paused now]) ∧ call.reader.rechecked = false ∧
        ends ≤ call.deadline ∧ (call.time + Backoff.FIRST ≤ ends ∨ call.deadline ≤ ends)
  | .returned result =>
      Settled call result ∧ ∀ error, result = .error error →
        error.rawOsError = some ERROR_ACCESS_DENIED → Tried call.events

structure Sound (call : Call) : Prop where
  grounded : ∀ before event after, call.events = before ++ event :: after → Grounded before event
  few : call.reader.denied ≤ DENIED_RETRIES
  tallied : call.reader.denied ≤ call.events.countP Event.denied
  growing : Backoff.FIRST ≤ call.reader.pause
  clean : call.reader.rechecked = true → call.reader.place = .opening → Clean call.events
  missing : ∀ error, call.reader.missing = some error →
    error.rawOsError = some ERROR_ACCESS_DENIED → Tried call.events
  placed : Placed call call.reader.place

namespace Sound

theorem at_place (sound : Sound call) {place : Place} (there : call.reader.place = place) : Placed call place :=
  there ▸ sound.placed

theorem retryOpen (deadline time : Instant) : Sound (.retryOpen deadline time) where
  grounded before event after same := by simp [Call.retryOpen] at same
  few := Nat.zero_le _
  tallied := Nat.zero_le _
  growing := Nat.le_refl _
  clean rechecked := by cases rechecked
  missing error missing := by cases missing
  placed := ⟨by simp [Call.Running, Call.retryOpen], Nat.le_refl 0⟩

variable {reader : Reader} {time : Instant}

theorem grounds (sound : Sound call) (turn : Turn call event reader time) : Grounded call.events event := by
  have opens (opening : call.reader.place = .opening) : recent call.events < 10 := by
    obtain ⟨-, few⟩ := sound.at_place opening
    have denied := sound.few
    have looked : call.reader.rechecked.toNat ≤ 1 := Bool.toNat_le _
    dsimp only [DENIED_RETRIES] at denied
    omega
  have checks {error : IoError} (missed : call.reader.place = .missed error) :
      ∃ earlier error, call.events = earlier ++ [.opened (.error error)] ∧ error.kind = .notFound := by
    obtain ⟨-, kind, -, -, earlier, same, -⟩ := sound.at_place missed
    exact ⟨earlier, error, same, kind⟩
  cases turn with
  | found opening => exact opens opening
  | denied opening => exact opens opening
  | missed opening => exact opens opening
  | failed opening => exact opens opening
  | published missed => exact checks missed
  | rechecks missed => exact checks missed
  | concluded missed => exact checks missed
  | late pausing => exact (sound.at_place pausing).2.1
  | naps pausing => exact (sound.at_place pausing).2.1
  | overran napping => exact (sound.at_place napping).2.1
  | woke napping => exact (sound.at_place napping).2.1

theorem running (sound : Sound call) (turn : Turn call event reader time) : call.Running := by
  cases turn with
  | found opening => exact (sound.at_place opening).1
  | denied opening => exact (sound.at_place opening).1
  | missed opening => exact (sound.at_place opening).1
  | failed opening => exact (sound.at_place opening).1
  | published missed => exact (sound.at_place missed).1
  | rechecks missed => exact (sound.at_place missed).1
  | concluded missed => exact (sound.at_place missed).1
  | late pausing => exact (sound.at_place pausing).1
  | naps pausing => exact (sound.at_place pausing).1
  | overran napping => exact (sound.at_place napping).1
  | woke napping => exact (sound.at_place napping).1

/-- A denial that is not retried is the ninth. -/
theorem tried (sound : Sound call) {error : IoError}
    (enough : error.rawOsError = some ERROR_ACCESS_DENIED → DENIED_RETRIES ≤ call.reader.denied)
    (denied : error.rawOsError = some ERROR_ACCESS_DENIED) : Tried (call.events ++ [.opened (.error error)]) := by
  have counted : (Event.opened (.error error)).denied = true := by simpa [Event.denied] using denied
  have before := sound.tallied
  have most := enough denied
  unfold Tried
  rw [denials_concat, counted, if_pos rfl]
  omega

end Sound

theorem Call.Running.more (running : call.Running) {reader : Reader} {time : Instant}
    (ongoing : event.Ongoing call.deadline) : (call.after event reader time).Running := by
  intro other member
  rcases List.mem_append.mp member with old | new
  · exact running other old
  · exact List.mem_singleton.mp new ▸ ongoing

theorem not_final {error : IoError} (passing : error.rawOsError = some ERROR_ACCESS_DENIED ∨ error.kind = .notFound) :
    ¬ Final (.error error) :=
  fun final => passing.elim final.1 final.2

namespace Sound

variable {reader : Reader} {time : Instant}

/-- Giving up returns the record's last absence. -/
theorem gives_up (sound : Sound call) (running : call.Running) {now : Instant} (late : call.deadline ≤ now)
    (reads : event.opens = false) :
    Placed (call.after event call.reader.gaveUp now) call.reader.gaveUp.place := by
  refine ⟨.late rfl running reads late, fun error same denied => ?_⟩
  cases missing : call.reader.missing with
  | some last =>
      rw [missing, Option.getD_some, Except.error.injEq] at same
      exact (sound.missing last missing (same ▸ denied)).more event
  | none =>
      rw [missing, Option.getD_none, Except.error.injEq] at same
      rw [← same] at denied
      cases denied

theorem places (sound : Sound call) (turn : Turn call event reader time) :
    Placed (call.after event reader time) reader.place := by
  have running := sound.running turn
  cases turn with
  | found opening =>
      refine ⟨.opened rfl running fun error same => ?_, fun error same => ?_⟩
      · cases same
      · cases same
  | denied opening denied few =>
      obtain ⟨-, recents⟩ := sound.at_place opening
      dsimp only
      rw [opening]
      refine ⟨running.more (not_final (.inl denied)), ?_⟩
      simp only [Call.after, recent_concat, Event.pauses, Event.opens, Bool.false_eq_true, if_false, if_true]
      omega
  | missed opening enough kind =>
      obtain ⟨-, recents⟩ := sound.at_place opening
      refine ⟨running.more (not_final (.inr kind)), kind, sound.tried enough, ?_, call.events, rfl,
        fun rechecked => sound.clean rechecked opening⟩
      simp only [Call.after, recent_concat, Event.pauses, Event.opens, Bool.false_eq_true, if_false, if_true]
      omega
  | failed opening enough kind =>
      refine ⟨.opened rfl running fun error same => ?_, fun error same => ?_⟩
      · cases same
        exact kind
      · cases same
        exact sound.tried enough
  | published missed =>
      obtain ⟨-, kind, -, -, earlier, same, -⟩ := sound.at_place missed
      refine ⟨running.more trivial, ⟨earlier, _, ?_, kind⟩, rfl⟩
      simp [Call.after, same]
  | rechecks missed fresh =>
      obtain ⟨-, -, -, recents, -⟩ := sound.at_place missed
      refine ⟨running.more trivial, ?_⟩
      rw [fresh] at recents
      simpa [Call.after, recent_concat, Event.pauses, Event.opens] using recents
  | concluded missed rechecked =>
      obtain ⟨-, kind, tried, -, earlier, same, clean⟩ := sound.at_place missed
      refine ⟨.missed (running.more trivial) ⟨earlier, _, ?_, kind, clean rechecked⟩, fun error same denied => ?_⟩
      · simp [Call.after, same, Miss]
      · cases same
        exact (tried denied).more _
  | late pausing late => exact sound.gives_up running late rfl
  | naps pausing later early =>
      refine ⟨running.more early, ⟨call.events, _, rfl⟩, (sound.at_place pausing).2.2, ?_⟩
      have growing := sound.growing
      dsimp only [Call.after, Instant, Duration] at *
      omega
  | overran napping late => exact sound.gives_up running late rfl
  | woke napping passed early =>
      obtain ⟨-, ⟨earlier, now, same⟩, -⟩ := sound.at_place napping
      refine ⟨running.more early, ?_⟩
      simp only [Call.after, same, recent_concat, Event.pauses, Event.opens, if_true, Bool.false_eq_true, if_false]
      exact Nat.zero_le _

theorem after (sound : Sound call) (turn : Turn call event reader time) : Sound (call.after event reader time) where
  grounded before other after same := by
    rcases List.eq_nil_or_concat after with rfl | ⟨rest, last, rfl⟩
    · obtain ⟨rfl, last⟩ := List.append_inj' same rfl
      cases last
      exact sound.grounds turn
    · rw [List.concat_eq_append, ← List.cons_append, ← List.append_assoc] at same
      exact sound.grounded before other rest (List.append_inj' same rfl).1
  few := by
    have few := sound.few
    cases turn with
    | denied opening denied room => exact room
    | _ => exact few
  tallied := by
    have tallied := sound.tallied
    have more := denials_concat call.events event
    cases turn with
    | denied opening denied =>
        simp only [Call.after]
        rw [more]
        simpa [Event.denied, denied] using tallied
    | _ =>
        simp only [Call.after, Reader.gaveUp]
        omega
  growing := by
    have growing := sound.growing
    cases turn with
    | naps =>
        dsimp only [Call.after, Backoff.FIRST, Backoff.LONGEST, Duration] at *
        omega
    | _ => exact growing
  clean rechecked opening := by
    cases turn with
    | found => cases opening
    | denied place => exact (sound.clean rechecked place).more (by simp)
    | missed => cases opening
    | failed => cases opening
    | published => cases opening
    | rechecks missed =>
        obtain ⟨-, kind, -, -, earlier, same, -⟩ := sound.at_place missed
        exact ⟨earlier, _, [], by simp [Call.after, same, Miss], kind, by simp⟩
    | concluded => cases opening
    | late => cases opening
    | naps => cases opening
    | overran => cases opening
    | woke napping =>
        have looked : call.reader.rechecked = true := rechecked
        rw [(sound.at_place napping).2.2.1] at looked
        cases looked
  missing error missing denied := by
    cases turn with
    | published missed =>
        obtain ⟨-, -, tried, -⟩ := sound.at_place missed
        cases missing
        exact (tried denied).more _
    | _ => exact (sound.missing error missing denied).more _
  placed := sound.places turn

end Sound

/-! ## What a call uses up -/

/-- What is left to do until the next pause is over. -/
def rest (rechecked : Bool) : Place → Nat
  | .opening => if rechecked then 4 else 6
  | .missed _ => if rechecked then 3 else 5
  | .pausing => 2
  | .napping _ => 1
  | .returned _ => 0

def Call.potential (call : Call) : Nat :=
  10 * call.rounds + (DENIED_RETRIES - call.reader.denied) + rest call.reader.rechecked call.reader.place

theorem rest_pos (rechecked : Bool) {place : Place} (running : ∀ result, place ≠ .returned result) :
    0 < rest rechecked place := by
  cases place with
  | returned result => exact absurd rfl (running result)
  | _ => cases rechecked <;> simp [rest]

theorem potential_lt {reader : Reader} {time : Instant} (less : call.deadline - time ≤ call.deadline - call.time)
    (denied : reader.denied = call.reader.denied) {place : Place} (there : call.reader.place = place)
    (fewer : rest reader.rechecked reader.place < rest call.reader.rechecked place) :
    (call.after event reader time).potential < call.potential := by
  have rounds : (call.after event reader time).rounds ≤ call.rounds :=
    Nat.div_le_div_right (Nat.add_le_add_right less _)
  unfold Call.potential
  simp only [Call.after, there] at *
  omega

/-- A pause that ended before the deadline took a round. -/
theorem rounds_woke {reader : Reader} {now ends : Instant} (passed : ends ≤ now) (early : now < call.deadline)
    (planned : call.time + Backoff.FIRST ≤ ends ∨ call.deadline ≤ ends) :
    (call.after event reader now).rounds + 1 ≤ call.rounds := by
  dsimp only [Call.rounds, Call.after, Backoff.FIRST, Instant, Duration] at *
  omega

/-- Every event uses up some of what is left. -/
theorem Sound.uses (sound : Sound call) {reader : Reader} {time : Instant}
    (turn : Turn call event reader time) : (call.after event reader time).potential < call.potential := by
  have none_left {now : Instant} (late : call.deadline ≤ now) : call.deadline - now ≤ call.deadline - call.time :=
    Nat.sub_eq_zero_of_le late ▸ Nat.zero_le _
  cases turn with
  | found opening => exact potential_lt (Nat.le_refl _) rfl opening (rest_pos _ (by simp))
  | denied opening denied few =>
      unfold Call.potential
      dsimp only [Call.after, Call.rounds] at *
      omega
  | missed opening =>
      refine potential_lt (Nat.le_refl _) rfl opening ?_
      cases call.reader.rechecked <;> simp [rest]
  | failed opening => exact potential_lt (Nat.le_refl _) rfl opening (rest_pos _ (by simp))
  | published missed =>
      refine potential_lt (Nat.le_refl _) rfl missed ?_
      cases call.reader.rechecked <;> simp [rest]
  | rechecks missed fresh =>
      refine potential_lt (Nat.le_refl _) rfl missed ?_
      simp [rest, fresh]
  | concluded missed => exact potential_lt (Nat.le_refl _) rfl missed (rest_pos _ (by simp))
  | late pausing late => exact potential_lt (none_left late) rfl pausing (rest_pos _ (by simp))
  | naps pausing later => exact potential_lt (Nat.sub_le_sub_left later _) rfl pausing (by simp [rest])
  | overran napping late => exact potential_lt (none_left late) rfl napping (rest_pos _ (by simp))
  | woke napping passed early =>
      have round : (call.after (.woke time) { call.reader with place := .opening } time).rounds + 1 ≤ call.rounds :=
        rounds_woke passed early (sound.at_place napping).2.2.2.2
      have most : rest call.reader.rechecked .opening ≤ 6 := by
        cases call.reader.rechecked <;> simp [rest]
      unfold Call.potential
      simp only [Call.after] at *
      omega

/-! ## What a call answers -/

/-- Only the last event can be one after which a call does not go on. -/
theorem last_of_not_ongoing {before after start : List Event} {event last : Event} {deadline : Instant}
    (same : start ++ [last] = before ++ event :: after) (ongoing : ∀ other ∈ start, other.Ongoing deadline)
    (ends : ¬ event.Ongoing deadline) : after = [] ∧ event = last := by
  rcases List.eq_nil_or_concat after with rfl | ⟨rest, final, rfl⟩
  · obtain ⟨-, same⟩ := List.append_inj' same rfl
    cases same
    exact ⟨rfl, rfl⟩
  · rw [List.concat_eq_append, ← List.cons_append, ← List.append_assoc] at same
    obtain ⟨rfl, -⟩ := List.append_inj' same rfl
    exact absurd (ongoing event (by simp)) ends

theorem not_running {before after : List Event} (same : call.events = before ++ event :: after)
    (ends : ¬ event.Ongoing call.deadline) (running : call.Running) : False :=
  ends (running event (by simp [same]))

namespace Sound

/-- An event after which a call does not go on is the last one, and the call has returned. -/
theorem settled (sound : Sound call) {before after : List Event} (same : call.events = before ++ event :: after)
    (ends : ¬ event.Ongoing call.deadline) :
    after = [] ∧ ∃ result, call.reader.place = .returned result ∧
      (event = .opened result ∨ event.opens = false ∧ ∃ error, result = .error error) := by
  have stops := not_running same ends
  cases place : call.reader.place with
  | opening => exact (stops (sound.at_place place).1).elim
  | missed => exact (stops (sound.at_place place).1).elim
  | pausing => exact (stops (sound.at_place place).1).elim
  | napping => exact (stops (sound.at_place place).1).elim
  | returned result =>
      obtain ⟨settled, -⟩ := sound.at_place place
      cases settled with
      | opened events ongoing =>
          obtain ⟨last, rfl⟩ := last_of_not_ongoing (events ▸ same) ongoing ends
          exact ⟨last, result, rfl, .inl rfl⟩
      | missed running => exact (stops running).elim
      | @late _ _ error events ongoing reads =>
          obtain ⟨last, rfl⟩ := last_of_not_ongoing (events ▸ same) ongoing ends
          exact ⟨last, .error error, rfl, .inr ⟨reads, error, rfl⟩⟩

theorem nonempty (sound : Sound call) {result : Except IoError File} (returned : call.reader.place = .returned result) :
    call.events ≠ [] := by
  obtain ⟨settled, -⟩ := sound.at_place returned
  cases settled with
  | opened events => simp [events]
  | missed running missing =>
      obtain ⟨before, error, events, -⟩ := missing
      simp [events, Miss]
  | late events => simp [events]

theorem ready (call : Call) : call.Ready := by
  unfold Call.Ready
  split
  · rename_i place
    simp [Call.step, place]
  · rename_i place
    simp [Call.step, place]
  · rename_i place
    intro now later
    simp [Call.step, place, later]
  · rename_i place
    intro now later passed
    simp [Call.step, place, later, passed]
  · trivial

theorem earned (sound : Sound call) : Earned call where
  grounded := sound.grounded
  final before answer after same final := by
    obtain ⟨last, result, returned, opened | ⟨reads, -⟩⟩ := sound.settled same fun ongoing => ongoing final
    · cases opened
      exact ⟨last, returned⟩
    · cases reads
  found file returned := by
    obtain ⟨settled, -⟩ := sound.at_place returned
    cases settled with
    | opened events => simp [events]
  missing error returned kind early := by
    obtain ⟨settled, -⟩ := sound.at_place returned
    cases settled with
    | opened _ _ other => exact absurd kind (other error rfl)
    | missed _ missing => exact missing
    | late _ _ _ late => exact absurd early (Nat.not_lt_of_le late)
  denied error returned := (sound.at_place returned).2 error rfl
  timely ends napping := (sound.at_place napping).2.2.2.1
  late before event after now same reads late := by
    have ends : ¬ event.Ongoing call.deadline := by
      rcases reads with rfl | rfl <;> exact Nat.not_lt_of_le late
    obtain ⟨last, result, returned, opened | ⟨-, error, rfl⟩⟩ := sound.settled same ends
    · rcases reads with rfl | rfl <;> cases opened
    · exact ⟨last, error, returned⟩
  opened result returned := by
    cases events : call.events with
    | nil => exact absurd events (sound.nonempty returned)
    | cons first rest =>
        have ground := sound.grounded [] first rest events
        cases first with
        | opened answer => exact ⟨answer, rest, rfl⟩
        | _ => simp [Grounded] at ground
  ready := ready call

theorem step (sound : Sound call) (stepped : call.step event = some next) :
    Sound next ∧ next.potential < call.potential := by
  obtain ⟨reader, time, turn, rfl⟩ := turn_of_step stepped
  exact ⟨sound.after turn, sound.uses turn⟩

end Sound

/-- Opening a record that is being replaced ends, and its answer is earned. -/
theorem retryOpen_is_earned {deadline time : Instant} {events : List Event} {call : Call}
    (run : replay Call.step events (.retryOpen deadline time) = some call) :
    Earned call ∧ events.length ≤ 10 * (Call.retryOpen deadline time).rounds + 14 := by
  have uses (call : Call) (event : Event) (next : Call) (sound : Sound call) (stepped : call.step event = some next) :
      Sound next ∧ next.potential < call.potential := sound.step stepped
  obtain ⟨sound, bound⟩ := length_replay_le uses (Sound.retryOpen deadline time) run
  exact ⟨sound.earned, Nat.le_trans (Nat.le_add_right _ _) bound⟩

/-- A record that is missing during a publication and after it. -/
def neverPublished (missing : IoError) : List Event :=
  [.opened (.error missing), .checked true, .paused 0, .woke 1_000_000, .opened (.error missing), .checked false,
    .opened (.error missing), .checked false]

def unpublished (missing : IoError) : Call where
  deadline := PUBLISHING
  time := 1_000_000
  reader := { rechecked := true, missing := some missing, pause := 2_000_000, place := .returned (.error missing) }
  events := neverPublished missing

theorem retryOpen_is_earned_after_publication : Earned (unpublished ⟨.notFound, .os 2⟩) := by
  have run : replay Call.step (neverPublished ⟨.notFound, .os 2⟩) (.retryOpen PUBLISHING 0) =
      some (unpublished ⟨.notFound, .os 2⟩) := rfl
  exact (retryOpen_is_earned run).1

end KunobiDaemon.Publication.Windows
