import KunobiDaemon.Lib.Systems
import KunobiDaemon.Publication.Windows

/-! Reading a record while it is replaced again and again, on Windows.

A publication makes a temporary of the record, takes the record's name away while the temporary is
there, and gives it back with the new contents as the temporary goes. An open and a check for a
temporary are two observations. An open that finds no name and a check that finds no temporary show
that a publication ended between them, and such a pair is excused only once.
-/

set_option autoImplicit false

namespace KunobiDaemon.Publication.Windows

open Lib.Systems

/-- How far a publication is. -/
inductive Stage where
  | settled
  /-- The temporary is there, and so is the record. -/
  | written (created : Instant)
  /-- The temporary is there, and the name is gone. -/
  | unnamed (created : Instant)
  deriving DecidableEq, Repr

namespace Stage

def named : Stage → Bool
  | .settled | .written _ => true
  | .unnamed _ => false

def temporaries : Stage → List Instant
  | .settled => []
  | .written created | .unnamed created => [created]

end Stage

/-- An existing record with a call that reads it. -/
structure System where
  record : File
  stage : Stage
  /-- The creation times of temporaries that crashes have left. -/
  leftovers : List Instant
  deadline : Instant
  time : Instant
  reader : Reader := {}

inductive Label where
  | tick (later : Instant)
  | write (created : Instant)
  | unname
  | name (record : File)
  | opens (answer : Except IoError File)
  | check (now : Instant)
  | pause
  | wake

namespace System

/-- What an open may answer. Any error but a missing name may come at any time. -/
def answers (system : System) : Except IoError File → Bool
  | .ok file => file = system.record && system.stage.named
  | .error error => error.kind ≠ .notFound || !system.stage.named

def step (system : System) : Label → Option System
  | .tick later => if system.time ≤ later then some { system with time := later } else none
  | .write created =>
      match system.stage with
      | .settled => some { system with stage := .written created }
      | _ => none
  | .unname =>
      match system.stage with
      | .written created => some { system with stage := .unnamed created }
      | _ => none
  | .name record =>
      match system.stage with
      | .unnamed _ => some { system with record, stage := .settled }
      | _ => none
  | .opens answer =>
      match system.reader.place with
      | .opening =>
          if system.answers answer then some { system with reader := system.reader.opened answer } else none
      | _ => none
  | .check now =>
      match system.reader.place with
      | .missed error =>
          -- The temporary of a publication in progress is recent.
          if system.stage.temporaries.all fun created => fresh created now then
            let temporaries := system.leftovers ++ system.stage.temporaries
            some { system with reader := system.reader.checked error (publishing temporaries now) }
          else none
      | _ => none
  | .pause =>
      match system.reader.place with
      | .pausing => some { system with reader := system.reader.paused system.deadline system.time }
      | _ => none
  | .wake =>
      match system.reader.place with
      | .napping ends =>
          if ends ≤ system.time then
            some { system with reader := system.reader.woke system.deadline system.time }
          else none
      | _ => none

end System

/-- A call of `retry_open` at some moment of a record's life. -/
def System.retryOpen (record : File) (stage : Stage) (leftovers : List Instant) (deadline time : Instant) : System where
  record
  stage
  leftovers
  deadline
  time

def System.openRecord (record : File) (stage : Stage) (leftovers : List Instant) (time : Instant) : System :=
  .retryOpen record stage leftovers (time + PUBLISHING) time

variable {s t : System} {label : Label}

/-- The record is reported missing only at the deadline. -/
structure Present (s : System) : Prop where
  opened : ∀ error, s.reader.place = .returned (.error error) → error.kind = .notFound → s.deadline ≤ s.time
  read : ∀ limit result, s.reader.place = .returned result → readRegular limit result = .ok none → s.deadline ≤ s.time

theorem present_of_opened
    (opened : ∀ error, s.reader.place = .returned (.error error) → error.kind = .notFound → s.deadline ≤ s.time) :
    Present s where
  opened
  read limit result returned missing := by
    obtain ⟨error, rfl, kind⟩ := readRegular_eq_none missing
    exact opened error returned kind

theorem present_of_late (late : s.deadline ≤ s.time) : Present s := present_of_opened fun _ _ _ => late

/-- A publication ends between the second open that finds no record and the check that follows it. -/
def slips (s : System) : Label → Bool
  | .name _ =>
      match s.reader.place with
      | .missed _ => s.reader.rechecked
      | _ => false
  | _ => false

def Unslipped (s : System) (label : Label) : Prop := slips s label = false

instance (s : System) (label : Label) : Decidable (Unslipped s label) :=
  inferInstanceAs (Decidable (slips s label = false))

/-- Whether a call at a place has neither returned nor missed the record. -/
def Place.seeks : Place → Bool
  | .opening | .pausing | .napping _ => true
  | .missed _ | .returned _ => false

/-- Whether a call at a place is about to check for a publication. -/
def Place.misses : Place → Bool
  | .missed _ => true
  | .opening | .pausing | .napping _ | .returned _ => false

/-- What a call of `retry_open` keeps: while it looks a second time, the name it missed is still missing. -/
structure Wary (s : System) : Prop where
  present : Present s
  missed : ∀ error, s.reader.place = .missed error → error.kind = .notFound ∧
    (s.reader.rechecked = true → s.stage.named = false)

theorem wary_retryOpen (record : File) (stage : Stage) (leftovers : List Instant) (deadline time : Instant) :
    Wary (.retryOpen record stage leftovers deadline time) where
  present := present_of_opened fun error returned => by cases returned
  missed error missed := by cases missed

namespace Wary

theorem of_place (present : Present t) (elsewhere : t.reader.place.misses = false) : Wary t where
  present
  missed error missed := by
    rw [missed] at elsewhere
    cases elsewhere

/-- A call that goes on. -/
theorem goes (seeks : t.reader.place.seeks = true) : Wary t := by
  refine of_place (present_of_opened fun error returned => ?_) ?_
  · rw [returned] at seeks
    cases seeks
  · generalize t.reader.place = place at seeks
    cases place with
    | missed => cases seeks
    | _ => rfl

theorem opens {answer : Except IoError File} (opening : s.reader.place = .opening)
    (answers : s.answers answer = true) : Wary { s with reader := s.reader.opened answer } := by
  cases answer with
  | ok file =>
      refine of_place (present_of_opened fun error returned => ?_) rfl
      cases returned
  | error error =>
      unfold Reader.opened
      dsimp only
      split
      · refine goes ?_
        dsimp only
        rw [opening]
        rfl
      · split
        · rename_i kind
          refine ⟨present_of_opened fun _ returned => (by cases returned), ?_⟩
          rintro _ ⟨⟩
          refine ⟨kind, fun _ => ?_⟩
          simpa [System.answers, kind] using answers
        · rename_i kind
          refine of_place (present_of_opened ?_) rfl
          rintro _ ⟨⟩ missing
          exact absurd missing kind

theorem check (wary : Wary s) {error : IoError} {now : Instant} (missed : s.reader.place = .missed error)
    (recent : (s.stage.temporaries.all fun created => fresh created now) = true) :
    Wary { s with
      reader := s.reader.checked error (publishing (s.leftovers ++ s.stage.temporaries) now) } := by
  unfold Reader.checked
  split
  · exact goes rfl
  · rename_i idle
    split
    · -- The name was missing since the second open, so there is a recent temporary.
      rename_i rechecked
      have gone := (wary.missed error missed).2 rechecked
      cases stage : s.stage with
      | settled | written =>
          rw [stage] at gone
          cases gone
      | unnamed created =>
          rw [stage] at recent idle
          refine absurd (List.any_eq_true.mpr ⟨created, ?_, ?_⟩) idle
          · exact List.mem_append_right _ List.mem_cons_self
          · exact List.all_eq_true.mp recent created List.mem_cons_self
    · exact goes rfl

theorem pauses : Wary { s with reader := s.reader.paused s.deadline s.time } := by
  unfold Reader.paused
  split
  · rename_i none
    exact of_place (present_of_late (Backoff.nextPause_eq_none.mp none)) rfl
  · exact goes rfl

theorem wakes : Wary { s with reader := s.reader.woke s.deadline s.time } := by
  unfold Reader.woke
  split
  · rename_i none
    exact of_place (present_of_late (Nat.le_of_sub_eq_zero none)) rfl
  · exact goes rfl

theorem step (wary : Wary s) (unslipped : Unslipped s label) (stepped : s.step label = some t) : Wary t := by
  cases label with
  | tick later =>
      simp only [System.step, Option.ite_none_right_eq_some, Option.some.injEq] at stepped
      obtain ⟨onward, rfl⟩ := stepped
      refine ⟨present_of_opened fun error returned missing => ?_, wary.missed⟩
      exact Nat.le_trans (wary.present.opened error returned missing) onward
  | write created =>
      simp only [System.step] at stepped
      split at stepped <;> cases stepped
      rename_i settled
      refine ⟨present_of_opened wary.present.opened, fun error missed => ?_⟩
      have before := wary.missed error missed
      rw [settled] at before
      exact ⟨before.1, fun rechecked => nomatch before.2 rechecked⟩
  | unname =>
      simp only [System.step] at stepped
      split at stepped <;> cases stepped
      exact ⟨present_of_opened wary.present.opened, fun error missed => ⟨(wary.missed error missed).1, fun _ => rfl⟩⟩
  | name record =>
      simp only [System.step] at stepped
      split at stepped <;> cases stepped
      refine ⟨present_of_opened wary.present.opened, fun error missed => ?_⟩
      refine ⟨(wary.missed error missed).1, fun rechecked => ?_⟩
      simp only [Unslipped, slips] at unslipped
      dsimp only at missed rechecked
      rw [missed, rechecked] at unslipped
      cases unslipped
  | opens answer =>
      simp only [System.step] at stepped
      split at stepped
      · rename_i opening
        simp only [Option.ite_none_right_eq_some, Option.some.injEq] at stepped
        obtain ⟨answers, rfl⟩ := stepped
        exact opens opening answers
      · cases stepped
  | check now =>
      simp only [System.step] at stepped
      split at stepped
      · rename_i error missed
        simp only [Option.ite_none_right_eq_some, Option.some.injEq] at stepped
        obtain ⟨recent, rfl⟩ := stepped
        exact wary.check missed recent
      · cases stepped
  | pause =>
      simp only [System.step] at stepped
      split at stepped <;> cases stepped
      exact pauses
  | wake =>
      simp only [System.step] at stepped
      split at stepped
      · simp only [Option.ite_none_right_eq_some, Option.some.injEq] at stepped
        obtain ⟨-, rfl⟩ := stepped
        exact wakes
      · cases stepped

/-- A publication that slips away is taken for a record that is not there. -/
theorem slipped (wary : Wary s) (slipped : ¬ Unslipped s label) (stepped : s.step label = some t)
    {now : Instant} (clean : publishing s.leftovers now = false) (early : t.time < t.deadline) :
    ∃ u, t.step (.check now) = some u ∧ ¬ Present u := by
  rw [Unslipped, Bool.not_eq_false] at slipped
  cases label with
  | name record =>
      simp only [slips] at slipped
      split at slipped
      · rename_i error missed
        simp only [System.step] at stepped
        split at stepped <;> cases stepped
        refine ⟨{ s with record, stage := .settled, reader := s.reader.checked error false }, ?_, fun present => ?_⟩
        · simp [System.step, missed, Stage.temporaries, clean]
        · refine absurd (present.opened error ?_ (wary.missed error missed).1) (Nat.not_le.mpr early)
          simp [Reader.checked, slipped]
      · cases slipped
  | _ => cases slipped

end Wary

/-- In every run in which no publication slips away from a second look, the record is never reported
missing before the deadline; and where one does, it is, unless a crash has left a recent temporary. -/
theorem replaced_record_is_found (record : File) (stage : Stage) (leftovers : List Instant) (deadline time : Instant) :
    (∀ s, Path System.step Unslipped (.retryOpen record stage leftovers deadline time) s → Present s) ∧
    (∀ s label t, Path System.step Unslipped (.retryOpen record stage leftovers deadline time) s → ¬ Unslipped s label →
      s.step label = some t → ∀ now, publishing s.leftovers now = false → t.time < t.deadline →
      ∃ u, t.step (.check now) = some u ∧ ¬ Present u) := by
  have wary {s : System} (reached : Path System.step Unslipped (.retryOpen record stage leftovers deadline time) s) : Wary s :=
    reached.invariant (fun _ _ _ wary unslipped stepped => wary.step unslipped stepped)
      (wary_retryOpen record stage leftovers deadline time)
  refine ⟨fun s reached => (wary reached).present, ?_⟩
  intro s label t reached slips stepped now clean early
  exact (wary reached).slipped slips stepped clean early

/-- Two publications in a row, each of which ends between an open and its check. -/
theorem replaced_twice_is_missing :
    ∃ s : System, Path System.step Any (.openRecord ⟨true, [1]⟩ .settled [] 0) s ∧ s.time < s.deadline ∧ ¬ Present s := by
  have reached : Path System.step Any (.openRecord ⟨true, [1]⟩ .settled [] 0) _ :=
    path_of_replay
      [.write 0, .unname, .opens (.error ⟨.notFound, .os 2⟩), .name ⟨true, [2]⟩, .check 0,
        .write 0, .unname, .opens (.error ⟨.notFound, .os 2⟩), .name ⟨true, [3]⟩, .check 0] rfl
  refine ⟨_, reached, by decide, fun present => ?_⟩
  exact absurd (present.opened _ rfl rfl) (by decide)

end KunobiDaemon.Publication.Windows
