import KunobiDaemon.Lib.Streams
import KunobiDaemon.Lib.Systems

/-! Two programs joined by a reliable first-in first-out byte stream in each direction.

A side that returned an error has closed its end. `Move` is the transport: bytes go and
come in pieces of any size, and a write to a closed end may or may not be noticed. `Tick`
moves one byte at a time and never notices. The steps of the two sides commute, so one run
of `Tick` that ends decides every run, and a noticed failure only ends a run early.
-/

set_option autoImplicit false

namespace Lib.Duplex

open Lib.Streams
open Lib.Systems

variable {E A : Type}

structure Net (E A : Type) where
  left : Process E (Except E A)
  right : Process E (Except E A)
  toLeft : List UInt8
  toRight : List UInt8

/-- Whether a side has closed its end. -/
def gone : Process E (Except E A) → Bool
  | .done (.error _) => true
  | _ => false

/-- One step of one side, as the transport allows it: what it is left with, what it has
left to read and what it sent. -/
inductive Io (faults : Faults E) (closed : Bool) :
    Process E (Except E A) → List UInt8 → Process E (Except E A) → List UInt8 → List UInt8 → Prop where
  -- A write hands over a piece at a time, and returns when nothing is left of it.
  | wrote {chunk rest inbox : List UInt8} {next : Except E Unit → Process E (Except E A)} : chunk ≠ [] →
      Io faults closed (.write (chunk ++ rest) next) inbox (.write rest next) inbox chunk
  | written {inbox : List UInt8} {next : Except E Unit → Process E (Except E A)} :
      Io faults closed (.write [] next) inbox (next (.ok ())) inbox []
  | flushed {inbox : List UInt8} {next : Except E Unit → Process E (Except E A)} :
      Io faults closed (.flush next) inbox (next (.ok ())) inbox []
  -- A read takes what is there, and returns when it has all it asked for.
  | took {chunk rest : List UInt8} {count : Nat} {next : Except E (List UInt8) → Process E (Except E A)} :
      chunk ≠ [] → Io faults closed (.read (count + chunk.length) next) (chunk ++ rest)
        (.read count fun reply => next (reply.map (chunk ++ ·))) rest []
  | filled {inbox : List UInt8} {next : Except E (List UInt8) → Process E (Except E A)} :
      Io faults closed (.read 0 next) inbox (next (.ok [])) inbox []
  -- The other end is closed: seen by a reader when all is read, by a writer at any time.
  | ended {count : Nat} {next : Except E (List UInt8) → Process E (Except E A)} : closed = true →
      Io faults closed (.read (count + 1) next) [] (next (.error faults.eof)) [] []
  | writeFailed {bytes inbox : List UInt8} {next : Except E Unit → Process E (Except E A)} : closed = true →
      Io faults closed (.write bytes next) inbox (next (.error faults.broken)) inbox []
  | flushFailed {inbox : List UInt8} {next : Except E Unit → Process E (Except E A)} : closed = true →
      Io faults closed (.flush next) inbox (next (.error faults.broken)) inbox []

inductive Move (faults : Faults E) (net : Net E A) : Net E A → Prop where
  | left {side : Process E (Except E A)} {inbox sent : List UInt8} :
      Io faults (gone net.right) net.left net.toLeft side inbox sent →
      Move faults net ⟨side, net.right, inbox, net.toRight ++ sent⟩
  | right {side : Process E (Except E A)} {inbox sent : List UInt8} :
      Io faults (gone net.left) net.right net.toRight side inbox sent →
      Move faults net ⟨net.left, side, net.toLeft ++ sent, inbox⟩

inductive Tick (faults : Faults E) (net : Net E A) : Net E A → Prop where
  | left {side : Process E (Except E A)} {inbox sent : List UInt8} :
      tick faults (gone net.right) net.left net.toLeft = some (side, inbox, sent) →
      Tick faults net ⟨side, net.right, inbox, net.toRight ++ sent⟩
  | right {side : Process E (Except E A)} {inbox sent : List UInt8} :
      tick faults (gone net.left) net.right net.toRight = some (side, inbox, sent) →
      Tick faults net ⟨net.left, side, net.toLeft ++ sent, inbox⟩

section
variable {faults : Faults E} {closed : Bool} {side next : Process E (Except E A)} {inbox rest sent : List UInt8}

/-- A side that moves has not closed its end. -/
theorem gone_of_tick (stepped : tick faults closed side inbox = some (next, rest, sent)) : gone side = false := by
  cases ticked stepped <;> rfl

/-- More bytes behind those a side can see, and an end that closes later, change no step. -/
theorem tick_frame (stepped : tick faults false side inbox = some (next, rest, sent)) (closed : Bool)
    (more : List UInt8) : tick faults closed side (inbox ++ more) = some (next, rest ++ more, sent) := by
  cases ticked stepped with
  | gave | written | flushed | took | filled => rfl
  | ended shut => cases shut

end

theorem diamond (faults : Faults E) : Diamond (Tick faults (A := A)) := by
  intro net first second one other
  cases one with
  | left ticked =>
      cases other with
      | left also =>
          rw [ticked] at also
          cases also
          exact .inl rfl
      | right also =>
          -- Each moves, so neither has closed, and what one writes comes after all the other sees.
          rw [gone_of_tick ticked] at also
          rw [gone_of_tick also] at ticked
          exact .inr ⟨_, .right (tick_frame also _ _), .left (tick_frame ticked _ _)⟩
  | right ticked =>
      cases other with
      | left also =>
          rw [gone_of_tick ticked] at also
          rw [gone_of_tick also] at ticked
          exact .inr ⟨_, .left (tick_frame also _ _), .right (tick_frame ticked _ _)⟩
      | right also =>
          rw [ticked] at also
          cases also
          exact .inl rfl

section
variable {faults : Faults E} {left right side : Process E (Except E A)} {inbox rest sent : List UInt8}

/-- What one side does alone is a run of both. -/
theorem ticks_left (waiting : List UInt8) (runs : Runs faults (gone right) left inbox side rest sent) :
    Relation.ReflTransGen (Tick faults) ⟨left, right, inbox, waiting⟩ ⟨side, right, rest, waiting ++ sent⟩ := by
  induction runs generalizing waiting with
  | stay =>
      rw [List.append_nil]
  | step ticked _ ih =>
      rw [← List.append_assoc]
      exact .head (.left ticked) (ih _)

theorem ticks_right (waiting : List UInt8) (runs : Runs faults (gone left) right inbox side rest sent) :
    Relation.ReflTransGen (Tick faults) ⟨left, right, waiting, inbox⟩ ⟨left, side, waiting ++ sent, rest⟩ := by
  induction runs generalizing waiting with
  | stay =>
      rw [List.append_nil]
  | step ticked _ ih =>
      rw [← List.append_assoc]
      exact .head (.right ticked) (ih _)

end

section
variable {faults : Faults E} {closed : Bool} {side next last : Process E (Except E A)}
variable {inbox rest sent left : List UInt8}

theorem runs_wrote (chunk rest : List UInt8) (after : Except E Unit → Process E (Except E A)) (inbox : List UInt8) :
    Runs faults closed (.write (chunk ++ rest) after) inbox (.write rest after) inbox chunk := by
  induction chunk with
  | nil => exact .stay
  | cons byte chunk ih => exact .cons rfl ih rfl

/-- Taking a chunk is taking its first byte and then the rest. -/
theorem map_cons_append (byte : UInt8) (chunk : List UInt8)
    (after : Except E (List UInt8) → Process E (Except E A)) :
    (fun reply : Except E (List UInt8) => after (reply.map (byte :: chunk ++ ·))) =
      fun reply => after ((reply.map (chunk ++ ·)).map (byte :: ·)) := by
  funext reply
  cases reply <;> rfl

theorem runs_took (chunk rest : List UInt8) (count : Nat) (after : Except E (List UInt8) → Process E (Except E A)) :
    Runs faults closed (.read (count + chunk.length) after) (chunk ++ rest)
      (.read count fun reply => after (reply.map (chunk ++ ·))) rest [] := by
  induction chunk generalizing after with
  | nil =>
      have same : (fun reply => after (reply.map ([] ++ ·))) = after := by
        funext reply
        cases reply <;> rfl
      rw [same]
      exact .stay
  | cons byte chunk ih =>
      rw [map_cons_append]
      exact .cons rfl (ih fun reply => after (reply.map (byte :: ·))) rfl

/-- A side finds the other end closed when it writes or flushes. -/
def Breaks (faults : Faults E) (side next : Process E (Except E A)) : Prop :=
  (∃ bytes after, side = .write bytes after ∧ next = after (.error faults.broken)) ∨
    ∃ after, side = .flush after ∧ next = after (.error faults.broken)

/-- A step of the transport is at least one byte step, or the discovery of a closed end. -/
theorem Io.ticks (io : Io faults closed side inbox next rest sent) :
    (∃ middle left first more, tick faults closed side inbox = some (middle, left, first) ∧
      Runs faults closed middle left next rest more ∧ first ++ more = sent) ∨
    (closed = true ∧ Breaks faults side next ∧ rest = inbox ∧ sent = []) := by
  cases io with
  | wrote some =>
      rename_i left after
      cases sent with
      | nil => exact absurd rfl some
      | cons byte chunk => exact .inl ⟨_, _, [byte], chunk, rfl, runs_wrote chunk left after _, rfl⟩
  | written | flushed | filled => exact .inl ⟨_, _, [], [], rfl, .stay, rfl⟩
  | took some =>
      rename_i chunk count after
      cases chunk with
      | nil => exact absurd rfl some
      | cons byte chunk =>
          rw [map_cons_append]
          exact .inl ⟨_, _, [], [], rfl, runs_took chunk rest count fun reply => after (reply.map (byte :: ·)), rfl⟩
  | ended shut => exact .inl ⟨_, _, [], [], by rw [tick, if_pos shut], .stay, rfl⟩
  | writeFailed shut => exact .inr ⟨shut, .inl ⟨_, _, rfl, rfl⟩, rfl, rfl⟩
  | flushFailed shut => exact .inr ⟨shut, .inr ⟨_, rfl, rfl⟩, rfl, rfl⟩

theorem io_of_tick (stepped : tick faults closed side inbox = some (next, rest, sent)) :
    Io faults closed side inbox next rest sent := by
  cases ticked stepped with
  | @gave byte _ _ _ => exact Io.wrote (List.cons_ne_nil byte [])
  | written => exact .written
  | flushed => exact .flushed
  | @took byte _ _ _ => exact Io.took (List.cons_ne_nil byte [])
  | filled => exact .filled
  | ended shut => exact .ended shut

/-- A side that finds the other end closed returns an error at once. -/
inductive Strict : Process E (Except E A) → Prop where
  | done {result : Except E A} : Strict (.done result)
  | write {bytes : List UInt8} {next : Except E Unit → Process E (Except E A)} :
      (∀ error, gone (next (.error error)) = true) → (∀ reply, Strict (next reply)) → Strict (.write bytes next)
  | flush {next : Except E Unit → Process E (Except E A)} :
      (∀ error, gone (next (.error error)) = true) → (∀ reply, Strict (next reply)) → Strict (.flush next)
  | read {count : Nat} {next : Except E (List UInt8) → Process E (Except E A)} :
      (∀ reply, Strict (next reply)) → Strict (.read count next)

theorem strict_attempt {B : Type} {result : Except E B} {next : B → Process E (Except E A)}
    (strict : ∀ value, Strict (next value)) : Strict (.attempt result next) := by
  cases result with
  | error => exact .done
  | ok value => exact strict value

theorem Strict.io (strict : Strict side) (io : Io faults closed side inbox next rest sent) : Strict next := by
  cases strict with
  | done => cases io
  | write fails strict =>
      cases io with
      | wrote => exact .write fails strict
      | written | writeFailed => exact strict _
  | flush fails strict =>
      cases io with
      | flushed | flushFailed => exact strict _
  | read strict =>
      cases io with
      | took => exact .read fun _ => strict _
      | filled | ended => exact strict _

theorem Strict.breaks (strict : Strict side) (breaks : Breaks faults side next) : gone next = true := by
  obtain ⟨bytes, after, rfl, rfl⟩ | ⟨after, rfl, rfl⟩ := breaks
  · cases strict with
    | write fails _ => exact fails _
  · cases strict with
    | flush fails _ => exact fails _

theorem done_of_gone (closed : gone side = true) : ∃ error, side = .done (.error error) := by
  match side, closed with
  | .done (.error error), _ => exact ⟨error, rfl⟩

/-- A run of one side over any transport, with what it wrote. -/
inductive Ios (faults : Faults E) (closed : Bool) :
    Process E (Except E A) → List UInt8 → Process E (Except E A) → List UInt8 → List UInt8 → Prop where
  | stay {side : Process E (Except E A)} {inbox : List UInt8} : Ios faults closed side inbox side inbox []
  | step {side middle last : Process E (Except E A)} {inbox rest left sent more : List UInt8} :
      Io faults closed side inbox middle rest sent → Ios faults closed middle rest last left more →
      Ios faults closed side inbox last left (sent ++ more)

/-- Over any transport a side writes no more than over one that never fails it. -/
theorem Ios.sent_prefix (ios : Ios faults closed side inbox last left sent) (strict : Strict side) :
    sent <+: (eval faults side inbox).sent := by
  induction ios with
  | stay => exact List.nil_prefix
  | step io rest ih =>
      obtain ⟨middle, mid, first, more, ticked, runs, rfl⟩ | ⟨-, breaks, -, rfl⟩ := io.ticks
      · rw [eval_runs (.step ticked runs)]
        exact (List.prefix_append_right_inj _).mpr (ih (strict.io io))
      · -- The side has returned its error, so nothing follows.
        obtain ⟨error, rfl⟩ := done_of_gone (strict.breaks breaks)
        cases rest with
        | stay => exact List.nil_prefix
        | step io _ => cases io

/-- What a side writes to a peer that sends the bytes: all of it, unless the transport fails it. -/
def Replies (faults : Faults E) (side : Process E (Except E A)) (bytes all : List UInt8) : Prop :=
  (eval faults side bytes).sent = all ∧
    ∀ closed last rest sent, Ios faults closed side bytes last rest sent → sent <+: all

theorem replies (strict : Strict side) (bytes : List UInt8) :
    Replies faults side bytes (eval faults side bytes).sent :=
  ⟨rfl, fun _ _ _ _ ios => ios.sent_prefix strict⟩

def waits : Process E (Except E A) → Bool
  | .read (_ + 1) _ => true
  | _ => false

theorem gone_of_waits (waiting : waits side = true) : gone side = false := by
  match side, waiting with
  | .read (_ + 1) _, _ => rfl

theorem not_io_of_waits (waiting : waits side = true) : ¬ Io faults false side [] next rest sent := by
  intro io
  obtain ⟨middle, left, first, more, ticked, -, -⟩ | ⟨shut, -⟩ := io.ticks
  · match side, waiting with
    | .read (count + 1) after, _ => cases ticked
  · cases shut

theorem not_io_of_gone (returned : gone side = true) : ¬ Io faults closed side inbox next rest sent := by
  intro io
  obtain ⟨error, rfl⟩ := done_of_gone returned
  cases io

end

section
variable {faults : Faults E} {net next init final : Net E A}

theorem move_of_tick (ticked : Tick faults net next) : Move faults net next := by
  cases ticked with
  | left ticked => exact .left (io_of_tick ticked)
  | right ticked => exact .right (io_of_tick ticked)

/-- Both sides return an error at once when they find the other end closed. -/
structure Net.Strict (net : Net E A) : Prop where
  left : Duplex.Strict net.left
  right : Duplex.Strict net.right

theorem Net.Strict.move (strict : net.Strict) (moved : Move faults net next) : next.Strict := by
  cases moved with
  | left io => exact ⟨strict.left.io io, strict.right⟩
  | right io => exact ⟨strict.left, strict.right.io io⟩

/-- Both sides have returned an error. -/
def Net.failed (net : Net E A) : Prop := gone net.left = true ∧ gone net.right = true

theorem Net.failed.stuck (failed : net.failed) : ¬ Move faults net next := by
  intro moved
  cases moved with
  | left io => exact not_io_of_gone failed.1 io
  | right io => exact not_io_of_gone failed.2 io

/-- Both wait for bytes, and none are on the way. -/
structure Net.Deadlocked (net : Net E A) : Prop where
  left : waits net.left = true
  right : waits net.right = true
  toLeft : net.toLeft = []
  toRight : net.toRight = []

theorem Net.Deadlocked.stuck (deadlocked : net.Deadlocked) : ¬ Move faults net next := by
  intro moved
  cases moved with
  | left io =>
      rw [gone_of_waits deadlocked.right, deadlocked.toLeft] at io
      exact not_io_of_waits deadlocked.left io
  | right io =>
      rw [gone_of_waits deadlocked.left, deadlocked.toRight] at io
      exact not_io_of_waits deadlocked.right io

/-- A move is at least one byte step, or ends the run because one side had failed. -/
theorem Move.ticks (moved : Move faults net next) (strict : net.Strict) :
    (∃ count, Steps (Tick faults) (count + 1) net next) ∨
    (next.failed ∧ (gone net.left = true ∨ gone net.right = true)) := by
  cases moved with
  | left io =>
      obtain ⟨middle, inbox, first, more, ticked, runs, rfl⟩ | ⟨shut, breaks, -, -⟩ := io.ticks
      · obtain ⟨count, steps⟩ := Steps.of_reflTransGen (ticks_left (net.toRight ++ first) runs)
        rw [List.append_assoc] at steps
        exact .inl ⟨count, .succ (.left ticked) steps⟩
      · exact .inr ⟨⟨strict.left.breaks breaks, shut⟩, .inr shut⟩
  | right io =>
      obtain ⟨middle, inbox, first, more, ticked, runs, rfl⟩ | ⟨shut, breaks, -, -⟩ := io.ticks
      · obtain ⟨count, steps⟩ := Steps.of_reflTransGen (ticks_right (net.toLeft ++ first) runs)
        rw [List.append_assoc] at steps
        exact .inl ⟨count, .succ (.right ticked) steps⟩
      · exact .inr ⟨⟨shut, strict.right.breaks breaks⟩, .inl shut⟩

/-- A side that has returned stays as it is. -/
theorem gone_steps {count : Nat} (steps : Steps (Tick faults) count net next) :
    (gone net.left = true → gone next.left = true) ∧ (gone net.right = true → gone next.right = true) := by
  induction steps with
  | zero => exact ⟨id, id⟩
  | succ ticked _ ih =>
      cases ticked with
      | left ticked => exact ⟨fun closed => by simp [gone_of_tick ticked] at closed, ih.2⟩
      | right ticked => exact ⟨ih.1, fun closed => by simp [gone_of_tick ticked] at closed⟩

/-- Where a run of the transport can be, given one byte-wise run that ends: on the way to
the same end, or ended early by a failure that this end has as well. -/
theorem moves_toward {bound count : Nat} (strict : init.Strict) (ends : Steps (Tick faults) bound init final)
    (stuck : ∀ next, ¬ Tick faults final next) (moves : Steps (Move faults) count init net) :
    (∃ left, count + left ≤ bound ∧ Steps (Tick faults) left net final) ∨
    (count ≤ bound + 1 ∧ net.failed ∧ (gone final.left = true ∨ gone final.right = true)) := by
  -- Along the transport's run, with the byte-wise run shrinking to what is left of it.
  induction moves generalizing bound with
  | zero => exact .inl ⟨bound, by omega, ends⟩
  | succ moved rest ih =>
      obtain ⟨ticks, steps⟩ | ⟨failed, before⟩ := moved.ticks strict
      · obtain ⟨fits, onward⟩ := (diamond faults).uniform ends stuck steps
        obtain ⟨left, short, onward⟩ | ⟨short, failure⟩ := ih (strict.move moved) onward
        · exact .inl ⟨left, by omega, onward⟩
        · exact .inr ⟨by omega, failure⟩
      · -- Nothing moves after a failure, so the rest of the run is empty.
        cases rest with
        | zero =>
            have kept := gone_steps ends
            exact .inr ⟨by omega, failed, before.imp kept.1 kept.2⟩
        | succ next _ => exact absurd next failed.stuck

/-- Every run is bounded, and whatever cannot move has the property. -/
def Finishes (faults : Faults E) (init : Net E A) (Final : Net E A → Prop) : Prop :=
  ∃ bound, ∀ count net, Steps (Move faults) count init net →
    count ≤ bound ∧ ((∃ next, Move faults net next) ∨ Final net)

/-- One byte-wise run decides all runs: its end, or two errors if it ends with an error. -/
theorem finishes {Final : Net E A → Prop} (strict : init.Strict)
    (ends : Relation.ReflTransGen (Tick faults) init final) (stuck : ∀ next, ¬ Tick faults final next)
    (reached : Final final)
    (early : ∀ net : Net E A, net.failed → gone final.left = true ∨ gone final.right = true → Final net) :
    Finishes faults init Final := by
  obtain ⟨bound, ends⟩ := Steps.of_reflTransGen ends
  refine ⟨bound + 1, fun count net moves => ?_⟩
  obtain ⟨left, short, onward⟩ | ⟨short, failed, final⟩ := moves_toward strict ends stuck moves
  · refine ⟨by omega, ?_⟩
    cases onward with
    | zero => exact .inr reached
    | succ ticked _ => exact .inl ⟨_, move_of_tick ticked⟩
  · exact ⟨short, .inr (early net failed final)⟩

end

end Lib.Duplex
