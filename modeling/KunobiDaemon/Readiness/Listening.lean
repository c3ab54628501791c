import KunobiDaemon.Readiness.Waiting
import KunobiDaemon.Selection.Await

/-! The rounds of `await_selection` over `Signaled`, while the reading thread posts.

An observer asks the wrapped evidence, which may answer anything at any time, and the channel,
whose lock it takes for each question. A blocking wait for news keeps the lock from its check
until it parks. The reading thread stops after a final event.
-/

set_option autoImplicit false

namespace KunobiDaemon.Readiness.Listening

open Lib.Systems
open Selection (Budget Watch)

inductive Mode where
  | blocking
  | async
  deriving DecidableEq, Repr

/-- A round from its probe on. -/
structure Round where
  /-- The channel's version when its probe began. -/
  seen : Nat
  deadline : Instant
  deriving DecidableEq, Repr

structure Nap where
  round : Round
  started : Instant
  remaining : Duration
  deriving DecidableEq, Repr

def Nap.ends (nap : Nap) : Instant := nap.started + nap.remaining

/-- What the wrapped evidence's probe answers. -/
inductive Answer where
  | failed
  | unproven
  | proven
  deriving DecidableEq, Repr

inductive Place where
  | idle
  /-- In `committed`. -/
  | reading
  /-- About to probe. -/
  | read (deadline : Instant)
  /-- In the wrapped evidence's probe. -/
  | probing (round : Round)
  /-- In `Channel::failure`. -/
  | unproven (round : Round)
  /-- There, with the time. -/
  | failing (round : Round) (now : Duration)
  | judging (round : Round) (proof : Bool)
  | deciding (round : Round) (proven : Bool)
  /-- In `wait`, about to compare versions. -/
  | comparing (round : Round)
  /-- About to ask whether the daemon is ready. -/
  | compared (round : Round)
  /-- In the wrapped evidence's wait. -/
  | pacing (round : Round)
  /-- In `wait_for_news`, without the lock. -/
  | listening (round : Round)
  /-- There, with the lock. -/
  | locked (round : Round)
  /-- There, with the time. -/
  | timed (round : Round) (now : Duration)
  /-- There, with no news. -/
  | quiet (round : Round) (quiet : Duration)
  /-- In `Condvar::wait_timeout`, not woken. -/
  | parked (nap : Nap)
  /-- Awaiting `timeout(remaining, notified)`. -/
  | pending (nap : Nap)
  | panicked
  deriving DecidableEq, Repr

namespace Place

/-- Whether the observer has the lock between its steps. -/
def holds (mode : Mode) : Place → Bool
  | .locked _ => true
  | .timed _ _ | .quiet _ _ => mode = .blocking
  | .idle | .reading | .read _ | .probing _ | .unproven _ | .failing _ _ | .judging _ _ | .deciding _ _
  | .comparing _ | .compared _ | .pacing _ | .listening _ | .parked _ | .pending _ | .panicked => false

/-- After `notify_all` -/
def notified : Place → Place
  | .parked nap => .listening nap.round
  | place => place

end Place

structure System where
  opened : Instant
  time : Instant
  silence : Duration
  inner : Inner := {}
  permit : Bool := false
  poster : Poster := .reading
  /-- Every event recorded, in order. -/
  posted : List Post := []
  mode : Mode := .blocking
  start : Instant
  watch : Watch
  place : Place := .idle
  deriving Repr

inductive Label where
  | tick (later : Instant)
  | post (event : Event) (detail : Option String)
  | record
  | notifyAll
  | notifyOne
  | awaitSelection (mode : Mode) (budget : Budget)
  | committed (answer : Except Unit Bool)
  | probe
  | answer (answer : Answer)
  /-- The round's deadline ends an asynchronous probe. -/
  | expire
  | elapsed
  | failure
  | filter
  | decide
  | compare
  | isReady
  /-- The wrapped evidence's wait returns. -/
  | paced
  | lock
  | quietFor
  | remaining
  | timeout
  /-- The condition variable wakes for no reason, or the runtime ends a timer it cannot hold. -/
  | spurious
  | takePermit
  | cancel

namespace System

def elapsed (system : System) : Duration := system.time - system.opened

/-- A channel opened at this time, wrapped with this silence bound. -/
def open_ (opened : Instant) (silence : Duration) : System where
  opened
  time := opened
  silence
  start := opened
  watch := .new ⟨0, 0⟩

/-- Begin a round, once its record has been read. -/
def note (system : System) (committed : Bool) : System :=
  let watch := system.watch.record (system.time - system.start) committed
  let deadline := system.start + watch.until_
  { system with watch, place := if deadline ≤ lastInstant then .read deadline else .panicked }

def step (system : System) : Label → Option System
  | .tick later =>
      if system.time ≤ later ∧ later ≤ lastInstant then some { system with time := later } else none
  | .post event detail =>
      match system.poster, firstFinal system.posted with
      | .reading, none => some { system with poster := .timed ⟨system.elapsed, event, detail⟩ }
      | _, _ => none
  | .record =>
      match system.poster with
      | .timed news =>
          if system.place.holds system.mode then none
          else some { system with
            inner := system.inner.post news, posted := system.posted ++ [news], poster := .recorded }
      | _ => none
  | .notifyAll =>
      match system.poster with
      | .recorded => some { system with poster := .notified, place := system.place.notified }
      | _ => none
  | .notifyOne =>
      match system.poster with
      | .notified => some { system with poster := .reading, permit := true }
      | _ => none
  | .awaitSelection mode budget =>
      match system.place with
      | .idle => some { system with mode, start := system.time, watch := .new budget, place := .reading }
      | _ => none
  | .committed answer =>
      match system.place, answer with
      | .reading, .ok committed => some (system.note committed)
      | .reading, .error _ => some { system with place := .idle }
      | _, _ => none
  | .probe =>
      match system.place with
      | .read deadline => some { system with place := .probing ⟨system.inner.version, deadline⟩ }
      | _ => none
  | .answer answer =>
      match system.place, answer with
      | .probing _, .failed => some { system with place := .idle }
      | .probing round, .proven => some { system with place := .judging round true }
      | .probing round, .unproven => some { system with place := .unproven round }
      | _, _ => none
  | .expire =>
      match system.place, system.mode with
      | .probing round, .async =>
          if round.deadline ≤ system.time then some { system with place := .judging round false } else none
      | _, _ => none
  | .elapsed =>
      match system.place, system.mode with
      | .unproven round, _ => some { system with place := .failing round system.elapsed }
      | .locked round, _ | .listening round, .async => some { system with place := .timed round system.elapsed }
      | _, _ => none
  | .failure =>
      match system.place with
      | .failing round now =>
          match system.inner.failure now system.silence with
          | some _ => some { system with place := .idle }
          | none => some { system with place := .judging round false }
      | _ => none
  | .filter =>
      match system.place with
      | .judging round proof =>
          some { system with place := .deciding round (proof && Decidable.decide (system.time < round.deadline)) }
      | _ => none
  | .decide =>
      match system.place with
      | .deciding round proven =>
          match system.watch.decide (system.time - system.start) proven with
          | .wait => some { system with place := .comparing round }
          | .current | .committed | .notCommitted => some { system with place := .idle }
      | _ => none
  | .compare =>
      match system.place with
      | .comparing round =>
          if system.inner.version ≠ round.seen then some { system with place := .reading }
          else some { system with place := .compared round }
      | _ => none
  | .isReady =>
      match system.place with
      | .compared round =>
          if system.inner.isReady then some { system with place := .pacing round }
          else some { system with place := .listening round }
      | _ => none
  | .paced =>
      match system.place with
      | .pacing _ => some { system with place := .reading }
      | _ => none
  | .lock =>
      match system.place, system.mode with
      | .listening round, .blocking => some { system with place := .locked round }
      | _, _ => none
  | .quietFor =>
      match system.place with
      | .timed round now =>
          match system.inner.quietFor round.seen now system.silence with
          | none => some { system with place := .reading }
          | some quiet => some { system with place := .quiet round quiet }
      | _ => none
  | .remaining =>
      match system.place with
      | .quiet round quiet =>
          let nap : Nap := ⟨round, system.time, min quiet (round.deadline - system.time)⟩
          if nap.remaining = 0 then some { system with place := .reading }
          else
            match system.mode with
            | .blocking => some { system with place := .parked nap }
            | .async => some { system with place := .pending nap }
      | _ => none
  | .timeout =>
      match system.place with
      | .parked nap => if nap.ends ≤ system.time then some { system with place := .listening nap.round } else none
      | .pending nap => if nap.ends ≤ system.time then some { system with place := .reading } else none
      | _ => none
  | .spurious =>
      match system.place with
      | .parked nap => some { system with place := .listening nap.round }
      | .pending _ => some { system with place := .reading }
      | _ => none
  | .takePermit =>
      match system.place with
      | .pending nap =>
          if system.permit then some { system with place := .listening nap.round, permit := false } else none
      | _ => none
  | .cancel =>
      match system.place, system.mode with
      | .reading, .async | .probing _, .async | .pacing _, .async | .pending _, .async =>
          some { system with place := .idle }
      | _, _ => none

end System

end KunobiDaemon.Readiness.Listening
