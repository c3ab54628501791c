import KunobiDaemon.Time

/-! What a launcher has learned from the readiness channel of a daemon it started. -/

set_option autoImplicit false

namespace KunobiDaemon.Readiness

/-- Why waiting on a channel ended without `ready`. -/
inductive NotReady where
  | died
  | malformed
  | silent
  deriving DecidableEq, Repr

/-- What the daemon has said so far. -/
inductive State where
  | waiting
  | progressing
  | ready
  | died
  | malformed
  deriving DecidableEq, Repr

/-- One thing the launcher learned from the channel. -/
inductive Event where
  | progress
  | ready
  | malformed
  | closed
  deriving DecidableEq, Repr

/-- What a waiter does now. -/
inductive Decision where
  | ready
  | notReady (reason : NotReady)
  | wait (remaining : Duration)
  deriving DecidableEq, Repr

/-- Times are measured from the channel's opening. -/
structure Tracker where
  state : State := .waiting
  lastMessage : Duration := 0
  deriving DecidableEq, Repr

namespace Tracker

/-- Ready, died and malformed are final. -/
def record (tracker : Tracker) (at_ : Duration) (event : Event) : Tracker :=
  match tracker.state with
  | .ready | .died | .malformed => tracker
  | .waiting | .progressing =>
      { lastMessage := max tracker.lastMessage at_
        state :=
          match event with
          | .progress => .progressing
          | .ready => .ready
          | .malformed => .malformed
          | .closed => .died }

def decide (tracker : Tracker) (now silence : Duration) : Decision :=
  match tracker.state with
  | .ready => .ready
  | .died => .notReady .died
  | .malformed => .notReady .malformed
  | .waiting | .progressing =>
      let until_ := tracker.lastMessage.saturatingAdd silence
      if now ≥ until_ then .notReady .silent else .wait (until_ - now)

end Tracker

structure Inner where
  tracker : Tracker := {}
  /-- Counts every event. -/
  version : Nat := 0
  progress : Nat := 0
  lastProgress : Option String := none
  deriving DecidableEq, Repr

/-- An event as the reading thread posts it. -/
structure Post where
  at_ : Duration
  event : Event
  detail : Option String
  deriving DecidableEq, Repr

namespace Inner

def post (inner : Inner) (news : Post) : Inner :=
  let inner := { inner with tracker := inner.tracker.record news.at_ news.event, version := inner.version + 1 }
  if news.event = .progress then
    { inner with progress := inner.progress + 1, lastProgress := news.detail }
  else inner

/-- A channel after these events. -/
def after (posts : List Post) : Inner := posts.foldl post {}

def isReady (inner : Inner) : Bool := inner.tracker.state = .ready

/-- Why waiting is over, if it is and not because the daemon is ready. -/
def failure (inner : Inner) (now silence : Duration) : Option NotReady :=
  match inner.tracker.decide now silence with
  | .notReady reason => some reason
  | .ready | .wait _ => none

/-- How long nothing is worth a new round. -/
def quietFor (inner : Inner) (since : Nat) (now silence : Duration) : Option Duration :=
  if inner.version ≠ since then none
  else
    match inner.tracker.decide now silence with
    | .wait remaining => some remaining
    | .ready | .notReady _ => none

end Inner

end KunobiDaemon.Readiness
