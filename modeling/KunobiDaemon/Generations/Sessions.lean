import KunobiDaemon.Errors
import KunobiDaemon.Lib.Systems
import KunobiDaemon.Time
import Mathlib.Data.Finset.Card

/-! A process generation, the leases of its sessions and the calls on it.

Every critical section of the session lock is one step. A call of `select` announces its change
after it has released the lock, and a call of `mark_legacy` sets the flag of its lease before it
takes the lock.
-/

set_option autoImplicit false

namespace KunobiDaemon.Generations

structure Sessions where
  active : Nat := 0
  legacy : Nat := 0
  retired : Bool := false
  supersededSince : Option Instant := none
  deriving DecidableEq, Repr

/-- A process generation keeps admitted sessions alive until their leases drop. -/
structure Generation where
  own : UInt64
  selected : UInt64
  sessions : Sessions
  /-- The version of the watch channel `changes`. -/
  version : Nat
  started : Instant
  staged : Bool
  drainLimit : Option Duration
  deriving DecidableEq, Repr

/-- Why a generation retired. -/
inductive Retirement where
  | idle
  | drainExpired (active legacy : Nat)
  deriving DecidableEq, Repr

namespace Generation

def new (own selected : UInt64) (staged : Bool) (started : Instant) : Generation where
  own
  selected
  sessions := { supersededSince := if selected > own then some started else none }
  version := 0
  started
  staged
  drainLimit := none

/-- Bound how long a superseded generation waits for its session leases. -/
def withDrainLimit (generation : Generation) (limit : Duration) : Generation :=
  { generation with drainLimit := some limit }

/-- Observe a committed selection, and say whether it is to be announced. -/
def select (generation : Generation) (selected : UInt64) (now : Instant) : Generation × Except IoError Bool :=
  let previous := generation.selected
  if selected ≥ previous then
    let generation := { generation with selected }
    if previous ≠ selected then
      if selected > generation.own then
        let since := generation.sessions.supersededSince.getD now
        ({ generation with sessions := { generation.sessions with supersededSince := some since } }, .ok true)
      else (generation, .ok true)
    else (generation, .ok false)
  else (generation, .error ⟨.other, .message "generation selection moved backwards"⟩)

/-- Tell the observers. -/
def announce (generation : Generation) : Generation := { generation with version := generation.version + 1 }

/-- `Generation::admit`: admit a session unless retirement closed admission. -/
def admitSession (generation : Generation) : Option Generation :=
  if generation.sessions.retired then none
  else some { generation with sessions := { generation.sessions with active := generation.sessions.active + 1 } }

/-- The critical section of `mark_legacy`. -/
def countLegacy (generation : Generation) : Generation :=
  { generation with sessions := { generation.sessions with legacy := generation.sessions.legacy + 1 } }

/-- The drop of a lease. -/
def drop (generation : Generation) (legacy : Bool) : Generation :=
  let sessions := { generation.sessions with active := generation.sessions.active - 1 }
  let sessions := if legacy then { sessions with legacy := sessions.legacy - 1 } else sessions
  { generation with sessions }.announce

/-- Whether the drain limit has passed. -/
def expired (generation : Generation) (now : Instant) : Bool :=
  match generation.drainLimit, generation.sessions.supersededSince with
  | some limit, some since => now - since ≥ limit
  | _, _ => false

/-- Retire if that is due: `idle` retires an eligible generation without leases, `drain` a superseded
one whose drain limit has passed. The age is read before the drain clock. -/
def tryRetire (generation : Generation) (stagingLifetime : Duration) (idle drain : Bool) (aged drained : Instant) :
    Generation × Option Retirement :=
  let { own, selected, sessions, started, staged, .. } := generation
  if selected ≤ own && !(staged && selected < own && aged - started > stagingLifetime) then (generation, none)
  else
    let expired := drain && generation.expired drained
    let idle := idle && sessions.active = 0
    if !(expired || idle) then (generation, none)
    else
      let retirement := if sessions.active = 0 then .idle else .drainExpired sessions.active sessions.legacy
      ({ generation with sessions := { sessions with retired := true } }, some retirement)

/-- Retire an idle superseded generation or expired unselected candidate, or a superseded generation
whose drain limit has passed. -/
def retire (generation : Generation) (stagingLifetime : Duration) (aged drained : Instant) :
    Generation × Option Retirement :=
  generation.tryRetire stagingLifetime true true aged drained

/-- Retire only an idle superseded generation or expired unselected candidate. -/
def retireIfIdle (generation : Generation) (stagingLifetime : Duration) (aged drained : Instant) : Generation × Bool :=
  let (generation, retirement) := generation.tryRetire stagingLifetime true false aged drained
  (generation, retirement.isSome)

end Generation

/-- A generation with its leases, the calls of `select` and the clock.

A lease is flagged once `mark_legacy` has set its `legacy` field, and counted once that call has
counted it. -/
structure System (C K : Type) where
  generation : Generation
  live : Finset K
  flagged : Finset K
  counted : Finset K
  /-- The calls of `select` that have released the lock and will announce their change. -/
  announcing : C → Bool
  /-- The latest reading of the clock. -/
  clock : Instant

inductive Label (C K : Type) where
  | select (caller : C) (selected : UInt64) (now : Instant)
  | announce (caller : C)
  | admitSession (lease : K)
  | markLegacy (lease : K)
  | countLegacy (lease : K)
  | drop (lease : K)
  | tryRetire (stagingLifetime : Duration) (idle drain : Bool) (aged drained : Instant)
  deriving DecidableEq, Repr

namespace System

variable {C K : Type} [DecidableEq C] [DecidableEq K]

/-- A generation that starts with these records and this limit. -/
def initial (own selected : UInt64) (staged : Bool) (limit : Option Duration) (started : Instant) : System C K where
  generation := (limit.elim id fun limit generation => generation.withDrainLimit limit) (.new own selected staged started)
  live := ∅
  flagged := ∅
  counted := ∅
  announcing := fun _ => false
  clock := started

def step (s : System C K) : Label C K → Option (System C K)
  | .select caller selected now =>
      if s.announcing caller || now < s.clock then none
      else
        let (generation, result) := s.generation.select selected now
        let announcing := Function.update s.announcing caller (result matches .ok true)
        some { s with generation, announcing, clock := now }
  | .announce caller =>
      if s.announcing caller then
        some { s with
          generation := s.generation.announce, announcing := Function.update s.announcing caller false }
      else none
  | .admitSession lease =>
      if lease ∈ s.live then none
      else
        match s.generation.admitSession with
        | none => some s
        | some generation => some { s with generation, live := insert lease s.live }
  -- A call of `mark_legacy` borrows its lease until it has counted it.
  | .markLegacy lease =>
      if lease ∉ s.live then none
      else if lease ∈ s.flagged then if lease ∈ s.counted then some s else none
      else some { s with flagged := insert lease s.flagged }
  | .countLegacy lease =>
      if lease ∈ s.flagged ∧ lease ∉ s.counted then
        some { s with generation := s.generation.countLegacy, counted := insert lease s.counted }
      else none
  | .drop lease =>
      if lease ∈ s.live ∧ (lease ∈ s.flagged → lease ∈ s.counted) then
        some { s with
          generation := s.generation.drop (lease ∈ s.flagged)
          live := s.live.erase lease
          flagged := s.flagged.erase lease
          counted := s.counted.erase lease }
      else none
  | .tryRetire stagingLifetime idle drain aged drained =>
      if s.clock ≤ aged ∧ aged ≤ drained then
        some { s with
          generation := (s.generation.tryRetire stagingLifetime idle drain aged drained).1, clock := drained }
      else none

end System

end KunobiDaemon.Generations
