import KunobiDaemon.Transport.Refinement
import KunobiDaemon.Transport.WriterSlot

/-! A writer slot and an outstanding set that one coordinator moves from peer to peer.

Upstream calls hold the slot's lock while they begin their requests one by one and
write, so replies and the coordinator interleave with every request. Calls are named
and used once: which thread makes them and when it may make the next one is left open.
The ledger, the senders and the attempts are history that no step reads.
-/

set_option autoImplicit false

namespace KunobiDaemon.Transport

open Lib.Systems
open Lib.Bags (bag)
open Ledger (keysOf having)

/-- What the coordinator has done of the current move. -/
inductive Stage where
  | idle
  | replaced
  | emptied
  | captured
  deriving DecidableEq, Repr

/-- A call that holds the slot's lock, and the keys its `observe` is still to begin. -/
structure Holder (C K : Type) where
  call : C
  window : List UInt8
  keys : List K
  deriving DecidableEq, Repr

structure Handoff (C K : Type) [LinearOrder K] where
  slot : WriterState
  set : OutstandingState K
  holder : Option (Holder C K)
  stage : Stage
  /-- The epoch captured for each connection, oldest first. -/
  epochs : List Nat
  /-- The keys each `fail` handed out. -/
  handed : List (Std.TreeMap K Nat)
  started : List C
  ledger : Ledger K
  /-- The call that began each request of the ledger. -/
  senders : List C
  /-- The calls whose window was passed to a writer, with that writer. -/
  attempts : List (C × Nat)

inductive Turn (C K : Type) where
  -- `write_observed`: take the lock, begin one request, write
  | enter (call : C) (window : List UInt8) (keys : List K)
  | begin
  | write (outcome : Outcome)
  -- the coordinator
  | replacePaused (written : Nat)
  | fail
  | clear
  | capture
  | resume
  | dropFailing
  -- a reply thread of a connection
  | settle (connection : Nat) (key : K)
  deriving DecidableEq, Repr

namespace Handoff
variable {C K : Type} [LinearOrder K]

def new : Handoff C K := ⟨.new, .new, none, .idle, [0], [], [], .new, [], []⟩

/-- The call's window was passed to the writer, or is being sent there now. -/
def Attempted (handoff : Handoff C K) (call : C) (writer : Nat) : Prop :=
  (call, writer) ∈ handoff.attempts ∨
    ((∃ holder ∈ handoff.holder, holder.call = call) ∧ writer = handoff.slot.writer)

variable [DecidableEq C]

def step (build : Build) (capacity : Nat) (handoff : Handoff C K) : Turn C K → Option (Handoff C K)
  | .enter call window keys =>
      if handoff.holder = none ∧ handoff.slot.paused = false ∧ handoff.slot.closed = false ∧
          call ∉ handoff.started then
        some { handoff with holder := some ⟨call, window, keys⟩, started := call :: handoff.started }
      else none
  | .begin =>
      match handoff.holder with
      | some ⟨call, window, key :: keys⟩ =>
          some { handoff with
            set := handoff.set.begin capacity key
            holder := some ⟨call, window, keys⟩
            ledger := handoff.ledger.begin capacity key
            senders := handoff.senders ++ [call] }
      | _ => none
  | .write outcome =>
      match handoff.holder with
      | some ⟨call, window, []⟩ =>
          some { handoff with
            slot := handoff.slot.wrote window outcome
            holder := none
            attempts := handoff.attempts ++ [(call, handoff.slot.writer)] }
      | _ => none
  | .replacePaused written =>
      if handoff.stage = .idle ∧ handoff.holder = none ∧ written < u64 then
        some { handoff with
          slot := handoff.slot.replacePaused (handoff.slot.writer + 1) written, stage := .replaced }
      else none
  | .fail =>
      if handoff.stage = .replaced then
        (handoff.set.fail build).map fun (set, keys) =>
          { handoff with
            set, stage := .emptied, handed := handoff.handed ++ [keys]
            ledger := handoff.ledger.turnOver .failed }
      else none
  | .clear =>
      if handoff.stage = .replaced then
        (handoff.set.clear build).map fun set =>
          { handoff with set, stage := .emptied, ledger := handoff.ledger.turnOver .cleared }
      else none
  | .capture =>
      if handoff.stage = .emptied then
        some { handoff with epochs := handoff.epochs ++ [handoff.set.epoch], stage := .captured }
      else none
  | .resume =>
      if handoff.stage = .captured then
        some { handoff with slot := handoff.slot.resume, stage := .idle }
      else none
  | .dropFailing => handoff.set.dropFailing.map fun set => { handoff with set }
  | .settle connection key =>
      match handoff.epochs[connection]? with
      | none => none
      | some epoch => (handoff.set.settle epoch key).map fun set =>
          { handoff with set, ledger := handoff.ledger.settle epoch key }

/-- The tracked and unsettled requests begun since the last `fail` or `clear` whose windows
were attempted on writers older than the current one. -/
def owed (handoff : Handoff C K) : Multiset K :=
  ↑(((handoff.ledger.requests.zip handoff.senders).filter fun (request, call) =>
    decide (request.epoch = handoff.ledger.epoch ∧ request.fate = .inFlight) &&
      handoff.attempts.any fun (sender, writer) =>
        decide (sender = call ∧ writer < handoff.slot.writer)).map fun (request, _) => request.key)

end Handoff

section
variable {K : Type}

/-- Neither the end of an epoch nor a settlement moves a request to another epoch. -/
theorem epochs_dispose (epoch : Nat) (fate : Fate) (requests : List (Request K)) :
    (Ledger.dispose epoch fate requests).map Request.epoch = requests.map Request.epoch := by
  simp only [Ledger.dispose, List.map_map]
  refine List.map_congr_left fun request _ => ?_
  simp only [Function.comp_apply]
  split <;> rfl

variable [DecidableEq K]

theorem epochs_settleFirst (epoch : Nat) (key : K) (requests : List (Request K)) :
    (Ledger.settleFirst epoch key requests).map Request.epoch = requests.map Request.epoch := by
  induction requests with
  | nil => rfl
  | cons request rest ih =>
      unfold Ledger.settleFirst
      split
      · rfl
      · rw [List.map_cons, List.map_cons, ih]

/-- A settlement changes only a request of its own epoch. -/
theorem settleFirst_changes {epoch : Nat} {key : K} {requests : List (Request K)} {position : Nat}
    {request : Request K} (here : requests[position]? = some request)
    (changed : (Ledger.settleFirst epoch key requests)[position]? ≠ some request) : request.epoch = epoch := by
  induction requests generalizing position with
  | nil => cases here
  | cons head rest ih =>
      unfold Ledger.settleFirst at changed
      split at changed
      · next first =>
          cases position with
          | zero =>
              cases here
              exact first.1
          | succ position => exact absurd here changed
      · cases position with
        | zero => exact absurd here changed
        | succ position => exact ih here changed

end

section
variable {C K : Type} [LinearOrder K]

/-- Writers, epochs and connections advance together, and every request belongs to the
writer whose number is its epoch. -/
structure Owned (capacity : Nat) (handoff : Handoff C K) : Prop where
  tracks : Tracks capacity handoff.set handoff.ledger
  writer : handoff.slot.writer = handoff.ledger.epoch + if handoff.stage = .replaced then 1 else 0
  connections : handoff.epochs.length = handoff.ledger.epoch + if handoff.stage = .emptied then 0 else 1
  captured : ∀ connection epoch : Nat, handoff.epochs[connection]? = some epoch → epoch = connection
  frozen : handoff.stage ≠ .idle → handoff.slot.paused = true ∧ handoff.holder = none
  sent : List.Forall₂ (fun epoch call => handoff.Attempted call epoch)
    (handoff.ledger.requests.map Request.epoch) handoff.senders
  begun : ∀ call writer, (call, writer) ∈ handoff.attempts →
    call ∈ handoff.started ∧ writer ≤ handoff.ledger.epoch
  once : ∀ call writer other, (call, writer) ∈ handoff.attempts → (call, other) ∈ handoff.attempts →
    writer = other
  holding : ∀ holder ∈ handoff.holder, holder.call ∈ handoff.started ∧
    ∀ writer, (holder.call, writer) ∉ handoff.attempts

variable {capacity : Nat} {build : Build} {handoff next : Handoff C K}

theorem owned_new (capacity : Nat) : Owned capacity (Handoff.new : Handoff C K) where
  tracks := tracks_new capacity
  writer := rfl
  connections := rfl
  captured := by
    intro connection epoch captured
    cases connection <;> simp_all [Handoff.new]
  frozen := by simp [Handoff.new]
  sent := .nil
  begun := by simp [Handoff.new]
  once := by simp [Handoff.new]
  holding := by simp [Handoff.new]

/-- The number of epochs a turn ends. -/
def Turn.ends : Turn C K → Nat
  | .fail | .clear => 1
  | .enter _ _ _ | .begin | .write _ | .replacePaused _ | .capture | .resume | .dropFailing | .settle _ _ => 0

theorem ledger_step [DecidableEq C] {turn : Turn C K} (stepped : handoff.step build capacity turn = some next) :
    next.ledger.epoch = handoff.ledger.epoch + turn.ends := by
  cases turn with
  | enter | replacePaused | capture | resume | begin | write =>
      simp only [Handoff.step] at stepped
      split at stepped
      · cases stepped
        rfl
      · cases stepped
  | fail | clear =>
      simp only [Handoff.step] at stepped
      split at stepped
      · obtain ⟨after, -, rfl⟩ := Option.map_eq_some_iff.mp stepped
        rfl
      · cases stepped
  | dropFailing =>
      obtain ⟨after, -, rfl⟩ := Option.map_eq_some_iff.mp stepped
      rfl
  | settle =>
      simp only [Handoff.step] at stepped
      split at stepped
      · cases stepped
      · obtain ⟨after, -, rfl⟩ := Option.map_eq_some_iff.mp stepped
        simp only [Ledger.settle]
        split <;> rfl

/-- `fail` and `clear` both need the writer replaced, and both raise the set's epoch. -/
theorem fail_eq_some [DecidableEq C] (stepped : handoff.step build capacity .fail = some next) :
    handoff.stage = .replaced ∧ ∃ epoch, build.increment handoff.set.epoch = some epoch ∧
      next = { handoff with
        set := { handoff.set with
          failing := handoff.set.failing + 1, overflowed := false, tracked := 0, epoch, keys := ∅ }
        stage := .emptied
        handed := handoff.handed ++ [handoff.set.keys]
        ledger := handoff.ledger.turnOver .failed } := by
  simp only [Handoff.step] at stepped
  split at stepped
  case isFalse => cases stepped
  case isTrue replaced =>
      simp only [OutstandingState.fail, Option.map_map, Option.map_eq_some_iff] at stepped
      obtain ⟨epoch, raised, rfl⟩ := stepped
      exact ⟨replaced, epoch, raised, rfl⟩

theorem clear_eq_some [DecidableEq C] (stepped : handoff.step build capacity .clear = some next) :
    handoff.stage = .replaced ∧ ∃ epoch, build.increment handoff.set.epoch = some epoch ∧
      next = { handoff with
        set := { handoff.set with keys := ∅, tracked := 0, epoch, overflowed := false }
        stage := .emptied
        ledger := handoff.ledger.turnOver .cleared } := by
  simp only [Handoff.step] at stepped
  split at stepped
  case isFalse => cases stepped
  case isTrue replaced =>
      simp only [OutstandingState.clear, Option.map_map, Option.map_eq_some_iff] at stepped
      obtain ⟨epoch, raised, rfl⟩ := stepped
      exact ⟨replaced, epoch, raised, rfl⟩

namespace Owned

/-- `fail` and `clear` end the epoch of the replaced writer. -/
theorem turnOver (owned : Owned capacity handoff) (replaced : handoff.stage = .replaced) {fate : Fate}
    {set : OutstandingState K} (tracks : Tracks capacity set (handoff.ledger.turnOver fate))
    (handed : List (Std.TreeMap K Nat)) :
    Owned capacity { handoff with
      set, handed, stage := .emptied, ledger := handoff.ledger.turnOver fate } := by
  refine { owned with tracks, writer := ?_, connections := ?_, frozen := ?_, sent := ?_, begun := ?_ }
  · simp [owned.writer, replaced, Ledger.turnOver]
  · simp [owned.connections, replaced, Ledger.turnOver]
  · exact fun _ => owned.frozen (by simp [replaced])
  · simp only [Ledger.turnOver, epochs_dispose]
    exact owned.sent
  · intro call writer attempted
    exact ⟨(owned.begun call writer attempted).1,
      Nat.le_succ_of_le (owned.begun call writer attempted).2⟩

/-- No window is attempted on a new writer before the coordinator resumes. -/
theorem untouched (owned : Owned capacity handoff) (moving : handoff.stage = .replaced) (call : C) :
    ¬ handoff.Attempted call handoff.slot.writer := by
  rintro (attempted | ⟨⟨holder, held, -⟩, -⟩)
  · have bound := (owned.begun _ _ attempted).2
    simp [owned.writer, moving] at bound
  · simp [(owned.frozen (by simp [moving])).2] at held

theorem attempted_once (owned : Owned capacity handoff) {call : C} {writer other : Nat}
    (first : handoff.Attempted call writer) (second : handoff.Attempted call other) : writer = other := by
  rcases first with first | ⟨⟨holder, held, rfl⟩, rfl⟩ <;> rcases second with second | ⟨⟨also, here, same⟩, rfl⟩
  · exact owned.once call writer other first second
  · exact absurd (same ▸ first) ((owned.holding also here).2 writer)
  · exact absurd second ((owned.holding holder held).2 other)
  · rfl

/-- Nobody holds the slot's lock during a move. -/
theorem idle_of_held (owned : Owned capacity handoff) {holder : Holder C K} (held : handoff.holder = some holder) :
    handoff.stage = .idle := by
  by_contra moving
  simp [(owned.frozen moving).2] at held

/-- While nobody holds the lock, the window of every request has been passed on. -/
theorem sent_of_free (owned : Owned capacity handoff) (free : handoff.holder = none) :
    List.Forall₂ (fun epoch call => (call, epoch) ∈ handoff.attempts)
      (handoff.ledger.requests.map Request.epoch) handoff.senders := by
  refine owned.sent.imp fun epoch sender attempted => ?_
  rcases attempted with attempted | ⟨⟨holder, held, -⟩, -⟩
  · exact attempted
  · simp [free] at held

variable [DecidableEq C]

theorem enter (owned : Owned capacity handoff) {call : C} {window : List UInt8} {keys : List K}
    (stepped : handoff.step build capacity (.enter call window keys) = some next) : Owned capacity next := by
  simp only [Handoff.step] at stepped
  split at stepped
  case isFalse => cases stepped
  case isTrue allowed =>
      obtain ⟨free, running, -, new⟩ := allowed
      cases stepped
      refine { owned with frozen := ?_, sent := ?_, begun := ?_, holding := ?_ }
      · intro moving
        simp [(owned.frozen moving).1] at running
      · exact (owned.sent_of_free free).imp fun _ _ => .inl
      · intro sender writer attempted
        exact ⟨List.mem_cons_of_mem call (owned.begun sender writer attempted).1,
          (owned.begun sender writer attempted).2⟩
      · rintro holder ⟨⟩
        exact ⟨List.mem_cons_self, fun writer attempted => new (owned.begun call writer attempted).1⟩

theorem begin (owned : Owned capacity handoff)
    (stepped : handoff.step build capacity .begin = some next) : Owned capacity next := by
  simp only [Handoff.step] at stepped
  split at stepped
  case h_2 => cases stepped
  case h_1 call window key keys held =>
      cases stepped
      have idle := owned.idle_of_held held
      refine { owned with tracks := owned.tracks.begin key, frozen := ?_, sent := ?_, holding := ?_ }
      · exact fun moving => absurd idle moving
      · simp only [Ledger.begin, List.map_append, List.map_cons, List.map_nil]
        refine List.rel_append (owned.sent.imp fun epoch sender attempted => ?_) (.cons ?_ .nil)
        · refine attempted.imp_right ?_
          rintro ⟨⟨holder, here, same⟩, current⟩
          rw [held, Option.mem_some_iff] at here
          exact ⟨⟨⟨call, window, keys⟩, rfl, by rw [← same, ← here]⟩, current⟩
        · exact .inr ⟨⟨⟨call, window, keys⟩, rfl, rfl⟩, by simp [owned.writer, idle]⟩
      · rintro holder ⟨⟩
        exact owned.holding ⟨call, window, key :: keys⟩ held

theorem write (owned : Owned capacity handoff) {outcome : Outcome}
    (stepped : handoff.step build capacity (.write outcome) = some next) : Owned capacity next := by
  simp only [Handoff.step] at stepped
  split at stepped
  case h_2 => cases stepped
  case h_1 call window held =>
      cases stepped
      have idle := owned.idle_of_held held
      have current : handoff.slot.writer = handoff.ledger.epoch := by simp [owned.writer, idle]
      obtain ⟨started, untried⟩ := owned.holding _ held
      refine { owned with
        writer := ?_, frozen := ?_, sent := ?_, begun := ?_, once := ?_, holding := ?_ }
      · simp [owned.writer]
      · exact fun moving => absurd idle moving
      · refine owned.sent.imp fun epoch sender attempted => .inl ?_
        rcases attempted with attempted | ⟨⟨holder, here, same⟩, rfl⟩
        · exact List.mem_append_left _ attempted
        · rw [held, Option.mem_some_iff] at here
          simp [← same, ← here]
      · intro sender writer attempted
        rcases List.mem_append.mp attempted with before | now
        · exact owned.begun sender writer before
        · obtain ⟨rfl, rfl⟩ : sender = call ∧ writer = handoff.slot.writer := by simpa using now
          exact ⟨started, current.le⟩
      · intro sender writer other first second
        simp only [List.mem_append, List.mem_singleton, Prod.mk.injEq] at first second
        rcases first with first | ⟨rfl, rfl⟩ <;> rcases second with second | ⟨same, rfl⟩
        · exact owned.once sender writer other first second
        · exact absurd (same ▸ first) (untried writer)
        · exact absurd second (untried other)
        · rfl
      · simp

theorem replacePaused (owned : Owned capacity handoff) {written : Nat}
    (stepped : handoff.step build capacity (.replacePaused written) = some next) : Owned capacity next := by
  simp only [Handoff.step] at stepped
  split at stepped
  case isFalse => cases stepped
  case isTrue allowed =>
      obtain ⟨idle, free, -⟩ := allowed
      cases stepped
      refine { owned with writer := ?_, connections := ?_, frozen := ?_, sent := ?_ }
      · simp [WriterState.replacePaused, owned.writer, idle]
      · simp [owned.connections, idle]
      · exact fun _ => ⟨rfl, free⟩
      · exact (owned.sent_of_free free).imp fun _ _ => .inl

theorem fail (owned : Owned capacity handoff) (few : build = .wrapping → handoff.ledger.epoch + 1 < u64)
    (stepped : handoff.step build capacity .fail = some next) : Owned capacity next := by
  obtain ⟨replaced, epoch, raised, rfl⟩ := fail_eq_some stepped
  obtain rfl := increment_eq_some (owned.tracks.epoch ▸ few) raised
  rw [owned.tracks.epoch]
  exact owned.turnOver replaced ((owned.tracks.turnOver .failed).frame _ _ _) _

theorem clear (owned : Owned capacity handoff) (few : build = .wrapping → handoff.ledger.epoch + 1 < u64)
    (stepped : handoff.step build capacity .clear = some next) : Owned capacity next := by
  obtain ⟨replaced, epoch, raised, rfl⟩ := clear_eq_some stepped
  obtain rfl := increment_eq_some (owned.tracks.epoch ▸ few) raised
  rw [owned.tracks.epoch]
  exact owned.turnOver replaced (owned.tracks.turnOver .cleared) _

theorem capture (owned : Owned capacity handoff)
    (stepped : handoff.step build capacity .capture = some next) : Owned capacity next := by
  simp only [Handoff.step] at stepped
  split at stepped
  case isFalse => cases stepped
  case isTrue emptied =>
      cases stepped
      have length : handoff.epochs.length = handoff.ledger.epoch := by simp [owned.connections, emptied]
      refine { owned with writer := ?_, connections := ?_, captured := ?_, frozen := ?_ }
      · simp [owned.writer, emptied]
      · simp [length]
      · intro connection epoch
        rw [List.getElem?_append]
        split
        · exact owned.captured connection epoch
        · next later =>
            intro last
            cases beyond : connection - handoff.epochs.length with
            | zero =>
                rw [beyond] at last
                rw [← Option.some.inj last, owned.tracks.epoch]
                omega
            | succ rest => simp [beyond] at last
      · exact fun _ => owned.frozen (by simp [emptied])

theorem resume (owned : Owned capacity handoff)
    (stepped : handoff.step build capacity .resume = some next) : Owned capacity next := by
  simp only [Handoff.step] at stepped
  split at stepped
  case isFalse => cases stepped
  case isTrue captured =>
      cases stepped
      refine { owned with writer := ?_, connections := ?_, frozen := fun moving => absurd rfl moving }
      · simp [owned.writer, captured, WriterState.resume]
      · simp [owned.connections, captured]

theorem dropFailing (owned : Owned capacity handoff)
    (stepped : handoff.step build capacity .dropFailing = some next) : Owned capacity next := by
  simp only [Handoff.step, OutstandingState.dropFailing, Option.map_map, Option.map_eq_some_iff] at stepped
  obtain ⟨failing, -, rfl⟩ := stepped
  exact { owned with tracks := owned.tracks.frame _ _ _ }

theorem settle (owned : Owned capacity handoff) {connection : Nat} {key : K}
    (stepped : handoff.step build capacity (.settle connection key) = some next) : Owned capacity next := by
  simp only [Handoff.step] at stepped
  split at stepped
  case h_1 => cases stepped
  case h_2 epoch captured =>
      obtain ⟨keys, tracked, settled, tracks⟩ := owned.tracks.settle epoch key
      rw [settled, Option.map_some, Option.some.injEq] at stepped
      subst stepped
      have same : (handoff.ledger.settle epoch key).epoch = handoff.ledger.epoch ∧
          (handoff.ledger.settle epoch key).requests.map Request.epoch =
            handoff.ledger.requests.map Request.epoch := by
        unfold Ledger.settle
        split
        · exact ⟨rfl, epochs_settleFirst epoch key handoff.ledger.requests⟩
        · exact ⟨rfl, rfl⟩
      refine { owned with tracks, writer := ?_, connections := ?_, sent := ?_, begun := ?_ }
      · rw [same.1]
        exact owned.writer
      · rw [same.1]
        exact owned.connections
      · rw [same.2]
        exact owned.sent
      · rw [same.1]
        exact owned.begun

/-- What the set counts when a writer was replaced is owed by the writers before it. -/
theorem owed (owned : Owned capacity handoff) (replaced : handoff.stage = .replaced) :
    bag handoff.set.keys = handoff.owed := by
  have free := (owned.frozen (by simp [replaced])).2
  obtain ⟨length, sent⟩ := List.forall₂_iff_zip.mp (List.forall₂_map_left_iff.mp (owned.sent_of_free free))
  have older (request : Request K) (call : C)
      (member : (request, call) ∈ handoff.ledger.requests.zip handoff.senders) :
      (handoff.attempts.any fun (sender, writer) =>
        decide (sender = call ∧ writer < handoff.slot.writer)) = true := by
    have attempted := sent member
    refine List.any_eq_true.mpr ⟨(call, request.epoch), attempted, ?_⟩
    simp [owned.writer, replaced, Nat.lt_succ_of_le (owned.begun _ _ attempted).2]
  have kept : ((handoff.ledger.requests.zip handoff.senders).filter fun (request, call) =>
      decide (request.epoch = handoff.ledger.epoch ∧ request.fate = .inFlight) &&
        handoff.attempts.any fun (sender, writer) => decide (sender = call ∧ writer < handoff.slot.writer)) =
      (handoff.ledger.requests.zip handoff.senders).filter
        ((fun request => decide (request.epoch = handoff.ledger.epoch ∧ request.fate = .inFlight)) ∘ Prod.fst) := by
    refine List.filter_congr fun (request, call) member => ?_
    simp only [older request call member, Bool.and_true, Function.comp_apply]
  have requests : (handoff.ledger.requests.zip handoff.senders).map Prod.fst = handoff.ledger.requests :=
    List.map_fst_zip length.le
  rw [owned.tracks.keys, keysOf, having, Handoff.owed, kept]
  nth_rewrite 1 [← requests]
  rw [List.filter_map, List.map_map]
  rfl

/-- A reply changes only requests of its own connection. -/
theorem reply (owned : Owned capacity handoff) {connection : Nat} {key : K}
    (stepped : handoff.step build capacity (.settle connection key) = some next) {position : Nat}
    {request : Request K} (before : handoff.ledger.requests[position]? = some request)
    (changed : next.ledger.requests[position]? ≠ some request) {call : C}
    (sender : handoff.senders[position]? = some call) : handoff.Attempted call connection := by
  simp only [Handoff.step] at stepped
  split at stepped
  case h_1 => cases stepped
  case h_2 epoch captured =>
      obtain ⟨set, -, rfl⟩ := Option.map_eq_some_iff.mp stepped
      have same : request.epoch = connection := by
        rw [← owned.captured connection epoch captured]
        simp only [Ledger.settle] at changed
        split at changed
        · exact settleFirst_changes before changed
        · exact absurd before changed
      have sent := (List.forall₂_iff_get.mp (List.forall₂_map_left_iff.mp owned.sent)).2
      obtain ⟨listed, rfl⟩ := List.getElem?_eq_some_iff.mp before
      obtain ⟨also, rfl⟩ := List.getElem?_eq_some_iff.mp sender
      exact same ▸ sent position listed also

/-- A reply of a connection whose epoch was ended changes nothing. -/
theorem stale (owned : Owned capacity handoff) {connection : Nat} (known : connection < handoff.epochs.length)
    (past : connection < handoff.ledger.epoch) (key : K) :
    handoff.step build capacity (.settle connection key) = some handoff := by
  have captured : handoff.epochs[connection]? = some connection := by
    rw [List.getElem?_eq_getElem known, owned.captured connection _ (List.getElem?_eq_getElem known)]
  have apart : connection ≠ handoff.set.epoch := owned.tracks.epoch ▸ past.ne
  simp [Handoff.step, captured, OutstandingState.settle, apart, Ledger.settle, past.ne]

theorem step (owned : Owned capacity handoff) (turn : Turn C K)
    (few : build = .wrapping → next.ledger.epoch < u64)
    (stepped : handoff.step build capacity turn = some next) : Owned capacity next := by
  cases turn with
  | enter => exact owned.enter stepped
  | begin => exact owned.begin stepped
  | write => exact owned.write stepped
  | replacePaused => exact owned.replacePaused stepped
  | fail => exact owned.fail (ledger_step stepped ▸ few) stepped
  | clear => exact owned.clear (ledger_step stepped ▸ few) stepped
  | capture => exact owned.capture stepped
  | resume => exact owned.resume stepped
  | dropFailing => exact owned.dropFailing stepped
  | settle => exact owned.settle stepped

end Owned

/-- What a handoff keeps apart. -/
structure Separate (build : Build) (capacity : Nat) [DecidableEq C] (handoff : Handoff C K) : Prop where
  /-- Each window is attempted on one writer. -/
  once : ∀ call writer other, handoff.Attempted call writer → handoff.Attempted call other → writer = other
  /-- `fail` hands out exactly what the writers before the replacement owe. -/
  fails : ∀ next, handoff.step build capacity .fail = some next →
    ∃ keys, next.handed = handoff.handed ++ [keys] ∧ ↑(failingKeys keys) = handoff.owed ∧
      bag next.set.keys = 0
  clears : ∀ next, handoff.step build capacity .clear = some next →
    bag handoff.set.keys = handoff.owed ∧ bag next.set.keys = 0
  /-- Until the coordinator resumes, the new writer has no window. -/
  untouched : handoff.stage = .replaced → ∀ call, ¬ handoff.Attempted call handoff.slot.writer
  /-- The set counts the ledger's requests in flight, and a reply changes one of them only
  if its window was attempted on the writer of that reply's connection. -/
  counted : bag handoff.set.keys = keysOf handoff.ledger.requests handoff.ledger.epoch .inFlight
  replies : ∀ connection key next, handoff.step build capacity (.settle connection key) = some next →
    ∀ (position : Nat) request call, handoff.ledger.requests[position]? = some request →
      next.ledger.requests[position]? ≠ some request → handoff.senders[position]? = some call →
      ∀ writer, handoff.Attempted call writer → writer = connection
  /-- A late reply of a connection whose requests were failed or cleared changes nothing. -/
  stale : ∀ connection key, connection < handoff.epochs.length → connection < handoff.ledger.epoch →
    handoff.step build capacity (.settle connection key) = some handoff

variable [DecidableEq C]

theorem Owned.fails (owned : Owned capacity handoff) (stepped : handoff.step build capacity .fail = some next) :
    ∃ keys, next.handed = handoff.handed ++ [keys] ∧ ↑(failingKeys keys) = handoff.owed ∧
      bag next.set.keys = 0 := by
  obtain ⟨replaced, epoch, -, rfl⟩ := fail_eq_some stepped
  exact ⟨handoff.set.keys, rfl, owned.owed replaced, Lib.Bags.bag_empty⟩

theorem Owned.clears (owned : Owned capacity handoff) (stepped : handoff.step build capacity .clear = some next) :
    bag handoff.set.keys = handoff.owed ∧ bag next.set.keys = 0 := by
  obtain ⟨replaced, epoch, -, rfl⟩ := clear_eq_some stepped
  exact ⟨owned.owed replaced, Lib.Bags.bag_empty⟩

/-- However upstream calls, replies and any number of moves interleave. In a build whose integers
wrap, fewer than `2^64` moves. -/
theorem handoff_separate (build : Build) (capacity : Nat) {handoff : Handoff C K}
    (path : Path (Handoff.step build capacity) Any Handoff.new handoff)
    (few : build = .wrapping → handoff.ledger.epoch < u64) : Separate build capacity handoff := by
  have owned : Owned capacity handoff := by
    refine Path.invariant (I := fun handoff => (build = .wrapping → handoff.ledger.epoch < u64) →
      Owned capacity handoff) (fun before turn after kept _ stepped few => ?_) path
      (fun _ => owned_new capacity) few
    refine (kept fun wraps => ?_).step turn few stepped
    exact Nat.lt_of_le_of_lt (by rw [ledger_step stepped]; exact Nat.le_add_right _ _) (few wraps)
  exact
    { once := fun _ _ _ => owned.attempted_once
      fails := fun _ => owned.fails
      clears := fun _ => owned.clears
      untouched := owned.untouched
      counted := owned.tracks.keys
      replies := fun _ _ _ stepped _ _ _ before changed sender _ attempted =>
        owned.attempted_once attempted (owned.reply stepped before changed sender)
      stale := fun _ key known past => owned.stale known past key }

end

/-- A key reused across a move: the reply of the first connection leaves the second request alone. -/
def reusedKey {C : Type} (first second : C) : List (Turn C Nat) :=
  [.enter first [55, 10] [7], .begin, .write .delivered, .replacePaused 0, .fail, .capture, .resume,
    .enter second [55, 10] [7], .begin, .write .delivered, .settle 0 7]

theorem handoff_separate_reused : ∃ handoff : Handoff (Fin 2) Nat,
    replay (Handoff.step .wrapping 4) (reusedKey 0 1) .new = some handoff ∧
      handoff.handed.map failingKeys = [[7]] ∧ handoff.set.tracked = 1 ∧ Separate .wrapping 4 handoff :=
  ⟨_, rfl, rfl, rfl, handoff_separate .wrapping 4 (path_of_replay (reusedKey 0 1) rfl) fun _ => by decide⟩

end KunobiDaemon.Transport
