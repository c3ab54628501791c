import KunobiDaemon.Lib.Threads
import KunobiDaemon.Transport.Outstanding

/-! Threads that share one set of outstanding requests, its lock and its condition variable.

A critical section takes the lock, updates the state, may notify and releases the
lock; other threads move between these steps. `Condvar::wait` releases the lock and
blocks in one step, `notify_all` unblocks every thread blocked at that moment, and a
blocked thread may also be unblocked by nothing at all.
-/

set_option autoImplicit false

namespace KunobiDaemon.Transport

open Lib.Systems
open Lib.Threads

/-- The updates of the set. A settlement names the epoch it carries. -/
inductive Update (K : Type) where
  | begin (key : K)
  | epoch
  | settle (epoch : Nat) (key : K)
  | clear
  | fail
  | dropFailing
  | transition
  | dropTransition
  deriving DecidableEq, Repr

/-- Where a thread stands. -/
inductive Place where
  /-- Outside every operation. -/
  | idle
  /-- Holds the lock after an update, about to call `wake_if_settled`. -/
  | waking
  /-- Holds the lock with nothing left to do but return, from `wait_settled` or from an update. -/
  | leaving (waited : Bool)
  /-- Holds the lock in `wait_settled`, registered, about to test `settled`. -/
  | checking
  /-- Blocked on the condition variable. -/
  | blocked
  /-- Unblocked inside `Condvar::wait`, without the lock yet. -/
  | woken
  deriving DecidableEq, Repr

namespace Place

def holds : Place → Bool
  | .waking | .leaving _ | .checking => true
  | .idle | .blocked | .woken => false

/-- Between `waiters += 1` and `waiters -= 1` -/
def registered : Place → Bool
  | .checking | .blocked | .woken => true
  | .idle | .waking | .leaving _ => false

/-- `notify_all` as one thread sees it -/
def notified : Place → Place
  | .blocked => .woken
  | place => place

@[simp] theorem registered_notified (place : Place) : place.notified.registered = place.registered := by
  cases place <;> rfl

@[simp] theorem holds_notified (place : Place) : place.notified.holds = place.holds := by
  cases place <;> rfl

theorem notified_ne_blocked (place : Place) : place.notified ≠ .blocked := by
  cases place <;> simp [notified]

theorem notified_eq_leaving {place : Place} {waited : Bool} :
    place.notified = .leaving waited ↔ place = .leaving waited := by
  cases place <;> simp [notified]

end Place

namespace OutstandingState
variable {K : Type} [LinearOrder K]

/-- An update's critical section up to its last statement, and whether that is `wake_if_settled`. -/
def update (build : Build) (capacity : Nat) (state : OutstandingState K) :
    Update K → Option (OutstandingState K × Bool)
  | .begin key => some (state.begin capacity key, false)
  | .epoch => some (state, false)
  | .settle epoch key => (state.settle epoch key).map fun next =>
      (next, epoch == state.epoch && state.keys.contains key)
  | .clear => (state.clear build).map fun next => (next, true)
  | .fail => (state.fail build).map fun (next, _) => (next, false)
  | .dropFailing => state.dropFailing.map fun next => (next, true)
  | .transition => some (state.transition, false)
  | .dropTransition => state.dropTransition.map fun next => (next, true)

theorem settled_begin (capacity : Nat) (state : OutstandingState K) (key : K) :
    (state.begin capacity key).settled = false := by
  simp only [begin]
  split <;> simp [settled]

/-- `settle` that removes nothing leaves the set as it was. -/
theorem settle_absent {state next : OutstandingState K} {epoch : Nat} {key : K}
    (absent : (epoch == state.epoch && state.keys.contains key) = false)
    (settled : state.settle epoch key = some next) : next = state := by
  simp only [settle] at settled
  split at settled
  case isTrue => exact (Option.some.inj settled).symm
  case isFalse current =>
      have missing : state.keys[key]? = none := by
        simp only [ne_eq, Decidable.not_not] at current
        exact Std.TreeMap.getElem?_eq_none_of_contains_eq_false (by simpa [current] using absent)
      rw [missing] at settled
      exact (Option.some.inj settled).symm

/-- An update that ends without `wake_if_settled` changes nothing or leaves the set unsettled. -/
theorem update_silent {build : Build} {capacity : Nat} {state next : OutstandingState K}
    {update : Update K} (updated : state.update build capacity update = some (next, false)) :
    next = state ∨ next.settled = false := by
  cases update with
  | begin key =>
      simp only [OutstandingState.update, Option.some.injEq, Prod.mk.injEq, and_true] at updated
      exact .inr (updated ▸ settled_begin capacity state key)
  | epoch =>
      simp only [OutstandingState.update, Option.some.injEq, Prod.mk.injEq, and_true] at updated
      exact .inl updated.symm
  | settle epoch key =>
      simp only [OutstandingState.update, Option.map_eq_some_iff, Prod.mk.injEq] at updated
      obtain ⟨_, settled, rfl, absent⟩ := updated
      exact .inl (settle_absent absent settled)
  | fail =>
      simp only [OutstandingState.update, fail, Option.map_map, Option.map_eq_some_iff] at updated
      obtain ⟨epoch, -, built⟩ := updated
      cases built
      exact .inr (by simp [settled])
  | transition =>
      simp only [OutstandingState.update, Option.some.injEq, Prod.mk.injEq, and_true] at updated
      exact .inr (by simp [← updated, transition, settled])
  | clear | dropFailing | dropTransition =>
      simp [OutstandingState.update] at updated

theorem update_waiters {build : Build} {capacity : Nat} {state next : OutstandingState K} {wakes : Bool}
    {update : Update K} (updated : state.update build capacity update = some (next, wakes)) :
    next.waiters = state.waiters := by
  cases update with
  | begin key =>
      simp only [OutstandingState.update, begin, Option.some.injEq, Prod.mk.injEq] at updated
      rw [← updated.1]
      split <;> rfl
  | settle epoch key =>
      simp only [OutstandingState.update, settle, Option.map_eq_some_iff, Prod.mk.injEq] at updated
      obtain ⟨_, settled, rfl, -⟩ := updated
      split at settled
      · cases settled
        rfl
      · split at settled
        · cases settled
          rfl
        · simp only [Option.bind_eq_some_iff, Option.map_eq_some_iff] at settled
          obtain ⟨_, -, _, -, rfl⟩ := settled
          rfl
  | epoch | clear | fail | dropFailing | transition | dropTransition =>
      simp only [OutstandingState.update, clear, fail, dropFailing, transition, dropTransition,
        Option.map_map, Option.map_eq_some_iff, Function.comp_apply, Option.some.injEq, Prod.mk.injEq] at updated
      grind

end OutstandingState

structure Shared (T K : Type) [LinearOrder K] where
  lock : Option T
  state : OutstandingState K
  place : T → Place

/-- What a thread does next. -/
inductive Action (K : Type) where
  /-- Take the lock and update the state. -/
  | update (update : Update K)
  /-- `wake_if_settled` -/
  | wake
  /-- Release the lock and return. -/
  | release
  /-- Enter `wait_settled` and register. -/
  | register
  /-- Test `settled`: unregister, or wait. -/
  | check
  /-- Be unblocked by nothing. -/
  | spurious
  /-- Take the lock again inside `Condvar::wait`. -/
  | reacquire
  deriving DecidableEq, Repr

namespace Shared
variable {T K : Type} [DecidableEq T] [LinearOrder K]

def new : Shared T K := ⟨none, .new, fun _ => .idle⟩

def move (shared : Shared T K) (t : T) (place : Place) : T → Place :=
  Function.update shared.place t place

theorem move_cases (shared : Shared T K) (t : T) (place : Place) (u : T) :
    (u = t ∧ shared.move t place u = place) ∨ (u ≠ t ∧ shared.move t place u = shared.place u) := by
  by_cases same : u = t
  · exact .inl ⟨same, by rw [same, move, Function.update_self]⟩
  · exact .inr ⟨same, by rw [move, Function.update_of_ne same]⟩

/-- One step of one thread. It has none where its place or the lock does not allow the
action, and where the action panics. A guard is dropped only while one is alive. -/
def step (build : Build) (capacity : Nat) (shared : Shared T K) : T × Action K → Option (Shared T K)
  | (t, .update update) =>
      if shared.place t = .idle ∧ shared.lock = none then
        (shared.state.update build capacity update).map fun (state, wakes) =>
          ⟨some t, state, shared.move t (if wakes then .waking else .leaving false)⟩
      else none
  | (t, .wake) =>
      if shared.place t = .waking then
        let place := shared.move t (.leaving false)
        some { shared with
          place := if shared.state.mustWake then fun u => (place u).notified else place }
      else none
  | (t, .release) =>
      match shared.place t with
      | .leaving _ => some { shared with lock := none, place := shared.move t .idle }
      | _ => none
  | (t, .register) =>
      if shared.place t = .idle ∧ shared.lock = none then
        some ⟨some t, { shared.state with waiters := shared.state.waiters + 1 }, shared.move t .checking⟩
      else none
  | (t, .check) =>
      if shared.place t = .checking then
        if shared.state.settled then
          (decrement shared.state.waiters).map fun waiters =>
            { shared with state := { shared.state with waiters }, place := shared.move t (.leaving true) }
        else some { shared with lock := none, place := shared.move t .blocked }
      else none
  | (t, .spurious) =>
      if shared.place t = .blocked then some { shared with place := shared.move t .woken } else none
  | (t, .reacquire) =>
      if shared.place t = .woken ∧ shared.lock = none then
        some { shared with lock := some t, place := shared.move t .checking }
      else none

end Shared

section
variable {T K : Type} [Fintype T] [LinearOrder K]
variable {build : Build} {capacity : Nat} {shared next : Shared T K} {t : T}

/-- What every interleaving keeps. A settled set with a blocked thread is one whose
lock is held by a thread that is still to notify. -/
structure Awake (shared : Shared T K) : Prop where
  exclusive : ∀ u, (shared.place u).holds = true ↔ shared.lock = some u
  counted : shared.state.waiters = count Place.registered shared.place
  attended : shared.state.settled = true → ∀ u, shared.place u = .blocked →
    ∃ holder, shared.place holder = .waking
  returned : ∀ u, shared.place u = .leaving true → shared.state.settled = true

theorem awake_new : Awake (Shared.new : Shared T K) where
  exclusive := by simp [Shared.new, Place.holds]
  counted := by simp [Shared.new, OutstandingState.new, count, Place.registered]
  attended := by simp [Shared.new]
  returned := by simp [Shared.new]

namespace Awake

/-- Nobody is blocked on a settled set unless a thread with the lock is still to notify. -/
theorem quiet (awake : Awake shared) (settled : shared.state.settled = true)
    (calm : ∀ holder, shared.lock = some holder → shared.place holder ≠ .waking) (u : T) :
    shared.place u ≠ .blocked := by
  intro blocked
  obtain ⟨holder, waking⟩ := awake.attended settled u blocked
  exact calm holder ((awake.exclusive holder).mp (by simp [waking, Place.holds])) waking

/-- A thread at a place that holds the lock is the one the lock names. -/
theorem held (awake : Awake shared) (here : (shared.place t).holds = true) {holder : T}
    (locked : shared.lock = some holder) : holder = t := by
  rw [(awake.exclusive t).mp here, Option.some.injEq] at locked
  exact locked.symm

variable [DecidableEq T]

/-- Moving one thread keeps the lock exclusive if the lock follows it. -/
theorem exclusive_move (awake : Awake shared) {place : Place} {lock : Option T}
    (follows : place.holds = true ↔ lock = some t)
    (others : ∀ u, u ≠ t → (shared.lock = some u ↔ lock = some u)) (u : T) :
    (shared.move t place u).holds = true ↔ lock = some u := by
  rcases Shared.move_cases shared t place u with ⟨rfl, moved⟩ | ⟨apart, stayed⟩
  · rw [moved, follows]
  · rw [stayed, awake.exclusive u, others u apart]

theorem counted_move (awake : Awake shared) {place : Place} {waiters : Nat}
    (moved : waiters + (shared.place t).registered.toNat = shared.state.waiters + place.registered.toNat) :
    waiters = count Place.registered (shared.move t place) := by
  have changed := count_update Place.registered shared.place t place
  rw [← awake.counted] at changed
  exact Nat.add_right_cancel (moved.trans changed.symm)

/-- A step that moves one thread and leaves the set as settled as it was, while no
thread is about to notify. -/
theorem moved (awake : Awake shared) {lock : Option T} {state : OutstandingState K} {place : Place}
    (calm : ∀ holder, shared.lock = some holder → shared.place holder ≠ .waking)
    (follows : place.holds = true ↔ lock = some t)
    (others : ∀ u, u ≠ t → (shared.lock = some u ↔ lock = some u))
    (counted : state.waiters + (shared.place t).registered.toNat =
      shared.state.waiters + place.registered.toNat)
    (same : state.settled = shared.state.settled)
    (blocks : place = .blocked → state.settled = false)
    (returns : place = .leaving true → state.settled = true) :
    Awake ⟨lock, state, shared.move t place⟩ where
  exclusive := awake.exclusive_move follows others
  counted := awake.counted_move counted
  attended := by
    intro settled u blocked
    rcases Shared.move_cases shared t place u with ⟨-, moved⟩ | ⟨-, stayed⟩
    · exact absurd settled (by simp [blocks (moved.symm.trans blocked)])
    · exact absurd (stayed.symm.trans blocked) (awake.quiet (same ▸ settled) calm u)
  returned := by
    intro u left
    rcases Shared.move_cases shared t place u with ⟨-, moved⟩ | ⟨-, stayed⟩
    · exact returns (moved.symm.trans left)
    · exact same ▸ awake.returned u (stayed.symm.trans left)

theorem update (awake : Awake shared) {update : Update K}
    (stepped : shared.step build capacity (t, .update update) = some next) : Awake next := by
  simp only [Shared.step] at stepped
  split at stepped
  case isFalse => cases stepped
  case isTrue entered =>
      obtain ⟨idle, free⟩ := entered
      simp only [Option.map_eq_some_iff] at stepped
      obtain ⟨⟨state, wakes⟩, updated, rfl⟩ := stepped
      have place_holds : (if wakes = true then Place.waking else .leaving false).holds = true := by
        split <;> rfl
      refine ⟨awake.exclusive_move (by simp [place_holds]) fun u apart => ?_, awake.counted_move ?_, ?_, ?_⟩
      · simp [free, apart.symm]
      · rw [OutstandingState.update_waiters updated, idle]
        split <;> rfl
      · intro settled u blocked
        cases wakes with
        | true => exact ⟨t, by simp [Shared.move]⟩
        | false =>
            -- No notification is due: the set was settled before, when nobody was blocked.
            rcases OutstandingState.update_silent updated with same | unsettled
            · subst same
              rcases Shared.move_cases shared t (.leaving false) u with ⟨-, moved⟩ | ⟨-, stayed⟩
              · cases moved.symm.trans blocked
              · exact absurd (stayed.symm.trans blocked) (awake.quiet settled (by simp [free]) u)
            · simp only [unsettled, Bool.false_eq_true] at settled
      · intro u left
        rcases Shared.move_cases shared t (if wakes = true then .waking else .leaving false) u with
          ⟨-, moved⟩ | ⟨-, stayed⟩
        · have := moved.symm.trans left
          split at this <;> cases this
        · have held := (awake.exclusive u).mp (by rw [stayed.symm.trans left]; rfl)
          simp [free] at held

/-- The last statement of a waking update. Nobody else can be returning: that takes the lock. -/
theorem wake (awake : Awake shared) (stepped : shared.step build capacity (t, .wake) = some next) :
    Awake next := by
  simp only [Shared.step] at stepped
  split at stepped
  case isFalse => cases stepped
  case isTrue waking =>
      cases stepped
      have here : (shared.place t).holds = true := by rw [waking]; rfl
      have exclusive : ∀ u, (shared.move t (.leaving false) u).holds = true ↔ shared.lock = some u :=
        awake.exclusive_move (by simp [Place.holds, (awake.exclusive t).mp here]) fun _ _ => Iff.rfl
      have counted : shared.state.waiters = count Place.registered (shared.move t (.leaving false)) :=
        awake.counted_move (by rw [waking]; rfl)
      have returned : ∀ u, shared.move t (.leaving false) u ≠ .leaving true := by
        intro u left
        obtain rfl := awake.held here ((exclusive u).mp (by rw [left]; rfl))
        simp [Shared.move] at left
      by_cases must : shared.state.mustWake = true
      · simp only [must, if_true]
        refine ⟨fun u => ?_, ?_, fun _ u blocked => ?_, fun u left => ?_⟩
        · rw [Place.holds_notified]
          exact exclusive u
        · rw [counted]
          exact count_congr fun u => by simp
        · exact absurd blocked (Place.notified_ne_blocked _)
        · exact absurd (Place.notified_eq_leaving.mp left) (returned u)
      · simp only [must, Bool.false_eq_true, if_false]
        refine ⟨exclusive, counted, fun settled u blocked => ?_, fun u left => absurd left (returned u)⟩
        -- A blocked thread is registered, so a settled set would have woken it.
        have registered : 0 < count Place.registered (shared.move t (.leaving false)) :=
          count_pos (congrArg Place.registered blocked)
        exact absurd (by simp [OutstandingState.mustWake, counted, registered, settled]) must

theorem release (awake : Awake shared) (stepped : shared.step build capacity (t, .release) = some next) :
    Awake next := by
  simp only [Shared.step] at stepped
  split at stepped
  case h_2 => cases stepped
  case h_1 waited leaving =>
      cases stepped
      have here : (shared.place t).holds = true := by rw [leaving]; rfl
      refine awake.moved (fun holder locked => ?_) (by simp [Place.holds]) (fun u apart => ?_)
        (by rw [leaving]; rfl) rfl (by simp) (by simp)
      · simp [awake.held here locked, leaving]
      · simp [(awake.exclusive t).mp here, apart.symm]

theorem register (awake : Awake shared) (stepped : shared.step build capacity (t, .register) = some next) :
    Awake next := by
  simp only [Shared.step] at stepped
  split at stepped
  case isFalse => cases stepped
  case isTrue entered =>
      obtain ⟨idle, free⟩ := entered
      cases stepped
      exact awake.moved (by simp [free]) (by simp [Place.holds]) (fun u apart => by simp [free, apart.symm])
        (by rw [idle]; rfl) rfl (by simp) (by simp)

theorem check (awake : Awake shared) (stepped : shared.step build capacity (t, .check) = some next) :
    Awake next := by
  simp only [Shared.step] at stepped
  split at stepped
  case isFalse => cases stepped
  case isTrue checking =>
      have here : (shared.place t).holds = true := by rw [checking]; rfl
      have calm : ∀ holder, shared.lock = some holder → shared.place holder ≠ .waking :=
        fun holder locked => by simp [awake.held here locked, checking]
      split at stepped
      case isTrue settled =>
          simp only [Option.map_eq_some_iff] at stepped
          obtain ⟨waiters, lowered, rfl⟩ := stepped
          have registered : shared.state.waiters = waiters + 1 := decrement_eq_some.mp lowered
          exact awake.moved calm (by simp [Place.holds, (awake.exclusive t).mp here]) (fun _ _ => Iff.rfl)
            (by rw [checking, registered]; rfl) rfl (by simp) fun _ => settled
      case isFalse unsettled =>
          cases stepped
          exact awake.moved calm (by simp [Place.holds])
            (fun u apart => by simp [(awake.exclusive t).mp here, apart.symm])
            (by rw [checking]; rfl) rfl (by simp [unsettled]) (by simp)

theorem spurious (awake : Awake shared) (stepped : shared.step build capacity (t, .spurious) = some next) :
    Awake next := by
  simp only [Shared.step] at stepped
  split at stepped
  case isFalse => cases stepped
  case isTrue blocked =>
      cases stepped
      have apart : shared.lock ≠ some t := fun held => by
        have := (awake.exclusive t).mpr held
        simp [blocked, Place.holds] at this
      refine ⟨awake.exclusive_move (by simp [Place.holds, apart]) fun _ _ => Iff.rfl,
        awake.counted_move (by rw [blocked]; rfl), fun settled u still => ?_, fun u left => ?_⟩
      · obtain ⟨holder, waking⟩ := awake.attended settled t blocked
        have other : holder ≠ t := fun same => by simp [same, blocked] at waking
        exact ⟨holder, by simp [Shared.move, Function.update_of_ne other, waking]⟩
      · rcases Shared.move_cases shared t .woken u with ⟨-, moved⟩ | ⟨-, stayed⟩
        · cases moved.symm.trans left
        · exact awake.returned u (stayed.symm.trans left)

theorem reacquire (awake : Awake shared) (stepped : shared.step build capacity (t, .reacquire) = some next) :
    Awake next := by
  simp only [Shared.step] at stepped
  split at stepped
  case isFalse => cases stepped
  case isTrue entered =>
      obtain ⟨woken, free⟩ := entered
      cases stepped
      exact awake.moved (by simp [free]) (by simp [Place.holds]) (fun u apart => by simp [free, apart.symm])
        (by rw [woken]; rfl) rfl (by simp) (by simp)

theorem step (awake : Awake shared) (label : T × Action K)
    (stepped : shared.step build capacity label = some next) : Awake next := by
  obtain ⟨t, action⟩ := label
  cases action with
  | update => exact awake.update stepped
  | wake => exact awake.wake stepped
  | release => exact awake.release stepped
  | register => exact awake.register stepped
  | check => exact awake.check stepped
  | spurious => exact awake.spurious stepped
  | reacquire => exact awake.reacquire stepped

end Awake

/-- What a waiting thread can rely on. -/
structure Wakeful (build : Build) (capacity : Nat) [DecidableEq T] (shared : Shared T K) : Prop where
  /-- No thread sleeps on a settled set. -/
  awake : shared.state.settled = true → shared.lock = none → ∀ t, shared.place t ≠ .blocked
  counted : shared.state.waiters = count Place.registered shared.place
  bounded : count (· == Place.blocked) shared.place ≤ shared.state.waiters
  /-- `waiters -= 1` never underflows. -/
  unregisters : ∀ t, shared.place t = .checking → (shared.step build capacity (t, .check)).isSome = true
  /-- A thread that is to return from `wait_settled` still sees the settled state. -/
  returned : ∀ t, shared.place t = .leaving true → shared.state.settled = true

variable [DecidableEq T]

theorem Awake.unregisters (awake : Awake shared) (checking : shared.place t = .checking) :
    (shared.step build capacity (t, .check)).isSome = true := by
  have registered : 0 < shared.state.waiters :=
    awake.counted ▸ count_pos (t := t) (by rw [checking]; rfl)
  obtain ⟨rest, succ⟩ := Nat.exists_eq_add_of_lt registered
  simp only [Shared.step, checking, succ, if_true]
  split
  · simp [decrement]
  · rfl

/-- Whatever the threads do and however their steps interleave, a settled set wakes its waiters. -/
theorem wait_settled_wakes (build : Build) (capacity : Nat) {shared : Shared T K}
    (path : Path (Shared.step build capacity) Any Shared.new shared) : Wakeful build capacity shared := by
  have awake : Awake shared := Path.invariant (fun _ label _ awake _ => awake.step label) path awake_new
  refine ⟨fun settled free => awake.quiet settled (by simp [free]), awake.counted, ?_,
    fun t => awake.unregisters, awake.returned⟩
  rw [awake.counted]
  refine count_mono (fun place blocked => ?_) shared.place
  rw [eq_of_beq blocked]
  rfl

end

/-- A thread blocks on one request, the reply wakes it, and it is about to return. -/
def awaitedReply {T : Type} (client waiter : T) : List (T × Action Nat) :=
  [(client, .update (.begin 7)), (client, .release), (waiter, .register), (waiter, .check),
    (client, .update (.settle 0 7)), (client, .wake), (client, .release), (waiter, .reacquire), (waiter, .check)]

theorem wait_settled_wakes_reply : ∃ shared : Shared (Fin 2) Nat,
    replay (Shared.step .checked 4) (awaitedReply 0 1) .new = some shared ∧
      shared.place 1 = .leaving true ∧ Wakeful .checked 4 shared :=
  ⟨_, rfl, rfl, wait_settled_wakes .checked 4 (path_of_replay (awaitedReply 0 1) rfl)⟩

end KunobiDaemon.Transport
