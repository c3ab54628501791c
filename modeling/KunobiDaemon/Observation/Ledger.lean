import KunobiDaemon.Observation.Books

/-! What the accounts of all parties add up to.

Every operation changes one account and what is shared alike, as long as the account is ready for
it. So the sums stay equal to the counters, whoever takes the next step.
-/

set_option autoImplicit false

namespace KunobiDaemon.Observation

open Lib.Totals

/-! ## What an account holds -/

namespace Account

def locks (account : Account) : Nat := if account.hold = .none then 0 else 1

def rooms (account : Account) : Nat := if account.hold = .room then 1 else 0

/-- An event that is neither queued nor lost yet. -/
def opens (account : Account) : Nat := (account.recording && !account.settled).toNat

theorem rooms_le_locks (account : Account) : account.rooms ≤ account.locks := by
  unfold rooms locks
  cases account.hold <;> decide

end Account

section
variable {bits : Nat} {o o' : Observations bits} {history history' : History} {accounts : List Account}
  {account after : Account} {index : Nat} {role : Role} {input : Input} {question : Question} {reply : question.Reply}
  {direction : Direction}

theorem held_owes (bytes : Option (Direction × Nat)) (direction : Direction) :
    (account.owes bytes).held direction = account.held direction := by
  rw [Account.owes_held]

theorem connected_owes (bytes : Option (Direction × Nat)) : (account.owes bytes).connected = account.connected := by
  cases bytes <;> rfl

theorem hold_owes (bytes : Option (Direction × Nat)) : (account.owes bytes).hold = account.hold := by
  cases bytes <;> rfl

/-! ## The counters -/

/-- `pending` and `connections` are what the parties hold. -/
structure Counted (o : Observations bits) (accounts : List Account) : Prop where
  pending : ∀ direction, Counts (o.progress direction).pending (fun account => (account.held direction).toNat) accounts
  connections : Counts o.connections (fun account => account.connected.toNat) accounts

/-- An update leaves what it does not set, in either direction. -/
theorem update_progress {A : Type} (f : Progress bits → A) {progress : Progress bits}
    (same : f progress = f (o.progress direction)) (other : Direction) :
    f ((o.update direction progress).progress other) = f (o.progress other) := by
  by_cases here : other = direction
  · subst here
    simpa [Observations.update] using same
  · simp [Observations.update, Function.update_of_ne here]

theorem held_pending (permits : account.Permits (.pending direction)) (other : Direction) :
    ({ account with begun := some direction } : Account).held other = (account.held other || direction = other) := by
  obtain ⟨begun, last, released⟩ := permits
  by_cases same : direction = other
  · subst same
    simp [Account.held, released]
  · simp [Account.held, begun, same]

theorem held_release (other : Direction) :
    ({ account with released := Function.update account.released direction true } : Account).held other =
      (account.held other && direction ≠ other) := by
  by_cases same : direction = other
  · subst same
    simp [Account.held]
  · simp [Account.held, same, Function.update_of_ne (Ne.symm same)]

namespace Counted

theorem same (counted : Counted o accounts) (here : accounts[index]? = some account)
    (pending : ∀ direction, (o'.progress direction).pending = (o.progress direction).pending)
    (connections : o'.connections = o.connections) (held : ∀ direction, after.held direction = account.held direction)
    (connected : after.connected = account.connected) : Counted o' (accounts.set index after) where
  pending direction := pending direction ▸ (counted.pending direction).set_same here (congrArg Bool.toNat (held direction))
  connections := connections ▸ counted.connections.set_same here (congrArg Bool.toNat connected)

theorem begins (counted : Counted o accounts) (here : accounts[index]? = some account)
    (permits : account.Permits (.pending direction)) :
    Counted (o.update direction { o.progress direction with pending := (o.progress direction).pending.add (.ofNat bits 1) })
      (accounts.set index { account with begun := some direction }) := by
  refine ⟨fun other => ?_, counted.connections.set_same here rfl⟩
  by_cases same : direction = other
  · subst same
    have free : account.held direction = false := by simp [Account.held, permits.1, permits.2.1]
    simp only [Observations.update, Function.update_self]
    exact (counted.pending direction).set_succ here (by simp [held_pending permits, free])
  · simp only [Observations.update, Function.update_of_ne (Ne.symm same)]
    exact (counted.pending other).set_same here (by simp [held_pending permits, same])

theorem releases (counted : Counted o accounts) (here : accounts[index]? = some account)
    (held : account.held direction = true) :
    Counted (o.update direction { o.progress direction with pending := (o.progress direction).pending.sub (.ofNat bits 1) })
      (accounts.set index { account with released := Function.update account.released direction true }) := by
  refine ⟨fun other => ?_, counted.connections.set_same here rfl⟩
  by_cases same : direction = other
  · subst same
    simp only [Observations.update, Function.update_self]
    exact (counted.pending direction).set_pred here (by simp [held_release, held])
  · simp only [Observations.update, Function.update_of_ne (Ne.symm same)]
    exact (counted.pending other).set_same here (by simp [held_release, same])

theorem step (counted : Counted o accounts) (here : accounts[index]? = some account)
    (ready : account.Ready role question) (answered : o.answer input question = some (reply, o')) :
    Counted o' (accounts.set index (account.after o.capacity question reply)) := by
  cases question with
  | pending direction =>
      cases answered
      exact counted.begins here ready.permits
  | release direction =>
      cases answered
      exact counted.releases here ready.permits
  | connect =>
      cases answered
      have new : account.connected = false := ready.permits
      exact ⟨fun direction => (counted.pending direction).set_same here rfl,
        counted.connections.set_succ here (by simp [Account.after, new])⟩
  | disconnect =>
      cases answered
      have connected : account.connected = true := ready.permits.1
      exact ⟨fun direction => (counted.pending direction).set_same here rfl,
        counted.connections.set_pred here (by simp [Account.after, connected])⟩
  | busySince direction | lastProgress direction | errors direction | bytes direction =>
      cases answered
      exact counted.same here (update_progress Progress.pending rfl) rfl (fun _ => rfl) rfl
  | call direction transfers =>
      obtain ⟨outcome, -, done⟩ := Option.map_eq_some_iff.mp answered
      cases done
      exact counted.same here (fun _ => rfl) rfl (held_owes _) (connected_owes _)
  | poll direction transfers =>
      cases answered
      exact counted.same here (fun _ => rfl) rfl (held_owes _) (connected_owes _)
  | lock =>
      obtain ⟨-, done⟩ := Option.ite_none_left_eq_some.mp answered
      cases done
      exact counted.same here (fun _ => rfl) rfl (fun _ => rfl) rfl
  | enter | leave | tryLock | length | elapsed | pushBack | unlock | lostEvents | drain =>
      cases answered
      exact counted.same here (fun _ => rfl) rfl (fun _ => rfl) rfl

end Counted

/-! ## The queue -/

/-- At most one party has the queue, and the room it saw is still there. -/
structure Locked (o : Observations bits) (accounts : List Account) : Prop where
  locked : total Account.locks accounts = o.locked.toNat
  room : 0 < total Account.rooms accounts → o.events.length < o.capacity
  bounded : o.events.length ≤ o.capacity

namespace Locked

theorem same (queue : Locked o accounts) (here : accounts[index]? = some account) (locked : o'.locked = o.locked)
    (events : o'.events = o.events) (capacity : o'.capacity = o.capacity) (hold : after.hold = account.hold) :
    Locked o' (accounts.set index after) := by
  have locks : after.locks = account.locks := by rw [Account.locks, Account.locks, hold]
  have rooms : after.rooms = account.rooms := by rw [Account.rooms, Account.rooms, hold]
  refine ⟨?_, ?_, ?_⟩
  · rw [locked, total_set_same here locks, queue.locked]
  · rw [events, capacity, total_set_same here rooms]
    exact queue.room
  · rw [events, capacity]
    exact queue.bounded

/-- A party gets the queue, or does not. -/
theorem tries (queue : Locked o accounts) (here : accounts[index]? = some account) (before : account.hold = .none)
    (now : after.hold = .tried !o.locked) : Locked { o with locked := true } (accounts.set index after) := by
  have locks := total_set Account.locks here after
  have rooms : after.rooms = account.rooms := by
    cases taken : o.locked <;> simp [Account.rooms, before, now, Hold.tried, taken]
  have locked := queue.locked
  refine ⟨?_, ?_, queue.bounded⟩
  · cases taken : o.locked <;> simp [Account.locks, before, now, Hold.tried, taken] at locks locked ⊢ <;> omega
  · rw [total_set_same here rooms]
    exact queue.room

/-- A party that has the queue sees that there is room, or not. -/
theorem looks (queue : Locked o accounts) (here : accounts[index]? = some account) (before : account.hold ≠ .none)
    (now : after.hold = .seen o.capacity o.events.length) : Locked o (accounts.set index after) := by
  have locks : after.locks = account.locks := by
    rw [Account.locks, Account.locks, if_neg before, now, Hold.seen]
    split <;> rfl
  have rooms := total_set Account.rooms here after
  refine ⟨?_, fun seen => ?_, queue.bounded⟩
  · rw [total_set_same here locks, queue.locked]
  · by_cases room : o.events.length < o.capacity
    · exact room
    · have none : after.rooms = 0 := by simp [Account.rooms, now, Hold.seen, room]
      exact queue.room (by omega)

theorem rooms_le_one (queue : Locked o accounts) : total Account.rooms accounts ≤ 1 := by
  have le := total_le_total Account.rooms_le_locks accounts
  rw [queue.locked] at le
  exact Nat.le_trans le o.locked.toNat_le

theorem pushes (queue : Locked o accounts) (here : accounts[index]? = some account) (before : account.hold = .room)
    (now : after.hold = .locked) (event : TimedEvent) :
    Locked { o with events := o.events ++ [event] } (accounts.set index after) := by
  have locks : after.locks = account.locks := by rw [Account.locks, Account.locks, before, now]; rfl
  have rooms := total_set Account.rooms here after
  have mine : account.rooms = 1 := by rw [Account.rooms, before]; rfl
  have none : after.rooms = 0 := by rw [Account.rooms, now]; rfl
  have one := queue.rooms_le_one
  refine ⟨?_, fun seen => ?_, ?_⟩
  · rw [total_set_same here locks, queue.locked]
  -- Nobody else has the queue, so nobody else has seen room in it.
  · omega
  · rw [List.length_append]
    exact queue.room (by omega)

theorem unlocks (queue : Locked o accounts) (here : accounts[index]? = some account) (before : account.hold ≠ .none)
    (now : after.hold = .none) : Locked { o with locked := false } (accounts.set index after) := by
  have locks := total_set Account.locks here after
  have mine : account.locks = 1 := if_neg before
  have none : after.locks = 0 := if_pos now
  have locked := queue.locked
  have bit := o.locked.toNat_le
  have free : total Account.locks (accounts.set index after) = 0 := by omega
  refine ⟨free, fun seen => ?_, queue.bounded⟩
  have rooms := total_le_total Account.rooms_le_locks (accounts.set index after)
  omega

theorem step (queue : Locked o accounts) (here : accounts[index]? = some account) (ready : account.Ready role question)
    (answered : o.answer input question = some (reply, o')) :
    Locked o' (accounts.set index (account.after o.capacity question reply)) := by
  have permits := ready.permits
  cases question with
  | tryLock =>
      cases answered
      exact queue.tries here permits rfl
  | lock =>
      obtain ⟨free, done⟩ := Option.ite_none_left_eq_some.mp answered
      cases done
      refine queue.tries here permits ?_
      rw [Bool.eq_false_iff.mpr free]
      rfl
  | length =>
      cases answered
      exact queue.looks here permits rfl
  | pushBack event =>
      cases answered
      exact queue.pushes here permits.1 rfl event
  | unlock =>
      cases answered
      exact queue.unlocks here permits rfl
  | drain =>
      cases answered
      have kept : Locked o (accounts.set index account) := queue.same here rfl rfl rfl rfl
      exact ⟨kept.locked, fun seen => Nat.zero_lt_of_lt (kept.room seen), Nat.zero_le _⟩
  | call direction transfers =>
      obtain ⟨outcome, -, done⟩ := Option.map_eq_some_iff.mp answered
      cases done
      exact queue.same here rfl rfl rfl (hold_owes _)
  | poll direction transfers =>
      cases answered
      exact queue.same here rfl rfl rfl (hold_owes _)
  | enter | leave | lostEvents | elapsed | pending | release | busySince | lastProgress | errors | bytes | connect
  | disconnect =>
      cases answered
      exact queue.same here rfl rfl rfl rfl

end Locked

/-- Every event recorded is queued, taken, lost or still in the hands of its `record` call. -/
structure Recorded (o : Observations bits) (history : History) (accounts : List Account) : Prop where
  order : history.taken ++ o.events = history.pushed
  lost : o.lostEvents = .ofNat 64 history.losses
  calls : 0 < o.capacity → history.calls = history.pushed.length + history.losses + total Account.opens accounts
  disabled : o.capacity = 0 → history.pushed.length + history.losses + total Account.opens accounts = 0

namespace Recorded

theorem same (records : Recorded o history accounts) (here : accounts[index]? = some account)
    (taken : history'.taken = history.taken) (pushed : history'.pushed = history.pushed)
    (losses : history'.losses = history.losses) (calls : history'.calls = history.calls) (events : o'.events = o.events)
    (lost : o'.lostEvents = o.lostEvents) (capacity : o'.capacity = o.capacity) (opens : after.opens = account.opens) :
    Recorded o' history' (accounts.set index after) where
  order := by rw [taken, pushed, events, records.order]
  lost := by rw [lost, losses, records.lost]
  calls := by
    rw [capacity, calls, pushed, losses, total_set_same here opens]
    exact records.calls
  disabled := by
    rw [capacity, pushed, losses, total_set_same here opens]
    exact records.disabled

theorem moves (records : Recorded o history accounts) (here : accounts[index]? = some account)
    (bytes : Option (Direction × Nat)) : Recorded o (history.moves bytes) (accounts.set index (account.owes bytes)) := by
  cases bytes <;> exact records.same here rfl rfl rfl rfl rfl rfl rfl rfl

theorem enters (records : Recorded o history accounts) (here : accounts[index]? = some account)
    (before : account.opens = 0) (now : after.opens = if o.capacity = 0 then 0 else 1) :
    Recorded o { history with calls := history.calls + 1 } (accounts.set index after) := by
  have opens := total_set Account.opens here after
  refine ⟨records.order, records.lost, fun some => ?_, fun none => ?_⟩
  · have calls := records.calls some
    rw [if_neg (Nat.ne_of_gt some)] at now
    simp only
    omega
  · have disabled := records.disabled none
    rw [if_pos none] at now
    simp only
    omega

theorem pushes (records : Recorded o history accounts) (here : accounts[index]? = some account)
    (before : account.opens = 1) (now : after.opens = 0) (event : TimedEvent) :
    Recorded { o with events := o.events ++ [event] } { history with pushed := history.pushed ++ [event] }
      (accounts.set index after) := by
  have opens := total_set Account.opens here after
  have mine := le_total Account.opens here
  refine ⟨?_, records.lost, fun some => ?_, fun none => ?_⟩
  · rw [← List.append_assoc, records.order]
  · have calls := records.calls some
    simp only [List.length_append, List.length_singleton]
    omega
  · have disabled := records.disabled none
    omega

theorem loses (records : Recorded o history accounts) (here : accounts[index]? = some account)
    (before : account.opens = 1) (now : after.opens = 0) :
    Recorded { o with lostEvents := o.lostEvents.add 1#64 } { history with losses := history.losses + 1 }
      (accounts.set index after) := by
  have opens := total_set Account.opens here after
  have mine := le_total Account.opens here
  refine ⟨records.order, ?_, fun some => ?_, fun none => ?_⟩
  · rw [BitVec.ofNat_add, ← records.lost]
    rfl
  · have calls := records.calls some
    simp only
    omega
  · have disabled := records.disabled none
    omega

theorem step (records : Recorded o history accounts) (here : accounts[index]? = some account)
    (ready : account.Ready role question) (answered : o.answer input question = some (reply, o')) :
    Recorded o' (history.after question reply) (accounts.set index (account.after o.capacity question reply)) := by
  have permits := ready.permits
  cases question with
  | enter event =>
      cases answered
      have before : account.recording = false := permits
      refine records.enters here (by simp [Account.opens, before]) ?_
      by_cases none : o.capacity = 0 <;> simp [Account.opens, Account.after, none]
  | leave =>
      cases answered
      refine records.same here rfl rfl rfl rfl rfl rfl rfl ?_
      simp [Account.opens, Account.after, permits.1, permits.2]
  | pushBack event =>
      cases answered
      refine records.pushes here ?_ ?_ event
      · simp [Account.opens, permits.2.1, permits.2.2]
      · simp [Account.opens, Account.after]
  | lostEvents =>
      cases answered
      refine records.loses here ?_ ?_
      · simp [Account.opens, permits.1, permits.2]
      · simp [Account.opens, Account.after]
  | drain =>
      cases answered
      have kept : Recorded o history (accounts.set index account) := records.same here rfl rfl rfl rfl rfl rfl rfl rfl
      exact ⟨(List.append_nil _).trans kept.order, kept.lost, kept.calls, kept.disabled⟩
  | lock =>
      obtain ⟨free, done⟩ := Option.ite_none_left_eq_some.mp answered
      cases done
      exact records.same here rfl rfl rfl rfl rfl rfl rfl rfl
  | call direction transfers =>
      obtain ⟨outcome, -, done⟩ := Option.map_eq_some_iff.mp answered
      cases done
      exact records.moves here _
  | poll direction transfers =>
      cases answered
      exact records.moves here _
  | length | tryLock | unlock | elapsed | pending | release | busySince | lastProgress | errors | bytes | connect
  | disconnect =>
      cases answered
      exact records.same here rfl rfl rfl rfl rfl rfl rfl rfl

end Recorded

/-! ## Bytes -/

/-- What the transports moved is counted, or a call is about to count it. -/
def Paid (o : Observations bits) (history : History) (accounts : List Account) : Prop :=
  ∀ direction, (o.progress direction).bytes.add (.ofNat 64 (total (fun account => account.owed direction) accounts)) =
    .ofNat 64 (history.succeeded direction)

theorem call_moves {transfers : Bool} {outcome : Outcome} {other : Direction} {count : Nat}
    (moves : moved (.call direction transfers) outcome = some (other, count)) : other = direction := by
  cases transfers <;> cases outcome <;> cases moves
  rfl

theorem poll_moves {transfers : Bool} {result : Option Outcome} {other : Direction} {count : Nat}
    (moves : moved (.poll direction transfers) result = some (other, count)) : other = direction := by
  cases result with
  | none => cases transfers <;> cases moves
  | some outcome =>
      cases transfers <;> cases outcome <;> cases moves
      rfl

namespace Paid

theorem same (paid : Paid o history accounts) (here : accounts[index]? = some account)
    (bytes : ∀ direction, (o'.progress direction).bytes = (o.progress direction).bytes)
    (succeeded : history'.succeeded = history.succeeded) (owed : after.owed = account.owed) :
    Paid o' history' (accounts.set index after) := by
  intro direction
  rw [bytes, succeeded, total_set_same here (congrFun owed direction)]
  exact paid direction

theorem counts (paid : Paid o history accounts) (here : accounts[index]? = some account)
    (now : after.owed = Function.update account.owed direction 0) :
    Paid (o.update direction { o.progress direction with
        bytes := (o.progress direction).bytes.add (.ofNat 64 (account.owed direction)) }) history
      (accounts.set index after) := by
  intro other
  rw [← paid other]
  by_cases same : direction = other
  · subst same
    have owed := total_set (fun account => account.owed direction) here after
    simp only [now, Function.update_self, Nat.add_zero] at owed
    simp only [Observations.update, Function.update_self, ← owed, BitVec.ofNat_add]
    exact (BitVec.add_assoc _ _ _).trans (congrArg _ (BitVec.add_comm _ _))
  · have owed : after.owed other = account.owed other := by rw [now, Function.update_of_ne (Ne.symm same)]
    simp only [Observations.update, Function.update_of_ne (Ne.symm same)]
    rw [total_set_same here owed]

theorem moves (paid : Paid o history accounts) (here : accounts[index]? = some account) (none : account.owed direction = 0)
    {bytes : Option (Direction × Nat)} (along : ∀ {other count}, bytes = some (other, count) → other = direction) :
    Paid o (history.moves bytes) (accounts.set index (account.owes bytes)) := by
  cases bytes with
  | none => exact paid.same here (fun _ => rfl) rfl rfl
  | some moved =>
      obtain ⟨there, count⟩ := moved
      obtain rfl := along rfl
      intro other
      by_cases same : there = other
      · subst same
        have owed := total_set (fun account => account.owed there) here (account.owes (some (there, count)))
        simp only [Account.owes, Function.update_self, none, Nat.add_zero] at owed
        simp only [History.moves, Account.owes, Function.update_self, owed, BitVec.ofNat_add, ← paid there]
        exact (BitVec.add_assoc _ _ _).symm
      · have owed : (account.owes (some (there, count))).owed other = account.owed other :=
          Function.update_of_ne (Ne.symm same) _ _
        rw [total_set_same here owed, paid other]
        simp only [History.moves, Function.update_of_ne (Ne.symm same)]

theorem step (paid : Paid o history accounts) (here : accounts[index]? = some account)
    (ready : account.Ready role question) (answered : o.answer input question = some (reply, o')) :
    Paid o' (history.after question reply) (accounts.set index (account.after o.capacity question reply)) := by
  have permits := ready.permits
  cases question with
  | bytes direction count =>
      cases answered
      obtain rfl : count = account.owed direction := permits
      exact paid.counts here (by simp [Account.after])
  | call direction transfers =>
      obtain ⟨outcome, -, done⟩ := Option.map_eq_some_iff.mp answered
      cases done
      exact paid.moves here permits call_moves
  | poll direction transfers =>
      cases answered
      exact paid.moves here permits poll_moves
  | lock =>
      obtain ⟨-, done⟩ := Option.ite_none_left_eq_some.mp answered
      cases done
      exact paid.same here (fun _ => rfl) rfl rfl
  | pending direction | release direction | busySince direction | lastProgress direction | errors direction =>
      cases answered
      exact paid.same here (update_progress Progress.bytes rfl) rfl rfl
  | enter | leave | tryLock | length | elapsed | pushBack | unlock | lostEvents | drain | connect | disconnect =>
      cases answered
      exact paid.same here (fun _ => rfl) rfl rfl

end Paid

/-! ## All of them -/

structure Ledger (o : Observations bits) (history : History) (accounts : List Account) : Prop where
  counted : Counted o accounts
  queue : Locked o accounts
  records : Recorded o history accounts
  paid : Paid o history accounts

namespace Ledger

theorem new (bits capacity : Nat) : Ledger ({ capacity } : Observations bits) {} [] where
  counted := ⟨fun _ => rfl, rfl⟩
  queue := ⟨rfl, fun none => absurd none (Nat.lt_irrefl 0), Nat.zero_le _⟩
  records := ⟨rfl, rfl, fun _ => rfl, fun _ => rfl⟩
  paid := fun _ => rfl

theorem step (ledger : Ledger o history accounts) (here : accounts[index]? = some account)
    (ready : account.Ready role question) (answered : o.answer input question = some (reply, o')) :
    Ledger o' (history.after question reply) (accounts.set index (account.after o.capacity question reply)) where
  counted := ledger.counted.step here ready answered
  queue := ledger.queue.step here ready answered
  records := ledger.records.step here ready answered
  paid := ledger.paid.step here ready answered

/-- A party that has done nothing adds nothing. -/
theorem joins (ledger : Ledger o history accounts) : Ledger o history (accounts ++ [({} : Account)]) where
  counted := ⟨fun direction => (ledger.counted.pending direction).concat rfl, ledger.counted.connections.concat rfl⟩
  queue := by
    refine ⟨?_, ?_, ledger.queue.bounded⟩
    · rw [total_concat Account.locks {} rfl, ledger.queue.locked]
    · rw [total_concat Account.rooms {} rfl]
      exact ledger.queue.room
  records := by
    refine ⟨ledger.records.order, ledger.records.lost, ?_, ?_⟩
    · rw [total_concat Account.opens {} rfl]
      exact ledger.records.calls
    · rw [total_concat Account.opens {} rfl]
      exact ledger.records.disabled
  paid := by
    intro direction
    rw [total_concat (fun account : Account => account.owed direction) {} rfl]
    exact ledger.paid direction

theorem returns (ledger : Ledger o history accounts) (here : accounts[index]? = some account) (last : Direction → Bool)
    (held : ∀ direction, (account.returns last).held direction = account.held direction) :
    Ledger o history (accounts.set index (account.returns last)) where
  counted := ledger.counted.same here (fun _ => rfl) rfl held rfl
  queue := ledger.queue.same here rfl rfl rfl rfl
  records := ledger.records.same here rfl rfl rfl rfl rfl rfl rfl rfl
  paid := ledger.paid.same here (fun _ => rfl) rfl rfl

end Ledger

end

end KunobiDaemon.Observation
