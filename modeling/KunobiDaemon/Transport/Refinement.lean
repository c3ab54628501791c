import KunobiDaemon.Transport.Ledger

/-! The outstanding set refines the ledger of its history.

`Tracks` relates the set's own fields to the ledger and is kept by every
operation, one lemma each. `Refines` adds the guards and says what the relation
is good for.
-/

set_option autoImplicit false

namespace KunobiDaemon.Transport

open Lib.Bags (bag total Positive)
open Ledger (keysOf having)

section
variable {K : Type} [LinearOrder K]

structure Tracks (capacity : Nat) (state : OutstandingState K) (ledger : Ledger K) : Prop where
  keys : bag state.keys = keysOf ledger.requests ledger.epoch .inFlight
  positive : Positive state.keys
  tracked : state.tracked = total state.keys
  bounded : state.tracked ≤ capacity
  epoch : state.epoch = ledger.epoch
  overflowed : state.overflowed = true ↔ keysOf ledger.requests ledger.epoch .untracked ≠ 0
  past : ∀ request ∈ ledger.requests, request.epoch ≤ ledger.epoch
  present : ∀ request ∈ ledger.requests, request.epoch = ledger.epoch →
    request.fate = .inFlight ∨ request.fate = .untracked ∨ request.fate = .settled

variable {capacity : Nat} {state : OutstandingState K} {ledger : Ledger K}

theorem tracks_new (capacity : Nat) : Tracks capacity (.new : OutstandingState K) .new where
  keys := by simp [OutstandingState.new, Ledger.new, keysOf, having]
  positive := Lib.Bags.positive_empty
  tracked := by simp [OutstandingState.new, ← Lib.Bags.card_bag]
  bounded := Nat.zero_le capacity
  epoch := rfl
  overflowed := by simp [OutstandingState.new, Ledger.new, keysOf, having]
  past := by simp [Ledger.new]
  present := by simp [Ledger.new]

/-- The set counts exactly the requests in flight. -/
theorem Tracks.length (tracks : Tracks capacity state ledger) :
    (having ledger.requests ledger.epoch .inFlight).length = state.tracked := by
  rw [← Ledger.card_keysOf, ← tracks.keys, Lib.Bags.card_bag, tracks.tracked]

/-- Guards and waiters are no part of the relation. -/
theorem Tracks.frame (tracks : Tracks capacity state ledger) (failing transitions waiters : Nat) :
    Tracks capacity { state with failing, transitions, waiters } ledger :=
  ⟨tracks.keys, tracks.positive, tracks.tracked, tracks.bounded, tracks.epoch, tracks.overflowed,
    tracks.past, tracks.present⟩

theorem Tracks.begin (tracks : Tracks capacity state ledger) (key : K) :
    Tracks capacity (state.begin capacity key) (ledger.begin capacity key) := by
  have full := tracks.length
  unfold OutstandingState.begin Ledger.begin
  rw [full]
  by_cases room : state.tracked < capacity
  · simp only [if_pos room]
    refine ⟨?_, tracks.positive.insert key (Nat.succ_ne_zero _), ?_, room, tracks.epoch, ?_, ?_, ?_⟩
    · simp [Lib.Bags.bag_insert, tracks.keys, Ledger.keysOf_snoc]
    · rw [← Lib.Bags.card_bag, Lib.Bags.bag_insert, Multiset.card_cons, Lib.Bags.card_bag, tracks.tracked]
    · simpa [Ledger.keysOf_snoc] using tracks.overflowed
    · simpa [or_imp, forall_and] using tracks.past
    · simpa [or_imp, forall_and] using tracks.present
  · simp only [if_neg room]
    refine ⟨?_, tracks.positive, tracks.tracked, tracks.bounded, tracks.epoch, ?_, ?_, ?_⟩
    · simp [tracks.keys, Ledger.keysOf_snoc]
    · simp [Ledger.keysOf_snoc]
    · simpa [or_imp, forall_and] using tracks.past
    · simpa [or_imp, forall_and] using tracks.present

/-- A settlement underflows nothing and changes nothing but the keys and their number. -/
theorem Tracks.settle (tracks : Tracks capacity state ledger) (epoch : Nat) (key : K) :
    ∃ keys tracked, state.settle epoch key = some { state with keys, tracked } ∧
      Tracks capacity { state with keys, tracked } (ledger.settle epoch key) := by
  unfold OutstandingState.settle Ledger.settle
  by_cases current : epoch = ledger.epoch
  · subst current
    rw [if_neg (not_not.mpr tracks.epoch.symm), if_pos rfl]
    have requests : ∀ request ∈ Ledger.settleFirst ledger.epoch key ledger.requests,
        request.epoch ≤ ledger.epoch ∧ (request.epoch = ledger.epoch →
          request.fate = .inFlight ∨ request.fate = .untracked ∨ request.fate = .settled) := by
      intro request member
      rcases Ledger.mem_settleFirst member with member | ⟨same, settled⟩
      · exact ⟨tracks.past request member, tracks.present request member⟩
      · exact ⟨same.le, fun _ => .inr (.inr settled)⟩
    have untracked : Ledger.keysOf (Ledger.settleFirst ledger.epoch key ledger.requests) ledger.epoch .untracked =
        Ledger.keysOf ledger.requests ledger.epoch .untracked :=
      Ledger.keysOf_settleFirst_other _ _ _ key (.inr ⟨nofun, nofun⟩)
    have inFlight := Ledger.keysOf_settleFirst ledger.requests ledger.epoch key
    cases found : state.keys[key]? with
    | none =>
        refine ⟨state.keys, state.tracked, rfl, ?_, tracks.positive, tracks.tracked, tracks.bounded,
          tracks.epoch, ?_, fun request member => (requests request member).1,
          fun request member => (requests request member).2⟩
        · rw [inFlight, ← tracks.keys, Lib.Bags.erase_absent found]
        · rw [untracked, ← tracks.overflowed]
    | some count =>
        obtain ⟨rest, rfl⟩ := Nat.exists_eq_succ_of_ne_zero fun zero => tracks.positive key (zero ▸ found)
        have lowered := Lib.Bags.bag_lower found
        have member : key ∈ bag state.keys := by
          rw [← Multiset.count_pos, Lib.Bags.count_bag, Lib.Bags.getD_of_get found]
          exact Nat.succ_pos rest
        have shorter : state.tracked = total (Lib.Bags.lower state.keys key rest) + 1 := by
          rw [tracks.tracked, ← Lib.Bags.card_bag, ← Lib.Bags.card_bag, lowered,
            Multiset.card_erase_add_one member]
        refine ⟨Lib.Bags.lower state.keys key rest, total (Lib.Bags.lower state.keys key rest), ?_, ?_,
          tracks.positive.lower key rest, rfl, ?_, tracks.epoch, ?_,
          fun request member => (requests request member).1,
          fun request member => (requests request member).2⟩
        · simp [decrement, shorter]
        · rw [inFlight, ← tracks.keys, lowered]
        · have bounded := tracks.bounded
          simp only
          omega
        · rw [untracked, ← tracks.overflowed]
  · rw [if_pos (by rwa [tracks.epoch]), if_neg current]
    exact ⟨state.keys, state.tracked, rfl, tracks⟩

/-- Failing or clearing empties the set and starts an epoch no request belongs to. -/
theorem Tracks.turnOver (tracks : Tracks capacity state ledger) (fate : Fate) :
    Tracks capacity
      { state with keys := ∅, tracked := 0, epoch := ledger.epoch + 1, overflowed := false }
      (ledger.turnOver fate) := by
  have fresh : ∀ request ∈ Ledger.dispose ledger.epoch fate ledger.requests,
      request.epoch < ledger.epoch + 1 := by
    intro request member
    obtain ⟨before, listed, rfl⟩ := List.mem_map.mp member
    have past := tracks.past before listed
    split <;> exact Nat.lt_succ_of_le past
  have empty : ∀ other, keysOf (Ledger.dispose ledger.epoch fate ledger.requests)
      (ledger.epoch + 1) other = 0 := by
    intro other
    rw [Ledger.keysOf_dispose_other ledger.requests fate other (Nat.succ_ne_self _)]
    simp only [keysOf, having, Multiset.coe_eq_zero, List.map_eq_nil_iff, List.filter_eq_nil_iff]
    intro request member
    have past := tracks.past request member
    simp only [decide_eq_true_eq, not_and]
    intro same
    omega
  exact ⟨by simp [Ledger.turnOver, empty], Lib.Bags.positive_empty, by simp [← Lib.Bags.card_bag],
    Nat.zero_le capacity, rfl, by simp [Ledger.turnOver, empty],
    fun request member => Nat.le_of_lt (fresh request member),
    fun request member same => absurd (fresh request member) (by simp [same, Ledger.turnOver])⟩

/-- A client and the account of its operations. -/
structure Follows (capacity : Nat) (client : Client K) (account : Account K) : Prop where
  tracks : Tracks capacity client.state account.ledger
  captured : client.captured = account.captured
  alive : client.alive = account.alive
  moves : client.moves = account.moves
  failing : client.state.failing = client.alive.length
  transitions : client.state.transitions = client.moves
  handed : List.Forall₂ (fun keys epoch => bag keys = keysOf account.ledger.requests epoch .failed)
    client.handed account.fails
  earlier : ∀ epoch ∈ account.fails, epoch < account.ledger.epoch
  distinct : account.fails.Nodup

variable {client : Client K} {account : Account K}

theorem follows_new (capacity : Nat) : Follows capacity (.new : Client K) .new :=
  ⟨tracks_new capacity, rfl, rfl, rfl, rfl, rfl, .nil, nofun, .nil⟩

/-- What was handed out stays as it is while requests of past epochs do. -/
theorem handed_of_same {before requests : List (Request K)} {now : Nat}
    {handed : List (Std.TreeMap K Nat)} {fails : List Nat} (earlier : ∀ epoch ∈ fails, epoch < now)
    (same : ∀ epoch < now, keysOf requests epoch .failed = keysOf before epoch .failed)
    (were : List.Forall₂ (fun keys epoch => bag keys = keysOf before epoch .failed) handed fails) :
    List.Forall₂ (fun keys epoch => bag keys = keysOf requests epoch .failed) handed fails := by
  induction were with
  | nil => exact .nil
  | cons first _ ih =>
      refine .cons ?_ (ih fun epoch member => earlier epoch (List.mem_cons_of_mem _ member))
      rw [first, same _ (earlier _ List.mem_cons_self)]

theorem increment_of_lt {build : Build} {epoch : Nat} (room : epoch + 1 < u64) :
    build.increment epoch = some (epoch + 1) := if_pos room

theorem Follows.begin (follows : Follows capacity client account) (key : K) :
    Follows capacity { client with state := client.state.begin capacity key }
      { account with ledger := account.ledger.begin capacity key } := by
  have guards : (client.state.begin capacity key).failing = client.state.failing ∧
      (client.state.begin capacity key).transitions = client.state.transitions := by
    unfold OutstandingState.begin
    split <;> exact ⟨rfl, rfl⟩
  refine ⟨follows.tracks.begin key, follows.captured, follows.alive, follows.moves,
    guards.1.trans follows.failing, guards.2.trans follows.transitions, ?_, follows.earlier, follows.distinct⟩
  refine handed_of_same follows.earlier ?_ follows.handed
  intro epoch past
  simp [Ledger.begin, Ledger.keysOf_snoc, past.ne']

theorem Follows.settle (follows : Follows capacity client account) (epoch : Nat) (key : K) :
    ∃ next, (client.state.settle epoch key).map (fun state => { client with state }) = some next ∧
      Follows capacity next { account with ledger := account.ledger.settle epoch key } := by
  obtain ⟨keys, tracked, settled, tracks⟩ := follows.tracks.settle epoch key
  refine ⟨_, by rw [settled, Option.map_some], ?_⟩
  by_cases current : epoch = account.ledger.epoch
  · subst current
    simp only [Ledger.settle, ↓reduceIte] at tracks ⊢
    refine ⟨tracks, follows.captured, follows.alive, follows.moves, follows.failing,
      follows.transitions, ?_, follows.earlier, follows.distinct⟩
    refine handed_of_same follows.earlier ?_ follows.handed
    intro epoch _
    exact Ledger.keysOf_settleFirst_other _ _ _ _ (.inr ⟨nofun, nofun⟩)
  · simp only [Ledger.settle, if_neg current] at tracks ⊢
    exact ⟨tracks, follows.captured, follows.alive, follows.moves, follows.failing,
      follows.transitions, follows.handed, follows.earlier, follows.distinct⟩

theorem Follows.clear (follows : Follows capacity client account) (build : Build)
    (room : account.ledger.epoch + 1 < u64) :
    ∃ next, client.apply build capacity .clear = some next ∧
      Follows capacity next { account with ledger := account.ledger.turnOver .cleared } := by
  rw [← follows.tracks.epoch] at room
  refine ⟨_, by simp only [Client.apply, OutstandingState.clear, increment_of_lt room, Option.map_some]; rfl, ?_⟩
  refine ⟨?_, follows.captured, follows.alive, follows.moves, follows.failing, follows.transitions, ?_,
    fun epoch member => Nat.lt_succ_of_lt (follows.earlier epoch member), follows.distinct⟩
  · rw [follows.tracks.epoch]
    exact follows.tracks.turnOver .cleared
  · refine handed_of_same follows.earlier ?_ follows.handed
    intro epoch past
    exact Ledger.keysOf_dispose_other _ _ _ past.ne

/-- A request is handed out by the call that ends its epoch, and by no other. -/
theorem Follows.fail (follows : Follows capacity client account) (build : Build)
    (room : account.ledger.epoch + 1 < u64) :
    ∃ next, client.apply build capacity .fail = some next ∧
      Follows capacity next (account.apply capacity .fail) := by
  rw [← follows.tracks.epoch] at room
  refine ⟨_, by simp only [Client.apply, OutstandingState.fail, increment_of_lt room, Option.map_some]; rfl, ?_⟩
  -- Only `fail` marks requests failed, and it moves on to the next epoch.
  have fresh : ∀ request ∈ account.ledger.requests, request.epoch = account.ledger.epoch →
      request.fate ≠ .failed := by
    intro request member same failed
    rcases follows.tracks.present request member same with fate | fate | fate <;>
      simp [failed] at fate
  refine ⟨?_, follows.captured, ?_, follows.moves, ?_, follows.transitions, ?_, ?_, ?_⟩
  · rw [follows.tracks.epoch]
    have tracks := (follows.tracks.turnOver .failed).frame (client.state.failing + 1)
      client.state.transitions client.state.waiters
    exact ⟨tracks.keys, tracks.positive, tracks.tracked, tracks.bounded, tracks.epoch,
      tracks.overflowed, tracks.past, tracks.present⟩
  · simp only [Account.apply, follows.alive, follows.handed.length_eq]
  · simp [follows.failing]
  · refine List.rel_append (handed_of_same follows.earlier (fun epoch past => ?_) follows.handed)
      (.cons ?_ .nil)
    · exact Ledger.keysOf_dispose_other _ _ _ past.ne
    · rw [follows.tracks.keys]
      exact (Ledger.keysOf_dispose account.ledger.requests fresh).symm
  · simp only [Account.apply, Ledger.turnOver, List.mem_append, List.mem_singleton]
    rintro epoch (member | rfl)
    · exact Nat.lt_succ_of_lt (follows.earlier epoch member)
    · exact Nat.lt_succ_self _
  · simp only [Account.apply, List.nodup_append, follows.distinct, List.nodup_singleton, true_and,
      List.mem_singleton]
    rintro epoch member _ rfl
    exact (follows.earlier epoch member).ne

/-- Every operation succeeds and is followed by the ledger. -/
theorem Follows.apply (follows : Follows capacity client account) (build : Build) (op : Op K)
    (room : account.ledger.epoch + ended [op] < u64) :
    ∃ next, client.apply build capacity op = some next ∧
      Follows capacity next (account.apply capacity op) := by
  cases op with
  | begin key => exact ⟨_, rfl, follows.begin key⟩
  | epoch =>
      refine ⟨_, rfl, follows.tracks, ?_, follows.alive, follows.moves, follows.failing,
        follows.transitions, follows.handed, follows.earlier, follows.distinct⟩
      simp only [Account.apply, follows.captured, follows.tracks.epoch]
  | settle capture key =>
      have same := congrArg (·[capture]?) follows.captured
      cases captured : client.captured[capture]? with
      | none =>
          simp only [captured] at same
          exact ⟨client, by simp only [Client.apply, captured], by simpa only [Account.apply, ← same]⟩
      | some epoch =>
          simp only [captured] at same
          simpa only [Client.apply, Account.apply, captured, ← same] using follows.settle epoch key
  | clear => exact follows.clear build room
  | fail => exact follows.fail build room
  | dropFailing guard =>
      simp only [Client.apply, Account.apply]
      by_cases held : guard ∈ client.alive
      · have failing := follows.failing
        rw [← List.length_erase_add_one held] at failing
        refine ⟨_, by rw [if_pos held, OutstandingState.dropFailing, failing]; rfl, ?_⟩
        exact ⟨follows.tracks.frame _ _ _, follows.captured, by rw [follows.alive], follows.moves, rfl,
          follows.transitions, follows.handed, follows.earlier, follows.distinct⟩
      · refine ⟨client, by simp [held], follows.tracks, follows.captured, ?_, follows.moves,
          follows.failing, follows.transitions, follows.handed, follows.earlier, follows.distinct⟩
        rw [← follows.alive, List.erase_of_not_mem held]
  | transition =>
      refine ⟨_, rfl, follows.tracks.frame _ _ _, follows.captured, follows.alive, ?_, follows.failing, ?_,
        follows.handed, follows.earlier, follows.distinct⟩
      · simp only [Account.apply, follows.moves]
      · simp only [OutstandingState.transition, follows.transitions]
  | dropTransition =>
      simp only [Client.apply, Account.apply]
      cases held : client.moves with
      | zero =>
          refine ⟨client, by simp, follows.tracks, follows.captured, follows.alive, ?_,
            follows.failing, follows.transitions, follows.handed, follows.earlier, follows.distinct⟩
          simp [← follows.moves, held]
      | succ moves =>
          refine ⟨_, by simp [OutstandingState.dropTransition, follows.transitions, held, decrement]; rfl, ?_⟩
          refine ⟨follows.tracks.frame _ _ _, follows.captured, follows.alive, ?_, follows.failing,
            rfl, follows.handed, follows.earlier, follows.distinct⟩
          simp [← follows.moves, held]

@[simp] theorem apply_epoch (account : Account K) (op : Op K) :
    (account.apply capacity op).ledger.epoch = account.ledger.epoch + ended [op] := by
  cases op with
  | settle capture key =>
      simp only [Account.apply, ended, Nat.add_zero]
      split
      · rfl
      · simp only [Ledger.settle]
        split <;> rfl
  | _ => rfl

theorem Follows.run (follows : Follows capacity client account) (build : Build) (ops : List (Op K))
    (room : account.ledger.epoch + ended ops < u64) :
    ∃ next, Lib.Systems.replay (Client.apply build capacity) ops client = some next ∧
      Follows capacity next (ops.foldl (Account.apply capacity) account) := by
  induction ops generalizing client account with
  | nil => exact ⟨client, rfl, follows⟩
  | cons op rest ih =>
      rw [ended_cons] at room
      obtain ⟨next, applied, followed⟩ := follows.apply build op (by omega)
      obtain ⟨last, ran, followed⟩ := ih followed (by rw [apply_epoch]; omega)
      exact ⟨last, by rw [Lib.Systems.replay, applied, Option.bind_some, ran], followed⟩

/-- What the set says about the requests in its ledger. -/
structure Refines (build : Build) (capacity : Nat) (client : Client K) (account : Account K) : Prop where
  counted : bag client.state.keys =
    Ledger.trackedKeys account.ledger.requests account.ledger.epoch -
      keysOf account.ledger.requests account.ledger.epoch .settled
  positive : ∀ key : K, client.state.keys[key]? ≠ some 0
  summed : client.state.tracked = total client.state.keys
  bounded : client.state.tracked ≤ capacity
  /-- A reply from before the last `fail` or `clear` settles nothing. -/
  stale : ∀ capture key epoch, account.captured[capture]? = some epoch → epoch < account.ledger.epoch →
    client.apply build capacity (.settle capture key) = some client
  /-- `fail` hands out the requests then in flight, each once. -/
  hands : ∀ next, client.apply build capacity .fail = some next →
    ∃ keys, next.handed = client.handed ++ [keys] ∧
      ↑(failingKeys keys) = keysOf account.ledger.requests account.ledger.epoch .inFlight
  /-- Each `fail` so far handed out the requests of the epoch it ended, and no two ended one epoch. -/
  handed : List.Forall₂
    (fun keys epoch => (↑(failingKeys keys) : Multiset K) = keysOf account.ledger.requests epoch .failed)
    client.handed account.fails
  distinct : account.fails.Nodup
  settled : client.state.settled = true ↔ client.alive = [] ∧ client.moves = 0 ∧
    ∀ request ∈ account.ledger.requests, request.epoch = account.ledger.epoch → request.fate = .settled

/-- Nothing untracked and nothing in flight means everything of the epoch is settled. -/
theorem Follows.settled (follows : Follows capacity client account) :
    client.state.settled = true ↔ client.alive = [] ∧ client.moves = 0 ∧
      ∀ request ∈ account.ledger.requests, request.epoch = account.ledger.epoch → request.fate = .settled := by
  have tracks := follows.tracks
  have overflow : client.state.overflowed = false ↔
      ∀ request ∈ account.ledger.requests, request.epoch = account.ledger.epoch → request.fate ≠ .untracked := by
    rw [← Ledger.keysOf_eq_zero, ← not_iff_not, Bool.not_eq_false]
    exact tracks.overflowed
  have empty : client.state.keys.isEmpty = true ↔
      ∀ request ∈ account.ledger.requests, request.epoch = account.ledger.epoch → request.fate ≠ .inFlight := by
    rw [tracks.positive.isEmpty_iff, tracks.keys, Ledger.keysOf_eq_zero]
  simp only [OutstandingState.settled, Bool.and_eq_true, Bool.not_eq_true', beq_iff_eq, overflow, empty,
    follows.failing, follows.transitions, List.length_eq_zero_iff]
  constructor
  · rintro ⟨⟨⟨tracked, none⟩, still⟩, answered⟩
    refine ⟨none, still, fun request member same => ?_⟩
    rcases tracks.present request member same with fate | fate | fate
    · exact absurd fate (answered request member same)
    · exact absurd fate (tracked request member same)
    · exact fate
  · rintro ⟨none, still, all⟩
    refine ⟨⟨⟨fun request member same => ?_, none⟩, still⟩, fun request member same => ?_⟩ <;>
      simp [all request member same]

theorem Follows.refines (follows : Follows capacity client account) (build : Build) :
    Refines build capacity client account where
  counted := by
    rw [Ledger.trackedKeys_eq follows.tracks.present, Multiset.add_sub_cancel_right, follows.tracks.keys]
  positive := follows.tracks.positive
  summed := follows.tracks.tracked
  bounded := follows.tracks.bounded
  stale := by
    intro capture key epoch captured past
    have apart : epoch ≠ client.state.epoch := follows.tracks.epoch ▸ past.ne
    rw [← follows.captured] at captured
    simp only [Client.apply, captured, OutstandingState.settle, if_pos apart, Option.map_some]
  hands := by
    intro next failed
    simp only [Client.apply, OutstandingState.fail, Option.map_map, Option.map_eq_some_iff] at failed
    obtain ⟨epoch, -, rfl⟩ := failed
    exact ⟨client.state.keys, rfl, follows.tracks.keys⟩
  handed := follows.handed
  distinct := follows.distinct
  settled := follows.settled

/-- For fewer than `2^64` epochs no operation panics, and the set refines the
ledger of every history, keys reused and guards dropped in any order. -/
theorem run_refines (build : Build) (capacity : Nat) (ops : List (Op K)) (few : ended ops < u64) :
    ∃ client, Client.run build capacity ops = some client ∧
      Refines build capacity client (Account.after capacity ops) := by
  obtain ⟨client, ran, follows⟩ := (follows_new capacity).run build ops
    (by simpa [Account.new, Ledger.new] using few)
  exact ⟨client, ran, follows.refines build⟩

end

/-- A key reused across a `fail`: the reply of the failed peer leaves the new request alone. -/
theorem run_refines_reused : ∃ client : Client Nat, Client.run .wrapping 2
    [.epoch, .begin 7, .begin 7, .begin 8, .fail, .begin 7, .settle 0 7, .dropFailing 0] = some client ∧
      Refines .wrapping 2 client (Account.after 2
        [.epoch, .begin 7, .begin 7, .begin 8, .fail, .begin 7, .settle 0 7, .dropFailing 0]) :=
  run_refines .wrapping 2 _ (by decide)

end KunobiDaemon.Transport
