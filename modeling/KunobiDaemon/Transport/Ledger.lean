import KunobiDaemon.Transport.Outstanding

/-! What the outstanding set is for: a ledger of every request ever begun, with
what became of it.

A request is named by its position in the ledger, so requests that reuse a key
stay apart. A reply settles the oldest request of the current epoch in flight
under its key.
-/

set_option autoImplicit false

namespace KunobiDaemon.Transport

inductive Fate where
  /-- Tracked and not yet settled, failed or cleared. -/
  | inFlight
  /-- Begun while the set was full. -/
  | untracked
  | settled
  /-- Handed out by `fail`. -/
  | failed
  | cleared
  deriving DecidableEq, Repr

structure Request (K : Type) where
  key : K
  /-- How often the set had been failed or cleared when the request began. -/
  epoch : Nat
  fate : Fate
  deriving DecidableEq, Repr

structure Ledger (K : Type) where
  requests : List (Request K)
  /-- How often the set was failed or cleared. -/
  epoch : Nat
  deriving DecidableEq, Repr

namespace Ledger
variable {K : Type}

def new : Ledger K := ⟨[], 0⟩

/-- The requests of an epoch with a fate. -/
def having (requests : List (Request K)) (epoch : Nat) (fate : Fate) : List (Request K) :=
  requests.filter fun request => request.epoch = epoch ∧ request.fate = fate

def keysOf (requests : List (Request K)) (epoch : Nat) (fate : Fate) : Multiset K :=
  ↑((having requests epoch fate).map Request.key)

theorem card_keysOf (requests : List (Request K)) (epoch : Nat) (fate : Fate) :
    (keysOf requests epoch fate).card = (having requests epoch fate).length := by
  simp [keysOf]

theorem keysOf_cons (request : Request K) (rest : List (Request K)) (epoch : Nat) (fate : Fate) :
    keysOf (request :: rest) epoch fate =
      if request.epoch = epoch ∧ request.fate = fate then request.key ::ₘ keysOf rest epoch fate
      else keysOf rest epoch fate := by
  unfold keysOf having
  by_cases here : request.epoch = epoch ∧ request.fate = fate <;> simp [here]

theorem keysOf_eq_zero {requests : List (Request K)} {epoch : Nat} {fate : Fate} :
    keysOf requests epoch fate = 0 ↔
      ∀ request ∈ requests, request.epoch = epoch → request.fate ≠ fate := by
  simp [keysOf, having]

theorem keysOf_snoc (requests : List (Request K)) (request : Request K) (epoch : Nat) (fate : Fate) :
    keysOf (requests ++ [request]) epoch fate =
      if request.epoch = epoch ∧ request.fate = fate then request.key ::ₘ keysOf requests epoch fate
      else keysOf requests epoch fate := by
  induction requests with
  | nil => simp [keysOf_cons]
  | cons head rest ih =>
      rw [List.cons_append, keysOf_cons, keysOf_cons, ih]
      split <;> split <;> simp [Multiset.cons_swap]

/-- The keys begun in an epoch while there was room to track them. -/
def trackedKeys (requests : List (Request K)) (epoch : Nat) : Multiset K :=
  ↑((requests.filter fun request => request.epoch = epoch ∧ request.fate ≠ .untracked).map Request.key)

theorem trackedKeys_cons (request : Request K) (rest : List (Request K)) (epoch : Nat) :
    trackedKeys (request :: rest) epoch =
      if request.epoch = epoch ∧ request.fate ≠ .untracked then request.key ::ₘ trackedKeys rest epoch
      else trackedKeys rest epoch := by
  unfold trackedKeys
  by_cases here : request.epoch = epoch ∧ request.fate ≠ .untracked
  · rw [List.filter_cons_of_pos (by simpa using here), if_pos here, List.map_cons, Multiset.cons_coe]
  · rw [List.filter_cons_of_neg (by simpa using here), if_neg here]

/-- While an epoch lasts, what it tracked is in flight or settled. -/
theorem trackedKeys_eq {requests : List (Request K)} {epoch : Nat}
    (present : ∀ request ∈ requests, request.epoch = epoch →
      request.fate = .inFlight ∨ request.fate = .untracked ∨ request.fate = .settled) :
    trackedKeys requests epoch = keysOf requests epoch .inFlight + keysOf requests epoch .settled := by
  induction requests with
  | nil => rfl
  | cons request rest ih =>
      rw [trackedKeys_cons, keysOf_cons, keysOf_cons,
        ih fun other member => present other (List.mem_cons_of_mem request member)]
      by_cases here : request.epoch = epoch
      · rcases present request List.mem_cons_self here with fate | fate | fate <;> simp [here, fate]
      · simp [here]

/-- Give every request in flight the fate. -/
def dispose (epoch : Nat) (fate : Fate) (requests : List (Request K)) : List (Request K) :=
  requests.map fun request =>
    if request.epoch = epoch ∧ request.fate = .inFlight then { request with fate } else request

/-- Ending an epoch leaves the requests of every other epoch alone. -/
theorem keysOf_dispose_other (requests : List (Request K)) {epoch other : Nat} (ending fate : Fate)
    (apart : other ≠ epoch) :
    keysOf (dispose epoch ending requests) other fate = keysOf requests other fate := by
  induction requests with
  | nil => rfl
  | cons request rest ih =>
      rw [dispose, List.map_cons, keysOf_cons, keysOf_cons, ← dispose, ih]
      by_cases here : request.epoch = epoch ∧ request.fate = .inFlight
      · simp [here, Ne.symm apart]
      · simp [here]

/-- The requests in flight when an epoch ends are exactly those that then meet its end. -/
theorem keysOf_dispose (requests : List (Request K)) {epoch : Nat} {ending : Fate}
    (fresh : ∀ request ∈ requests, request.epoch = epoch → request.fate ≠ ending) :
    keysOf (dispose epoch ending requests) epoch ending = keysOf requests epoch .inFlight := by
  induction requests with
  | nil => rfl
  | cons request rest ih =>
      have later := ih fun other member => fresh other (List.mem_cons_of_mem request member)
      rw [dispose, List.map_cons, keysOf_cons, keysOf_cons, ← dispose, later]
      by_cases here : request.epoch = epoch ∧ request.fate = .inFlight
      · simp [here]
      · have other : ¬ (request.epoch = epoch ∧ request.fate = ending) :=
          fun both => fresh request List.mem_cons_self both.1 both.2
        simp [here, other]

def begin (capacity : Nat) (ledger : Ledger K) (key : K) : Ledger K :=
  let fate := if (having ledger.requests ledger.epoch .inFlight).length < capacity then
    Fate.inFlight else .untracked
  { ledger with requests := ledger.requests ++ [⟨key, ledger.epoch, fate⟩] }

/-- End the epoch, giving its requests in flight the fate. -/
def turnOver (ledger : Ledger K) (fate : Fate) : Ledger K :=
  ⟨dispose ledger.epoch fate ledger.requests, ledger.epoch + 1⟩

variable [DecidableEq K]

/-- Settle the oldest request in flight under the key, if there is one. -/
def settleFirst (epoch : Nat) (key : K) : List (Request K) → List (Request K)
  | [] => []
  | request :: rest =>
      if request.epoch = epoch ∧ request.fate = .inFlight ∧ request.key = key then
        { request with fate := .settled } :: rest
      else request :: settleFirst epoch key rest

/-- A reply of a connection that captured `epoch`. -/
def settle (ledger : Ledger K) (epoch : Nat) (key : K) : Ledger K :=
  if epoch = ledger.epoch then
    { ledger with requests := settleFirst epoch key ledger.requests }
  else ledger

theorem keysOf_settleFirst (requests : List (Request K)) (epoch : Nat) (key : K) :
    keysOf (settleFirst epoch key requests) epoch .inFlight =
      (keysOf requests epoch .inFlight).erase key := by
  induction requests with
  | nil => simp [settleFirst, keysOf, having]
  | cons request rest ih =>
      unfold settleFirst
      by_cases here : request.epoch = epoch ∧ request.fate = .inFlight
      · by_cases same : request.key = key
        · simp [keysOf_cons, here, same]
        · simp [keysOf_cons, here, same, ih, Multiset.erase_cons_tail _ same]
      · have skip : ¬ (request.epoch = epoch ∧ request.fate = .inFlight ∧ request.key = key) :=
          fun both => here ⟨both.1, both.2.1⟩
        simp only [if_neg skip, keysOf_cons, if_neg here, ih]

/-- A settlement changes no request that is not in flight or of another epoch. -/
theorem keysOf_settleFirst_other (requests : List (Request K)) (epoch other : Nat) (key : K) {fate : Fate}
    (apart : other ≠ epoch ∨ (fate ≠ .inFlight ∧ fate ≠ .settled)) :
    keysOf (settleFirst epoch key requests) other fate = keysOf requests other fate := by
  induction requests with
  | nil => rfl
  | cons request rest ih =>
      unfold settleFirst
      split
      · next here =>
        obtain ⟨rfl, flying, -⟩ := here
        rw [keysOf_cons, keysOf_cons]
        rcases apart with apart | ⟨notFlying, notSettled⟩
        · simp [Ne.symm apart]
        · simp [flying, Ne.symm notFlying, Ne.symm notSettled]
      · rw [keysOf_cons, keysOf_cons, ih]

theorem mem_settleFirst {requests : List (Request K)} {epoch : Nat} {key : K} {request : Request K}
    (member : request ∈ settleFirst epoch key requests) :
    request ∈ requests ∨ (request.epoch = epoch ∧ request.fate = .settled) := by
  induction requests with
  | nil => cases member
  | cons head rest ih =>
      unfold settleFirst at member
      split at member
      · next here =>
        rcases List.mem_cons.mp member with rfl | member
        · exact .inr ⟨here.1, rfl⟩
        · exact .inl (List.mem_cons_of_mem head member)
      · rcases List.mem_cons.mp member with rfl | member
        · exact .inl List.mem_cons_self
        · exact (ih member).imp_left (List.mem_cons_of_mem head)

end Ledger

/-- The ledger together with what the client of the set holds. -/
structure Account (K : Type) where
  ledger : Ledger K
  /-- The epoch of each capture. -/
  captured : List Nat
  /-- The epoch each `fail` ended. -/
  fails : List Nat
  /-- The `Failing` guards not dropped yet, by their position among those. -/
  alive : List Nat
  /-- How many `Transition` guards are alive. -/
  moves : Nat
  deriving DecidableEq, Repr

namespace Account
variable {K : Type} [DecidableEq K]

def new : Account K := ⟨.new, [], [], [], 0⟩

def apply (capacity : Nat) (account : Account K) : Op K → Account K
  | .begin key => { account with ledger := account.ledger.begin capacity key }
  | .epoch => { account with captured := account.captured ++ [account.ledger.epoch] }
  | .settle capture key =>
      match account.captured[capture]? with
      | none => account
      | some epoch => { account with ledger := account.ledger.settle epoch key }
  | .clear => { account with ledger := account.ledger.turnOver .cleared }
  | .fail =>
      { account with
        ledger := account.ledger.turnOver .failed
        fails := account.fails ++ [account.ledger.epoch]
        alive := account.alive ++ [account.fails.length] }
  | .dropFailing guard => { account with alive := account.alive.erase guard }
  | .transition => { account with moves := account.moves + 1 }
  | .dropTransition => { account with moves := account.moves - 1 }

/-- The account of a history of operations. -/
def after (capacity : Nat) (ops : List (Op K)) : Account K := ops.foldl (apply capacity) new

end Account

end KunobiDaemon.Transport
