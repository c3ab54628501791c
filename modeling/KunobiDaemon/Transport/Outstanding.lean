import KunobiDaemon.Lib.Bags
import KunobiDaemon.Lib.Systems

/-! Requests sent to the peer whose replies have not yet reached the client.

Each operation is one critical section of the set's lock. A step returns nothing
when its arithmetic panics. Guards are the caller's: `Client` holds the epochs it
captured and the `Failing` and `Transition` guards it has not dropped yet.
-/

set_option autoImplicit false

namespace KunobiDaemon.Transport

/-- What integer overflow does: a build with overflow checks panics, one without wraps. -/
inductive Build where
  | checked
  | wrapping
  deriving DecidableEq, Repr

/-- `u64::MAX + 1` -/
def u64 : Nat := 2 ^ 64

/-- `value += 1` on a `u64` -/
def Build.increment (build : Build) (value : Nat) : Option Nat :=
  if value + 1 < u64 then some (value + 1)
  else match build with
    | .checked => none
    | .wrapping => some 0

/-- Unless it wraps, an increment that does not panic adds one. -/
theorem increment_eq_some {build : Build} {value next : Nat} (room : build = .wrapping → value + 1 < u64)
    (raised : build.increment value = some next) : next = value + 1 := by
  unfold Build.increment at raised
  split at raised
  · exact (Option.some.inj raised).symm
  · next full =>
      cases build with
      | checked => cases raised
      | wrapping => exact absurd (room rfl) full

/-- `value -= 1`, which no state should make underflow. -/
def decrement : Nat → Option Nat
  | 0 => none
  | value + 1 => some value

theorem decrement_eq_some {value rest : Nat} : decrement value = some rest ↔ value = rest + 1 := by
  cases value <;> simp [decrement]

structure OutstandingState (K : Type) [LinearOrder K] where
  /-- Each key with the number of its requests in flight. -/
  keys : Std.TreeMap K Nat
  /-- Requests in flight, counting every duplicate. -/
  tracked : Nat
  epoch : Nat
  /-- A request arrived while the set was full. -/
  overflowed : Bool
  failing : Nat
  transitions : Nat
  waiters : Nat

namespace OutstandingState
variable {K : Type} [LinearOrder K]

def new : OutstandingState K := ⟨∅, 0, 0, false, 0, 0, 0⟩

def settled (state : OutstandingState K) : Bool :=
  !state.overflowed && state.failing == 0 && state.transitions == 0 && state.keys.isEmpty

def mustWake (state : OutstandingState K) : Bool := decide (0 < state.waiters) && state.settled

def begin (capacity : Nat) (state : OutstandingState K) (key : K) : OutstandingState K :=
  if state.tracked < capacity then
    { state with
      keys := state.keys.insert key (state.keys.getD key 0 + 1)
      tracked := state.tracked + 1 }
  else { state with overflowed := true }

/-- One reply for `key`, delivered by a connection that started in `epoch`. -/
def settle (state : OutstandingState K) (epoch : Nat) (key : K) : Option (OutstandingState K) :=
  if epoch ≠ state.epoch then some state
  else match state.keys[key]? with
    | none => some state
    | some count =>
        (decrement count).bind fun rest => (decrement state.tracked).map fun tracked =>
          { state with keys := Lib.Bags.lower state.keys key rest, tracked }

def clear (build : Build) (state : OutstandingState K) : Option (OutstandingState K) :=
  (build.increment state.epoch).map fun epoch =>
    { state with keys := ∅, tracked := 0, epoch, overflowed := false }

/-- Also returns the keys the `Failing` guard takes. -/
def fail (build : Build) (state : OutstandingState K) :
    Option (OutstandingState K × Std.TreeMap K Nat) :=
  (build.increment state.epoch).map fun epoch =>
    ({ state with
      failing := state.failing + 1, overflowed := false, tracked := 0, epoch, keys := ∅ }, state.keys)

/-- The end of the `Failing` guard, before it wakes anyone. -/
def dropFailing (state : OutstandingState K) : Option (OutstandingState K) :=
  (decrement state.failing).map fun failing => { state with failing }

def transition (state : OutstandingState K) : OutstandingState K :=
  { state with transitions := state.transitions + 1 }

/-- The end of the `Transition` guard, before it wakes anyone. -/
def dropTransition (state : OutstandingState K) : Option (OutstandingState K) :=
  (decrement state.transitions).map fun transitions => { state with transitions }

end OutstandingState

/-- `Failing::keys`: the key of every request to report as failed, once a request. -/
def failingKeys {K : Type} [LinearOrder K] (keys : Std.TreeMap K Nat) : List K := Lib.Bags.elements keys

/-- The operations of a client. Captured epochs and guards are named by position. -/
inductive Op (K : Type) where
  | begin (key : K)
  | epoch
  | settle (capture : Nat) (key : K)
  | clear
  | fail
  | dropFailing (guard : Nat)
  | transition
  | dropTransition
  deriving DecidableEq, Repr

section
variable {K : Type}

/-- The number of epochs that operations end. -/
def ended : List (Op K) → Nat
  | [] => 0
  | .clear :: rest | .fail :: rest => ended rest + 1
  | _ :: rest => ended rest

theorem ended_cons (op : Op K) (rest : List (Op K)) : ended (op :: rest) = ended [op] + ended rest := by
  cases op <;> simp [ended, Nat.add_comm]

end

structure Client (K : Type) [LinearOrder K] where
  state : OutstandingState K
  /-- What `epoch` returned so far, oldest first. -/
  captured : List Nat
  /-- The keys of every `Failing` guard `fail` returned, oldest first. -/
  handed : List (Std.TreeMap K Nat)
  /-- The `Failing` guards not dropped yet, by their position among those. -/
  alive : List Nat
  /-- How many `Transition` guards are alive. They differ in nothing. -/
  moves : Nat

namespace Client
variable {K : Type} [LinearOrder K]

def new : Client K := ⟨.new, [], [], [], 0⟩

/-- One operation. Naming an epoch or a guard the client does not have does nothing. -/
def apply (build : Build) (capacity : Nat) (client : Client K) : Op K → Option (Client K)
  | .begin key => some { client with state := client.state.begin capacity key }
  | .epoch => some { client with captured := client.captured ++ [client.state.epoch] }
  | .settle capture key =>
      match client.captured[capture]? with
      | none => some client
      | some epoch => (client.state.settle epoch key).map fun state => { client with state }
  | .clear => (client.state.clear build).map fun state => { client with state }
  | .fail => (client.state.fail build).map fun (state, keys) =>
      { client with
        state, handed := client.handed ++ [keys], alive := client.alive ++ [client.handed.length] }
  | .dropFailing guard =>
      if guard ∈ client.alive then client.state.dropFailing.map fun state =>
        { client with state, alive := client.alive.erase guard }
      else some client
  | .transition => some { client with state := client.state.transition, moves := client.moves + 1 }
  | .dropTransition =>
      if 0 < client.moves then client.state.dropTransition.map fun state =>
        { client with state, moves := client.moves - 1 }
      else some client

/-- A new client after these operations. -/
def run (build : Build) (capacity : Nat) (ops : List (Op K)) : Option (Client K) :=
  Lib.Systems.replay (Client.apply build capacity) ops Client.new

end Client

end KunobiDaemon.Transport
