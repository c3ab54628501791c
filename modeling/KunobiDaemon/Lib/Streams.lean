import Mathlib.Data.List.Basic

/-! Sequential programs over one end of a byte stream.

`write` hands over all of its bytes or fails, and `read` returns exactly as many as it
asked for or fails. A program goes on from the reply it gets.
-/

set_option autoImplicit false

namespace Lib.Streams

variable {E A B : Type}

inductive Process (E A : Type) where
  | done (result : A)
  | write (bytes : List UInt8) (next : Except E Unit → Process E A)
  | flush (next : Except E Unit → Process E A)
  | read (count : Nat) (next : Except E (List UInt8) → Process E A)

namespace Process

def bind : Process E A → (A → Process E B) → Process E B
  | .done result, rest => rest result
  | .write bytes next, rest => .write bytes fun reply => (next reply).bind rest
  | .flush next, rest => .flush fun reply => (next reply).bind rest
  | .read count next, rest => .read count fun reply => (next reply).bind rest

/-- The `?` operator: return the error, or go on with the value. -/
def attempt (result : Except E A) (next : A → Process E (Except E B)) : Process E (Except E B) :=
  match result with
  | .error error => .done (.error error)
  | .ok value => next value

/-- The same in a method, which leaves its object as it is at that point. -/
def attemptIn {S : Type} (self : S) (result : Except E A) (next : A → Process E (S × Except E B)) :
    Process E (S × Except E B) :=
  match result with
  | .error error => .done (self, .error error)
  | .ok value => next value

theorem bind_assoc {C : Type} (process : Process E A) (next : A → Process E B) (last : B → Process E C) :
    (process.bind next).bind last = process.bind fun result => (next result).bind last := by
  induction process with
  | done => rfl
  | write _ _ ih | flush _ ih | read _ _ ih => simp only [bind, ih]

/-- Change the value a program succeeds with. -/
def mapOk {C : Type} (f : B → C) (process : Process E (Except E B)) : Process E (Except E C) :=
  process.bind fun result => .done (result.map f)

section
variable {C : Type} (f : B → C)

theorem mapOk_bind (process : Process E A) (next : A → Process E (Except E B)) :
    (process.bind next).mapOk f = process.bind fun result => (next result).mapOk f :=
  bind_assoc process next _

theorem attempt_eq_mapOk {result : Except E A} {next : A → Process E (Except E C)}
    {other : A → Process E (Except E B)} (same : ∀ value, next value = (other value).mapOk f) :
    attempt result next = (attempt result other).mapOk f := by
  cases result with
  | error => rfl
  | ok value => exact same value

end

/-- Whatever the replies, what a program returns meets the postcondition. -/
inductive Returns (post : A → Prop) : Process E A → Prop where
  | done {result : A} : post result → Returns post (.done result)
  | write {bytes : List UInt8} {next : Except E Unit → Process E A} :
      (∀ reply, Returns post (next reply)) → Returns post (.write bytes next)
  | flush {next : Except E Unit → Process E A} :
      (∀ reply, Returns post (next reply)) → Returns post (.flush next)
  | read {count : Nat} {next : Except E (List UInt8) → Process E A} :
      (∀ reply, Returns post (next reply)) → Returns post (.read count next)

/-- Two ways to go on that agree on what can be returned are the same. -/
theorem Returns.bind_congr {post : A → Prop} {process : Process E A} {next other : A → Process E B}
    (returns : Returns post process) (same : ∀ result, post result → next result = other result) :
    process.bind next = process.bind other := by
  induction returns with
  | done met => exact same _ met
  | write _ ih | flush _ ih | read _ ih => simp only [bind, ih]

theorem returns_attemptIn {S : Type} {post : S × Except E B → Prop} {self : S} {result : Except E A}
    {next : A → Process E (S × Except E B)} (fails : ∀ error, post (self, .error error))
    (returns : ∀ value, Returns post (next value)) : Returns post (attemptIn self result next) := by
  cases result with
  | error error => exact .done (fails error)
  | ok value => exact returns value

/-- Whatever the replies, a program writes only what it may. -/
inductive Writes (may : List UInt8 → Prop) : Process E A → Prop where
  | done {result : A} : Writes may (.done result)
  | write {bytes : List UInt8} {next : Except E Unit → Process E A} : may bytes →
      (∀ reply, Writes may (next reply)) → Writes may (.write bytes next)
  | flush {next : Except E Unit → Process E A} : (∀ reply, Writes may (next reply)) → Writes may (.flush next)
  | read {count : Nat} {next : Except E (List UInt8) → Process E A} : (∀ reply, Writes may (next reply)) →
      Writes may (.read count next)

section
variable {may : List UInt8 → Prop}

theorem writes_bind {process : Process E A} {next : A → Process E B} (first : Writes may process)
    (rest : ∀ value, Writes may (next value)) : Writes may (process.bind next) := by
  induction first with
  | done => exact rest _
  | write allowed _ ih => exact .write allowed ih
  | flush _ ih => exact .flush ih
  | read _ ih => exact .read ih

theorem writes_attempt {result : Except E A} {next : A → Process E (Except E B)}
    (rest : ∀ value, Writes may (next value)) : Writes may (attempt result next) := by
  cases result with
  | error => exact .done
  | ok value => exact rest value

theorem writes_attemptIn {S : Type} {self : S} {result : Except E A} {next : A → Process E (S × Except E B)}
    (rest : ∀ value, result = .ok value → Writes may (next value)) : Writes may (attemptIn self result next) := by
  cases result with
  | error => exact .done
  | ok value => exact rest value rfl

end

end Process

/-- What the transport reports to a side whose peer is gone. -/
structure Faults (E : Type) where
  eof : E
  broken : E

/-- Let a side that waits take one more byte, or give one byte, or see the end of the stream.
Returns what the side is left with, what is left to read, and what it wrote. -/
def tick (faults : Faults E) (closed : Bool) :
    Process E A → List UInt8 → Option (Process E A × List UInt8 × List UInt8)
  | .done _, _ => none
  | .write [] next, inbox => some (next (.ok ()), inbox, [])
  | .write (byte :: rest) next, inbox => some (.write rest next, inbox, [byte])
  | .flush next, inbox => some (next (.ok ()), inbox, [])
  | .read 0 next, inbox => some (next (.ok []), inbox, [])
  | .read (count + 1) next, byte :: inbox =>
      some (.read count fun reply => next (reply.map (byte :: ·)), inbox, [])
  | .read (_ + 1) next, [] => if closed then some (next (.error faults.eof), [], []) else none

/-- All that one step can do. -/
inductive Ticked (faults : Faults E) (closed : Bool) :
    Process E A → List UInt8 → Process E A → List UInt8 → List UInt8 → Prop where
  | gave {byte : UInt8} {bytes inbox : List UInt8} {next : Except E Unit → Process E A} :
      Ticked faults closed (.write (byte :: bytes) next) inbox (.write bytes next) inbox [byte]
  | written {inbox : List UInt8} {next : Except E Unit → Process E A} :
      Ticked faults closed (.write [] next) inbox (next (.ok ())) inbox []
  | flushed {inbox : List UInt8} {next : Except E Unit → Process E A} :
      Ticked faults closed (.flush next) inbox (next (.ok ())) inbox []
  | took {byte : UInt8} {inbox : List UInt8} {count : Nat} {next : Except E (List UInt8) → Process E A} :
      Ticked faults closed (.read (count + 1) next) (byte :: inbox)
        (.read count fun reply => next (reply.map (byte :: ·))) inbox []
  | filled {inbox : List UInt8} {next : Except E (List UInt8) → Process E A} :
      Ticked faults closed (.read 0 next) inbox (next (.ok [])) inbox []
  | ended {count : Nat} {next : Except E (List UInt8) → Process E A} : closed = true →
      Ticked faults closed (.read (count + 1) next) [] (next (.error faults.eof)) [] []

theorem ticked {faults : Faults E} {closed : Bool} {process next : Process E A} {inbox rest sent : List UInt8}
    (stepped : tick faults closed process inbox = some (next, rest, sent)) :
    Ticked faults closed process inbox next rest sent := by
  cases process with
  | done => cases stepped
  | write bytes after =>
      cases bytes with
      | nil =>
          cases stepped
          exact .written
      | cons byte bytes =>
          cases stepped
          exact .gave
  | flush after =>
      cases stepped
      exact .flushed
  | read count after =>
      cases count with
      | zero =>
          cases stepped
          exact .filled
      | succ count =>
          cases inbox with
          | nil =>
              simp only [tick, Option.ite_none_right_eq_some, Option.some.injEq, Prod.mk.injEq] at stepped
              obtain ⟨shut, rfl, rfl, rfl⟩ := stepped
              exact .ended shut
          | cons byte inbox =>
              cases stepped
              exact .took

/-- A run of one side alone, with what it read and what it wrote. -/
inductive Runs (faults : Faults E) (closed : Bool) :
    Process E A → List UInt8 → Process E A → List UInt8 → List UInt8 → Prop where
  | stay {process : Process E A} {inbox : List UInt8} : Runs faults closed process inbox process inbox []
  | step {process middle last : Process E A} {inbox rest left sent more : List UInt8} :
      tick faults closed process inbox = some (middle, rest, sent) →
      Runs faults closed middle rest last left more →
      Runs faults closed process inbox last left (sent ++ more)

section
variable {faults : Faults E} {closed : Bool}

theorem tick_bind {process middle : Process E A} {inbox rest sent : List UInt8}
    (stepped : tick faults closed process inbox = some (middle, rest, sent)) (next : A → Process E B) :
    tick faults closed (process.bind next) inbox = some (middle.bind next, rest, sent) := by
  cases ticked stepped with
  | gave | written | flushed | took | filled => rfl
  | ended shut => exact if_pos shut

/-- A run on exactly the bytes it is given. -/
theorem Runs.exactly {process last : Process E A} {bytes rest sent : List UInt8}
    (runs : Runs faults closed process (bytes ++ []) last rest sent) :
    Runs faults closed process bytes last rest sent := by
  rwa [List.append_nil] at runs

/-- `Runs.step` for bytes written that are not spelled as an append. -/
theorem Runs.cons {process middle last : Process E A} {inbox rest left sent more all : List UInt8}
    (ticked : tick faults closed process inbox = some (middle, rest, sent))
    (runs : Runs faults closed middle rest last left more) (same : sent ++ more = all) :
    Runs faults closed process inbox last left all :=
  same ▸ .step ticked runs

theorem Runs.trans {process middle last : Process E A} {inbox rest left sent more : List UInt8}
    (first : Runs faults closed process inbox middle rest sent)
    (second : Runs faults closed middle rest last left more) :
    Runs faults closed process inbox last left (sent ++ more) := by
  induction first with
  | stay => exact second
  | step ticked _ ih =>
      rw [List.append_assoc]
      exact .step ticked (ih second)

theorem Runs.bind {process last : Process E A} {inbox rest sent : List UInt8}
    (runs : Runs faults closed process inbox last rest sent) (next : A → Process E B) :
    Runs faults closed (process.bind next) inbox (last.bind next) rest sent := by
  induction runs with
  | stay => exact .stay
  | step ticked _ ih => exact .step (tick_bind ticked next) ih

/-- A part that returns, and then the rest. -/
theorem Runs.seq {process : Process E A} {last : Process E B} {next : A → Process E B} {result : A}
    {inbox rest left sent more all : List UInt8}
    (first : Runs faults closed process inbox (.done result) rest sent)
    (second : Runs faults closed (next result) rest last left more) (same : sent ++ more = all) :
    Runs faults closed (process.bind next) inbox last left all :=
  same ▸ (first.bind next).trans second

/-! What each operation does, before a run of what follows it. -/

section
variable {last : Process E A} {inbox left more : List UInt8}

theorem Runs.write {bytes all : List UInt8} {next : Except E Unit → Process E A}
    (runs : Runs faults closed (next (.ok ())) inbox last left more) (same : bytes ++ more = all) :
    Runs faults closed (.write bytes next) inbox last left all := by
  induction bytes generalizing all with
  | nil => exact .cons rfl runs same
  | cons byte rest ih => exact .cons rfl (ih rfl) same

theorem Runs.flush {next : Except E Unit → Process E A}
    (runs : Runs faults closed (next (.ok ())) inbox last left more) :
    Runs faults closed (.flush next) inbox last left more :=
  .cons rfl runs rfl

theorem Runs.read {count : Nat} (bytes : List UInt8) (size : bytes.length = count)
    {next : Except E (List UInt8) → Process E A}
    (runs : Runs faults closed (next (.ok bytes)) inbox last left more) :
    Runs faults closed (.read count next) (bytes ++ inbox) last left more := by
  -- A byte taken changes what the program does with the others, so `next` is general.
  induction bytes generalizing count next with
  | nil =>
      cases size
      exact .cons rfl runs rfl
  | cons byte rest ih =>
      cases size
      exact .cons rfl (ih rfl runs) rfl

/-- A read that the stream cannot fill fails at its end. -/
theorem Runs.eof {count : Nat} (short : inbox.length < count) {next : Except E (List UInt8) → Process E A}
    (runs : Runs faults true (next (.error faults.eof)) [] last left more) :
    Runs faults true (.read count next) inbox last left more := by
  induction inbox generalizing count next with
  | nil =>
      obtain ⟨rest, rfl⟩ := Nat.exists_eq_add_of_lt short
      exact .cons rfl runs rfl
  | cons byte inbox ih =>
      cases count with
      | zero => cases short
      | succ count => exact .cons rfl (ih (Nat.lt_of_succ_lt_succ short) runs) rfl

end

end

/-- How a program ended, what it left unread and what it wrote. -/
structure Outcome (A : Type) where
  result : A
  rest : List UInt8
  sent : List UInt8

/-- Run a program on all the bytes its peer ever sends. -/
def eval (faults : Faults E) : Process E A → List UInt8 → Outcome A
  | .done result, inbox => ⟨result, inbox, []⟩
  | .write bytes next, inbox =>
      let outcome := eval faults (next (.ok ())) inbox
      { outcome with sent := bytes ++ outcome.sent }
  | .flush next, inbox => eval faults (next (.ok ())) inbox
  | .read count next, inbox =>
      if count ≤ inbox.length then eval faults (next (.ok (inbox.take count))) (inbox.drop count)
      else eval faults (next (.error faults.eof)) []

section
variable {faults : Faults E}

theorem eval_bind (process : Process E A) (next : A → Process E B) (inbox : List UInt8) :
    eval faults (process.bind next) inbox =
      let first := eval faults process inbox
      let second := eval faults (next first.result) first.rest
      { second with sent := first.sent ++ second.sent } := by
  induction process generalizing inbox with
  | done result => rfl
  | write bytes after ih => simp [Process.bind, eval, ih]
  | flush after ih => exact ih _ _
  | read count after ih =>
      simp only [Process.bind, eval]
      split
      · exact ih _ _
      · exact ih _ _

theorem eval_read_full {count : Nat} {taken : List UInt8} (full : taken.length = count)
    (next : Except E (List UInt8) → Process E A) (rest : List UInt8) :
    eval faults (.read count next) (taken ++ rest) = eval faults (next (.ok taken)) rest := by
  subst full
  simp [eval]

theorem eval_read_short {count : Nat} {inbox : List UInt8} (short : inbox.length < count)
    (next : Except E (List UInt8) → Process E A) :
    eval faults (.read count next) inbox = eval faults (next (.error faults.eof)) [] := by
  rw [eval, if_neg (Nat.not_le.mpr short)]

/-- A read gets all it asked for, or the end of the stream. -/
theorem eval_read {motive : Outcome A → Prop} {count : Nat} {next : Except E (List UInt8) → Process E A}
    {inbox : List UInt8}
    (filled : ∀ taken rest, inbox = taken ++ rest → taken.length = count →
      motive (eval faults (next (.ok taken)) rest))
    (ended : motive (eval faults (next (.error faults.eof)) [])) :
    motive (eval faults (.read count next) inbox) := by
  rw [eval]
  split
  · rename_i enough
    exact filled _ _ (List.take_append_drop count inbox).symm (List.length_take_of_le enough)
  · exact ended

/-- One step does not change what a program will have returned and written. -/
theorem eval_tick {closed : Bool} {process next : Process E A}
    {inbox rest sent : List UInt8} (stepped : tick faults closed process inbox = some (next, rest, sent)) :
    eval faults process inbox = { eval faults next rest with sent := sent ++ (eval faults next rest).sent } := by
  cases ticked stepped with
  | gave | written | flushed | filled | ended => simp [eval]
  | @took byte _ count _ =>
      -- The rest of the read is filled, or it ends, with the byte taken or without.
      by_cases enough : count ≤ rest.length <;> simp [eval, enough, Except.map]

/-- Whatever a side has written so far begins what it writes when the stream has ended. -/
theorem eval_runs {closed : Bool} {process next : Process E A}
    {inbox rest sent : List UInt8} (runs : Runs faults closed process inbox next rest sent) :
    eval faults process inbox = { eval faults next rest with sent := sent ++ (eval faults next rest).sent } := by
  induction runs with
  | stay => rfl
  | step ticked _ ih => rw [eval_tick ticked, ih, List.append_assoc]

theorem eval_of_returns {closed : Bool} {process : Process E A} {inbox rest sent : List UInt8} {result : A}
    (runs : Runs faults closed process inbox (.done result) rest sent) :
    eval faults process inbox = ⟨result, rest, sent⟩ := by
  rw [eval_runs runs]
  simp [eval]

end

end Lib.Streams
