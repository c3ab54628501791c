import KunobiDaemon.Lib.Streams

/-! Methods of an object over a transport that may fail anywhere, whose calls may be dropped.

Each operation says what the object holds while it is under way. A call that is dropped there
leaves just that behind.
-/

set_option autoImplicit false

namespace Lib.Streams

variable {S T E A B : Type}

inductive Method (S E A : Type) where
  | done (self : S) (result : A)
  | write (self : S) (bytes : List UInt8) (next : Except E Unit → Method S E A)
  | flush (self : S) (next : Except E Unit → Method S E A)
  | read (self : S) (count : Nat) (next : Except E (List UInt8) → Method S E A)

namespace Method

def bind : Method S E A → (S → A → Method S E B) → Method S E B
  | .done self result, rest => rest self result
  | .write self bytes next, rest => .write self bytes fun reply => (next reply).bind rest
  | .flush self next, rest => .flush self fun reply => (next reply).bind rest
  | .read self count next, rest => .read self count fun reply => (next reply).bind rest

/-- A method of a part, as one of the whole that holds it. -/
def within (put : S → T) : Method S E A → Method T E A
  | .done self result => .done (put self) result
  | .write self bytes next => .write (put self) bytes fun reply => (next reply).within put
  | .flush self next => .flush (put self) fun reply => (next reply).within put
  | .read self count next => .read (put self) count fun reply => (next reply).within put

/-- Change the value a method returns. -/
def map (f : A → B) (method : Method S E A) : Method S E B := method.bind fun self result => .done self (f result)

/-- The `?` operator. -/
def attempt (self : S) (result : Except E A) (next : A → Method S E (Except E B)) : Method S E (Except E B) :=
  match result with
  | .error error => .done self (.error error)
  | .ok value => next value

/-- The program of a call that is never dropped. -/
def program : Method S E A → Process E (S × A)
  | .done self result => .done (self, result)
  | .write _ bytes next => .write bytes fun reply => (next reply).program
  | .flush _ next => .flush fun reply => (next reply).program
  | .read _ count next => .read count fun reply => (next reply).program

@[simp] theorem within_attempt (put : S → T) (self : S) (result : Except E A) (next : A → Method S E (Except E B)) :
    (attempt self result next).within put = attempt (put self) result fun value => (next value).within put := by
  cases result <;> rfl

/-- A method of the whole that goes on from one of its part is a method of the part too. -/
theorem bind_within {put : S → T} {next : T → A → Method T E B} {inner : S → A → Method S E B}
    (same : ∀ self value, next (put self) value = (inner self value).within put) (method : Method S E A) :
    (method.within put).bind next = (method.bind inner).within put := by
  induction method with
  | done self value => exact same self value
  | write _ _ _ ih | flush _ _ ih | read _ _ _ ih => simp only [within, bind, ih]

theorem within_map (put : S → T) (f : A → B) (method : Method S E A) :
    (method.map f).within put = (method.within put).map f :=
  (bind_within (fun _ _ => rfl) method).symm

@[simp] theorem program_attempt (self : S) (result : Except E A) (next : A → Method S E (Except E B)) :
    (attempt self result next).program = Process.attemptIn self result fun value => (next value).program := by
  cases result <;> rfl

theorem program_bind (method : Method S E A) (next : S → A → Method S E B) :
    (method.bind next).program = method.program.bind fun (self, result) => (next self result).program := by
  induction method with
  | done => rfl
  | write _ _ _ ih | flush _ _ ih | read _ _ _ ih => simp only [bind, program, Process.bind, ih]

theorem program_within (put : S → T) (method : Method S E A) :
    (method.within put).program = method.program.bind fun (self, result) => .done (put self, result) := by
  induction method with
  | done => rfl
  | write _ _ _ ih | flush _ _ ih | read _ _ _ ih => simp only [within, program, Process.bind, ih]

end Method

/-- The bytes a call moved, and whether all its operations were completed. -/
structure Footprint where
  taken : List UInt8
  given : List UInt8
  clean : Bool
  deriving DecidableEq, Repr

namespace Footprint

def nothing : Footprint := ⟨[], [], true⟩

def andThen (first second : Footprint) : Footprint :=
  ⟨first.taken ++ second.taken, first.given ++ second.given, first.clean && second.clean⟩

theorem andThen_mk (taken given more also : List UInt8) (clean ok : Bool) :
    andThen ⟨taken, given, clean⟩ ⟨more, also, ok⟩ = ⟨taken ++ more, given ++ also, clean && ok⟩ := rfl

@[simp] theorem andThen_nothing (first : Footprint) : first.andThen nothing = first := by
  simp [andThen, nothing]

@[simp] theorem nothing_andThen (second : Footprint) : nothing.andThen second = second := rfl

theorem andThen_assoc (first second third : Footprint) :
    (first.andThen second).andThen third = first.andThen (second.andThen third) := by
  simp [andThen, Bool.and_assoc]

end Footprint

/-- A call against any transport: an operation is completed, or fails part of the way, or the call
is dropped there and has no result. -/
inductive Performs : Method S E A → Footprint → S → Option A → Prop where
  | done {self : S} {result : A} : Performs (.done self result) .nothing self (some result)
  | written {self last : S} {bytes : List UInt8} {next : Except E Unit → Method S E A} {rest : Footprint}
      {result : Option A} : Performs (next (.ok ())) rest last result →
      Performs (.write self bytes next) (.andThen ⟨[], bytes, true⟩ rest) last result
  | writeFailed {self last : S} {bytes part : List UInt8} {next : Except E Unit → Method S E A} {error : E}
      {rest : Footprint} {result : Option A} : part <+: bytes → Performs (next (.error error)) rest last result →
      Performs (.write self bytes next) (.andThen ⟨[], part, false⟩ rest) last result
  | writeDropped {self : S} {bytes part : List UInt8} {next : Except E Unit → Method S E A} : part <+: bytes →
      Performs (.write self bytes next) ⟨[], part, false⟩ self none
  | flushed {self last : S} {next : Except E Unit → Method S E A} {rest : Footprint} {result : Option A} :
      Performs (next (.ok ())) rest last result → Performs (.flush self next) (.andThen .nothing rest) last result
  | flushFailed {self last : S} {next : Except E Unit → Method S E A} {error : E} {rest : Footprint}
      {result : Option A} : Performs (next (.error error)) rest last result →
      Performs (.flush self next) (.andThen ⟨[], [], false⟩ rest) last result
  | flushDropped {self : S} {next : Except E Unit → Method S E A} :
      Performs (.flush self next) ⟨[], [], false⟩ self none
  | filled {self last : S} {count : Nat} {bytes : List UInt8} {next : Except E (List UInt8) → Method S E A}
      {rest : Footprint} {result : Option A} : bytes.length = count →
      Performs (next (.ok bytes)) rest last result →
      Performs (.read self count next) (.andThen ⟨bytes, [], true⟩ rest) last result
  | readFailed {self last : S} {count : Nat} {part : List UInt8} {next : Except E (List UInt8) → Method S E A}
      {error : E} {rest : Footprint} {result : Option A} : part.length ≤ count →
      Performs (next (.error error)) rest last result →
      Performs (.read self count next) (.andThen ⟨part, [], false⟩ rest) last result
  | readDropped {self : S} {count : Nat} {part : List UInt8} {next : Except E (List UInt8) → Method S E A} :
      part.length ≤ count → Performs (.read self count next) ⟨part, [], false⟩ self none

/-- What a call of a part does to the whole. -/
theorem performs_within {put : S → T} {method : Method S E A} {footprint : Footprint} {whole : T}
    {result : Option A} (performs : Performs (method.within put) footprint whole result) :
    ∃ part, whole = put part ∧ Performs method footprint part result := by
  induction method generalizing footprint with
  | done self value =>
      cases performs
      exact ⟨self, rfl, .done⟩
  | write self bytes next ih =>
      cases performs with
      | written rest =>
          obtain ⟨part, same, performs⟩ := ih _ rest
          exact ⟨part, same, .written performs⟩
      | writeFailed cut rest =>
          obtain ⟨part, same, performs⟩ := ih _ rest
          exact ⟨part, same, .writeFailed cut performs⟩
      | writeDropped cut => exact ⟨self, rfl, .writeDropped cut⟩
  | flush self next ih =>
      cases performs with
      | flushed rest =>
          obtain ⟨part, same, performs⟩ := ih _ rest
          exact ⟨part, same, .flushed performs⟩
      | flushFailed rest =>
          obtain ⟨part, same, performs⟩ := ih _ rest
          exact ⟨part, same, .flushFailed performs⟩
      | flushDropped => exact ⟨self, rfl, .flushDropped⟩
  | read self count next ih =>
      cases performs with
      | filled sized rest =>
          obtain ⟨part, same, performs⟩ := ih _ rest
          exact ⟨part, same, .filled sized performs⟩
      | readFailed short rest =>
          obtain ⟨part, same, performs⟩ := ih _ rest
          exact ⟨part, same, .readFailed short performs⟩
      | readDropped short => exact ⟨self, rfl, .readDropped short⟩

/-- A call in two parts: dropped in the first, or through it and on with the second. -/
inductive Performs.Sequence (method : Method S E A) (next : S → A → Method S E B) :
    Footprint → S → Option B → Prop where
  | dropped {footprint : Footprint} {last : S} : Performs method footprint last none →
      Sequence method next footprint last none
  | through {first second : Footprint} {middle last : S} {value : A} {result : Option B} :
      Performs method first middle (some value) → Performs (next middle value) second last result →
      Sequence method next (first.andThen second) last result

/-- The first operation of a call leaves the rest of it in the same two parts. -/
theorem Performs.Sequence.prepend {method rest : Method S E A} {next : S → A → Method S E B}
    {first footprint : Footprint} {last : S} {result : Option B} (sequence : Sequence rest next footprint last result)
    (step : ∀ {footprint last result}, Performs rest footprint last result →
      Performs method (first.andThen footprint) last result) :
    Sequence method next (first.andThen footprint) last result := by
  cases sequence with
  | dropped performs => exact .dropped (step performs)
  | through performs more =>
      rw [← Footprint.andThen_assoc]
      exact .through (step performs) more

theorem performs_bind {method : Method S E A} {next : S → A → Method S E B} {footprint : Footprint} {last : S}
    {result : Option B} (performs : Performs (method.bind next) footprint last result) :
    Performs.Sequence method next footprint last result := by
  induction method generalizing footprint with
  | done self value =>
      rw [← Footprint.nothing_andThen footprint]
      exact .through .done performs
  | write self bytes after ih =>
      cases performs with
      | written rest => exact (ih _ rest).prepend .written
      | writeFailed cut rest => exact (ih _ rest).prepend (.writeFailed cut)
      | writeDropped cut => exact .dropped (.writeDropped cut)
  | flush self after ih =>
      cases performs with
      | flushed rest => exact (ih _ rest).prepend .flushed
      | flushFailed rest => exact (ih _ rest).prepend .flushFailed
      | flushDropped => exact .dropped .flushDropped
  | read self count after ih =>
      cases performs with
      | filled sized rest => exact (ih _ rest).prepend (.filled sized)
      | readFailed short rest => exact (ih _ rest).prepend (.readFailed short)
      | readDropped short => exact .dropped (.readDropped short)

theorem performs_map {method : Method S E A} {f : A → B} {footprint : Footprint} {last : S} {result : Option B}
    (performs : Performs (method.map f) footprint last result) :
    ∃ value, result = value.map f ∧ Performs method footprint last value := by
  cases performs_bind performs with
  | dropped first => exact ⟨none, rfl, first⟩
  | through first rest =>
      cases rest
      rw [Footprint.andThen_nothing]
      exact ⟨some _, rfl, first⟩

/-- One call of a method, with the object before and after it. A dropped call has no outcome. -/
structure Record (Q S R : Type) where
  request : Q
  found : S
  footprint : Footprint
  outcome : Option R
  left : S

/-- A call with what is to be seen of the object. -/
def Record.view {Q R : Type} (see : S → T) (record : Record Q S R) : Record Q T R :=
  ⟨record.request, see record.found, record.footprint, record.outcome, see record.left⟩

/-- Calls of an object's methods, one after the other. -/
inductive History {Q R : Type} (call : Q → S → Method S E R) : S → List (Record Q S R) → Prop where
  | nil {self : S} : History call self []
  | cons {self : S} {record : Record Q S R} {later : List (Record Q S R)} : record.found = self →
      Performs (call record.request self) record.footprint record.left record.outcome →
      History call record.left later → History call self (record :: later)

end Lib.Streams
