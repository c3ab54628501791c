/-! Sequential programs that ask their surroundings, and what they are told. -/

set_option autoImplicit false

namespace Lib.Dialogues

variable {Q : Type} {A B : Type}

/-- A program that goes on from the reply to each question it asks. -/
inductive Program (R : Q → Type) (A : Type) where
  | done (result : A)
  | ask (question : Q) (next : R question → Program R A)

/-- A question, with the reply to it. -/
abbrev Act (R : Q → Type) := (question : Q) × R question

variable {R : Q → Type}

namespace Program

def bind : Program R A → (A → Program R B) → Program R B
  | .done result, rest => rest result
  | .ask question next, rest => .ask question fun reply => (next reply).bind rest

/-- The `?` operator, with the error as the caller reports it. -/
def attempt {E F : Type} (wrap : E → F) (result : Except E A) (next : A → Program R (Except F B)) :
    Program R (Except F B) :=
  match result with
  | .error error => .done (.error (wrap error))
  | .ok value => next value

/-- Run a program in surroundings that change with every question. -/
def play {W : Type} (reply : W → (question : Q) → R question × W) : Program R A → W → List (Act R) × A
  | .done result, _ => ([], result)
  | .ask question next, world =>
      let (told, after) := reply world question
      let (acts, result) := (next told).play reply after
      (⟨question, told⟩ :: acts, result)

end Program

/-- A whole run, with all it asked. The surroundings may say anything that is possible. -/
inductive Runs (possible : (question : Q) → R question → Prop) : Program R A → List (Act R) → A → Prop where
  | done {result : A} : Runs possible (.done result) [] result
  | ask {question : Q} {next : R question → Program R A} {reply : R question} {acts : List (Act R)} {result : A} :
      possible question reply → Runs possible (next reply) acts result →
      Runs possible (.ask question next) (⟨question, reply⟩ :: acts) result

/-- A program that has been told so much comes to a question. It may be dropped there. -/
inductive Asks (possible : (question : Q) → R question → Prop) : Program R A → List (Act R) → Q → Prop where
  | first {question : Q} {next : R question → Program R A} : Asks possible (.ask question next) [] question
  | later {question asked : Q} {next : R question → Program R A} {reply : R question} {acts : List (Act R)} :
      possible question reply → Asks possible (next reply) acts asked →
      Asks possible (.ask question next) (⟨question, reply⟩ :: acts) asked

section
variable {possible : (question : Q) → R question → Prop}

theorem runs_ask {question : Q} {next : R question → Program R A} {acts : List (Act R)} {result : A}
    (runs : Runs possible (.ask question next) acts result) :
    ∃ reply rest, acts = ⟨question, reply⟩ :: rest ∧ possible question reply ∧ Runs possible (next reply) rest result := by
  cases runs with
  | ask told rest => exact ⟨_, _, rfl, told, rest⟩

theorem runs_bind {program : Program R A} {next : A → Program R B} {acts : List (Act R)} {result : B}
    (runs : Runs possible (program.bind next) acts result) :
    ∃ first rest value, acts = first ++ rest ∧ Runs possible program first value ∧
      Runs possible (next value) rest result := by
  induction program generalizing acts with
  | done value => exact ⟨[], acts, value, rfl, .done, runs⟩
  | ask question after ih =>
      obtain ⟨reply, acts, rfl, told, runs⟩ := runs_ask runs
      obtain ⟨first, rest, value, rfl, begun, ended⟩ := ih reply runs
      exact ⟨⟨question, reply⟩ :: first, rest, value, rfl, .ask told begun, ended⟩

/-- A question of the first part, or of the second after a run of the first. -/
theorem asks_bind {program : Program R A} {next : A → Program R B} {acts : List (Act R)} {asked : Q}
    (asks : Asks possible (program.bind next) acts asked) :
    Asks possible program acts asked ∨ ∃ first rest value, acts = first ++ rest ∧
      Runs possible program first value ∧ Asks possible (next value) rest asked := by
  induction program generalizing acts with
  | done value => exact .inr ⟨[], acts, value, rfl, .done, asks⟩
  | ask question after ih =>
      cases asks with
      | first => exact .inl .first
      | @later _ _ _ reply acts told asks =>
          rcases ih reply asks with asks | ⟨first, rest, value, rfl, runs, asks⟩
          · exact .inl (.later told asks)
          · exact .inr ⟨⟨question, reply⟩ :: first, rest, value, rfl, .ask told runs, asks⟩

theorem asks_attempt {E F : Type} {wrap : E → F} {result : Except E A} {next : A → Program R (Except F B)}
    {acts : List (Act R)} {asked : Q} (asks : Asks possible (.attempt wrap result next) acts asked) :
    ∃ found, result = .ok found ∧ Asks possible (next found) acts asked := by
  cases result with
  | error => cases asks
  | ok found => exact ⟨found, rfl, asks⟩

theorem runs_play {W : Type} {reply : W → (question : Q) → R question × W}
    (fair : ∀ world question, possible question (reply world question).1) (program : Program R A) (world : W) :
    Runs possible program (program.play reply world).1 (program.play reply world).2 := by
  induction program generalizing world with
  | done => exact .done
  | ask question next ih => exact .ask (fair world question) (ih _ _)

/-- A run that succeeds went on from a value. -/
theorem runs_attempt {E F : Type} {wrap : E → F} {result : Except E A} {next : A → Program R (Except F B)}
    {acts : List (Act R)} {value : B} (runs : Runs possible (.attempt wrap result next) acts (.ok value)) :
    ∃ found, result = .ok found ∧ Runs possible (next found) acts (.ok value) := by
  cases result with
  | error => cases runs
  | ok found => exact ⟨found, rfl, runs⟩

end

end Lib.Dialogues
