import KunobiDaemon.Lib.Dialogues
import Mathlib.Logic.Relation

/-! Programs whose surroundings are changed by others between any two questions.

`Safe` says of a program what it comes to whatever the others do: it asks at most so many
questions, none of them where it could be stuck, and it ends with the postcondition. Specifications
of the parts of a program compose; between two questions only what is stable is known.
-/

set_option autoImplicit false

namespace Lib.Interference

open Dialogues

variable {Q : Type} {R : Q → Type} {W A B : Type}

/-- Surroundings that answer a question, or make the program wait, and that others change. -/
structure Setting (R : Q → Type) (W : Type) where
  answers : W → (question : Q) → R question → W → Prop
  others : W → W → Prop
  /-- Where a program may come to a question. -/
  able : W → Q → Prop

/-- What the others keep. -/
def Setting.Stable (setting : Setting R W) (P : W → Prop) : Prop :=
  ∀ ⦃world after⦄, P world → setting.others world after → P after

variable {setting : Setting R W}

theorem Setting.Stable.reached {P : W → Prop} (stable : setting.Stable P) {world now : W} (holds : P world)
    (reached : Relation.ReflTransGen setting.others world now) : P now := by
  induction reached with
  | refl => exact holds
  | tail _ step ih => exact stable ih step

inductive Safe (setting : Setting R W) (post : A → W → Prop) : Nat → Program R A → W → Prop where
  | done {count : Nat} {result : A} {world : W} : post result world → Safe setting post count (.done result) world
  | ask {count : Nat} {question : Q} {next : R question → Program R A} {world : W} :
      (∀ now, Relation.ReflTransGen setting.others world now → setting.able now question) →
      (∀ now reply after, Relation.ReflTransGen setting.others world now →
        setting.answers now question reply after → Safe setting post count (next reply) after) →
      Safe setting post (count + 1) (.ask question next) world

namespace Safe

variable {post : A → W → Prop} {count : Nat} {world : W}

/-- A question under a stable condition. -/
theorem ask_stable {question : Q} {next : R question → Program R A} {P : W → Prop} (stable : setting.Stable P)
    (holds : P world) (able : ∀ now, P now → setting.able now question)
    (goes : ∀ now reply after, P now → setting.answers now question reply after →
      Safe setting post count (next reply) after) :
    Safe setting post (count + 1) (.ask question next) world :=
  .ask (fun now reached => able now (stable.reached holds reached))
    fun now reply after reached => goes now reply after (stable.reached holds reached)

/-- A question where there are no others. -/
theorem ask_alone {question : Q} {next : R question → Program R A} (alone : ∀ world after, ¬ setting.others world after)
    (able : setting.able world question)
    (goes : ∀ reply after, setting.answers world question reply after → Safe setting post count (next reply) after) :
    Safe setting post (count + 1) (.ask question next) world := by
  refine ask_stable (P := fun now => now = world) (fun _ _ _ step => absurd step (alone _ _)) rfl ?_ ?_
  · rintro _ rfl
    exact able
  · rintro _ reply after rfl answered
    exact goes reply after answered

theorem mono {wider : A → W → Prop} {program : Program R A} {more : Nat}
    (safe : Safe setting post count program world) (weaker : ∀ result world, post result world → wider result world)
    (enough : count ≤ more) : Safe setting wider more program world := by
  induction safe generalizing more with
  | done holds => exact .done (weaker _ _ holds)
  | ask able _ ih =>
      cases more with
      | zero => exact absurd enough (Nat.not_succ_le_zero _)
      | succ more =>
          exact .ask able fun now reply after reached answered =>
            ih now reply after reached answered (Nat.le_of_succ_le_succ enough)

/-- The specification of a first part makes the one of the rest its postcondition. -/
theorem bind {program : Program R A} {rest : A → Program R B} {wanted : B → W → Prop} {more : Nat}
    (safe : Safe setting (fun result world => Safe setting wanted more (rest result) world) count program world) :
    Safe setting wanted (more + count) (program.bind rest) world := by
  induction safe with
  | done holds => exact holds.mono (fun _ _ => id) (Nat.le_add_right _ _)
  | ask able _ ih => exact .ask able ih

/-- What neither the others nor the answers change. -/
theorem frame {program : Program R A} {P : W → Prop} (safe : Safe setting post count program world)
    (stable : setting.Stable P)
    (kept : ∀ world question reply after, P world → setting.answers world question reply after → P after)
    (holds : P world) : Safe setting (fun result world => post result world ∧ P world) count program world := by
  induction safe with
  | done ended => exact .done ⟨ended, holds⟩
  | ask able _ ih =>
      refine .ask able fun now reply after reached answered => ih now reply after reached answered ?_
      exact kept now _ reply after (stable.reached holds reached) answered

theorem of_ask {question : Q} {next : R question → Program R A}
    (safe : Safe setting post count (.ask question next) world) :
    setting.able world question ∧ ∀ reply after, setting.answers world question reply after →
      ∃ fewer, count = fewer + 1 ∧ Safe setting post fewer (next reply) after := by
  cases safe with
  | ask able goes => exact ⟨able world .refl, fun reply after answered => ⟨_, rfl, goes world reply after .refl answered⟩⟩

/-- The others do not harm a program whose postcondition is stable. -/
theorem others {program : Program R A} {after : W} (safe : Safe setting post count program world)
    (stable : ∀ result, setting.Stable (post result)) (step : setting.others world after) :
    Safe setting post count program after := by
  cases safe with
  | done holds => exact .done (stable _ holds step)
  | ask able goes =>
      exact .ask (fun now reached => able now (.head step reached))
        fun now reply later reached => goes now reply later (.head step reached)

end Safe

end Lib.Interference
