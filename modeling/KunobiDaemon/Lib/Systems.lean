import Mathlib.Data.List.Induction
import Mathlib.Logic.Relation

/-! Transition systems given by a partial step function, and the runs they admit.

A run may be restricted to steps that meet a condition on the state before the
step and its label. Plain reachability is the condition that always holds.
-/

set_option autoImplicit false

namespace Lib.Systems

section
variable {S L : Type}

/-- One step whose label meets the condition in the state it starts from. -/
def Next (step : S → L → Option S) (ok : S → L → Prop) (s t : S) : Prop :=
  ∃ label, ok s label ∧ step s label = some t

/-- A finite run all of whose steps meet the condition. -/
abbrev Path (step : S → L → Option S) (ok : S → L → Prop) : S → S → Prop :=
  Relation.ReflTransGen (Next step ok)

/-- The condition that excludes no step. -/
def Any (_ : S) (_ : L) : Prop := True

variable {step : S → L → Option S} {ok : S → L → Prop}

theorem Path.invariant {I : S → Prop}
    (preserved : ∀ s label t, I s → ok s label → step s label = some t → I t)
    {s t : S} (path : Path step ok s t) (initial : I s) : I t := by
  induction path with
  | refl => exact initial
  | tail _ next ih =>
      obtain ⟨label, met, stepped⟩ := next
      exact preserved _ label _ ih met stepped

/-- Replay labels from a state. -/
def replay (step : S → L → Option S) : List L → S → Option S
  | [], s => some s
  | label :: rest, s => (step s label).bind (replay step rest)

theorem path_of_replay (labels : List L) {s t : S} (replayed : replay step labels s = some t) :
    Path step Any s t := by
  induction labels generalizing s with
  | nil =>
      cases replayed
      exact .refl
  | cons label rest ih =>
      simp only [replay, Option.bind_eq_some_iff] at replayed
      obtain ⟨next, stepped, replayed⟩ := replayed
      exact .head ⟨label, trivial, stepped⟩ (ih replayed)

theorem replay_append (first second : List L) (s : S) :
    replay step (first ++ second) s = (replay step first s).bind (replay step second) := by
  induction first generalizing s with
  | nil => rfl
  | cons label rest ih =>
      simp only [List.cons_append, replay, Option.bind_assoc]
      exact Option.bind_congr fun t _ => ih t

theorem replay_append_eq_some {first second : List L} {s u : S} :
    replay step (first ++ second) s = some u ↔ ∃ t, replay step first s = some t ∧ replay step second t = some u := by
  rw [replay_append, Option.bind_eq_some_iff]

/-- What holds of no labels and is kept by one more holds of any labels that can be replayed. -/
theorem replay_induction {I : List L → S → Prop} {s : S} (initial : I [] s)
    (preserved : ∀ labels t label u, I labels t → step t label = some u → I (labels ++ [label]) u)
    {labels : List L} {t : S} (replayed : replay step labels s = some t) : I labels t := by
  induction labels using List.reverseRecOn generalizing t with
  | nil =>
      cases replayed
      exact initial
  | append_singleton labels label ih =>
      obtain ⟨u, before, last⟩ := replay_append_eq_some.mp replayed
      simp only [replay, Option.bind_eq_some_iff, Option.some.injEq, exists_eq_right] at last
      exact preserved labels u label t (ih before) last

/-- When every step of some kind uses up some of what is left, there are no more of them than that. -/
theorem length_replay_within {I : Nat → S → Prop} {K : L → Prop}
    (uses : ∀ left s label t, I left s → K label → step s label = some t → ∃ less, less < left ∧ I less t)
    {labels : List L} {left : Nat} {s t : S} (all : ∀ label ∈ labels, K label) (initial : I left s)
    (replayed : replay step labels s = some t) : ∃ less, I less t ∧ labels.length + less ≤ left := by
  induction labels generalizing s left with
  | nil =>
      cases replayed
      exact ⟨left, initial, by simp⟩
  | cons label rest ih =>
      simp only [replay, Option.bind_eq_some_iff] at replayed
      obtain ⟨next, stepped, replayed⟩ := replayed
      obtain ⟨less, used, holds⟩ := uses left s label next initial (all label List.mem_cons_self) stepped
      obtain ⟨last, reached, bound⟩ := ih (fun label member => all label (List.mem_cons_of_mem _ member)) holds replayed
      rw [List.length_cons]
      exact ⟨last, reached, by omega⟩

/-- When every step uses up some of what is left, the labels are no more than what is left at first. -/
theorem length_replay_le {I : S → Prop} {left : S → Nat}
    (uses : ∀ s label t, I s → step s label = some t → I t ∧ left t < left s) {labels : List L} {s t : S} (initial : I s)
    (replayed : replay step labels s = some t) : I t ∧ labels.length + left t ≤ left s := by
  obtain ⟨less, ⟨holds, rfl⟩, bound⟩ := length_replay_within (I := fun count s => I s ∧ left s = count)
    (K := fun _ => True) (by
      rintro _ s label t ⟨holds, rfl⟩ - stepped
      obtain ⟨holds, less⟩ := uses s label t holds stepped
      exact ⟨_, less, holds, rfl⟩) (fun _ _ => trivial) ⟨initial, rfl⟩ replayed
  exact ⟨holds, bound⟩

/-- Replay labels as long as they meet the condition. -/
def replayWithin (step : S → L → Option S) (ok : S → L → Prop) [∀ s label, Decidable (ok s label)] :
    List L → S → Option S
  | [], s => some s
  | label :: rest, s => if ok s label then (step s label).bind (replayWithin step ok rest) else none

theorem path_of_replayWithin [∀ s label, Decidable (ok s label)] (labels : List L) {s t : S}
    (replayed : replayWithin step ok labels s = some t) : Path step ok s t := by
  induction labels generalizing s with
  | nil =>
      cases replayed
      exact .refl
  | cons label rest ih =>
      simp only [replayWithin, Option.ite_none_right_eq_some, Option.bind_eq_some_iff] at replayed
      obtain ⟨met, next, stepped, replayed⟩ := replayed
      exact .head ⟨label, met, stepped⟩ (ih replayed)

/-- Every step the labels take from a state meets the condition. -/
def Meets (step : S → L → Option S) (ok : S → L → Prop) : List L → S → Prop
  | [], _ => True
  | label :: rest, s => ∀ t, step s label = some t → ok s label ∧ Meets step ok rest t

/-- Every state the labels reach has the property, the first one included. -/
def Throughout (step : S → L → Option S) (I : S → Prop) : List L → S → Prop
  | [], s => I s
  | label :: rest, s => I s ∧ ∀ t, step s label = some t → Throughout step I rest t

theorem Throughout.here {I : S → Prop} {labels : List L} {s : S} (all : Throughout step I labels s) : I s := by
  cases labels with
  | nil => exact all
  | cons => exact all.1

/-- An invariant that implies the property. -/
theorem throughout_of_kept {I J : S → Prop} (enough : ∀ s, J s → I s)
    (kept : ∀ s label t, J s → step s label = some t → J t) (labels : List L) {s : S} (initial : J s) :
    Throughout step I labels s := by
  induction labels generalizing s with
  | nil => exact enough s initial
  | cons label rest ih => exact ⟨enough s initial, fun t stepped => ih (kept s label t initial stepped)⟩

/-- An invariant that implies the property, survives the steps that meet the condition, and
after every other step is followed by a failure of the property: then the condition is exact. -/
theorem throughout_iff_meets {I J : S → Prop} (enough : ∀ s, J s → I s)
    (kept : ∀ s label t, J s → ok s label → step s label = some t → J t)
    (broken : ∀ s label t, J s → ¬ ok s label → step s label = some t → ¬ I t)
    (labels : List L) {s : S} (initial : J s) : Throughout step I labels s ↔ Meets step ok labels s := by
  induction labels generalizing s with
  | nil => exact ⟨fun _ => trivial, fun _ => enough s initial⟩
  | cons label rest ih =>
      constructor
      · rintro ⟨-, later⟩ t stepped
        have met : ok s label := Classical.byContradiction fun missed =>
          broken s label t initial missed stepped (later t stepped).here
        exact ⟨met, (ih (kept s label t initial met stepped)).mp (later t stepped)⟩
      · intro meets
        refine ⟨enough s initial, fun t stepped => ?_⟩
        obtain ⟨met, later⟩ := meets t stepped
        exact (ih (kept s label t initial met stepped)).mpr later

end

section
variable {S : Type} {r : S → S → Prop}

/-- Exactly so many steps of a relation. -/
inductive Steps (r : S → S → Prop) : Nat → S → S → Prop where
  | zero {s : S} : Steps r 0 s s
  | succ {count : Nat} {s t u : S} : r s t → Steps r count t u → Steps r (count + 1) s u

theorem Steps.trans {m n : Nat} {s t u : S} (first : Steps r m s t) (rest : Steps r n t u) :
    Steps r (m + n) s u := by
  induction first with
  | zero => simpa using rest
  | succ edge _ ih =>
      rw [Nat.add_right_comm]
      exact .succ edge (ih rest)

theorem Steps.one {s t : S} (edge : r s t) : Steps r 1 s t := .succ edge .zero

theorem Steps.of_reflTransGen {s t : S} (path : Relation.ReflTransGen r s t) : ∃ n, Steps r n s t := by
  induction path with
  | refl => exact ⟨0, .zero⟩
  | tail _ edge ih =>
      obtain ⟨n, steps⟩ := ih
      exact ⟨n + 1, steps.trans (.one edge)⟩

/-- Two different steps from one state can be joined by one further step each. -/
def Diamond (r : S → S → Prop) : Prop :=
  ∀ s t u, r s t → r s u → t = u ∨ ∃ v, r t v ∧ r u v

/-- One run that ends decides all of them: with the diamond property, every other
run is at most as long and can be completed to the same end. -/
theorem Diamond.uniform (diamond : Diamond r) {n : Nat} {s final : S} (ends : Steps r n s final)
    (stuck : ∀ t, ¬ r final t) {m : Nat} {t : S} (steps : Steps r m s t) :
    m ≤ n ∧ Steps r (n - m) t final := by
  induction n generalizing s m t with
  | zero =>
      cases ends
      cases steps with
      | zero => exact ⟨Nat.le_refl 0, .zero⟩
      | succ edge _ => exact absurd edge (stuck _)
  | succ n ih =>
      cases ends with
      | @succ _ _ main _ first rest =>
      cases steps with
      | zero => exact ⟨Nat.zero_le _, .succ first rest⟩
      | @succ m _ other _ edge tail =>
          -- The other first step also lies on a run of length n to the same end.
          have along : Steps r n other final := by
            rcases diamond _ _ _ first edge with same | ⟨joined, left, right⟩
            · exact same ▸ rest
            · obtain ⟨bound, onward⟩ := ih rest (.one left)
              have shorter : n = (n - 1) + 1 := by omega
              rw [shorter]
              exact .succ right onward
          obtain ⟨bound, onward⟩ := ih along tail
          exact ⟨by omega, by rwa [Nat.add_sub_add_right]⟩

end

end Lib.Systems
