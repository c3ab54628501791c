import Mathlib.Logic.Function.Basic

/-! Objects whose operations take effect at one instant.

A timeline has the calls and the returns of any number of callers and, between a call
and its return, the instant at which the operation took effect on the object's one
value. Calls and returns are linearizable if they are what can be seen of a timeline.
-/

set_option autoImplicit false

namespace Lib.Atomic

/-- A sequential object: what an operation does to the value and answers, and when an operation
that took effect may report an error instead. -/
structure Object (V P A : Type) where
  apply : P → V → V × A
  doubtful : P → A → Prop

inductive Event (P A E : Type) where
  | call (operation : P)
  | effect (answer : A)
  | return (result : Except E A)

/-- Where a caller stands. What took effect is kept beside what was returned. -/
inductive Status (P A E : Type) where
  | idle
  | called (operation : P)
  | applied (operation : P) (answer : A)
  | returned (operation : P) (effect : Option A) (result : Except E A)

section
variable {C V P A E : Type}

def Event.visible : Event P A E → Bool
  | .call _ | .return _ => true
  | .effect _ => false

/-- What the callers see. -/
def visible (timeline : List (C × Event P A E)) : List (C × Event P A E) :=
  timeline.filter fun entry => entry.2.visible

@[simp] theorem visible_append (first second : List (C × Event P A E)) :
    visible (first ++ second) = visible first ++ visible second :=
  List.filter_append ..

variable [DecidableEq C]

/-- Timelines, with the value they lead to and where each caller then stands. -/
inductive Timeline (object : Object V P A) (initial : V) :
    List (C × Event P A E) → V → (C → Status P A E) → Prop where
  | start : Timeline object initial [] initial fun _ => .idle
  | call {timeline : List (C × Event P A E)} {value : V} {status : C → Status P A E} {caller : C} {operation : P} :
      Timeline object initial timeline value status → status caller = .idle →
      Timeline object initial (timeline ++ [(caller, .call operation)]) value
        (Function.update status caller (.called operation))
  | effect {timeline : List (C × Event P A E)} {value : V} {status : C → Status P A E} {caller : C} {operation : P} :
      Timeline object initial timeline value status → status caller = .called operation →
      Timeline object initial (timeline ++ [(caller, .effect (object.apply operation value).2)])
        (object.apply operation value).1
        (Function.update status caller (.applied operation (object.apply operation value).2))
  | answer {timeline : List (C × Event P A E)} {value : V} {status : C → Status P A E} {caller : C} {operation : P}
      {answer : A} : Timeline object initial timeline value status → status caller = .applied operation answer →
      Timeline object initial (timeline ++ [(caller, .return (.ok answer))]) value
        (Function.update status caller (.returned operation (some answer) (.ok answer)))
  | doubt {timeline : List (C × Event P A E)} {value : V} {status : C → Status P A E} {caller : C} {operation : P}
      {answer : A} {error : E} : Timeline object initial timeline value status →
      status caller = .applied operation answer → object.doubtful operation answer →
      Timeline object initial (timeline ++ [(caller, .return (.error error))]) value
        (Function.update status caller (.returned operation (some answer) (.error error)))
  | fail {timeline : List (C × Event P A E)} {value : V} {status : C → Status P A E} {caller : C} {operation : P}
      {error : E} : Timeline object initial timeline value status → status caller = .called operation →
      Timeline object initial (timeline ++ [(caller, .return (.error error))]) value
        (Function.update status caller (.returned operation none (.error error)))

/-- An effect at an instant, given what it does. -/
theorem Timeline.takes {object : Object V P A} {initial value value' : V} {timeline : List (C × Event P A E)}
    {status : C → Status P A E} {caller : C} {operation : P} {answer : A}
    (timed : Timeline object initial timeline value status) (called : status caller = .called operation)
    (applies : object.apply operation value = (value', answer)) :
    Timeline object initial (timeline ++ [(caller, .effect answer)]) value'
      (Function.update status caller (.applied operation answer)) := by
  have taken := timed.effect called
  rwa [applies] at taken

end

end Lib.Atomic
