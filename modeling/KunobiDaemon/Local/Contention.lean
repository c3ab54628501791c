import KunobiDaemon.Local.Effects

/-! Who makes a call stand down.

A call of `acquire` that finds the bind lock held returns `AlreadyRunning`, whoever holds it. The
lock is also held by the cleanup of a guard, whose owner is gone.
-/

set_option autoImplicit false

namespace KunobiDaemon.Local

open Lib.Systems

section
variable {C G N : Type} {s t : System C G N}

def Call.underway : Call → Bool
  | .entered | .holding => true
  | _ => false

/-- A live listener is bound at the path, or another call holds the lock. -/
def System.owned [DecidableEq C] (s : System C G N) (call : C) : Bool :=
  (match s.path with
    | .socket file => s.live file
    | _ => false) ||
  match s.lock with
  | some (.acquiring other _) => other ≠ call
  | _ => false

/-- The cleanup of a guard holds the lock. -/
def System.cleansUp (s : System C G N) : Bool := s.lock matches some (.cleaning _ _)

/-- A system with the calls during which somebody owned the path or was taking it. -/
structure Observed (C G N : Type) where
  system : System C G N
  seen : C → Bool

/-- Before any call. -/
def Observed.initial (unrelated : Bool) : Observed C G N := ⟨.initial unrelated, fun _ => false⟩

/-- Whenever a call has stood down, somebody owned the path or was taking it during the call. -/
def AlreadyOwned (o : Observed C G N) : Prop :=
  ∀ call, o.system.calls call = .returned .alreadyRunning → o.seen call = true

/-- A call that tries the lock while a guard cleans up has seen an owner. -/
def Uncontended (o : Observed C G N) : Label C G N → Prop
  | .lock call => o.system.cleansUp = true → o.seen call = true
  | _ => True

/-- An answer to the probe comes from a live listener at the path. -/
theorem owned_of_answers [DecidableEq C] (answers : s.answers = true) (call : C) : s.owned call = true := by
  unfold System.answers at answers
  split at answers
  · rename_i file there
    split at answers
    · rename_i socket created
      simp only [decide_eq_true_eq] at answers
      simp [System.owned, there, System.live, created, answers]
    · cases answers
  · cases answers

section
variable [DecidableEq C]

/-- What holds at any time if no call runs into the cleanup of a guard alone. -/
structure Accounted (o : Observed C G N) : Prop where
  held : Held o.system
  noted : ∀ call, (o.system.calls call).underway = true → o.system.owned call = true → o.seen call = true
  returning : ∀ call, o.system.lock = some (.acquiring call (.returning .alreadyRunning)) → o.seen call = true
  owned : AlreadyOwned o

theorem accounted_initial (unrelated : Bool) : Accounted (Observed.initial unrelated : Observed C G N) where
  held _ _ there := by cases there
  noted _ underway := by cases underway
  returning _ there := by cases there
  owned _ stood := by cases stood

end

variable [DecidableEq C] [DecidableEq G]

/-- A call that is about to stand down was so before, or has been answered. -/
theorem Effect.answered {label : Label C G N} (effect : Effect s label t) {call : C}
    (returning : t.lock = some (.acquiring call (.returning .alreadyRunning))) :
    s.lock = t.lock ∨ (s.answers = true ∧ ∃ place, s.lock = some (.acquiring call place)) := by
  cases effect with
  | moved there moves =>
      cases returning
      cases moves with
      | answered _ answers => exact .inr ⟨answers, _, there⟩
  | locked | bound | listened | unlinked | failed | released | crashed | freed | cleaning | matched | left | removed =>
      cases returning
  | _ => exact .inl rfl

/-- A call that stands down has seen an owner, if it does not stand down for a cleanup. -/
theorem Accounted.stands {o : Observed C G N} (accounted : Accounted o) {label : Label C G N}
    (met : Uncontended o label) {t : System C G N} (effect : Effect o.system label t) {call : C}
    (stood : t.calls call = .returned .alreadyRunning) : o.seen call = true := by
  rcases effect.calls call with same | passes
  · exact accounted.owned call (same ▸ stood)
  · rw [stood] at passes
    cases passes with
    | released returning => exact accounted.returning call returning
    | @contended holder entered named held =>
        -- Somebody held the lock: a cleanup, or another call that is taking the path.
        subst named
        cases holder with
        | cleaning => exact met (by simp [System.cleansUp, held])
        | acquiring other place =>
            have different : other ≠ call := by
              rintro rfl
              cases entered.symm.trans (accounted.held other place held)
            exact accounted.noted call (by rw [entered]; rfl) (by simp [System.owned, held, different])

variable [DecidableEq N]

def Observed.step (o : Observed C G N) (label : Label C G N) : Option (Observed C G N) :=
  (o.system.step label).map fun system =>
    ⟨system, fun call => o.seen call || ((system.calls call).underway && system.owned call)⟩

theorem observed_eq_some {o p : Observed C G N} {label : Label C G N} (stepped : o.step label = some p) :
    Effect o.system label p.system ∧
    p.seen = fun call => o.seen call || ((p.system.calls call).underway && p.system.owned call) := by
  obtain ⟨system, moved, rfl⟩ := Option.map_eq_some_iff.mp stepped
  exact ⟨step_effect moved, rfl⟩

theorem Accounted.step {o p : Observed C G N} (accounted : Accounted o) {label : Label C G N}
    (met : Uncontended o label) (stepped : o.step label = some p) : Accounted p := by
  obtain ⟨effect, seen⟩ := observed_eq_some stepped
  have later {call : C} (before : o.seen call = true) : p.seen call = true := by
    rw [seen]
    simp [before]
  constructor
  · exact accounted.held.effect effect
  · intro call underway owned
    rw [seen]
    simp [underway, owned]
  · intro call returning
    refine later ?_
    rcases effect.answered returning with same | ⟨answers, place, held⟩
    · exact accounted.returning call (same.trans returning)
    · exact accounted.noted call (by rw [accounted.held call place held]; rfl) (owned_of_answers answers call)
  · exact fun call stood => later (accounted.stands met effect stood)

/-- A call that tries the lock while a guard cleans up stands down at once. -/
theorem not_owned_of_contended {o p : Observed C G N} {label : Label C G N} (missed : ¬ Uncontended o label)
    (stepped : o.step label = some p) : ¬ AlreadyOwned p := by
  intro owned
  cases label with
  | lock call =>
      simp only [Uncontended, Classical.not_imp, Bool.not_eq_true] at missed
      obtain ⟨cleans, unseen⟩ := missed
      obtain ⟨effect, seen⟩ := observed_eq_some stepped
      have stood : p.system.calls call = .returned .alreadyRunning := by
        generalize p.system = t at effect
        cases effect with
        | contended => exact Function.update_self _ _ _
        | locked _ free => simp [System.cleansUp, free] at cleans
        | moved _ moves => cases moves
        | dropped other | left other | freed other => cases other
      have claimed := owned call stood
      rw [seen] at claimed
      simp [unseen, stood, Call.underway] at claimed
  | _ => exact missed trivial

/-- A call that stands down does so for an owner, or for another call that is taking the path,
exactly if no call tries the lock while only the cleanup of a guard has kept it from the path. -/
theorem already_running_owned_iff (unrelated : Bool) (labels : List (Label C G N)) :
    Throughout Observed.step AlreadyOwned labels (Observed.initial unrelated) ↔
      Meets Observed.step Uncontended labels (Observed.initial unrelated) :=
  throughout_iff_meets (fun _ accounted => accounted.owned)
    (fun _ _ _ accounted met stepped => accounted.step met stepped)
    (fun _ _ _ _ missed stepped => not_owned_of_contended missed stepped) labels (accounted_initial unrelated)

end

/-- An exiting owner's cleanup alone makes its successor stand down. -/
theorem cleanup_stands_successor_down :
    ∃ o : Observed Bool Unit Nat, Path Observed.step Any (Observed.initial false) o ∧
      o.system.calls true = .returned .alreadyRunning ∧ o.seen true = false ∧ o.system.live false = false := by
  have path : Path Observed.step Any (Observed.initial false : Observed Bool Unit Nat) _ :=
    path_of_replay
      [.enter false, .lock false, .bind false 1, .listen false, .setPermissions false, .release false,
        .capture () false, .close false, .drop (), .enter true, .lock true]
      rfl
  exact ⟨_, path, rfl, rfl, rfl⟩

end KunobiDaemon.Local
