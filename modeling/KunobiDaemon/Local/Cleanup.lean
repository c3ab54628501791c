import KunobiDaemon.Local.Election

/-! When an exiting owner spares its successor's socket.

A guard knows its file by the device and inode numbers. A file system may give them again once the
file is unlinked and its listener is closed, and a successor's socket is made at just that time.
-/

set_option autoImplicit false

namespace KunobiDaemon.Local

open Lib.Systems

section
variable {C G N : Type} {s t : System C G N}

/-- The call whose guard has begun its drop. -/
def GuardState.exiting : GuardState C N → Option C
  | .dropped guard _ => some guard.call
  | _ => none

/-- Guards are captured right after winning, and numbers are given again only when the file that had
them is unlinked and no longer open. -/
def Allowed (s : System C G N) : Label C G N → Prop
  | .bind _ number => ∀ file, s.number file = some number → s.live file = false ∧ s.path ≠ .socket file
  | .capture _ call =>
      s.calls call = .returned .won ∧ s.live call = true ∧ ∀ guard, (s.guards guard).exiting ≠ some call
  | _ => True

instance [Fintype C] [Fintype G] [DecidableEq C] [DecidableEq N] (s : System C G N) :
    ∀ label, Decidable (Allowed s label)
  | .bind _ number =>
      inferInstanceAs (Decidable (∀ file, s.number file = some number → s.live file = false ∧ s.path ≠ .socket file))
  | .capture _ call =>
      inferInstanceAs (Decidable (s.calls call = .returned .won ∧ s.live call = true ∧
        ∀ guard, (s.guards guard).exiting ≠ some call))
  | .enter _ | .refuse _ _ | .lock _ | .listen _ | .setPermissions _ | .inspect _ | .probe _ _ | .unlink _ | .fail _ _
  | .release _ | .crash _ | .close _ | .drop _ | .check _ | .remove _ | .failGuard _ | .leave _
  | .crashGuard _ => instDecidableTrue

/-- The path names a socket of another call that has the numbers of a guard in its drop. -/
def System.recycled [DecidableEq C] [DecidableEq N] (s : System C G N) (guard : G) : Bool :=
  match s.guards guard, s.path with
  | .dropped captured _, .socket file => s.number file = some captured.number && file ≠ captured.call
  | _, _ => false

/-- A guard that checks the path does not find its numbers on the socket of another call. -/
def Unrecycled [DecidableEq C] [DecidableEq N] (s : System C G N) : Label C G N → Prop
  | .check guard => s.recycled guard = false
  | _ => True

instance [DecidableEq C] [DecidableEq N] (s : System C G N) : ∀ label, Decidable (Unrecycled s label)
  | .check guard => inferInstanceAs (Decidable (s.recycled guard = false))
  | .enter _ | .refuse _ _ | .lock _ | .bind _ _ | .listen _ | .setPermissions _ | .inspect _ | .probe _ _ | .unlink _
  | .fail _ _ | .release _ | .crash _ | .close _ | .capture _ _ | .drop _ | .remove _ | .failGuard _ | .leave _
  | .crashGuard _ => instDecidableTrue

/-- No guard has removed anything but the socket of the call that preceded its capture. -/
def Spared (s : System C G N) : Prop :=
  ∀ guard captured entry, s.guards guard = .dropped captured (some entry) → entry = .socket captured.call

/-- What holds at any time if guards are captured right after winning. -/
structure Kept (s : System C G N) : Prop where
  sound : Sound s
  files : ∀ guard captured, Guards s guard captured → s.number captured.file = some captured.number
  own : ∀ guard captured, Guards s guard captured → captured.file = captured.call
  distinct : ∀ file other number, s.number file = some number → s.number other = some number →
    InUse s file → InUse s other → file = other
  spared : Spared s

theorem kept_initial (unrelated : Bool) : Kept (System.initial unrelated : System C G N) where
  sound := sound_initial unrelated
  files guard captured holds := absurd holds (not_guards_initial unrelated guard captured)
  own guard captured holds := absurd holds (not_guards_initial unrelated guard captured)
  distinct _ _ _ given := by cases given
  spared guard captured entry dropped := by cases dropped

theorem Kept.not_dropped (kept : Kept s) {call : C} (none_ : ∀ guard, (s.guards guard).exiting ≠ some call) :
    ¬ Dropped s call := by
  rintro ⟨guard, captured, removed, dropped, rfl⟩
  refine none_ guard ?_
  rw [dropped, kept.own guard captured (.inr ⟨removed, dropped⟩)]
  rfl

section
variable [DecidableEq C] [DecidableEq N]

theorem Kept.recognised (kept : Kept s) {label : Label C G N} (unrecycled : Unrecycled s label) : Recognised s label := by
  cases label with
  | check guard =>
      intro captured removed file socket dropped there created same
      have own := kept.own guard captured (.inr ⟨removed, dropped⟩)
      simpa [Unrecycled, System.recycled, dropped, there, System.number, created, same, own] using unrecycled
  | _ => trivial

/-- While its own listener is open, a guard finds its numbers on no other socket. -/
theorem Kept.unrecycled_of_live (kept : Kept s) {guard : G} {captured : SocketGuard C N} {removed : Option (Entry C)}
    (dropped : s.guards guard = .dropped captured removed) (live : s.live captured.call = true) :
    Unrecycled s (.check guard) := by
  have own := kept.own guard captured (.inr ⟨removed, dropped⟩)
  have given : s.number captured.call = some captured.number :=
    own ▸ kept.files guard captured (.inr ⟨removed, dropped⟩)
  cases path : s.path with
  | absent | other => simp [Unrecycled, System.recycled, dropped, path]
  | socket file =>
      simp only [Unrecycled, System.recycled, dropped, path, Bool.and_eq_false_imp, decide_eq_true_eq,
        decide_eq_false_iff_not, not_not, ne_eq]
      intro same
      exact kept.distinct file captured.call captured.number same given (.inr path) (.inl live)

end

variable [DecidableEq C] [DecidableEq G]

theorem Kept.distinct_effect {label : Label C G N} (kept : Kept s) (allowed : Allowed s label) (effect : Effect s label t)
    {file other : C} {number : N} (one : t.number file = some number) (two : t.number other = some number)
    (uses : InUse t file) (uses' : InUse t other) : file = other := by
  rcases effect.number kept.sound with ⟨same, before⟩ | ⟨call, given, rfl, -, updated, before⟩
  · rw [same] at one two
    exact kept.distinct file other number one two (before file uses) (before other uses')
  · rw [updated] at one two
    apply eq_of_update one two
    · -- The numbers that a bind is given are not those of any file in use.
      intro used which different numbered
      obtain ⟨closed, unlinked⟩ := allowed used numbered
      have still : InUse t used := by
        rcases which with rfl | rfl
        · exact uses
        · exact uses'
      rcases before used different still with live | there
      · cases live.symm.trans closed
      · exact unlinked there
    · intro first second earlier later
      exact kept.distinct file other number earlier later (before file first uses) (before other second uses')

theorem Kept.spared_effect {label : Label C G N} (kept : Kept s) (effect : Effect s label t) : Spared t := by
  intro guard captured entry dropped
  rcases effect.guards guard with same | passes
  · exact kept.spared guard captured entry (same ▸ dropped)
  · rw [dropped] at passes
    cases passes with
    | removed held before =>
        -- What was found at the check is still there, since the guard has held the lock.
        obtain ⟨_, _, same, removing⟩ := kept.sound.cleaner _ _ held
        cases before.symm.trans same
        rw [removing rfl, kept.own _ _ (.inr ⟨_, before⟩)]

variable [DecidableEq N]

theorem Kept.effect {label : Label C G N} (kept : Kept s) (allowed : Allowed s label) (unrecycled : Unrecycled s label)
    (effect : Effect s label t) : Kept t where
  sound := kept.sound.effect (kept.recognised unrecycled) effect
  files guard captured holds := effect.files kept.sound kept.files holds
  own guard captured holds := by
    rcases effect.captured_on holds with earlier | ⟨call, file, socket, rfl, there, -, rfl⟩
    · exact kept.own guard captured earlier
    · -- The winner's socket is still the one at the path.
      obtain ⟨won, live, none_⟩ := allowed
      have named := (kept.sound.reachable won live (kept.not_dropped none_)).1
      cases there.symm.trans named
      rfl
  distinct file other number one two uses uses' := kept.distinct_effect allowed effect one two uses uses'
  spared := kept.spared_effect effect

theorem kept_of_path {unrelated : Bool}
    (path : Path System.step (fun s label => Allowed s label ∧ Unrecycled s label)
      (System.initial unrelated : System C G N) s) : Kept s :=
  path.invariant (fun _ _ _ kept met stepped => kept.effect met.1 met.2 (step_effect stepped)) (kept_initial unrelated)

/-- A guard that finds its numbers on the socket of another call removes that socket. -/
theorem not_spared_of_recycled {guard : G} (checking : s.lock = some (.cleaning guard .checking))
    (recycled : ¬ Unrecycled s (.check guard)) : ∃ t, Path System.step Allowed s t ∧ ¬ Spared t := by
  simp only [Unrecycled, System.recycled, Bool.not_eq_false] at recycled
  split at recycled
  · rename_i captured removed file dropped there
    simp only [Bool.and_eq_true, decide_eq_true_eq] at recycled
    obtain ⟨numbered, other⟩ := recycled
    obtain ⟨socket, created, same⟩ := Option.map_eq_some_iff.mp numbered
    -- The check goes by the numbers alone, and the removal by the path alone.
    have checks : s.step (.check guard) = some { s with lock := some (.cleaning guard .removing) } := by
      simp [System.step, System.cleaning, checking, dropped, System.found, there, created, same]
    have removes : System.step { s with lock := some (.cleaning guard .removing) } (.remove guard) =
        some ({ s with path := .absent, lock := some (.cleaning guard .leaving) }.setGuard guard
          (.dropped captured (some (.socket file)))) := by
      simp [System.step, System.cleaning, dropped, there]
    refine ⟨_, .head ⟨.check guard, trivial, checks⟩ (.single ⟨.remove guard, trivial, removes⟩), fun spared => other ?_⟩
    have spares := spared guard captured (.socket file) (Function.update_self _ _ _)
    cases spares
    rfl
  · cases recycled

/-- An exiting owner spares its successor's socket in every run in which no guard finds its numbers
on the socket of another call. A guard that does removes that socket, and while its own listener is
open it does not. -/
theorem cleanup_spares_successor (unrelated : Bool)
    (path : Path System.step (fun s label => Allowed s label ∧ Unrecycled s label)
      (System.initial unrelated : System C G N) s) :
    Spared s ∧
    (∀ guard, s.lock = some (.cleaning guard .checking) → ¬ Unrecycled s (.check guard) →
      ∃ t, Path System.step Allowed s t ∧ ¬ Spared t) ∧
    ∀ guard captured removed, s.guards guard = .dropped captured removed → s.live captured.call = true →
      Unrecycled s (.check guard) := by
  have kept := kept_of_path path
  refine ⟨kept.spared, fun guard checking recycled => not_spared_of_recycled checking recycled, ?_⟩
  intro guard captured removed dropped live
  exact kept.unrecycled_of_live dropped live

end

/-- A guard that is dropped before its listener spares the socket of the call that comes next. -/
theorem cleanup_spares_successor_open :
    ∃ s : System Bool Unit Nat,
      Path System.step (fun s label => Allowed s label ∧ Unrecycled s label) (System.initial false) s ∧
      s.guards () = .dropped ⟨false, false, 1⟩ (some (.socket false)) ∧ s.path = .socket true ∧ Spared s := by
  have path : Path System.step (fun s label => Allowed s label ∧ Unrecycled s label)
      (System.initial false : System Bool Unit Nat) _ :=
    path_of_replayWithin
      [.enter false, .lock false, .bind false 1, .listen false, .setPermissions false, .release false,
        .capture () false, .drop (), .check (), .remove (), .leave (), .close false,
        .enter true, .lock true, .bind true 1, .listen true, .setPermissions true, .release true]
      rfl
  exact ⟨_, path, rfl, rfl, (cleanup_spares_successor false path).1⟩

/-- A successor's socket with the numbers of the owner before it is removed by that owner's guard. -/
theorem cleanup_removes_successor :
    ∃ s : System Bool Unit Nat, Path System.step Allowed (System.initial false) s ∧
      s.calls true = .returned .won ∧ s.live true = true ∧ s.path = .absent ∧ ¬ Spared s := by
  have path : Path System.step Allowed (System.initial false : System Bool Unit Nat) _ :=
    path_of_replayWithin
      [.enter false, .lock false, .bind false 1, .listen false, .setPermissions false, .release false,
        .capture () false, .close false,
        .enter true, .lock true, .bind true 2, .inspect true, .probe true .refused, .unlink true,
        .bind true 1, .listen true, .setPermissions true, .release true,
        .drop (), .check (), .remove ()]
      rfl
  refine ⟨_, path, rfl, rfl, rfl, fun spared => ?_⟩
  cases spared () ⟨false, false, 1⟩ (.socket true) rfl

end KunobiDaemon.Local
