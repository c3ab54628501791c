import KunobiDaemon.Local.Ownership
import Mathlib.Data.Fintype.Basic

/-! Socket election never displaces a live owner, as long as no file gets the numbers of another. -/

set_option autoImplicit false

namespace KunobiDaemon.Local

open Lib.Systems

section
variable {C G N : Type} {s t : System C G N}

/-- The numbers of the file that a call has created. -/
def System.number (s : System C G N) (call : C) : Option N := (s.sockets call).map Socket.number

/-- A file that is open or named by the path. -/
def InUse (s : System C G N) (file : C) : Prop := s.live file = true ∨ s.path = .socket file

/-- A file system that never gives numbers again. -/
def Unused (s : System C G N) : Label C G N → Prop
  | .bind _ number => ∀ file, s.number file ≠ some number
  | _ => True

instance [Fintype C] [DecidableEq N] (s : System C G N) : ∀ label, Decidable (Unused s label)
  | .bind _ number => inferInstanceAs (Decidable (∀ file, s.number file ≠ some number))
  | .enter _ | .refuse _ _ | .lock _ | .listen _ | .setPermissions _ | .inspect _ | .probe _ _ | .unlink _ | .fail _ _
  | .release _ | .crash _ | .close _ | .capture _ _ | .drop _ | .check _ | .remove _ | .failGuard _ | .leave _
  | .crashGuard _ => instDecidableTrue

/-- A guard with what it was captured on. -/
def Guards (s : System C G N) (guard : G) (captured : SocketGuard C N) : Prop :=
  s.guards guard = .captured captured ∨ ∃ removed, s.guards guard = .dropped captured removed

/-- Numbers identify files, and a guard has those of its file. -/
structure Numbered (s : System C G N) : Prop where
  unique : ∀ file other number, s.number file = some number → s.number other = some number → file = other
  files : ∀ guard captured, Guards s guard captured → s.number captured.file = some captured.number

theorem Numbered.recognised (numbered : Numbered s) (label : Label C G N) : Recognised s label := by
  cases label with
  | check guard =>
      intro captured removed file socket dropped there created same
      have own := numbered.files guard captured (.inr ⟨removed, dropped⟩)
      refine numbered.unique file captured.file captured.number ?_ own
      rw [System.number, created, ← same]
      rfl
  | _ => trivial

theorem not_guards_initial (unrelated : Bool) (guard : G) (captured : SocketGuard C N) :
    ¬ Guards (System.initial unrelated) guard captured := by
  rintro (idle | ⟨_, idle⟩) <;> cases idle

theorem numbered_initial (unrelated : Bool) : Numbered (System.initial unrelated : System C G N) where
  unique _ _ _ given := by cases given
  files guard captured holds := absurd holds (not_guards_initial unrelated guard captured)

section
variable [DecidableEq C]

theorem number_setDescriptor {call : C} {descriptor : Descriptor} : (s.setDescriptor call descriptor).number = s.number := by
  funext file
  by_cases same : file = call
  · subst same
    simp [System.number, System.setDescriptor, Function.comp_def]
  · simp [System.number, System.setDescriptor, same]

theorem live_setDescriptor {call file : C} {descriptor : Descriptor}
    (opened : descriptor = .closed ∨ s.live call = true) (live : (s.setDescriptor call descriptor).live file = true) :
    s.live file = true := by
  by_cases same : file = call
  · subst same
    rcases opened with rfl | opened
    · rw [live_setDescriptor_closed] at live
      cases live
    · exact opened
  · simpa [System.live, System.setDescriptor, same] using live

variable [DecidableEq G]

/-- Only a bind gives numbers and puts a file to use, that of a call that has none. -/
theorem Effect.number {label : Label C G N} (sound : Sound s) (effect : Effect s label t) :
    (t.number = s.number ∧ ∀ file, InUse t file → InUse s file) ∨
    ∃ call number, label = .bind call number ∧ s.number call = none ∧
      t.number = Function.update s.number call (some number) ∧ ∀ file, file ≠ call → InUse t file → InUse s file := by
  cases effect with
  | @bound call again number held =>
      have fresh : s.sockets call = none := (sound.at_ held).1
      refine .inr ⟨call, number, rfl, by simp [System.number, fresh], ?_, ?_⟩
      · funext file
        by_cases same : file = call
        · subst same
          simp [System.number]
        · simp [System.number, same]
      · rintro file different (live | there)
        · refine .inl ?_
          simpa [System.live, different] using live
        · cases there
          exact absurd rfl different
  | @listened call again held =>
      obtain ⟨-, number, bound⟩ := sound.at_ held
      have live : s.live call = true := by simp [System.live, bound]
      exact .inl ⟨number_setDescriptor, fun file => Or.imp_left (live_setDescriptor (.inr live))⟩
  | failed | closed => exact .inl ⟨number_setDescriptor, fun file => Or.imp_left (live_setDescriptor (.inl rfl))⟩
  | crashed =>
      refine .inl ⟨number_setDescriptor (s := { s with lock := none }), fun file => Or.imp_left ?_⟩
      exact live_setDescriptor (s := { s with lock := none }) (.inl rfl)
  | unlinked | removed =>
      refine .inl ⟨rfl, fun file => Or.imp_right fun there => ?_⟩
      cases there
  | _ => exact .inl ⟨rfl, fun _ => id⟩

/-- A guard keeps what it was captured on. -/
theorem Effect.captured_on {label : Label C G N} (effect : Effect s label t) {guard : G} {captured : SocketGuard C N}
    (holds : Guards t guard captured) :
    Guards s guard captured ∨
    ∃ call file socket, label = .capture guard call ∧ s.path = .socket file ∧ s.sockets file = some socket ∧
      captured = ⟨call, file, socket.number⟩ := by
  rcases effect.guards guard with same | passes
  · rw [Guards, same] at holds
    exact .inl holds
  · unfold Guards at holds
    generalize t.guards guard = after at passes holds
    cases passes with
    | captured named there created =>
        rcases holds with taken | ⟨_, taken⟩ <;> cases taken
        exact .inr ⟨_, _, _, named, there, created, rfl⟩
    | dropped before =>
        rcases holds with taken | ⟨_, taken⟩ <;> cases taken
        exact .inl (.inl before)
    | removed _ before =>
        rcases holds with taken | ⟨_, taken⟩ <;> cases taken
        exact .inl (.inr ⟨_, before⟩)

/-- A guard has the numbers of its file, whatever a file system gives again. -/
theorem Effect.files {label : Label C G N} (sound : Sound s) (effect : Effect s label t)
    (files : ∀ guard captured, Guards s guard captured → s.number captured.file = some captured.number)
    {guard : G} {captured : SocketGuard C N} (holds : Guards t guard captured) :
    t.number captured.file = some captured.number := by
  have before : s.number captured.file = some captured.number := by
    rcases effect.captured_on holds with earlier | ⟨call, file, socket, -, there, created, rfl⟩
    · exact files guard captured earlier
    · simp [System.number, created]
  rcases effect.number sound with ⟨same, -⟩ | ⟨call, number, -, fresh, updated, -⟩
  · rw [same]
    exact before
  · have different : captured.file ≠ call := by
      rintro rfl
      cases fresh.symm.trans before
    rw [updated, Function.update_of_ne different]
    exact before

omit [DecidableEq G] in
/-- Two files have the same numbers after a bind only if they had them before, when the numbers given
to the new file are none of theirs. -/
theorem eq_of_update {numbers : C → Option N} {call file other : C} {given number : N}
    (one : Function.update numbers call (some given) file = some number)
    (two : Function.update numbers call (some given) other = some number)
    (fresh : ∀ used, used = file ∨ used = other → used ≠ call → numbers used ≠ some given)
    (before : file ≠ call → other ≠ call → numbers file = some number → numbers other = some number → file = other) :
    file = other := by
  simp only [Function.update_apply] at one two
  split at one <;> split at two
  · exact ‹file = call›.trans ‹other = call›.symm
  · cases one
    exact absurd two (fresh other (.inr rfl) ‹_›)
  · cases two
    exact absurd one (fresh file (.inl rfl) ‹_›)
  · exact before ‹_› ‹_› one two

theorem Numbered.effect {label : Label C G N} (sound : Sound s) (numbered : Numbered s) (unused : Unused s label)
    (effect : Effect s label t) : Numbered t where
  unique file other number one two := by
    rcases effect.number sound with ⟨same, -⟩ | ⟨call, given, rfl, -, updated, -⟩
    · rw [same] at one two
      exact numbered.unique file other number one two
    · rw [updated] at one two
      exact eq_of_update one two (fun used _ _ => unused used) fun _ _ => numbered.unique file other number
  files guard captured holds := effect.files sound numbered.files holds

end

/-! What a call that holds the lock does next. -/

section
variable {call : C} {place : Place}

/-- The most steps that a call has left before it returns. -/
def Place.rank : Place → Nat
  | .binding false => 8
  | .inspecting => 7
  | .probing => 6
  | .unlinking => 5
  | .binding true => 4
  | .bound _ => 3
  | .listening _ => 2
  | .returning _ => 1

/-- The step that a call takes if it meets no error and no live listener. -/
def Place.next (call : C) (number : N) : Place → Label C G N
  | .binding _ => .bind call number
  | .bound _ => .listen call
  | .listening _ => .setPermissions call
  | .inspecting => .inspect call
  | .probing => .probe call .refused
  | .unlinking => .unlink call
  | .returning _ => .release call

/-- A step in which this call neither fails nor crashes nor finds a live listener or an unrelated file. -/
def Clean (call : C) (s : System C G N) : Label C G N → Prop
  | .fail other _ | .crash other => other ≠ call
  | .probe other answer => other = call → answer = .refused
  | .inspect other => other = call → s.path ≠ .other
  | _ => True

/-- A call that has not lost. -/
def Winning : Place → Prop
  | .returning outcome => outcome = .won
  | _ => True

variable [DecidableEq C]

theorem acquiring_held (held : s.lock = some (.acquiring call place)) (turn : Place → Option (System C G N)) :
    s.acquiring call turn = turn place := by
  simp [System.acquiring, held]

variable [DecidableEq G]

/-- A call that holds the lock can take its next step, unless it is to connect to a live listener. -/
theorem Sound.next_enabled [DecidableEq N] (sound : Sound s) (held : s.lock = some (.acquiring call place))
    (silent : place = .probing → s.answers = false) (number : N) : ∃ t, s.step (place.next call number) = some t := by
  have holds := sound.at_ held
  cases place with
  | binding again =>
      simp only [Place.next, System.step, acquiring_held held]
      cases path : s.path with
      | absent => exact ⟨_, rfl⟩
      | other | socket =>
          cases again with
          | false => exact ⟨_, rfl⟩
          -- The holder has removed what was there, and nobody else can bind.
          | true => cases path.symm.trans (holds.2 rfl)
  | bound | listening | returning =>
      simp only [Place.next, System.step, acquiring_held held]
      exact ⟨_, rfl⟩
  | inspecting =>
      simp only [Place.next, System.step, acquiring_held held]
      cases path : s.path with
      | absent => exact absurd path holds.2
      | other | socket => exact ⟨_, rfl⟩
  | probing =>
      obtain ⟨-, file, there⟩ := holds
      have found : s.found.isSome = true := by
        simp only [System.found, there]
        exact sound.created file there
      simp only [Place.next, System.step, acquiring_held held, found, silent rfl]
      exact ⟨_, rfl⟩
  | unlinking =>
      obtain ⟨-, file, number, there, -⟩ := holds
      simp only [Place.next, System.step, acquiring_held held, there]
      exact ⟨_, rfl⟩

/-- A clean step of the holder brings it nearer to its return, and no other step concerns it. -/
theorem Winning.effect (sound : Sound s) (held : s.lock = some (.acquiring call place)) (winning : Winning place)
    {label : Label C G N} (clean : Clean call s label) (effect : Effect s label t) :
    t.calls call = .returned .won ∨
    ∃ next, t.lock = some (.acquiring call next) ∧ Winning next ∧
      (label.call = some call → next.rank < place.rank) ∧ (label.call ≠ some call → next = place) := by
  have holding := sound.holder call place held
  cases effect with
  | entered outside | refused outside | contended outside | gaveUp outside =>
      -- Another call; this one has taken the lock.
      refine .inr ⟨place, held, winning, fun own => ?_, fun _ => rfl⟩
      cases own
      cases holding.symm.trans outside
  | locked _ free => cases held.symm.trans free
  | cleaning _ free => cases held.symm.trans free
  | matched there | removed there => cases held.symm.trans there
  | left _ there | freed _ there => cases held.symm.trans there
  | closed | captured => exact .inr ⟨place, held, winning, nofun, fun _ => rfl⟩
  | dropped other => exact .inr ⟨place, held, winning, fun own => absurd (other.symm.trans own) nofun, fun _ => rfl⟩
  | moved same moves =>
      cases held.symm.trans same
      refine .inr ⟨_, rfl, ?_⟩
      cases moves with
      | inUse => exact ⟨trivial, fun _ => by decide, fun other => absurd rfl other⟩
      | socket => exact ⟨trivial, fun _ => by decide, fun other => absurd rfl other⟩
      | unrelated there => exact absurd there (clean rfl)
      | answered answered => exact absurd (clean rfl) answered
      | refused => exact ⟨trivial, fun _ => by decide, fun other => absurd rfl other⟩
      | permitted => exact ⟨rfl, fun _ => Nat.lt_succ_self _, fun other => absurd rfl other⟩
  | @bound _ again _ same =>
      cases held.symm.trans same
      refine .inr ⟨_, rfl, trivial, fun _ => ?_, fun other => absurd rfl other⟩
      cases again <;> decide
  | listened same =>
      cases held.symm.trans same
      exact .inr ⟨_, rfl, trivial, fun _ => Nat.lt_succ_self _, fun other => absurd rfl other⟩
  | unlinked same =>
      cases held.symm.trans same
      exact .inr ⟨_, rfl, trivial, fun _ => by decide, fun other => absurd rfl other⟩
  | failed same =>
      cases held.symm.trans same
      exact absurd rfl clean
  | crashed same =>
      cases held.symm.trans same
      exact absurd rfl clean
  | released same =>
      cases held.symm.trans same
      cases winning
      exact .inl (Function.update_self _ _ _)

/-- A call that has returned stays so. -/
theorem Effect.returned {label : Label C G N} (sound : Sound s) (effect : Effect s label t) {outcome : Outcome}
    (returned : s.calls call = .returned outcome) : t.calls call = .returned outcome := by
  rcases effect.calls call with same | passes
  · exact same.trans returned
  · generalize t.calls call = after at passes
    cases passes with
    | entered elsewhere | refused elsewhere | contended elsewhere | locked elsewhere | gaveUp elsewhere =>
        cases returned.symm.trans elsewhere
    | released held | crashed held => cases returned.symm.trans (sound.holder _ _ held)

end

/-! The election. -/

/-- How a call goes on that holds the lock. -/
structure Proceeds [DecidableEq C] [DecidableEq G] [DecidableEq N] (s : System C G N) (call : C) (place : Place) :
    Prop where
  winning : Winning place
  enabled : (place = .probing → s.answers = false) → ∀ number, ∃ t, s.step (place.next call number) = some t
  nearer : ∀ label t, Clean call s label → s.step label = some t →
    t.calls call = .returned .won ∨
    ∃ next, t.lock = some (.acquiring call next) ∧
      (label.call = some call → next.rank < place.rank) ∧ (label.call ≠ some call → next = place)

/-- No live owner is displaced, and no other winner is there. -/
structure Undisplaced [DecidableEq C] [DecidableEq G] [DecidableEq N] (s : System C G N) : Prop where
  unlinks : ∀ label t call, label.call = some call → s.step label = some t → s.path ≠ .absent → t.path ≠ s.path →
    ∃ file number, s.path = .socket file ∧ s.sockets file = some ⟨number, .closed⟩
  wins : ∀ label t call, s.step label = some t → t.calls call = .returned .won →
    s.calls call = .returned .won ∨ (t.path = .socket call ∧ ∃ number, t.sockets call = some ⟨number, .listening⟩)
  reachable : ∀ call, s.calls call = .returned .won → s.live call = true → ¬ Dropped s call →
    s.path = .socket call ∧ s.answers = true
  single : ∀ call other, s.calls call = .returned .won → s.live call = true → ¬ Dropped s call →
    s.calls other = .returned .won → s.live other = true → ¬ Dropped s other → call = other

theorem Sound.reachable (sound : Sound s) {call : C} (won : s.calls call = .returned .won) (live : s.live call = true)
    (kept : ¬ Dropped s call) : s.path = .socket call ∧ s.answers = true := by
  obtain ⟨⟨number, descriptor⟩, created, unbound, named⟩ := sound.fits_of won
  have listening : descriptor = .listening := by
    cases descriptor with
    | bound => exact absurd rfl unbound
    | listening => rfl
    | closed => simp [System.live, created] at live
  subst listening
  have there : s.path = .socket call := (named rfl).resolve_right kept
  exact ⟨there, by simp [System.answers, there, created]⟩

section
variable [DecidableEq C] [DecidableEq G]

/-- What each kind of step does to the path. -/
theorem Effect.path {label : Label C G N} (effect : Effect s label t) :
    t.path = s.path ∨ s.path = .absent ∨ (∃ call, s.lock = some (.acquiring call .unlinking)) ∨ label.call = none := by
  cases effect with
  | bound _ absent => exact .inr (.inl absent)
  | unlinked held => exact .inr (.inr (.inl ⟨_, held⟩))
  | removed => exact .inr (.inr (.inr rfl))
  | _ => exact .inl rfl

theorem Effect.wins {label : Label C G N} (sound : Sound s) (effect : Effect s label t) {call : C}
    (won : t.calls call = .returned .won) :
    s.calls call = .returned .won ∨ (t.path = .socket call ∧ ∃ number, t.sockets call = some ⟨number, .listening⟩) := by
  have updated {other : C} {status : Call} (same : t.calls = Function.update s.calls other status)
      (own : call = other → status = .returned .won →
        t.path = .socket call ∧ ∃ number, t.sockets call = some ⟨number, .listening⟩) :
      s.calls call = .returned .won ∨
      (t.path = .socket call ∧ ∃ number, t.sockets call = some ⟨number, .listening⟩) := by
    by_cases acting : call = other
    · subst acting
      rw [same, Function.update_self] at won
      exact .inr (own rfl won)
    · rw [same, Function.update_of_ne acting] at won
      exact .inl won
  cases effect with
  | entered | refused | contended | gaveUp | locked | crashed => exact updated rfl nofun
  | released held =>
      refine updated rfl ?_
      rintro rfl ⟨⟩
      exact sound.at_ held
  | _ => exact .inl won

variable [DecidableEq N]

theorem Sound.undisplaced (sound : Sound s) : Undisplaced s where
  unlinks label t call own stepped present changed := by
    rcases (step_effect stepped).path with same | absent | ⟨holder, held⟩ | other
    · exact absurd same changed
    · exact absurd absent present
    · exact (sound.at_ held).2
    · cases own.symm.trans other
  wins label t call stepped := (step_effect stepped).wins sound
  reachable call won live kept := sound.reachable won live kept
  single call other won live kept won' live' kept' := by
    have one := (sound.reachable won live kept).1
    have two := (sound.reachable won' live' kept').1
    cases one.symm.trans two
    rfl

theorem Sound.proceeds (sound : Sound s) {call : C} {place : Place} (held : s.lock = some (.acquiring call place))
    (winning : Winning place) : Proceeds s call place where
  winning := winning
  enabled silent number := sound.next_enabled held silent number
  nearer label t clean stepped := by
    refine (winning.effect sound held clean (step_effect stepped)).imp_right ?_
    rintro ⟨next, there, -, nearer⟩
    exact ⟨next, there, nearer⟩

theorem sound_of_unused {unrelated : Bool} (path : Path System.step Unused (System.initial unrelated : System C G N) s) :
    Sound s ∧ Numbered s := by
  refine path.invariant (I := fun s => Sound s ∧ Numbered s) ?_ ⟨sound_initial unrelated, numbered_initial unrelated⟩
  rintro s label t ⟨sound, numbered⟩ unused stepped
  have effect := step_effect stepped
  exact ⟨sound.effect (numbered.recognised label) effect, numbered.effect sound unused effect⟩

/-- A call that has taken the lock wins, unless it fails, crashes or finds a live listener or an unrelated file. -/
theorem wins_of_path {call : C} (sound : Sound s) (numbered : Numbered s)
    (held : s.lock = some (.acquiring call (.binding false)))
    (path : Path System.step (fun s label => Unused s label ∧ Clean call s label) s t) :
    t.calls call = .returned .won ∨ ∃ place, t.lock = some (.acquiring call place) ∧ Proceeds t call place := by
  -- Along the run the call has won, or it holds the lock at a place from which it can.
  have kept : (Sound t ∧ Numbered t) ∧
      (t.calls call = .returned .won ∨ ∃ place, t.lock = some (.acquiring call place) ∧ Winning place) := by
    refine path.invariant (I := fun t => (Sound t ∧ Numbered t) ∧
      (t.calls call = .returned .won ∨ ∃ place, t.lock = some (.acquiring call place) ∧ Winning place)) ?_
      ⟨⟨sound, numbered⟩, .inr ⟨_, held, trivial⟩⟩
    rintro s label t ⟨⟨sound, numbered⟩, going⟩ ⟨unused, clean⟩ stepped
    have effect := step_effect stepped
    refine ⟨⟨sound.effect (numbered.recognised label) effect, numbered.effect sound unused effect⟩, ?_⟩
    rcases going with won | ⟨place, held, winning⟩
    · exact .inl (effect.returned sound won)
    · refine (winning.effect sound held clean effect).imp_right ?_
      rintro ⟨next, there, winning, -⟩
      exact ⟨next, there, winning⟩
  obtain ⟨⟨sound, -⟩, going⟩ := kept
  refine going.imp_right ?_
  rintro ⟨place, held, winning⟩
  exact ⟨place, held, sound.proceeds held winning⟩

/-- Socket election never displaces a live owner, and a call that has the lock and meets neither an
error nor a live listener wins. -/
theorem election_never_displaces (unrelated : Bool)
    (path : Path System.step Unused (System.initial unrelated : System C G N) s) :
    Undisplaced s ∧
    ∀ call t, s.lock = some (.acquiring call (.binding false)) →
      Path System.step (fun s label => Unused s label ∧ Clean call s label) s t →
      t.calls call = .returned .won ∨ ∃ place, t.lock = some (.acquiring call place) ∧ Proceeds t call place := by
  obtain ⟨sound, numbered⟩ := sound_of_unused path
  exact ⟨sound.undisplaced, fun call t held later => wins_of_path sound numbered held later⟩

/-- A second call reclaims the socket that a crash of the first left behind. -/
theorem election_never_displaces_stale :
    ∃ s : System Bool Unit Nat, Path System.step Unused (System.initial false) s ∧
      s.calls true = .returned .won ∧ s.live true = true ∧ Undisplaced s := by
  have path : Path System.step Unused (System.initial false : System Bool Unit Nat) _ :=
    path_of_replayWithin
      [.enter false, .lock false, .bind false 1, .listen false, .crash false, .enter true, .lock true, .bind true 2,
        .inspect true, .probe true .refused, .unlink true, .bind true 2, .listen true, .setPermissions true, .release true]
      rfl
  exact ⟨_, path, rfl, rfl, (election_never_displaces false path).1⟩

end

end

end KunobiDaemon.Local
