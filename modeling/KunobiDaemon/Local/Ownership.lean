import KunobiDaemon.Local.Effects

/-! What a call or a guard can rely on while it holds the bind lock.

The path changes only while somebody holds the lock, so what the holder has found there stays true
until it acts on it (`At`). A guard is trusted to recognise the file it was captured on
(`Recognised`); that numbers are not given twice is one reason for it.
-/

set_option autoImplicit false

namespace KunobiDaemon.Local

section
variable {C G N : Type} {s t : System C G N}

/-- A guard captured on this file has begun its drop. -/
def Dropped (s : System C G N) (file : C) : Prop :=
  ∃ guard captured removed, s.guards guard = .dropped captured removed ∧ captured.file = file

/-- The path names this file, unless a guard captured on it has been dropped. -/
def Named (s : System C G N) (file : C) : Prop := s.path = .socket file ∨ Dropped s file

/-- What a call has found at the path where it stands. -/
def At (s : System C G N) (call : C) : Place → Prop
  | .binding again => s.sockets call = none ∧ (again = true → s.path = .absent)
  | .bound _ => s.path = .socket call ∧ ∃ number, s.sockets call = some ⟨number, .bound⟩
  | .listening _ | .returning .won => s.path = .socket call ∧ ∃ number, s.sockets call = some ⟨number, .listening⟩
  | .inspecting => s.sockets call = none ∧ s.path ≠ .absent
  | .probing => s.sockets call = none ∧ ∃ file, s.path = .socket file
  | .unlinking =>
      s.sockets call = none ∧ ∃ file number, s.path = .socket file ∧ s.sockets file = some ⟨number, .closed⟩
  | .returning _ => s.live call = false

/-- What a call knows of its socket. -/
def Fits (s : System C G N) (call : C) : Call → Prop
  | .idle | .entered => s.sockets call = none
  | .holding => ∃ place, s.lock = some (.acquiring call place) ∧ At s call place
  | .returned .won =>
      ∃ socket, s.sockets call = some socket ∧ socket.descriptor ≠ .bound ∧
        (socket.descriptor = .listening → Named s call)
  | .returned _ | .crashed => s.live call = false

/-- What holds of the path, the lock and the calls at any time. -/
structure Sound (s : System C G N) : Prop where
  fits : ∀ call, Fits s call (s.calls call)
  holder : ∀ call place, s.lock = some (.acquiring call place) → s.calls call = .holding
  cleaner : ∀ guard cleanup, s.lock = some (.cleaning guard cleanup) →
    ∃ captured removed, s.guards guard = .dropped captured removed ∧
      (cleanup = .removing → s.path = .socket captured.file)
  created : ∀ file, s.path = .socket file → (s.sockets file).isSome = true

theorem sound_initial (unrelated : Bool) : Sound (System.initial unrelated : System C G N) where
  fits _ := rfl
  holder _ _ held := by cases held
  cleaner _ _ held := by cases held
  created file named := by
    cases unrelated <;> cases named

/-- A closed socket stays closed. -/
def Closing (s t : System C G N) : Prop :=
  ∀ file number, s.sockets file = some ⟨number, .closed⟩ → t.sockets file = some ⟨number, .closed⟩

theorem At.frame {call : C} {place : Place} (holds : At s call place) (path : t.path = s.path)
    (socket : t.sockets call = s.sockets call) (closing : Closing s t) : At t call place := by
  cases place with
  | unlinking =>
      obtain ⟨none_, file, number, there, closed⟩ := holds
      exact ⟨socket.trans none_, file, number, path.trans there, closing file number closed⟩
  | returning outcome =>
      cases outcome <;> simpa only [At, System.live, path, socket] using holds
  | _ => simpa only [At, path, socket] using holds

/-- A call that does not take part in a step keeps what it knows. -/
theorem Fits.frame {call : C} {status : Call} (fits : Fits s call status) (socket : t.sockets call = s.sockets call)
    (held : ∀ place, s.lock = some (.acquiring call place) → t.lock = s.lock ∧ t.path = s.path ∧ Closing s t)
    (named : s.live call = true → Named s call → Named t call) : Fits t call status := by
  cases status with
  | idle | entered => exact socket.trans fits
  | crashed => simpa only [Fits, System.live, socket] using fits
  | holding =>
      obtain ⟨place, lock, holds⟩ := fits
      obtain ⟨same, path, closing⟩ := held place lock
      exact ⟨place, same.trans lock, holds.frame path socket closing⟩
  | returned outcome =>
      cases outcome with
      | won =>
          obtain ⟨own, created, bound, reachable⟩ := fits
          refine ⟨own, socket.trans created, bound, fun listening => named ?_ (reachable listening)⟩
          simp [System.live, created, listening]
      | alreadyRunning | failed => simpa only [Fits, System.live, socket] using fits

end

/-! What each kind of step keeps. -/

section
variable {C G N : Type} {s t : System C G N} {call : C} {place next : Place} {status : Call}

theorem Sound.fits_of (sound : Sound s) (there : s.calls call = status) : Fits s call status := there ▸ sound.fits call

theorem Sound.unheld (sound : Sound s) (elsewhere : s.calls call ≠ .holding) (place : Place) :
    s.lock ≠ some (.acquiring call place) := fun held => elsewhere (sound.holder call place held)

/-- The holder of the lock goes on. -/
theorem Sound.inside (sound : Sound s) (held : s.lock = some (.acquiring call place))
    (lock : t.lock = some (.acquiring call next)) (calls : t.calls = s.calls) (holds : At t call next)
    (sockets : ∀ other, other ≠ call → t.sockets other = s.sockets other)
    (named : ∀ other, other ≠ call → s.live other = true → Named s other → Named t other)
    (created : ∀ file, t.path = .socket file → (t.sockets file).isSome = true) : Sound t where
  fits other := by
    rw [calls]
    by_cases same : other = call
    · subst same
      rw [sound.holder other place held]
      exact ⟨next, lock, holds⟩
    · refine (sound.fits other).frame (sockets other same) (fun elsewhere there => ?_) (named other same)
      cases held.symm.trans there
      exact absurd rfl same
  holder other elsewhere there := by
    cases lock.symm.trans there
    rw [calls]
    exact sound.holder call place held
  cleaner guard cleanup there := by cases lock.symm.trans there
  created := created

/-- A guard takes the lock, goes on with it, or releases it. -/
theorem Sound.setLock (sound : Sound s) (unheld : ∀ call place, s.lock ≠ some (.acquiring call place))
    {lock : Option (Holder C G)} (cleaner : ∀ holder, lock = some holder →
      ∃ guard cleanup captured removed, holder = .cleaning guard cleanup ∧ s.guards guard = .dropped captured removed ∧
        (cleanup = .removing → s.path = .socket captured.file)) : Sound { s with lock } where
  fits other := by
    exact (sound.fits other).frame rfl (fun place held => absurd held (unheld other place)) fun _ => id
  holder call place held := by
    obtain ⟨guard, cleanup, captured, removed, same, -⟩ := cleaner _ held
    cases same
  cleaner guard cleanup held := by
    obtain ⟨_, _, captured, removed, same, there, removing⟩ := cleaner _ held
    cases same
    exact ⟨captured, removed, there, removing⟩
  created := sound.created

theorem Sound.at_ (sound : Sound s) (held : s.lock = some (.acquiring call place)) : At s call place := by
  obtain ⟨_, same, holds⟩ := sound.fits_of (sound.holder call place held)
  cases held.symm.trans same
  exact holds

theorem live_of_none (none_ : s.sockets call = none) : s.live call = false := by
  simp [System.live, none_]

/-- A socket at the path that refuses is closed, if somebody else holds the lock. -/
theorem Sound.closed_of_refused (sound : Sound s) (held : s.lock = some (.acquiring call .probing))
    (holds : At s call .probing) (found : s.found.isSome = true) (refused : s.answers = false) :
    ∃ file number, s.path = .socket file ∧ s.sockets file = some ⟨number, .closed⟩ := by
  obtain ⟨socket, found⟩ := Option.isSome_iff_exists.mp found
  obtain ⟨file, there, created⟩ := found_eq_some found
  obtain ⟨number, descriptor⟩ := socket
  refine ⟨file, number, there, ?_⟩
  have silent : descriptor ≠ .listening := by
    rintro rfl
    simp [System.answers, there, created] at refused
  -- The call that made the socket is over: nobody but the prober holds the lock.
  cases status : s.calls file with
  | idle | entered => cases created.symm.trans (sound.fits_of status)
  | holding =>
      obtain ⟨place, lock, -⟩ := sound.fits_of status
      cases held.symm.trans lock
      cases created.symm.trans holds.1
  | crashed =>
      have dead := sound.fits_of status
      simp_all [Fits, System.live]
  | returned outcome =>
      have fits := sound.fits_of status
      cases outcome with
      | won =>
          obtain ⟨_, same, unbound, -⟩ := fits
          cases created.symm.trans same
          cases descriptor with
          | bound => exact absurd rfl unbound
          | listening => exact absurd rfl silent
          | closed => exact created
      | alreadyRunning | failed => simp_all [Fits, System.live]

theorem Sound.at_moves (sound : Sound s) (held : s.lock = some (.acquiring call place)) (holds : At s call place)
    {label : Label C G N} (moves : Moves s call label place next) : At s call next := by
  cases moves with
  | inUse present => exact ⟨holds.1, present⟩
  | socket there => exact ⟨holds.1, _, there⟩
  | unrelated => exact live_of_none holds.1
  | answered => exact live_of_none holds.1
  | refused found silent => exact ⟨holds.1, sound.closed_of_refused held holds found silent⟩
  | permitted => exact holds

theorem Sound.unlinked (sound : Sound s) (held : s.lock = some (.acquiring call .unlinking)) :
    Sound ({ s with path := .absent }.go call (.binding true)) := by
  obtain ⟨none_, file, number, there, closed⟩ := sound.at_ held
  refine sound.inside held rfl rfl ⟨none_, fun _ => rfl⟩ (fun _ _ => rfl) ?_ nofun
  rintro other different live (named | dropped)
  · -- What was removed is the closed socket that refused the probe.
    cases there.symm.trans named
    simp [System.live, closed] at live
  · exact .inr dropped

/-- A guard knows the file it was captured on by its numbers. -/
def Recognised (s : System C G N) : Label C G N → Prop
  | .check guard => ∀ captured removed file socket, s.guards guard = .dropped captured removed →
      s.path = .socket file → s.sockets file = some socket → socket.number = captured.number → file = captured.file
  | _ => True

section
variable [DecidableEq C]

/-- One call goes on, and the others keep what they know. -/
theorem Sound.fits_update (sound : Sound s) (calls : t.calls = Function.update s.calls call status)
    (fits : Fits t call status)
    (others : ∀ other, other ≠ call → Fits s other (s.calls other) → Fits t other (s.calls other)) (other : C) :
    Fits t other (t.calls other) := by
  rw [calls]
  by_cases same : other = call
  · subst same
    rw [Function.update_self]
    exact fits
  · rw [Function.update_of_ne same]
    exact others other same (sound.fits other)

/-- A call that does not hold the lock goes on. -/
theorem Sound.setCall (sound : Sound s) (elsewhere : s.calls call ≠ .holding) (fits : Fits s call status) :
    Sound (s.setCall call status) where
  fits := by
    apply sound.fits_update rfl
    · exact fits.frame rfl (fun _ _ => ⟨rfl, rfl, fun _ _ => id⟩) fun _ => id
    · exact fun _ _ kept => kept.frame rfl (fun _ _ => ⟨rfl, rfl, fun _ _ => id⟩) fun _ => id
  holder := Held.setCall sound.holder elsewhere
  cleaner := sound.cleaner
  created := sound.created

/-- A call ends before it has taken the lock, with no socket of its own. -/
theorem Sound.turnedAway (sound : Sound s) (entered : s.calls call = .entered)
    (fits : s.live call = false → Fits s call status) : Sound (s.setCall call status) := by
  exact sound.setCall (by simp [entered]) (fits (live_of_none (sound.fits_of entered)))

/-- The holder of the lock leaves. -/
theorem Sound.away (sound : Sound s) (held : s.lock = some (.acquiring call place)) (path : t.path = s.path)
    (guards : t.guards = s.guards) (lock : t.lock = none) (calls : t.calls = Function.update s.calls call status)
    (fits : Fits t call status) (sockets : ∀ other, other ≠ call → t.sockets other = s.sockets other)
    (created : ∀ file, (s.sockets file).isSome = true → (t.sockets file).isSome = true) : Sound t where
  fits := by
    refine sound.fits_update calls fits fun other different kept => ?_
    refine kept.frame (sockets other different) (fun elsewhere there => ?_) fun _ named => ?_
    · cases held.symm.trans there
      exact absurd rfl different
    · simpa only [Named, Dropped, path, guards] using named
  holder other elsewhere there := by cases lock.symm.trans there
  cleaner guard cleanup there := by cases lock.symm.trans there
  created file there := created file (sound.created file (path ▸ there))

theorem isSome_setDescriptor {descriptor : Descriptor} (file : C) :
    ((s.setDescriptor call descriptor).sockets file).isSome = (s.sockets file).isSome := by
  by_cases same : file = call
  · subst same
    simp [System.setDescriptor]
  · simp [System.setDescriptor, same]

theorem live_setDescriptor_closed : (s.setDescriptor call .closed).live call = false := by
  cases created : s.sockets call <;> simp [System.live, System.setDescriptor, created]

theorem closing_setDescriptor : Closing s (s.setDescriptor call .closed) := by
  intro file number closed
  by_cases same : file = call
  · subst same
    simp [System.setDescriptor, closed]
  · simp [System.setDescriptor, same, closed]

/-- A call takes the lock. -/
theorem Sound.locked (sound : Sound s) (entered : s.calls call = .entered) (free : s.lock = none) :
    Sound ((s.go call (.binding false)).setCall call .holding) where
  fits := by
    apply sound.fits_update rfl
    · exact ⟨.binding false, rfl, sound.fits_of entered, nofun⟩
    · exact fun _ _ kept => kept.frame rfl (fun place held => absurd (free.symm.trans held) nofun) fun _ => id
  holder other place held := by
    cases held
    exact Function.update_self _ _ _
  cleaner guard cleanup held := by cases held
  created := sound.created

theorem Sound.bound {again : Bool} {number : N} (sound : Sound s)
    (held : s.lock = some (.acquiring call (.binding again))) (absent : s.path = .absent) :
    Sound { s with
      path := .socket call
      sockets := Function.update s.sockets call (some ⟨number, .bound⟩)
      lock := some (.acquiring call (.bound again)) } := by
  refine sound.inside held rfl rfl ⟨rfl, number, Function.update_self _ _ _⟩ ?_ ?_ ?_
  · exact fun other different => Function.update_of_ne different _ _
  · rintro other different - (there | dropped)
    · cases absent.symm.trans there
    · exact .inr dropped
  · rintro file ⟨⟩
    simp

theorem Sound.listened {again : Bool} (sound : Sound s) (held : s.lock = some (.acquiring call (.bound again))) :
    Sound ((s.setDescriptor call .listening).go call (.listening again)) := by
  obtain ⟨there, number, created⟩ := sound.at_ held
  refine sound.inside held rfl rfl ⟨there, number, ?_⟩ ?_ (fun _ _ _ => id) fun file named => ?_
  · simp [System.go, System.setDescriptor, created]
  · exact fun other different => Function.update_of_ne different _ _
  · exact (isSome_setDescriptor file).trans (sound.created file named)

theorem Sound.failed {error : BindError} (sound : Sound s) (held : s.lock = some (.acquiring call place)) :
    Sound ((s.setDescriptor call .closed).go call (.returning (.failed error))) := by
  refine sound.inside held rfl rfl live_setDescriptor_closed ?_ (fun _ _ _ => id) fun file named => ?_
  · exact fun other different => Function.update_of_ne different _ _
  · exact (isSome_setDescriptor file).trans (sound.created file named)

theorem Sound.released {outcome : Outcome} (sound : Sound s)
    (held : s.lock = some (.acquiring call (.returning outcome))) :
    Sound ({ s with lock := none }.setCall call (.returned outcome)) := by
  have holds := sound.at_ held
  refine sound.away held rfl rfl rfl rfl ?_ (fun _ _ => rfl) fun _ => id
  cases outcome with
  | won =>
      obtain ⟨there, number, created⟩ := holds
      exact ⟨_, created, nofun, fun _ => .inl there⟩
  | alreadyRunning | failed => exact holds

theorem Sound.crashed (sound : Sound s) (held : s.lock = some (.acquiring call place)) :
    Sound (({ s with lock := none }.setDescriptor call .closed).setCall call .crashed) := by
  refine sound.away held rfl rfl rfl rfl live_setDescriptor_closed ?_ fun file created => ?_
  · exact fun other different => Function.update_of_ne different _ _
  · exact (isSome_setDescriptor file).trans created

theorem Sound.closed (sound : Sound s) (won : s.calls call = .returned .won) : Sound (s.setDescriptor call .closed) where
  fits other := by
    by_cases same : other = call
    · subst same
      obtain ⟨socket, created, -, -⟩ := sound.fits_of won
      simp only [System.setDescriptor, won]
      exact ⟨{ socket with descriptor := .closed }, by simp [created], nofun, nofun⟩
    · refine (sound.fits other).frame (Function.update_of_ne same _ _) (fun _ _ => ?_) fun _ => id
      exact ⟨rfl, rfl, closing_setDescriptor⟩
  holder := sound.holder
  cleaner := sound.cleaner
  created file there := (isSome_setDescriptor file).trans (sound.created file there)

end

section
variable [DecidableEq G]

theorem Dropped.setGuard {file : C} {guard : G} {after : GuardState C N} (dropped : Dropped s file)
    (kept : ∀ captured removed, s.guards guard = .dropped captured removed → ∃ later, after = .dropped captured later) :
    Dropped (s.setGuard guard after) file := by
  obtain ⟨other, captured, removed, there, same⟩ := dropped
  by_cases own : other = guard
  · subst own
    obtain ⟨later, rfl⟩ := kept captured removed there
    exact ⟨other, captured, later, Function.update_self _ _ _, same⟩
  · exact ⟨other, captured, removed, by simp [System.setGuard, own, there], same⟩

/-- A guard that has not begun its drop goes on. -/
theorem Sound.setGuard (sound : Sound s) {guard : G} {after : GuardState C N}
    (before : ∀ captured removed, s.guards guard ≠ .dropped captured removed) : Sound (s.setGuard guard after) where
  fits other := by
    refine (sound.fits other).frame rfl (fun _ _ => ⟨rfl, rfl, fun _ _ => id⟩) fun _ named => ?_
    exact named.imp id fun dropped => dropped.setGuard fun captured removed there => absurd there (before captured removed)
  holder := sound.holder
  cleaner other cleanup held := by
    obtain ⟨captured, removed, there, removing⟩ := sound.cleaner other cleanup held
    have different : other ≠ guard := by
      rintro rfl
      exact before captured removed there
    exact ⟨captured, removed, by simp [System.setGuard, different, there], removing⟩
  created := sound.created

theorem Sound.removed {guard : G} {captured : SocketGuard C N} {removed : Option (Entry C)} (sound : Sound s)
    (held : s.lock = some (.cleaning guard .removing)) (dropped : s.guards guard = .dropped captured removed) :
    Sound ({ s with path := .absent, lock := some (.cleaning guard .leaving) }.setGuard guard
      (.dropped captured (some s.path))) where
  fits other := by
    refine (sound.fits other).frame rfl (fun place there => absurd (held.symm.trans there) nofun) ?_
    rintro - (named | earlier)
    · -- The guard removes the file that it was captured on.
      obtain ⟨_, _, same, removing⟩ := sound.cleaner guard .removing held
      cases dropped.symm.trans same
      cases named.symm.trans (removing rfl)
      exact .inr ⟨guard, captured, _, Function.update_self _ _ _, rfl⟩
    · refine .inr (Dropped.setGuard earlier fun other removed there => ?_)
      cases dropped.symm.trans there
      exact ⟨_, rfl⟩
  holder other place there := by cases there
  cleaner other cleanup there := by
    cases there
    exact ⟨captured, _, Function.update_self _ _ _, nofun⟩
  created file there := by cases there

end

variable [DecidableEq C] [DecidableEq G]

theorem Sound.effect {label : Label C G N} (sound : Sound s) (known : Recognised s label) (effect : Effect s label t) :
    Sound t := by
  have elsewhere {holder : Holder C G} (held : s.lock = some holder) {guard : G} {cleanup : Cleanup}
      (cleans : holder = .cleaning guard cleanup) (call : C) (place : Place) : s.lock ≠ some (.acquiring call place) := by
    subst cleans
    exact fun there => absurd (held.symm.trans there) nofun
  cases effect with
  | entered idle =>
      have unmade := sound.fits_of idle
      exact sound.setCall (by simp [idle]) unmade
  | refused entered => exact sound.turnedAway entered id
  | contended entered => exact sound.turnedAway entered id
  | gaveUp entered => exact sound.turnedAway entered id
  | locked entered free => exact sound.locked entered free
  | moved held moves =>
      refine sound.inside held rfl rfl ?_ (fun _ _ => rfl) (fun _ _ _ => id) sound.created
      exact (sound.at_moves held (sound.at_ held) moves).frame rfl rfl fun _ _ => id
  | bound held absent => exact sound.bound held absent
  | listened held => exact sound.listened held
  | unlinked held => exact sound.unlinked held
  | failed held => exact sound.failed held
  | released held => exact sound.released held
  | crashed held => exact sound.crashed held
  | closed won => exact sound.closed won
  | captured idle => exact sound.setGuard (by simp [idle])
  | dropped _ captured => exact sound.setGuard (by simp [captured])
  | cleaning captured free =>
      refine (sound.setGuard (by simp [captured])).setLock (fun call place there => absurd (free.symm.trans there) nofun) ?_
      rintro holder ⟨⟩
      exact ⟨_, _, _, _, rfl, Function.update_self _ _ _, nofun⟩
  | matched held dropped there created same =>
      refine sound.setLock (elsewhere held rfl) ?_
      rintro holder ⟨⟩
      refine ⟨_, _, _, _, rfl, dropped, fun _ => ?_⟩
      rw [there, known _ _ _ _ dropped there created same]
  | left _ held =>
      obtain ⟨captured, removed, dropped, -⟩ := sound.cleaner _ _ held
      refine sound.setLock (elsewhere held rfl) ?_
      rintro holder ⟨⟩
      exact ⟨_, _, _, _, rfl, dropped, nofun⟩
  | removed held dropped => exact sound.removed held dropped
  | freed _ held => exact sound.setLock (elsewhere held rfl) nofun

end

end KunobiDaemon.Local
