import KunobiDaemon.Local.Socket

/-! All that one step can do to the path, the lock, the calls and the guards. -/

set_option autoImplicit false

namespace KunobiDaemon.Local

/-- The call of `acquire` that a step belongs to. -/
def Label.call {C G N : Type} : Label C G N → Option C
  | .enter call | .refuse call _ | .lock call | .bind call _ | .listen call | .setPermissions call | .inspect call
  | .probe call _ | .unlink call | .fail call _ | .release call | .crash call => some call
  | .close _ | .capture _ _ | .drop _ | .check _ | .remove _ | .failGuard _ | .leave _ | .crashGuard _ => none

section
variable {C G N : Type} {s t : System C G N}

theorem found_eq_some {socket : Socket N} (found : s.found = some socket) :
    ∃ file, s.path = .socket file ∧ s.sockets file = some socket := by
  unfold System.found at found
  split at found
  · rename_i file there
    exact ⟨file, there, found⟩
  · cases found

/-- A call that has taken the lock holds it. -/
def Held (s : System C G N) : Prop := ∀ call place, s.lock = some (.acquiring call place) → s.calls call = .holding

/-- How a call goes on without a change of the system. -/
inductive Moves (s : System C G N) (call : C) : Label C G N → Place → Place → Prop where
  | inUse {number : N} : s.path ≠ .absent → Moves s call (.bind call number) (.binding false) .inspecting
  | socket {file : C} : s.path = .socket file → Moves s call (.inspect call) .inspecting .probing
  | unrelated {error : BindError} : s.path = .other →
      Moves s call (.inspect call) .inspecting (.returning (.failed error))
  | answered {answer : Answer} : answer ≠ .refused → s.answers = true →
      Moves s call (.probe call answer) .probing (.returning .alreadyRunning)
  | refused : s.found.isSome = true → s.answers = false → Moves s call (.probe call .refused) .probing .unlinking
  | permitted {again : Bool} : Moves s call (.setPermissions call) (.listening again) (.returning .won)

variable [DecidableEq C] [DecidableEq G]

/-- All that one step can do. -/
inductive Effect (s : System C G N) : Label C G N → System C G N → Prop where
  | entered {call : C} : s.calls call = .idle → Effect s (.enter call) (s.setCall call .entered)
  | refused {call : C} {error : BindError} : s.calls call = .entered →
      Effect s (.refuse call error) (s.setCall call (.returned (.failed error)))
  | contended {call : C} {holder : Holder C G} : s.calls call = .entered → s.lock = some holder →
      Effect s (.lock call) (s.setCall call (.returned .alreadyRunning))
  | locked {call : C} : s.calls call = .entered → s.lock = none →
      Effect s (.lock call) ((s.go call (.binding false)).setCall call .holding)
  | moved {label : Label C G N} {call : C} {place next : Place} : s.lock = some (.acquiring call place) →
      Moves s call label place next → Effect s label (s.go call next)
  | bound {call : C} {again : Bool} {number : N} : s.lock = some (.acquiring call (.binding again)) → s.path = .absent →
      Effect s (.bind call number)
        { s with
          path := .socket call
          sockets := Function.update s.sockets call (some ⟨number, .bound⟩)
          lock := some (.acquiring call (.bound again)) }
  | listened {call : C} {again : Bool} : s.lock = some (.acquiring call (.bound again)) →
      Effect s (.listen call) ((s.setDescriptor call .listening).go call (.listening again))
  | unlinked {call : C} : s.lock = some (.acquiring call .unlinking) →
      Effect s (.unlink call) ({ s with path := .absent }.go call (.binding true))
  | failed {call : C} {place : Place} {error : BindError} : s.lock = some (.acquiring call place) →
      Effect s (.fail call error) ((s.setDescriptor call .closed).go call (.returning (.failed error)))
  | released {call : C} {outcome : Outcome} : s.lock = some (.acquiring call (.returning outcome)) →
      Effect s (.release call) ({ s with lock := none }.setCall call (.returned outcome))
  | gaveUp {call : C} : s.calls call = .entered → Effect s (.crash call) (s.setCall call .crashed)
  | crashed {call : C} {place : Place} : s.lock = some (.acquiring call place) →
      Effect s (.crash call) (({ s with lock := none }.setDescriptor call .closed).setCall call .crashed)
  | closed {call : C} : s.calls call = .returned .won → Effect s (.close call) (s.setDescriptor call .closed)
  | captured {guard : G} {call file : C} {socket : Socket N} : s.guards guard = .idle → s.path = .socket file →
      s.sockets file = some socket →
      Effect s (.capture guard call) (s.setGuard guard (.captured ⟨call, file, socket.number⟩))
  | dropped {label : Label C G N} {guard : G} {captured : SocketGuard C N} : label.call = none →
      s.guards guard = .captured captured → Effect s label (s.setGuard guard (.dropped captured none))
  | cleaning {guard : G} {captured : SocketGuard C N} : s.guards guard = .captured captured → s.lock = none →
      Effect s (.drop guard)
        ({ s with lock := some (.cleaning guard .checking) }.setGuard guard (.dropped captured none))
  | matched {guard : G} {captured : SocketGuard C N} {removed : Option (Entry C)} {file : C} {socket : Socket N} :
      s.lock = some (.cleaning guard .checking) → s.guards guard = .dropped captured removed →
      s.path = .socket file → s.sockets file = some socket → socket.number = captured.number →
      Effect s (.check guard) { s with lock := some (.cleaning guard .removing) }
  | left {label : Label C G N} {guard : G} {cleanup : Cleanup} : label.call = none →
      s.lock = some (.cleaning guard cleanup) → Effect s label { s with lock := some (.cleaning guard .leaving) }
  | removed {guard : G} {captured : SocketGuard C N} {removed : Option (Entry C)} :
      s.lock = some (.cleaning guard .removing) → s.guards guard = .dropped captured removed →
      Effect s (.remove guard)
        ({ s with path := .absent, lock := some (.cleaning guard .leaving) }.setGuard guard
          (.dropped captured (some s.path)))
  | freed {label : Label C G N} {guard : G} {cleanup : Cleanup} : label.call = none →
      s.lock = some (.cleaning guard cleanup) → Effect s label { s with lock := none }

/-- How the status of one call can change. -/
inductive Call.Passes (s : System C G N) (label : Label C G N) (call : C) : Call → Prop where
  | entered : s.calls call = .idle → Passes s label call .entered
  | refused {error : BindError} : s.calls call = .entered → Passes s label call (.returned (.failed error))
  | contended {holder : Holder C G} : s.calls call = .entered → label = .lock call → s.lock = some holder →
      Passes s label call (.returned .alreadyRunning)
  | locked : s.calls call = .entered → Passes s label call .holding
  | gaveUp : s.calls call = .entered → Passes s label call .crashed
  | released {outcome : Outcome} : s.lock = some (.acquiring call (.returning outcome)) →
      Passes s label call (.returned outcome)
  | crashed {place : Place} : s.lock = some (.acquiring call place) → Passes s label call .crashed

/-- How the state of one guard can change. -/
inductive GuardState.Passes (s : System C G N) (label : Label C G N) (guard : G) : GuardState C N → Prop where
  | captured {call file : C} {socket : Socket N} : label = .capture guard call → s.path = .socket file →
      s.sockets file = some socket → Passes s label guard (.captured ⟨call, file, socket.number⟩)
  | dropped {before : SocketGuard C N} : s.guards guard = .captured before →
      Passes s label guard (.dropped before none)
  | removed {before : SocketGuard C N} {removed : Option (Entry C)} : s.lock = some (.cleaning guard .removing) →
      s.guards guard = .dropped before removed → Passes s label guard (.dropped before (some s.path))

section
variable {A B : Type} [DecidableEq A] {before : A → B} {passes : A → B → Prop}

/-- One index takes a step, and the others stay. -/
theorem update_passes {acting : A} {after : B} (passed : passes acting after) (index : A) :
    Function.update before acting after index = before index ∨
    passes index (Function.update before acting after index) := by
  by_cases same : index = acting
  · subst same
    rw [Function.update_self]
    exact .inr passed
  · exact .inl (Function.update_of_ne same _ _)

end

theorem Effect.calls {label : Label C G N} (effect : Effect s label t) (call : C) :
    t.calls call = s.calls call ∨ Call.Passes s label call (t.calls call) := by
  cases effect with
  | entered idle => exact update_passes (.entered idle) call
  | refused entered => exact update_passes (.refused entered) call
  | contended entered held => exact update_passes (.contended entered rfl held) call
  | locked entered => exact update_passes (.locked entered) call
  | gaveUp entered => exact update_passes (.gaveUp entered) call
  | released held => exact update_passes (.released held) call
  | crashed held => exact update_passes (.crashed held) call
  | _ => exact .inl rfl

theorem Effect.guards {label : Label C G N} (effect : Effect s label t) (guard : G) :
    t.guards guard = s.guards guard ∨ GuardState.Passes s label guard (t.guards guard) := by
  cases effect with
  | captured _ there created => exact update_passes (.captured rfl there created) guard
  | dropped _ before => exact update_passes (.dropped before) guard
  | cleaning before => exact update_passes (.dropped before) guard
  | removed held before => exact update_passes (.removed held before) guard
  | _ => exact .inl rfl

omit [DecidableEq G] in
theorem Held.setCall (held : Held s) {call : C} {status : Call} (elsewhere : s.calls call ≠ .holding) :
    Held (s.setCall call status) := by
  intro other place there
  have different : other ≠ call := by
    rintro rfl
    exact elsewhere (held other place there)
  simp only [System.setCall, Function.update_of_ne different]
  exact held other place there

theorem Held.effect {label : Label C G N} (held : Held s) (effect : Effect s label t) : Held t := by
  cases effect with
  | entered outside | refused outside | contended outside | gaveUp outside => exact held.setCall (by simp [outside])
  | locked =>
      rintro call place ⟨⟩
      exact Function.update_self _ _ _
  | moved there | bound there | listened there | unlinked there | failed there =>
      rintro call place ⟨⟩
      exact held _ _ there
  | released | crashed | freed | cleaning | matched | left | removed =>
      intro call place there
      cases there
  | closed | captured | dropped => exact held

omit [DecidableEq G] in
theorem acquiring_eq_some {call : C} {turn : Place → Option (System C G N)} (stepped : s.acquiring call turn = some t) :
    ∃ place, s.lock = some (.acquiring call place) ∧ turn place = some t := by
  unfold System.acquiring at stepped
  split at stepped
  · rename_i holder place held
    split at stepped
    · rename_i same
      exact ⟨place, same ▸ held, stepped⟩
    · cases stepped
  · cases stepped

omit [DecidableEq C] in
theorem cleaning_eq_some {guard : G} {turn : Cleanup → Option (System C G N)}
    (stepped : s.cleaning guard turn = some t) :
    ∃ cleanup, s.lock = some (.cleaning guard cleanup) ∧ turn cleanup = some t := by
  unfold System.cleaning at stepped
  split at stepped
  · rename_i holder cleanup held
    split at stepped
    · rename_i same
      exact ⟨cleanup, same ▸ held, stepped⟩
    · cases stepped
  · cases stepped

variable [DecidableEq N]

theorem bind_effect {call : C} {number : N} (stepped : s.step (.bind call number) = some t) :
    Effect s (.bind call number) t := by
  obtain ⟨place, held, turned⟩ := acquiring_eq_some stepped
  split at turned
  · rename_i again
    split at turned
    · rename_i absent
      cases turned
      exact .bound held absent
    · rename_i present
      split at turned
      · cases turned
      · rename_i first
        cases turned
        obtain rfl := Bool.eq_false_iff.mpr first
        exact .moved held (.inUse present)
  · cases turned

theorem probe_effect {call : C} {answer : Answer} (stepped : s.step (.probe call answer) = some t) :
    Effect s (.probe call answer) t := by
  obtain ⟨place, held, turned⟩ := acquiring_eq_some stepped
  split at turned
  · split at turned
    -- Only a refusal needs a socket that nobody listens on; the other answers need a listener.
    case h_4 =>
      split at turned
      · rename_i refused
        cases turned
        simp only [Bool.and_eq_true, Bool.not_eq_true'] at refused
        exact .moved held (.refused refused.1 refused.2)
      · cases turned
    all_goals
      split at turned
      · rename_i answered
        cases turned
        exact .moved held (.answered nofun answered)
      · cases turned
  · cases turned

theorem step_effect {label : Label C G N} (stepped : s.step label = some t) : Effect s label t := by
  cases label with
  | enter call =>
      simp only [System.step] at stepped
      split at stepped
      · cases stepped
        exact .entered ‹_›
      · cases stepped
  | refuse call error =>
      simp only [System.step] at stepped
      split at stepped
      · cases stepped
        exact .refused ‹_›
      · cases stepped
        exact .refused ‹_›
      · cases stepped
  | lock call =>
      simp only [System.step] at stepped
      split at stepped
      · split at stepped
        · cases stepped
          exact .locked ‹_› ‹_›
        · cases stepped
          exact .contended ‹_› ‹_›
      · cases stepped
  | bind call number => exact bind_effect stepped
  | listen call =>
      obtain ⟨place, held, turned⟩ := acquiring_eq_some stepped
      split at turned
      · cases turned
        exact .listened held
      · cases turned
  | setPermissions call =>
      obtain ⟨place, held, turned⟩ := acquiring_eq_some stepped
      split at turned
      · cases turned
        exact .moved held .permitted
      · cases turned
  | inspect call =>
      obtain ⟨place, held, turned⟩ := acquiring_eq_some stepped
      split at turned
      · split at turned
        · cases turned
          exact .moved held (.socket ‹_›)
        · cases turned
          exact .moved held (.unrelated ‹_›)
        · cases turned
      · cases turned
  | probe call answer => exact probe_effect stepped
  | unlink call =>
      obtain ⟨place, held, turned⟩ := acquiring_eq_some stepped
      split at turned
      · split at turned
        · cases turned
        · cases turned
          exact .unlinked held
      · cases turned
  | fail call error =>
      obtain ⟨place, held, turned⟩ := acquiring_eq_some stepped
      split at turned
      · cases turned
        exact .failed held
      · cases turned
  | release call =>
      obtain ⟨place, held, turned⟩ := acquiring_eq_some stepped
      split at turned
      · cases turned
        exact .released held
      · cases turned
  | crash call =>
      simp only [System.step] at stepped
      split at stepped
      · cases stepped
        exact .gaveUp ‹_›
      · obtain ⟨place, held, turned⟩ := acquiring_eq_some stepped
        cases turned
        exact .crashed held
      · cases stepped
  | close call =>
      simp only [System.step] at stepped
      split at stepped
      · cases stepped
        exact .closed ‹_›
      · cases stepped
  | capture guard call =>
      simp only [System.step] at stepped
      split at stepped
      · obtain ⟨socket, created, rfl⟩ := Option.map_eq_some_iff.mp stepped
        exact .captured ‹_› ‹_› created
      · cases stepped
  | drop guard =>
      simp only [System.step] at stepped
      split at stepped
      · split at stepped
        · cases stepped
          exact .cleaning ‹_› ‹_›
        · cases stepped
          exact .dropped rfl ‹_›
      · cases stepped
  | check guard =>
      obtain ⟨cleanup, held, turned⟩ := cleaning_eq_some stepped
      split at turned
      · split at turned
        · rename_i captured removed dropped
          split at turned
          · rename_i matching
            cases turned
            obtain ⟨socket, found, same⟩ := (Option.any_eq_true _ _).mp matching
            obtain ⟨file, there, created⟩ := found_eq_some found
            exact .matched held dropped there created (of_decide_eq_true same)
          · cases turned
            exact .left rfl held
        · cases turned
      · cases turned
  | remove guard =>
      obtain ⟨cleanup, held, turned⟩ := cleaning_eq_some stepped
      split at turned
      · split at turned
        · cases turned
        · cases turned
          exact .removed held ‹_›
        · cases turned
      · cases turned
  | failGuard guard =>
      simp only [System.step] at stepped
      split at stepped
      · cases stepped
        exact .dropped rfl ‹_›
      · obtain ⟨cleanup, held, turned⟩ := cleaning_eq_some stepped
        cases turned
        exact .left rfl held
  | leave guard =>
      obtain ⟨cleanup, held, turned⟩ := cleaning_eq_some stepped
      split at turned
      · cases turned
        exact .freed rfl held
      · cases turned
  | crashGuard guard =>
      obtain ⟨cleanup, held, turned⟩ := cleaning_eq_some stepped
      cases turned
      exact .freed rfl held

end

end KunobiDaemon.Local
