import KunobiDaemon.Backoff
import KunobiDaemon.Lib.Systems
import KunobiDaemon.Process.Exits

/-! A process handle and the calls made on it, while processes come and go.

Everything else in the system is free: which processes start, exit and are reaped, and who gets a
PID that has become free. A call is one system call after another, and anything can happen in
between. The calls are the blocking ones; `exited` and `exited_until` wait on an executor.
-/

set_option autoImplicit false

namespace KunobiDaemon.Process

open Lib.Systems

inductive Source where
  /-- The exit of this process is reported. -/
  | event (process : Nat)
  | exited
  | pid
  deriving DecidableEq, Repr

structure ProcessHandle where
  pid : ProcessId
  source : Source
  deriving DecidableEq, Repr

/-- `ProcessHandle::open`. An event follows the process that has the PID then. -/
def ProcessHandle.opened (pid : ProcessId) (holder : Option Nat) : Opened → ProcessHandle
  | .watching => ⟨pid, holder.elim .exited .event⟩
  | .gone => ⟨pid, .exited⟩
  | .unsupported => ⟨pid, .pid⟩

def ProcessHandle.isPidOnly (handle : ProcessHandle) : Bool := handle.source = .pid

/-- Where a call of `wait_for` stands. -/
inductive Call where
  | idle
  | waiting (deadline : Option Instant) (asked : Instant)
  | reading (deadline : Option Instant) (pause : Duration)
  | signalling (deadline : Option Instant) (pause : Duration)
  | pausing (deadline : Option Instant) (pause : Duration) (wake : Instant)
  deriving DecidableEq, Repr

/-- What a call returned, and whether the process or its main thread had ended then. -/
structure Told where
  deadline : Option Instant
  result : Except IoError Bool
  time : Instant
  exited : Bool
  mainEnded : Bool

structure Following where
  world : World
  handle : ProcessHandle
  /-- The process that had the PID when the handle was opened. -/
  first : Option Nat
  call : Call := .idle
  told : List Told := []

inductive Label (Reply : Type) where
  | kernel (event : Event)
  | call (deadline : Option Instant)
  | answer (reply : Reply)
  | stat (found : Option Stat)
  | kill (errno : Option Int32)
  | wake

namespace Following

/-- Whether the process has exited. Where there was none it had. -/
def gone (state : Following) : Bool := state.first.all state.world.exited

def mainEnded (state : Following) : Bool := state.first.any state.world.mainEnded

def finish (state : Following) (deadline : Option Instant) (result : Except IoError Bool) : Following where
  world := state.world
  -- A kqueue reports the exit once, so it is remembered.
  handle := match result with
    | .ok true => { state.handle with source := .exited }
    | _ => state.handle
  first := state.first
  call := .idle
  told := state.told ++ [⟨deadline, result, state.world.now, state.gone, state.mainEnded⟩]

/-- `backoff::poll` after a check. -/
def checked (state : Following) (deadline : Option Instant) (pause : Duration) (result : Except IoError Bool) : Following :=
  match result with
  | .error error => state.finish deadline (.error error)
  | .ok true => state.finish deadline (.ok true)
  | .ok false =>
      match Backoff.nextPause pause deadline state.world.now with
      | none => state.finish deadline (.ok false)
      | some (nap, next) => { state with call := .pausing deadline next (state.world.now + nap) }

/-- The phase of the process that has the PID. -/
def phase (state : Following) : Option Phase := state.world.phase state.handle.pid.val.toNat

/-- What `/proc` can show, and what `kill` can say, of whoever has the PID. -/
def statPossible (state : Following) : Option Stat → Bool
  | none => true
  | some stat => (state.world.entry state.handle.pid.val.toNat).any stat.describes

def killPossible (state : Following) (errno : Option Int32) : Bool :=
  if errno = none || errno = some 1 then state.phase.isSome else errno ≠ some 3 || state.phase.isNone

def step (sys : Sys) (linux : Bool) (state : Following) : Label sys.Reply → Option Following
  | .kernel event => (state.world.step event).map fun world => { state with world }
  | .call deadline =>
      if state.call ≠ .idle then none
      else
        match state.handle.source with
        | .exited => some (state.finish deadline (.ok true))
        | .event _ => some { state with call := .waiting deadline state.world.now }
        | .pid => some { state with call := .reading deadline Backoff.FIRST }
  | .answer reply =>
      match state.call, state.handle.source with
      | .waiting deadline asked, .event process =>
          if sys.told (state.world.exited process) deadline asked state.world.now reply then
            match sys.round deadline reply state.world.now with
            | none => some { state with call := .waiting deadline state.world.now }
            | some result => some (state.finish deadline result)
          else none
      | _, _ => none
  | .stat found =>
      match state.call with
      | .reading deadline pause =>
          if state.statPossible found then
            match signalStat linux state.handle.pid.val (found.map Stat.text) with
            | none => some { state with call := .signalling deadline pause }
            | some known => some (state.checked deadline pause (pidExited known))
          else none
      | _ => none
  | .kill errno =>
      match state.call with
      | .signalling deadline pause =>
          if state.killPossible errno then some (state.checked deadline pause (pidExited (signalKill errno))) else none
      | _ => none
  | .wake =>
      match state.call with
      | .pausing deadline pause wake =>
          if wake ≤ state.world.now then
            if passed deadline state.world.now then some (state.finish deadline (.ok false))
            else some { state with call := .reading deadline pause }
          else none
      | _ => none

end Following

/-- A call that asks about the PID. -/
def Call.polls : Call → Bool
  | .reading _ _ | .signalling _ _ | .pausing _ _ _ => true
  | .idle | .waiting _ _ => false

/-- No answer is wrong, but for one: `/proc` shows a process whose main thread has ended as a zombie while
its other threads run, so where only the PID is known Linux takes that for the exit. That a process runs
is said of that process only where it is followed. -/
structure Told.Honest (told : Told) (followed linux : Bool) : Prop where
  yes : told.result = .ok true → told.exited = true ∨ followed = false ∧ linux = true ∧ told.mainEnded = true
  no : told.result = .ok false → passed told.deadline told.time = true
  exact : told.result = .ok false → followed = true → told.exited = false

/-- Once the exit was reported it is reported for good. -/
def Lasting (told : List Told) : Prop := told.Pairwise fun early late => early.result = .ok true → late.result = .ok true

/-- What a call may take for the exit. -/
def Following.Ended (followed linux : Bool) (state : Following) : Prop :=
  state.gone = true ∨ followed = false ∧ linux = true ∧ state.mainEnded = true

theorem Following.Ended.later {followed linux : Bool} {state : Following} {world : World}
    (ended : state.Ended followed linux) (goes : state.world.Goes world) : { state with world }.Ended followed linux := by
  unfold Following.Ended Following.gone Following.mainEnded at ended ⊢
  cases first : state.first with
  | none => exact .inl rfl
  | some index =>
      rw [first, Option.all_some, Option.any_some] at ended
      exact ended.imp goes.exited fun ⟨pidOnly, onLinux, mainEnded⟩ => ⟨pidOnly, onLinux, goes.mainEnded mainEnded⟩

structure Follows (followed linux : Bool) (state : Following) : Prop where
  numbered : state.world.Numbered
  named : ∀ {index}, state.first = some index →
    ∃ entry, state.world.entries[index]? = some entry ∧ entry.pid = state.handle.pid.val.toNat
  event : ∀ {process}, state.handle.source = .event process → state.first = some process
  exited : state.handle.source = .exited → state.Ended followed linux
  pid : state.handle.source = .pid → followed = false
  polls : state.call.polls = true → state.handle.source = .pid
  honest : ∀ told ∈ state.told, told.Honest followed linux
  reported : (∃ told ∈ state.told, told.result = .ok true) → state.handle.source = .exited
  lasting : Lasting state.told

/-- What a call must know to return a result. -/
structure Warranted (followed linux : Bool) (state : Following) (deadline : Option Instant)
    (result : Except IoError Bool) : Prop where
  yes : result = .ok true → state.Ended followed linux
  no : result = .ok false → passed deadline state.world.now = true
  exact : result = .ok false → state.handle.source ≠ .pid → state.gone = false
  exited : state.handle.source = .exited → result = .ok true

/-- All that a step does. -/
inductive Did (followed linux : Bool) (state : Following) : Following → Prop where
  | kernel {event : Event} {world : World} : state.world.step event = some world →
      Did followed linux state { state with world }
  | moved {call : Call} : (call.polls = true → state.handle.source = .pid) → Did followed linux state { state with call }
  | finished {deadline : Option Instant} {result : Except IoError Bool} :
      Warranted followed linux state deadline result → Did followed linux state (state.finish deadline result)

section

variable {followed linux : Bool} {state next : Following} {deadline : Option Instant} {pause : Duration}

theorem passed_of_nextPause {now : Instant} (late : Backoff.nextPause pause deadline now = none) :
    passed deadline now = true := by
  cases deadline with
  | none => cases late
  | some deadline => exact passed_eq_true.mpr ⟨deadline, rfl, Backoff.nextPause_eq_none.mp late⟩

theorem finish_yes (state : Following) (deadline : Option Instant) :
    (state.finish deadline (.ok true)).handle = { state.handle with source := .exited } :=
  rfl

theorem finish_other (state : Following) (deadline : Option Instant) {result : Except IoError Bool} (other : result ≠ .ok true) :
    (state.finish deadline result).handle = state.handle := by
  unfold Following.finish
  split
  · exact absurd rfl other
  · rfl

theorem gone_of_phase (numbered : state.world.Numbered)
    (named : ∀ {index}, state.first = some index →
      ∃ entry, state.world.entries[index]? = some entry ∧ entry.pid = state.handle.pid.val.toNat)
    (other : state.phase ≠ some .running) : state.gone = true := by
  unfold Following.gone
  cases first : state.first with
  | none => rfl
  | some index =>
      obtain ⟨entry, there, same⟩ := named first
      rw [Option.all_some, World.exited_eq there]
      exact World.Numbered.exited_of_phase numbered there (same ▸ other)

theorem did_checked (pidOnly : state.handle.source = .pid) {known : ProcessState}
    (ended : known = .exited → state.Ended followed linux) :
    Did followed linux state (state.checked deadline pause (pidExited known)) := by
  have mere (result : Except IoError Bool) : state.handle.source = .exited → result = .ok true := by
    rw [pidOnly]
    exact fun other => nomatch other
  cases known with
  | exited =>
      have warranted : Warranted followed linux state deadline (.ok true) := ⟨fun _ => ended rfl, by simp, by simp, mere _⟩
      exact .finished warranted
  | unknown =>
      have warranted : Warranted followed linux state deadline (pidExited .unknown) :=
        ⟨by simp [pidExited], by simp [pidExited], by simp [pidExited], mere _⟩
      exact .finished warranted
  | alive =>
      simp only [pidExited, Following.checked]
      split
      · rename_i late
        refine .finished ⟨by simp, fun _ => ?_, fun _ other => absurd pidOnly other, mere _⟩
        exact passed_of_nextPause late
      · exact .moved fun _ => pidOnly

/-- A process that runs has its PID, so `/proc` shows its main thread. -/
theorem Follows.ended_of_stat (follows : Follows followed linux state) (pidOnly : state.handle.source = .pid)
    {found : Option Stat} {known : ProcessState} (possible : state.statPossible found = true)
    (decided : signalStat linux state.handle.pid.val (found.map Stat.text) = some known) :
    known = .exited → state.Ended followed linux := by
  rintro rfl
  obtain ⟨onLinux, stat, rfl, shown⟩ := signalStat_eq_exited decided
  cases first : state.first with
  | none => exact .inl (by simp [Following.gone, first])
  | some index =>
      obtain ⟨entry, there, same⟩ := follows.named first
      cases exited : entry.exited with
      | true => exact .inl (by simp [Following.gone, first, World.exited_eq there, exited])
      | false =>
          have holds := World.Numbered.entry follows.numbered there exited
          rw [Following.statPossible, ← same, holds, Option.any_some] at possible
          rw [statExited_text possible, exited, Bool.false_or] at shown
          refine .inr ⟨follows.pid pidOnly, onLinux, ?_⟩
          simp [Following.mainEnded, first, World.mainEnded, there, shown]

theorem phase_of_kill {errno : Option Int32} (possible : state.killPossible errno = true) :
    signalKill errno = .exited → state.phase ≠ some .running := by
  intro missing
  have none : errno = some 3 := by
    cases errno with
    | none => cases missing
    | some errno =>
        simp only [signalKill, livenessFromErrno] at missing
        grind
  subst none
  have free : state.phase = Option.none := by simpa [Following.killPossible] using possible
  rw [free]
  decide

theorem Follows.did (sys : Sys) (lawful : sys.Lawful) {label : Label sys.Reply} (follows : Follows followed linux state)
    (stepped : state.step sys linux label = some next) : Did followed linux state next := by
  cases label with
  | kernel event =>
      obtain ⟨world, after, rfl⟩ := Option.map_eq_some_iff.mp stepped
      exact .kernel after
  | call deadline =>
      simp only [Following.step] at stepped
      split at stepped
      · cases stepped
      · split at stepped
        · rename_i exited
          cases stepped
          exact .finished ⟨fun _ => follows.exited exited, by simp, by simp, fun _ => rfl⟩
        · cases stepped
          exact .moved (by simp [Call.polls])
        · rename_i pidOnly
          cases stepped
          exact .moved fun _ => pidOnly
  | answer reply =>
      simp only [Following.step] at stepped
      split at stepped
      · rename_i deadline asked process calling event
        have first := follows.event event
        have gone : state.gone = state.world.exited process := by simp [Following.gone, first]
        split at stepped
        · rename_i told
          split at stepped
          · cases stepped
            exact .moved (by simp [Call.polls])
          · rename_i result ended
            cases stepped
            have truth {value : Bool} (same : result = .ok value) := lawful.round told (same ▸ ended)
            refine .finished ⟨fun yes => ?_, fun no => ?_, fun no _ => ?_, fun other => ?_⟩
            · exact .inl (by rw [gone, ← (truth yes).1])
            · exact passed_eq_true.mpr ((truth no).2 rfl)
            · rw [gone, ← (truth no).1]
            · rw [event] at other
              cases other
        · cases stepped
      · cases stepped
  | stat found =>
      simp only [Following.step] at stepped
      split at stepped
      · rename_i deadline pause calling
        have pidOnly := follows.polls (by rw [calling]; rfl)
        split at stepped
        · rename_i possible
          split at stepped
          · cases stepped
            exact .moved fun _ => pidOnly
          · rename_i known decided
            cases stepped
            exact did_checked pidOnly (follows.ended_of_stat pidOnly possible decided)
        · cases stepped
      · cases stepped
  | kill errno =>
      simp only [Following.step] at stepped
      split at stepped
      · rename_i deadline pause calling
        have pidOnly := follows.polls (by rw [calling]; rfl)
        split at stepped
        · rename_i possible
          cases stepped
          refine did_checked pidOnly fun missing => .inl ?_
          exact gone_of_phase follows.numbered follows.named (phase_of_kill possible missing)
        · cases stepped
      · cases stepped
  | wake =>
      simp only [Following.step] at stepped
      split at stepped
      · rename_i deadline pause wake calling
        have pidOnly := follows.polls (by rw [calling]; rfl)
        split at stepped
        · split at stepped
          · rename_i late
            cases stepped
            refine .finished ⟨by simp, fun _ => late, fun _ other => absurd pidOnly other, fun other => ?_⟩
            rw [pidOnly] at other
            cases other
          · cases stepped
            exact .moved fun _ => pidOnly
        · cases stepped
      · cases stepped

/-- The calls tell the truth whatever a step does. -/
theorem Follows.after (follows : Follows followed linux state) (did : Did followed linux state next) :
    Follows followed linux next := by
  cases did with
  | kernel stepped =>
      have goes := World.goes_of_step stepped
      refine ⟨goes.numbered follows.numbered, fun first => ?_, follows.event, fun exited => ?_, follows.pid, follows.polls,
        follows.honest, follows.reported, follows.lasting⟩
      · obtain ⟨entry, there, named⟩ := follows.named first
        obtain ⟨later, found, becomes⟩ := goes.entry there
        exact ⟨later, found, becomes.pid.trans named⟩
      · exact (follows.exited exited).later goes
  | moved polls => exact { follows with polls := polls }
  | @finished deadline result warranted =>
      have honest : ∀ told ∈ (state.finish deadline result).told, told.Honest followed linux := by
        intro told there
        obtain there | there := List.mem_append.mp there
        · exact follows.honest told there
        · obtain rfl := List.mem_singleton.mp there
          refine ⟨warranted.yes, warranted.no, fun no followed => warranted.exact no fun pidOnly => ?_⟩
          rw [follows.pid pidOnly] at followed
          cases followed
      -- After an exit was reported the source is `exited`, and then a call can only report it again.
      have again : ∀ told ∈ state.told, told.result = .ok true → result = .ok true := fun told there yes =>
        warranted.exited (follows.reported ⟨told, there, yes⟩)
      have lasting : Lasting (state.finish deadline result).told := by
        refine List.pairwise_append.mpr ⟨follows.lasting, List.pairwise_singleton _ _, ?_⟩
        intro told there last also
        obtain rfl := List.mem_singleton.mp also
        exact again told there
      by_cases yes : result = .ok true
      · subst yes
        refine ⟨follows.numbered, follows.named, ?_, fun _ => warranted.yes rfl, ?_, by simp [Following.finish, Call.polls],
          honest, fun _ => rfl, lasting⟩
        · rw [finish_yes]
          exact fun other => nomatch other
        · rw [finish_yes]
          exact fun other => nomatch other
      · have same := finish_other state deadline yes
        refine ⟨follows.numbered, ?_, ?_, ?_, ?_, by simp [Following.finish, Call.polls], honest, ?_, lasting⟩
        · rw [same]
          exact follows.named
        · rw [same]
          exact follows.event
        · rw [same]
          exact follows.exited
        · rw [same]
          exact follows.pid
        · rintro ⟨told, there, reported⟩
          obtain there | there := List.mem_append.mp there
          · exact absurd (again told there reported) yes
          · obtain rfl := List.mem_singleton.mp there
            exact absurd reported yes

end

/-! ## Whole lives of handles -/

/-- The platforms that report an exit. -/
inductive Target where
  | pidfd
  | kqueue
  | windows
  deriving DecidableEq, Repr

def Target.sys : Target → Sys
  | .pidfd => Pidfd.sys
  | .kqueue => Kqueue.sys
  | .windows => WindowsEvent.sys

theorem Target.lawful (target : Target) : target.sys.Lawful := by
  cases target with
  | pidfd => exact Pidfd.lawful
  | kqueue => exact Kqueue.lawful
  | windows => exact WindowsEvent.lawful

/-- A handle that was just opened, with what the operating system can reply to that. -/
def Following.opened (sys : Sys) (world : World) (pid : ProcessId) (opening : sys.Opening) : Option Following :=
  let holder := world.holder pid.val.toNat
  if sys.opens (world.phase pid.val.toNat) opening then
    match sys.opened pid.val opening with
    | .error _ => none
    | .ok found => some { world, handle := .opened pid holder found, first := holder }
  else none

theorem follows_opened {sys : Sys} (lawful : sys.Lawful) {linux : Bool} {world : World} (numbered : world.Numbered)
    {pid : ProcessId} {opening : sys.Opening} {state : Following}
    (opened : Following.opened sys world pid opening = some state) :
    Follows (!state.handle.isPidOnly) linux state := by
  unfold Following.opened at opened
  dsimp only at opened
  split at opened
  · rename_i opens
    split at opened
    · cases opened
    · rename_i found read
      cases opened
      have named : ∀ {index}, world.holder pid.val.toNat = some index →
          ∃ entry, world.entries[index]? = some entry ∧ entry.pid = pid.val.toNat := by
        intro index holds
        obtain ⟨entry, there, -, same⟩ := Lib.Reuse.holder_spec holds
        exact ⟨entry, there, same⟩
      refine ⟨numbered, ?_, ?_, ?_, ?_, by simp [Call.polls], by simp, by simp, .nil⟩
      · cases found <;> exact named
      · intro process event
        cases found with
        | watching =>
            cases holds : world.holder pid.val.toNat with
            | none => simp [ProcessHandle.opened, holds] at event
            | some index =>
                simp only [ProcessHandle.opened, holds, Option.elim_some, Source.event.injEq] at event
                rw [event]
        | gone => cases event
        | unsupported => cases event
      · intro exited
        cases found with
        | watching =>
            cases holds : world.holder pid.val.toNat with
            | none => exact .inl rfl
            | some index => simp [ProcessHandle.opened, holds] at exited
        | gone => exact .inl (gone_of_phase numbered named (lawful.gone opens read))
        | unsupported => cases exited
      · intro pidOnly
        simpa [ProcessHandle.isPidOnly] using pidOnly
  · cases opened

def agent : ProcessId := ⟨41, by decide⟩

/-- A PID before and after another process gets it. -/
def reused : List (Label Pidfd.sys.Reply) :=
  [.call (some 5), .kernel (.pass 1_000_000), .answer (.ok 0), .kernel (.exit 0), .kernel (.reap 0), .kernel (.spawn 41 false),
    .call none, .answer (.error ⟨.interrupted, .os 4⟩), .answer (.ok Pidfd.POLLIN), .call (some 3)]

def openedAgent : Following where
  world := { entries := [{ pid := 41 }] }
  handle := ⟨agent, .event 0⟩
  first := some 0

-- Without a pidfd Linux reports the exit of a process that runs, once its main thread has ended.
example : (replay (Following.step Pidfd.sys true)
      [.kernel (.mainEnds 0), .call none, .stat (some ⟨['4', '1'], ['a'], 'Z', ['1']⟩)]
      { openedAgent with handle := ⟨agent, .pid⟩ }).map
    (fun last => last.told.map fun told => (told.result.toOption, told.exited, told.mainEnded)) =
      some [(some true, false, true)] := rfl

end KunobiDaemon.Process
