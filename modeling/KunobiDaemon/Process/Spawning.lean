import KunobiDaemon.Process.Handle

/-! Spawning a child while SIGCHLD has its default disposition, and watching it from then on.

The relay ignores SIGCHLD, so that the kernel reaps its children. `spawn_then` suspends that for as
long as it takes to start a child and to open a handle for it. Any number of threads spawn; the
lock admits one of them at a time. The application may start children of its own at any time, and
wait for any child. What it waits for before `spawn_then` has returned it is out of the relay's hands:
its PID may belong to another process by then.
-/

set_option autoImplicit false

namespace KunobiDaemon.Process

open Lib.Systems

/-- `SIG_DFL` -/
def DEFAULT : Nat := 0

/-- `SIG_IGN` -/
def IGNORE : Nat := 1

/-- A child, with the handle that was opened for it. -/
structure Started where
  child : Nat
  handle : Option ProcessHandle

/-- Where the thread that holds the spawn lock stands in `spawn_then`. -/
inductive Stage where
  | entered
  | normal (previous : Nat)
  | spawned (previous child : Nat) (pid : ProcessId)
  -- The watch failed: the child is killed, then waited for.
  | unwatched (previous child : Nat) (pid : ProcessId) (error : IoError)
  | stopping (previous child : Nat) (pid : ProcessId) (error : IoError)
  | closing (previous : Nat) (result : Except IoError Started)
  | reaping (result : Except IoError Started)
  | leaving (result : Except IoError Started)

/-- The child that only `spawn_then` can wait for yet. -/
def Stage.child : Stage → Option (Nat × ProcessId)
  | .spawned _ child pid | .unwatched _ child pid _ | .stopping _ child pid _ => some (child, pid)
  | .entered | .normal _ | .closing _ _ | .reaping _ | .leaving _ => none

structure Relay where
  world : World
  /-- The disposition of SIGCHLD, `SIG_DFL`, `SIG_IGN` or a handler. -/
  disposition : Nat
  /-- Who holds the spawn lock. -/
  inside : Option Stage := none
  returned : List (Except IoError Started) := []
  /-- The child each signal was meant for, and the process it reached. -/
  signals : List (Nat × Option Nat) := []
  /-- Whether a disposition could not be restored. -/
  failed : Bool := false

inductive Act (sys : Sys) where
  | kernel (event : Event)
  | enter
  | suspend (reply : Except IoError Unit)
  | spawn (reply : Except IoError ProcessId)
  | watch (opening : sys.Opening)
  | pass
  | kill
  | wait (succeeds : Bool)
  | restore (reply : Except IoError Unit)
  | reap (reply : Option (Option Nat))
  | leave

namespace Relay

def signal (relay : Relay) (disposition : Nat) : Relay :=
  { relay with disposition, world := { relay.world with ignoring := disposition = IGNORE } }

def at_ (relay : Relay) (stage : Stage) : Relay := { relay with inside := some stage }

def quiet (world : World) : Bool := world.entries.all fun entry => !(entry.own && entry.phase = .zombie)

def step (sys : Sys) (relay : Relay) : Act sys → Option Relay
  | .kernel event => (relay.world.step event).map fun world => { relay with world }
  | .enter =>
      match relay.inside with
      | none => some (relay.at_ .entered)
      | some _ => none
  | .suspend reply =>
      match relay.inside, reply with
      | some .entered, .ok () => some ((relay.signal DEFAULT).at_ (.normal relay.disposition))
      | some .entered, .error error => some (relay.at_ (.leaving (.error error)))
      | _, _ => none
  | .spawn reply =>
      match relay.inside, reply with
      | some (.normal previous), .error error => some (relay.at_ (.closing previous (.error error)))
      | some (.normal previous), .ok pid =>
          (relay.world.step (.spawn pid.val.toNat true)).map fun world =>
            { relay with world }.at_ (.spawned previous relay.world.entries.length pid)
      | _, _ => none
  | .watch opening =>
      match relay.inside with
      | some (.spawned previous child pid) =>
          if sys.opens (relay.world.phase pid.val.toNat) opening then
            match sys.opened pid.val opening with
            | .ok found =>
                let handle := ProcessHandle.opened pid (relay.world.holder pid.val.toNat) found
                some (relay.at_ (.closing previous (.ok ⟨child, some handle⟩)))
            | .error error => some (relay.at_ (.unwatched previous child pid error))
          else none
      | _ => none
  -- `spawn_with_child_waiting` opens no handle.
  | .pass =>
      match relay.inside with
      | some (.spawned previous child _) => some (relay.at_ (.closing previous (.ok ⟨child, none⟩)))
      | _ => none
  | .kill =>
      match relay.inside with
      | some (.unwatched previous child pid error) =>
          some { relay.at_ (.stopping previous child pid error) with
            signals := relay.signals ++ [(child, relay.world.holder pid.val.toNat)] }
      | _ => none
  | .wait succeeds =>
      match relay.inside with
      | some (.stopping previous child _ error) =>
          if succeeds then
            (relay.world.step (.reap child)).map fun world => { relay with world }.at_ (.closing previous (.error error))
          else some (relay.at_ (.closing previous (.error error)))
      | _ => none
  | .restore reply =>
      match relay.inside, reply with
      | some (.closing previous result), .ok () =>
          some ((relay.signal previous).at_ (if previous = IGNORE then .reaping result else .leaving result))
      | some (.closing _ _), .error error => some { relay.at_ (.leaving (.error error)) with failed := true }
      | _, _ => none
  -- `waitpid(-1, _, WNOHANG)`: interrupted, a child, or none left.
  | .reap reply =>
      match relay.inside, reply with
      | some (.reaping _), none => some relay
      | some (.reaping _), some (some child) =>
          if (relay.world.entries[child]?).any Entry.own then
            (relay.world.step (.reap child)).map fun world => { relay with world }
          else none
      | some (.reaping result), some none => if quiet relay.world then some (relay.at_ (.leaving result)) else none
      | _, _ => none
  | .leave =>
      match relay.inside with
      | some (.leaving result) => some { relay with inside := none, returned := relay.returned ++ [result] }
      | _ => none

/-- Whether an act leaves the child of a spawn under way to `spawn_then`. -/
def spares {sys : Sys} (relay : Relay) : Act sys → Bool
  | .kernel (.reap index) => (relay.inside.bind Stage.child).all fun (child, _) => child ≠ index
  | _ => true

/-- Nobody else waits for a child before `spawn_then` has returned it. -/
def undisturbed (sys : Sys) : List (Act sys) → Relay → Bool
  | [], _ => true
  | act :: rest, relay => relay.spares act && (relay.step sys act).all fun next => undisturbed sys rest next

end Relay

/-! ## What holds throughout -/

/-- A child and a handle that follows it, and no other process. -/
def Started.Own (world : World) (started : Started) : Prop :=
  ∃ entry, world.entries[started.child]? = some entry ∧ entry.own = true ∧
    ∀ handle, started.handle = some handle → entry.pid = handle.pid.val.toNat ∧
      (∀ process, handle.source = .event process → process = started.child) ∧
      (handle.source = .exited → entry.exited = true)

theorem Started.Own.later {world after : World} {started : Started} (own : started.Own world) (goes : world.Goes after) :
    started.Own after := by
  obtain ⟨entry, there, child, follows⟩ := own
  obtain ⟨later, found, becomes⟩ := goes.entry there
  refine ⟨later, found, becomes.own.trans child, fun handle opened => ?_⟩
  obtain ⟨named, event, exited⟩ := follows handle opened
  exact ⟨becomes.pid.trans named, event, fun gone => becomes.exited (exited gone)⟩

/-- A child in the window has not been reaped, so its PID is its own. -/
def Waits (world : World) (child : Nat) (pid : ProcessId) : Prop :=
  ∃ entry, world.entries[child]? = some entry ∧ entry.own = true ∧ entry.held = true ∧ entry.pid = pid.val.toNat

/-- The disposition at each stage, with what it was at first. -/
def Suspended (initial : Nat) (relay : Relay) : Option Stage → Prop
  | none | some .entered | some (.leaving _) =>
      relay.failed = true ∨ relay.disposition = initial ∧ (initial = IGNORE → Relay.quiet relay.world = true)
  | some (.normal previous) | some (.spawned previous _ _) | some (.unwatched previous _ _ _)
  | some (.stopping previous _ _ _) | some (.closing previous _) =>
      relay.disposition = DEFAULT ∧ (relay.failed = true ∨ previous = initial)
  | some (.reaping _) => relay.disposition = IGNORE ∧ (relay.failed = true ∨ initial = IGNORE)

/-- The result a stage is about to return. -/
def Stage.result : Stage → Option (Except IoError Started)
  | .closing _ result | .reaping result | .leaving result => some result
  | _ => none

/-- The children are followed as long as the relay is undisturbed. -/
structure Kept (initial : Nat) (undisturbed : Prop) (relay : Relay) : Prop where
  numbered : relay.world.Numbered
  ignoring : relay.world.ignoring = decide (relay.disposition = IGNORE)
  suspended : Suspended initial relay relay.inside
  child : undisturbed → ∀ {child pid}, relay.inside.bind Stage.child = some (child, pid) → Waits relay.world child pid
  result : undisturbed → ∀ {started}, relay.inside.bind Stage.result = some (.ok started) → started.Own relay.world
  returned : undisturbed → ∀ {started}, .ok started ∈ relay.returned → started.Own relay.world
  signals : undisturbed → ∀ sent ∈ relay.signals, sent.2 = some sent.1

section

variable {initial : Nat} {undisturbed : Prop} {relay next : Relay} {world after : World} {event : Event} {child : Nat} {pid : ProcessId}

theorem Waits.holder (waits : Waits world child pid) (numbered : world.Numbered) :
    world.holder pid.val.toNat = some child := by
  obtain ⟨entry, there, -, held, named⟩ := waits
  rw [← named]
  exact Lib.Reuse.Distinct.holder_eq numbered there held

theorem held_of_change {index : Nat} {changed entry later : Entry} (there : world.entries[child]? = some entry)
    (held : entry.held = true) (still : index = child → changed.held = true)
    (found : (world.change index changed).entries[child]? = some later) : later.held = true := by
  simp only [World.change, List.getElem?_set] at found
  split at found
  · rename_i same
    split at found
    · cases found
      exact still same
    · cases found
  · rw [there] at found
    cases found
    exact held

/-- With SIGCHLD at its default a child that exits keeps its PID until it is waited for. -/
theorem Waits.later (waits : Waits world child pid) (noticed : world.ignoring = false)
    (unreaped : event ≠ .reap child) (stepped : world.step event = some after) : Waits after child pid := by
  obtain ⟨entry, there, own, held, named⟩ := waits
  obtain ⟨later, found, becomes⟩ := (World.goes_of_step stepped).entry there
  refine ⟨later, found, becomes.own.trans own, ?_, becomes.pid.trans named⟩
  cases World.took stepped with
  | spawn free =>
      rw [List.getElem?_append_left (List.getElem?_eq_some_iff.mp there).1, there] at found
      cases found
      exact held
  | mainEnds here running => exact held_of_change there held (fun _ => by simp [Entry.held, running]) found
  | exit here running => exact held_of_change there held (fun _ => by simp [Entry.held, noticed]) found
  | reap here zombie => exact held_of_change there held (fun same => absurd (by rw [same]) unreaped) found
  | pass =>
      rw [there] at found
      cases found
      exact held

theorem quiet_iff : Relay.quiet world = true ↔ ∀ entry ∈ world.entries, entry.own = true → entry.phase ≠ .zombie := by
  simp only [Relay.quiet, List.all_eq_true, Bool.not_eq_true', Bool.and_eq_false_imp, decide_eq_false_iff_not, ne_eq]

/-- With SIGCHLD ignored no child becomes a zombie. -/
theorem quiet_later (quiet : Relay.quiet world = true) (ignored : world.ignoring = true)
    (stepped : world.step event = some after) : Relay.quiet after = true := by
  rw [quiet_iff] at quiet ⊢
  cases World.took stepped with
  | spawn free =>
      intro entry there own
      obtain there | there := List.mem_append.mp there
      · exact quiet entry there own
      · obtain rfl := List.mem_singleton.mp there
        exact Phase.noConfusion
  | mainEnds here running =>
      intro entry there own
      obtain there | rfl := List.mem_or_eq_of_mem_set there
      · exact quiet entry there own
      · simp [running]
  | @exit index one here running =>
      intro entry there own
      obtain there | rfl := List.mem_or_eq_of_mem_set there
      · exact quiet entry there own
      · have child : one.own = true := own
        simp [child, ignored]
  | reap here zombie =>
      intro entry there own
      obtain there | rfl := List.mem_or_eq_of_mem_set there
      · exact quiet entry there own
      · exact Phase.noConfusion
  | pass => exact quiet

/-- While it waits for a child of its own, the relay does not ignore SIGCHLD. -/
theorem Kept.noticed (kept : Kept initial undisturbed relay) (own : relay.inside.bind Stage.child = some (child, pid)) :
    relay.world.ignoring = false := by
  have suspended := kept.suspended
  rw [kept.ignoring, decide_eq_false_iff_not]
  cases inside : relay.inside with
  | none => simp [inside] at own
  | some stage =>
      rw [inside] at suspended own
      cases stage with
      | spawned | unwatched | stopping =>
          rw [suspended.1]
          decide
      | entered | normal | closing | reaping | leaving => cases own

theorem Suspended.later {stage : Option Stage} (suspended : Suspended initial relay stage)
    (quiet : relay.disposition = IGNORE → Relay.quiet relay.world = true → Relay.quiet world = true) :
    Suspended initial { relay with world } stage := by
  have between (idle : relay.failed = true ∨ relay.disposition = initial ∧
        (initial = IGNORE → Relay.quiet relay.world = true)) :
      relay.failed = true ∨ relay.disposition = initial ∧ (initial = IGNORE → Relay.quiet world = true) :=
    idle.imp_right fun still => ⟨still.1, fun ignored => quiet (still.1.trans ignored) (still.2 ignored)⟩
  cases stage with
  | none => exact between suspended
  | some stage =>
      cases stage with
      | entered | leaving => exact between suspended
      | normal | spawned | unwatched | stopping | closing | reaping => exact suspended

theorem Kept.kernel (kept : Kept initial undisturbed relay) (stepped : relay.world.step event = some world)
    (spared : undisturbed → ∀ {child pid}, relay.inside.bind Stage.child = some (child, pid) → event ≠ .reap child) :
    Kept initial undisturbed { relay with world } := by
  have goes := World.goes_of_step stepped
  have same : world.ignoring = relay.world.ignoring := by cases World.took stepped <;> rfl
  refine ⟨goes.numbered kept.numbered, same.trans kept.ignoring, ?_, ?_,
    fun sole _ result => (kept.result sole result).later goes,
    fun sole _ returned => (kept.returned sole returned).later goes, kept.signals⟩
  · apply kept.suspended.later
    intro ignored quiet
    exact quiet_later quiet (kept.ignoring.trans (decide_eq_true ignored)) stepped
  · intro sole child pid own
    exact (kept.child sole own).later (kept.noticed own) (spared sole own) stepped

/-- A stage that the disposition allows, and what it says of its child and its result. -/
theorem Kept.moves (kept : Kept initial undisturbed relay) {stage : Stage}
    (suspended : Suspended initial relay (some stage))
    (own : undisturbed → ∀ {child pid}, stage.child = some (child, pid) → Waits relay.world child pid)
    (result : undisturbed → ∀ {started}, stage.result = some (.ok started) → started.Own relay.world) :
    Kept initial undisturbed (relay.at_ stage) where
  numbered := kept.numbered
  ignoring := kept.ignoring
  suspended := by cases stage <;> exact suspended
  child := own
  result := result
  returned := kept.returned
  signals := kept.signals

/-- The handle that `watched` opens follows the child. -/
theorem Waits.watched {sys : Sys} (lawful : sys.Lawful) (waits : Waits world child pid) (numbered : world.Numbered)
    {opening : sys.Opening} {found : Opened} (opens : sys.opens (world.phase pid.val.toNat) opening = true)
    (opened : sys.opened pid.val opening = .ok found) :
    Started.Own world ⟨child, some (.opened pid (world.holder pid.val.toNat) found)⟩ := by
  have holder := waits.holder numbered
  obtain ⟨entry, there, own, held, named⟩ := waits
  refine ⟨entry, there, own, fun handle same => ?_⟩
  cases same
  rw [holder]
  refine ⟨by cases found <;> exact named, fun process event => ?_, fun exited => ?_⟩
  · cases found with
    | watching =>
        cases event
        rfl
    | gone | unsupported => cases event
  · cases found with
    | gone =>
        apply World.Numbered.exited_of_phase numbered there
        rw [named]
        exact lawful.gone opens opened
    | watching | unsupported => cases exited

/-- The disposition is set by the thread in the window only. -/
theorem Kept.sets (kept : Kept initial undisturbed relay) {stage : Stage} {disposition : Nat}
    (suspended : Suspended initial (relay.signal disposition) (some stage)) (own : stage.child = none)
    (result : undisturbed → ∀ {started}, stage.result = some (.ok started) → started.Own relay.world) :
    Kept initial undisturbed ((relay.signal disposition).at_ stage) where
  numbered := kept.numbered
  ignoring := rfl
  suspended := by cases stage <;> exact suspended
  child := by simp [Relay.at_, own]
  result := result
  returned := kept.returned
  signals := kept.signals

/-- What was kept before an act of the kernel or of the thread in the window is kept after it. -/
theorem Kept.step {sys : Sys} (lawful : sys.Lawful) (kept : Kept initial undisturbed relay) {act : Act sys}
    (spares : undisturbed → relay.spares act = true) (stepped : relay.step sys act = some next) :
    Kept initial undisturbed next := by
  have suspended := kept.suspended
  have waits := @kept.child
  have results := @kept.result
  cases act with
  | kernel event =>
      obtain ⟨world, went, rfl⟩ := Option.map_eq_some_iff.mp stepped
      refine kept.kernel went fun sole child pid own => ?_
      rintro rfl
      simpa [Relay.spares, own] using spares sole
  | enter =>
      simp only [Relay.step] at stepped
      split at stepped
      · rename_i inside
        cases stepped
        rw [inside] at suspended
        exact kept.moves suspended (by simp [Stage.child]) (by simp [Stage.result])
      · cases stepped
  | suspend reply =>
      simp only [Relay.step] at stepped
      split at stepped
      · rename_i inside
        cases stepped
        rw [inside] at suspended
        apply kept.sets _ rfl (by simp [Stage.result])
        exact ⟨rfl, suspended.imp_right And.left⟩
      · rename_i inside
        cases stepped
        rw [inside] at suspended
        exact kept.moves suspended (by simp [Stage.child]) (by simp [Stage.result])
      · cases stepped
  | spawn reply =>
      simp only [Relay.step] at stepped
      split at stepped
      · rename_i inside
        cases stepped
        rw [inside] at suspended
        exact kept.moves suspended (by simp [Stage.child]) (by simp [Stage.result])
      · rename_i pid inside
        obtain ⟨world, went, rfl⟩ := Option.map_eq_some_iff.mp stepped
        rw [inside] at suspended
        refine (kept.kernel went (by simp)).moves suspended ?_ (by simp [Stage.result])
        intro _ child named same
        cases same
        cases World.took went with
        | spawn free => exact ⟨_, List.getElem?_concat_length, rfl, rfl, rfl⟩
      · cases stepped
  | watch opening =>
      simp only [Relay.step] at stepped
      split at stepped
      · rename_i previous child pid inside
        rw [inside] at suspended waits
        split at stepped
        · rename_i opens
          split at stepped
          · rename_i found opened
            cases stepped
            refine kept.moves suspended (by simp [Stage.child]) ?_
            intro sole started same
            cases same
            exact (waits sole rfl).watched lawful kept.numbered opens opened
          · cases stepped
            exact kept.moves suspended waits (by simp [Stage.result])
        · cases stepped
      · cases stepped
  | pass =>
      simp only [Relay.step] at stepped
      split at stepped
      · rename_i previous child pid inside
        cases stepped
        rw [inside] at suspended waits
        refine kept.moves suspended (by simp [Stage.child]) ?_
        intro sole started same
        cases same
        obtain ⟨entry, there, own, -, -⟩ := waits sole rfl
        exact ⟨entry, there, own, by simp⟩
      · cases stepped
  | kill =>
      simp only [Relay.step] at stepped
      split at stepped
      · rename_i previous child pid error inside
        cases stepped
        rw [inside] at suspended waits
        have moved : Kept initial undisturbed (relay.at_ (.stopping previous child pid error)) :=
          kept.moves suspended waits (by simp [Stage.result])
        refine { moved with signals := ?_ }
        intro sole sent among
        obtain among | among := List.mem_append.mp among
        · exact kept.signals sole sent among
        · rw [List.mem_singleton.mp among]
          -- The child has not been waited for: no other process has its PID.
          exact (waits sole rfl).holder kept.numbered
      · cases stepped
  | wait succeeds =>
      simp only [Relay.step] at stepped
      split at stepped
      · rename_i previous child pid error inside
        rw [inside] at suspended
        have moved : Kept initial undisturbed (relay.at_ (.closing previous (.error error))) :=
          kept.moves suspended (by simp [Stage.child]) (by simp [Stage.result])
        split at stepped
        · obtain ⟨world, went, rfl⟩ := Option.map_eq_some_iff.mp stepped
          exact moved.kernel went (by simp [Relay.at_, Stage.child])
        · cases stepped
          exact moved
      · cases stepped
  | restore reply =>
      simp only [Relay.step] at stepped
      split at stepped
      · rename_i previous result inside
        cases stepped
        rw [inside] at suspended results
        split
        · rename_i ignored
          exact kept.sets ⟨ignored, suspended.2.imp_right fun same => same.symm.trans ignored⟩ rfl results
        · rename_i noticed
          refine kept.sets ?_ rfl results
          exact suspended.2.imp_right fun same => ⟨same, fun ignored => absurd (same.trans ignored) noticed⟩
      · rename_i error inside
        cases stepped
        exact ⟨kept.numbered, kept.ignoring, .inl rfl, by simp [Relay.at_, Stage.child],
          by simp [Relay.at_, Stage.result], kept.returned, kept.signals⟩
      · cases stepped
  | reap reply =>
      simp only [Relay.step] at stepped
      split at stepped
      · cases stepped
        exact kept
      · rename_i inside
        split at stepped
        · obtain ⟨world, went, rfl⟩ := Option.map_eq_some_iff.mp stepped
          exact kept.kernel went (by simp [inside, Stage.child])
        · cases stepped
      · rename_i result inside
        rw [inside] at suspended results
        split at stepped
        · rename_i quiet
          cases stepped
          refine kept.moves ?_ (by simp [Stage.child]) results
          exact suspended.2.imp_right fun ignored => ⟨suspended.1.trans ignored.symm, fun _ => quiet⟩
        · cases stepped
      · cases stepped
  | leave =>
      simp only [Relay.step] at stepped
      split at stepped
      · rename_i result inside
        cases stepped
        rw [inside] at suspended results
        refine ⟨kept.numbered, kept.ignoring, suspended, by simp, by simp, ?_, kept.signals⟩
        intro sole started among
        obtain among | among := List.mem_append.mp among
        · exact kept.returned sole among
        · exact results sole (congrArg some (List.mem_singleton.mp among).symm)
      · cases stepped

end

/-- A relay in which nobody spawns yet. -/
def Relay.start (world : World) (disposition : Nat) : Relay :=
  { world := { world with ignoring := disposition = IGNORE }, disposition }

theorem kept_start {undisturbed : Prop} {world : World} {disposition : Nat} (numbered : world.Numbered)
    (quiet : disposition = IGNORE → Relay.quiet world = true) :
    Kept disposition undisturbed (.start world disposition) where
  numbered := numbered
  ignoring := rfl
  suspended := .inr ⟨rfl, quiet⟩
  child := by simp [Relay.start]
  result := by simp [Relay.start]
  returned := by simp [Relay.start]
  signals := by simp [Relay.start]

theorem Kept.replay {sys : Sys} (lawful : sys.Lawful) {initial : Nat} {undisturbed : Prop} {acts : List (Act sys)}
    {relay last : Relay} (kept : Kept initial undisturbed relay)
    (sole : undisturbed → relay.undisturbed sys acts = true) (ran : replay (Relay.step sys) acts relay = some last) :
    Kept initial undisturbed last := by
  induction acts generalizing relay with
  | nil =>
      cases ran
      exact kept
  | cons act rest ih =>
      simp only [Lib.Systems.replay, Option.bind_eq_some_iff] at ran
      obtain ⟨next, stepped, ran⟩ := ran
      have spared (alone : undisturbed) : relay.spares act = true ∧ next.undisturbed sys rest = true := by
        simpa [Relay.undisturbed, stepped] using sole alone
      exact ih (kept.step lawful (fun alone => (spared alone).1) stepped) (fun alone => (spared alone).2) ran

def helper : ProcessId := ⟨42, by decide⟩

/-- A child exits in the window before the relay opens its handle; another gets its PID afterwards. The
watch of a third fails. -/
def windowed : List (Act Pidfd.sys) :=
  [.enter, .suspend (.ok ()), .spawn (.ok agent), .kernel (.exit 0), .watch (.ok ()), .restore (.ok ()),
    .reap none, .reap (some (some 0)), .reap (some none), .kernel (.spawn 41 true), .leave,
    .enter, .suspend (.ok ()), .spawn (.ok helper), .watch (.error ⟨.other, .os 24⟩), .kill, .kernel (.exit 2),
    .wait true, .restore (.ok ()), .reap (some none), .leave]

end KunobiDaemon.Process
