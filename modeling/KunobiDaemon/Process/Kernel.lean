import KunobiDaemon.Lib.Reuse
import KunobiDaemon.Time

/-! Processes as the operating system keeps them, and their numbers, which are used again.

A process keeps its PID until it is reaped. The exit of a child is reaped at once where this
process ignores SIGCHLD. A process whose main thread has ended runs on for as long as it has
other threads.
-/

set_option autoImplicit false

namespace KunobiDaemon.Process

open Lib.Reuse

inductive Phase where
  | running
  | zombie
  | reaped
  deriving DecidableEq, Repr

structure Entry where
  pid : Nat
  phase : Phase := .running
  /-- A child of this process. -/
  own : Bool := false
  /-- Whether the main thread has ended. -/
  mainEnded : Bool := false
  deriving DecidableEq, Repr

namespace Entry

def held (entry : Entry) : Bool := entry.phase ≠ .reaped

def exited (entry : Entry) : Bool := entry.phase ≠ .running

/-- What one process can become. -/
structure Becomes (before after : Entry) : Prop where
  pid : after.pid = before.pid
  own : after.own = before.own
  exited : before.exited = true → after.exited = true
  mainEnded : before.mainEnded = true → after.mainEnded = true
  held : after.held = true → before.held = true

theorem Becomes.refl (entry : Entry) : entry.Becomes entry := ⟨rfl, rfl, id, id, id⟩

theorem exited_of_not_held {entry : Entry} (gone : entry.held = false) : entry.exited = true := by
  unfold held at gone
  unfold exited
  cases phase : entry.phase with
  | running => simp [phase] at gone
  | zombie | reaped => rfl

end Entry

/-- Every process there ever was, in the order they were started. -/
structure World where
  entries : List Entry := []
  now : Instant := 0
  /-- Whether this process ignores SIGCHLD. -/
  ignoring : Bool := false
  deriving DecidableEq, Repr

inductive Event where
  | spawn (pid : Nat) (own : Bool)
  | mainEnds (index : Nat)
  | exit (index : Nat)
  | reap (index : Nat)
  | pass (time : Duration)
  deriving DecidableEq, Repr

namespace World

def holder (world : World) (pid : Nat) : Option Nat := Lib.Reuse.holder Entry.pid Entry.held world.entries pid

/-- The process that has a PID. -/
def entry (world : World) (pid : Nat) : Option Entry := (world.holder pid).bind fun index => world.entries[index]?

def phase (world : World) (pid : Nat) : Option Phase := (world.entry pid).map Entry.phase

def change (world : World) (index : Nat) (entry : Entry) : World := { world with entries := world.entries.set index entry }

def step (world : World) : Event → Option World
  | .spawn pid own =>
      if (world.holder pid).isSome then none
      else some { world with entries := world.entries ++ [{ pid := pid, own := own }] }
  | .mainEnds index =>
      match world.entries[index]? with
      | none => none
      | some entry =>
          if entry.phase = .running then some (world.change index { entry with mainEnded := true }) else none
  | .exit index =>
      match world.entries[index]? with
      | none => none
      | some entry =>
          if entry.phase = .running then
            some (world.change index { entry with phase := if entry.own && world.ignoring then .reaped else .zombie })
          else none
  | .reap index =>
      match world.entries[index]? with
      | none => none
      | some entry =>
          if entry.phase = .zombie then some (world.change index { entry with phase := .reaped }) else none
  | .pass time => some { world with now := world.now + time }

/-- All that a step can do. -/
inductive Took (world : World) : Event → World → Prop where
  | spawn {pid : Nat} {own : Bool} : world.holder pid = none →
      Took world (.spawn pid own) { world with entries := world.entries ++ [{ pid := pid, own := own }] }
  | mainEnds {index : Nat} {entry : Entry} : world.entries[index]? = some entry → entry.phase = .running →
      Took world (.mainEnds index) (world.change index { entry with mainEnded := true })
  | exit {index : Nat} {entry : Entry} : world.entries[index]? = some entry → entry.phase = .running →
      Took world (.exit index)
        (world.change index { entry with phase := if entry.own && world.ignoring then .reaped else .zombie })
  | reap {index : Nat} {entry : Entry} : world.entries[index]? = some entry → entry.phase = .zombie →
      Took world (.reap index) (world.change index { entry with phase := .reaped })
  | pass {time : Duration} : Took world (.pass time) { world with now := world.now + time }

/-- An event that needs a process in some phase. -/
theorem changed_of_phase {world next : World} {index : Nat} {phase : Phase} {becomes : Entry → Entry}
    (stepped : (match world.entries[index]? with
      | none => none
      | some entry => if entry.phase = phase then some (world.change index (becomes entry)) else none) = some next) :
    ∃ entry, world.entries[index]? = some entry ∧ entry.phase = phase ∧ next = world.change index (becomes entry) := by
  split at stepped
  · cases stepped
  · rename_i entry there
    split at stepped
    · rename_i here
      cases stepped
      exact ⟨entry, there, here, rfl⟩
    · cases stepped

theorem took {world next : World} {event : Event} (stepped : world.step event = some next) : world.Took event next := by
  cases event with
  | spawn pid own =>
      simp only [step] at stepped
      split at stepped
      · cases stepped
      · rename_i free
        cases stepped
        exact .spawn (Option.not_isSome_iff_eq_none.mp free)
  | mainEnds index =>
      obtain ⟨entry, there, running, rfl⟩ := changed_of_phase stepped
      exact .mainEnds there running
  | exit index =>
      obtain ⟨entry, there, running, rfl⟩ := changed_of_phase stepped
      exact .exit there running
  | reap index =>
      obtain ⟨entry, there, zombie, rfl⟩ := changed_of_phase stepped
      exact .reap there zombie
  | pass time =>
      cases stepped
      exact .pass

/-- No two processes have one PID at a time. -/
def Numbered (world : World) : Prop := Distinct Entry.pid Entry.held world.entries

/-- What becomes of the processes there are. -/
structure Goes (before after : World) : Prop where
  entry : ∀ {index : Nat} {entry : Entry}, before.entries[index]? = some entry →
    ∃ later, after.entries[index]? = some later ∧ entry.Becomes later
  now : before.now ≤ after.now
  numbered : before.Numbered → after.Numbered

theorem goes_change {world : World} {index : Nat} {entry changed : Entry} (there : world.entries[index]? = some entry)
    (becomes : entry.Becomes changed) : world.Goes (world.change index changed) where
  entry := by
    intro position one found
    simp only [change, List.getElem?_set]
    split
    · rename_i same
      subst same
      rw [there] at found
      cases found
      rw [if_pos (List.getElem?_eq_some_iff.mp there).1]
      exact ⟨changed, rfl, becomes⟩
    · exact ⟨one, found, .refl one⟩
  now := Nat.le_refl _
  numbered numbered := numbered.set there becomes.pid becomes.held

theorem goes_of_step {world next : World} {event : Event} (stepped : world.step event = some next) :
    world.Goes next := by
  cases took stepped with
  | spawn free =>
      refine ⟨fun there => ⟨_, ?_, .refl _⟩, Nat.le_refl _, fun numbered => ?_⟩
      · rw [List.getElem?_append_left (List.getElem?_eq_some_iff.mp there).1]
        exact there
      · apply Distinct.append numbered
        exact free
  | mainEnds there running => exact goes_change there ⟨rfl, rfl, id, fun _ => rfl, id⟩
  | exit there running =>
      apply goes_change there
      refine ⟨rfl, rfl, ?_, id, ?_⟩ <;> simp [Entry.exited, Entry.held, running]
  | reap there zombie =>
      apply goes_change there
      refine ⟨rfl, rfl, ?_, id, ?_⟩ <;> simp [Entry.exited, Entry.held]
  | pass => exact ⟨fun there => ⟨_, there, .refl _⟩, Nat.le_add_right _ _, id⟩

def exited (world : World) (index : Nat) : Bool := (world.entries[index]?).any Entry.exited

def mainEnded (world : World) (index : Nat) : Bool := (world.entries[index]?).any Entry.mainEnded

theorem exited_eq {world : World} {index : Nat} {entry : Entry} (there : world.entries[index]? = some entry) :
    world.exited index = entry.exited := by
  simp [exited, there]

/-- What no process stops being once it is. -/
theorem Goes.lasts {before after : World} (goes : before.Goes after) {property : Entry → Bool}
    (lasts : ∀ {entry later : Entry}, entry.Becomes later → property entry = true → property later = true) {index : Nat}
    (holds : (before.entries[index]?).any property = true) : (after.entries[index]?).any property = true := by
  cases there : before.entries[index]? with
  | none => simp [there] at holds
  | some entry =>
      obtain ⟨later, found, becomes⟩ := goes.entry there
      rw [there, Option.any_some] at holds
      rw [found, Option.any_some]
      exact lasts becomes holds

theorem Goes.exited {before after : World} (goes : before.Goes after) {index : Nat}
    (exited : before.exited index = true) : after.exited index = true :=
  goes.lasts Entry.Becomes.exited exited

theorem Goes.mainEnded {before after : World} (goes : before.Goes after) {index : Nat}
    (ended : before.mainEnded index = true) : after.mainEnded index = true :=
  goes.lasts Entry.Becomes.mainEnded ended

/-- While a process has not exited, its PID is its own. -/
theorem Numbered.entry {world : World} (numbered : world.Numbered) {index : Nat} {entry : Entry}
    (there : world.entries[index]? = some entry) (running : entry.exited = false) :
    world.entry entry.pid = some entry := by
  have held : entry.held = true := by
    cases held : entry.held with
    | true => rfl
    | false => rw [Entry.exited_of_not_held held] at running; cases running
  rw [World.entry, World.holder, Distinct.holder_eq numbered there held]
  exact there

/-- A running process has its PID, so where the PID shows another phase it is not running. -/
theorem Numbered.exited_of_phase {world : World} (numbered : world.Numbered) {index : Nat} {entry : Entry}
    (there : world.entries[index]? = some entry) (other : world.phase entry.pid ≠ some .running) :
    entry.exited = true := by
  cases running : entry.exited with
  | true => rfl
  | false =>
      have phase : entry.phase = .running := by simpa [Entry.exited] using running
      have found := Numbered.entry numbered there running
      exact absurd (by simp [World.phase, found, phase]) other

end World

end KunobiDaemon.Process
