import KunobiDaemon.Lib.Interference
import KunobiDaemon.Local.ReadyPipe

/-! A readiness pipe and its operations, whatever the daemon, its launcher and the kernel do.

What was received, what a completed operation holds and what is left in the pipe are together what
the daemon wrote. Connecting, writing, closing and exiting keep that, wherever the reader stands.
-/

set_option autoImplicit false

namespace KunobiDaemon.Local.Ready

open Lib.Dialogues Lib.Interference

/-- Nothing more can be written. -/
def World.Gone (world : World) : Prop :=
  world.process = .failed ∨ world.process = .exited ∨ world.client = .closed

/-- The daemon was started. -/
def World.Started (world : World) : Prop := world.process = .running ∨ world.process = .exited

/-- What happens without the daemon: its handle is delivered, the event of a completed operation is set. -/
def Act.free : Act → Bool
  | .deliver | .signal => true
  | .spawn _ | .connect | .write _ | .close | .exit => false

/-- The reader between two answers. When the daemon is gone, it is not left waiting for it. -/
def setting : Setting Question.Reply World where
  answers world question reply after := world.answer question = some (reply, after)
  others world after := ∃ act, world.act act = some after
  able world question :=
    world.Gone → (world.answer question).isSome ∨ ∃ act : Act, act.free = true ∧ (world.act act).isSome

/-! ## What the others do -/

inductive Effect (world : World) : World → Prop where
  | spawned (succeeds : Bool) : world.process = .launching →
      Effect world { world with process := if succeeds then .running else .failed }
  | delivered : world.Started → Effect world { world with delivered := true }
  | connected : world.process = .running → world.client = .absent → world.operation ≠ some (.pending .connect) →
      Effect world { world with client := .opened }
  | accepted : world.process = .running → world.client = .absent → world.operation = some (.pending .connect) →
      Effect world ({ world with client := .opened }.complete (.ok []))
  | wrote {bytes : List UInt8} : world.process = .running → world.client = .opened →
      (∀ length, world.operation ≠ some (.pending (.read length))) →
      Effect world { world with written := world.written ++ bytes, buffer := world.buffer ++ bytes }
  | handed {bytes : List UInt8} {length : Nat} : world.process = .running → world.client = .opened →
      world.operation = some (.pending (.read length)) →
      Effect world ({ world with
        written := world.written ++ bytes
        buffer := (world.buffer ++ bytes).drop length }.complete (.ok ((world.buffer ++ bytes).take length)))
  | closed : world.client = .opened → (∀ length, world.operation ≠ some (.pending (.read length))) →
      Effect world { world with client := .closed }
  | broke {length : Nat} : world.client = .opened → world.operation = some (.pending (.read length)) →
      Effect world ({ world with client := .closed }.complete (.error .brokenPipe))
  | exited : world.process = .running → Effect world { world with process := .exited }
  | signalled {result : Except Code (List UInt8)} : world.operation = some (.completed result) →
      Effect world { world with signalled := true }

section
variable {world after : World}

theorem effect_of_act {act : Act} (acted : world.act act = some after) : Effect world after := by
  cases act with
  | spawn succeeds =>
      obtain ⟨launching, done⟩ := Option.ite_none_right_eq_some.mp acted
      cases done
      exact .spawned succeeds launching
  | deliver =>
      obtain ⟨⟨started, -⟩, done⟩ := Option.ite_none_right_eq_some.mp acted
      cases done
      exact .delivered started
  | connect =>
      obtain ⟨⟨running, absent⟩, done⟩ := Option.ite_none_right_eq_some.mp acted
      dsimp only at done
      split at done
      · rename_i pending
        cases done
        exact .accepted running absent pending
      · rename_i other
        cases done
        exact .connected running absent other
  | write bytes =>
      obtain ⟨⟨running, opened⟩, done⟩ := Option.ite_none_right_eq_some.mp acted
      dsimp only at done
      split at done
      · rename_i length pending
        cases done
        exact .handed running opened pending
      · rename_i other
        cases done
        exact .wrote running opened other
  | close =>
      obtain ⟨opened, done⟩ := Option.ite_none_right_eq_some.mp acted
      dsimp only at done
      split at done
      · rename_i length pending
        cases done
        exact .broke opened pending
      · rename_i other
        cases done
        exact .closed opened other
  | exit =>
      obtain ⟨running, done⟩ := Option.ite_none_right_eq_some.mp acted
      cases done
      exact .exited running
  | signal =>
      simp only [World.act] at acted
      split at acted
      · rename_i result completed
        obtain ⟨-, done⟩ := Option.ite_none_left_eq_some.mp acted
        cases done
        exact .signalled completed
      · cases acted

theorem stable_of_effect {P : World → Prop} (keeps : ∀ world after, P world → Effect world after → P after) :
    setting.Stable P := by
  rintro world after holds ⟨act, acted⟩
  exact keeps world after holds (effect_of_act acted)

theorem Effect.started (effect : Effect world after) (started : world.Started) : after.Started := by
  cases effect with
  | spawned succeeds launching =>
      rcases started with running | exited
      · cases launching.symm.trans running
      · cases launching.symm.trans exited
  | exited => exact .inr rfl
  | _ => exact started

theorem Effect.process_exited (effect : Effect world after) (exited : world.process = .exited) :
    after.process = .exited := by
  cases effect with
  | spawned succeeds launching => cases launching.symm.trans exited
  | exited running => rfl
  | _ => exact exited

theorem Effect.client_present (effect : Effect world after) (present : world.client ≠ .absent) :
    after.client ≠ .absent := by
  cases effect with
  | connected _ absent | accepted _ absent => exact absurd absent present
  | closed | broke => exact fun absent => by cases absent
  | _ => exact present

theorem Effect.client_closed (effect : Effect world after) (closed : world.client = .closed) : after.client = .closed := by
  cases effect with
  | connected _ absent | accepted _ absent => cases closed.symm.trans absent
  | closed | broke => rfl
  | _ => exact closed

theorem Effect.gone (effect : Effect world after) (gone : world.Gone) : after.Gone := by
  rcases gone with failed | exited | closed
  · refine .inl ?_
    cases effect with
    | spawned succeeds launching => cases launching.symm.trans failed
    | exited running => cases running.symm.trans failed
    | _ => exact failed
  · exact .inr (.inl (effect.process_exited exited))
  · exact .inr (.inr (effect.client_closed closed))

/-- A daemon that is gone writes no more. -/
theorem World.Gone.not_writing (gone : world.Gone) (running : world.process = .running) : world.client ≠ .opened := by
  intro opened
  rcases gone with failed | exited | closed
  · cases running.symm.trans failed
  · cases running.symm.trans exited
  · cases opened.symm.trans closed

theorem Effect.grows (effect : Effect world after) : world.written <+: after.written := by
  cases effect with
  | wrote | handed => exact List.prefix_append _ _
  | _ => exact List.prefix_rfl

theorem Effect.written (effect : Effect world after) (gone : world.Gone) : after.written = world.written := by
  cases effect with
  | wrote running opened | handed running opened => exact absurd opened (gone.not_writing running)
  | _ => rfl

end

/-! ## What is kept -/

/-- The bytes that a completed operation has put into the reader's buffer. -/
def World.carried (world : World) : List UInt8 :=
  match world.operation with
  | some (.completed (.ok bytes)) => bytes
  | _ => []

/-- What the calls received, with what has still to reach them, is what the daemon wrote. -/
structure Held (received : List UInt8) (world : World) : Prop where
  balance : received ++ world.carried ++ world.buffer = world.written
  silent : world.client = .absent → world.written = []
  unborn : ¬ world.Started → world.client = .absent
  delivered : world.delivered = true → world.Started
  connecting : world.operation = some (.pending .connect) → world.client = .absent
  reading : ∀ length, world.operation = some (.pending (.read length)) → world.buffer = [] ∧ world.client = .opened
  unsignalled : ∀ request, world.operation = some (.pending request) → world.signalled = false

section
variable {received : List UInt8} {world after : World}

theorem World.carried_idle (idle : world.operation = none) : world.carried = [] := by
  rw [carried, idle]

theorem World.carried_pending {request : Request} (pending : world.operation = some (.pending request)) :
    world.carried = [] := by
  rw [carried, pending]

theorem Effect.held (effect : Effect world after) (held : Held received world) : Held received after where
  balance := by
    cases effect with
    | wrote =>
        rw [← held.balance]
        exact (List.append_assoc _ _ _).symm
    | accepted _ _ pending =>
        have balance := held.balance
        rw [World.carried_pending pending] at balance
        exact balance
    | broke _ pending =>
        have balance := held.balance
        rw [World.carried_pending pending] at balance
        exact balance
    | handed _ _ pending =>
        have balance := held.balance
        rw [World.carried_pending pending, List.append_nil] at balance
        simp only [World.complete, World.carried, ← balance, List.append_assoc, List.take_append_drop]
    | _ => exact held.balance
  silent := by
    intro absent
    cases effect with
    | connected | accepted | closed | broke => cases absent
    | wrote _ opened | handed _ opened => cases opened.symm.trans absent
    | _ => exact held.silent absent
  unborn := by
    intro unborn
    have before := held.unborn fun started => unborn (effect.started started)
    cases effect with
    | connected running | accepted running => exact absurd (.inl running) unborn
    | closed opened | broke opened => cases before.symm.trans opened
    | _ => exact before
  delivered := by
    intro delivered
    cases effect with
    | delivered started => exact started
    | connected running | accepted running | wrote running | handed running => exact .inl running
    | exited => exact .inr rfl
    | spawned succeeds launching =>
        rcases held.delivered delivered with running | exited
        · cases launching.symm.trans running
        · cases launching.symm.trans exited
    | _ => exact held.delivered delivered
  connecting := by
    intro pending
    cases effect with
    | connected _ _ other => exact absurd pending other
    | accepted | handed | broke => cases pending
    | closed opened => cases opened.symm.trans (held.connecting pending)
    | _ => exact held.connecting pending
  reading := by
    intro length pending
    cases effect with
    | accepted | handed | broke => cases pending
    | connected _ absent => cases absent.symm.trans (held.reading length pending).2
    | wrote _ _ other | closed _ other => exact absurd pending (other length)
    | _ => exact held.reading length pending
  unsignalled := by
    intro request pending
    cases effect with
    | accepted | handed | broke => cases pending
    | signalled completed => cases completed.symm.trans pending
    | _ => exact held.unsignalled request pending

/-- An answer that leaves nothing pending. -/
theorem Held.update {more buffer : List UInt8} {operation : Option Operation} {signalled : Bool}
    (held : Held received world) (still : ∀ request, operation ≠ some (.pending request))
    (balance : more ++ { world with operation, buffer, signalled }.carried ++ buffer = world.written) :
    Held more { world with operation, buffer, signalled } where
  balance := balance
  silent := held.silent
  unborn := held.unborn
  delivered := held.delivered
  connecting pending := absurd pending (still _)
  reading _ pending := absurd pending (still _)
  unsignalled _ pending := absurd pending (still _)

/-- Nothing is under way and nothing is left in the pipe. -/
theorem Held.all_received (held : Held received world) (idle : world.operation = none) (empty : world.buffer = []) :
    received = world.written := by
  have balance := held.balance
  rwa [World.carried_idle idle, empty, List.append_nil, List.append_nil] at balance

theorem Held.ahead (held : Held received world) : received <+: world.written := by
  rw [← held.balance, List.append_assoc]
  exact List.prefix_append _ _

/-- A daemon that never connected has written nothing. -/
theorem Held.none_received (held : Held received world) (absent : world.client = .absent) : received = world.written := by
  have balance := held.balance
  have silent := held.silent absent
  rw [silent, List.append_eq_nil_iff, List.append_eq_nil_iff] at balance
  rw [silent]
  exact balance.1.1

/-! ## An operation -/

/-- What a completed operation can have come to. A fresh one was begun when the daemon was gone. -/
def Outcome (request : Request) (fresh : Bool) (world : World) : Except Code (List UInt8) → Prop
  | .ok bytes =>
      match request with
      | .connect => bytes = [] ∧ world.client ≠ .absent
      | .read _ => fresh = true → bytes ≠ []
  | .error code => code = .brokenPipe ∧ request ≠ .connect ∧ world.client = .closed ∧ world.buffer = []

/-- An operation that was cancelled before it completed. -/
def Aborted (request : Request) (world : World) (result : Except Code (List UInt8)) : Prop :=
  result = .error .operationAborted ∧ world.process = .exited ∧ (request = .connect → world.client = .absent)

variable {request : Request} {fresh : Bool} {result : Except Code (List UInt8)}

theorem Effect.outcome (effect : Effect world after) (outcome : Outcome request fresh world result) :
    Outcome request fresh after result := by
  cases result with
  | ok bytes =>
      cases request with
      | connect => exact ⟨outcome.1, effect.client_present outcome.2⟩
      | read length => exact outcome
  | error code =>
      obtain ⟨broken, reading, closed, empty⟩ := outcome
      refine ⟨broken, reading, effect.client_closed closed, ?_⟩
      cases effect with
      | wrote _ opened | handed _ opened => cases closed.symm.trans opened
      | _ => exact empty

theorem Effect.aborted (effect : Effect world after) (aborted : Aborted request world result) :
    Aborted request after result := by
  obtain ⟨cancelled, exited, unconnected⟩ := aborted
  refine ⟨cancelled, effect.process_exited exited, fun connecting => ?_⟩
  have absent := unconnected connecting
  cases effect with
  | connected running | accepted running => cases exited.symm.trans running
  | closed opened | broke opened => cases absent.symm.trans opened
  | _ => exact absent

/-- The reader's operation, begun and not yet cancelled. -/
structure Doing (request : Request) (fresh : Bool) (received : List UInt8) (world : World) : Prop where
  held : Held received world
  gone : fresh = true → world.Gone
  started : world.Started
  underway : world.operation = some (.pending request) ∨
    ∃ result, world.operation = some (.completed result) ∧ Outcome request fresh world result

/-- Only an exit takes the daemon from an operation that is still pending. -/
theorem Doing.exited_of_pending (doing : Doing request fresh received world) (gone : world.Gone)
    (pending : world.operation = some (.pending request)) : world.process = .exited := by
  rcases gone with failed | exited | closed
  · rcases doing.started with running | exited
    · cases failed.symm.trans running
    · exact exited
  · exact exited
  · cases request with
    | connect => cases closed.symm.trans (doing.held.connecting pending)
    | read length => cases closed.symm.trans (doing.held.reading length pending).2

theorem Effect.completed (effect : Effect world after) (completed : world.operation = some (.completed result)) :
    after.operation = some (.completed result) := by
  cases effect with
  | accepted _ _ pending | handed _ _ pending | broke _ pending => cases completed.symm.trans pending
  | _ => exact completed

theorem Effect.doing (effect : Effect world after) (doing : Doing request fresh received world) :
    Doing request fresh received after where
  held := effect.held doing.held
  gone fresh := effect.gone (doing.gone fresh)
  started := effect.started doing.started
  underway := by
    rcases doing.underway with pending | ⟨result, completed, outcome⟩
    · cases effect with
      | accepted _ _ connecting =>
          cases pending.symm.trans connecting
          exact .inr ⟨_, rfl, rfl, fun absent => by cases absent⟩
      | handed running opened reading =>
          cases pending.symm.trans reading
          exact .inr ⟨_, rfl, fun fresh => absurd opened ((doing.gone fresh).not_writing running)⟩
      | broke _ reading =>
          cases pending.symm.trans reading
          exact .inr ⟨_, rfl, rfl, by simp, rfl, (doing.held.reading _ pending).1⟩
      | _ => exact .inl pending
    · exact .inr ⟨result, effect.completed completed, effect.outcome outcome⟩

/-- An operation that has completed, or was cancelled because the daemon's exit was seen. -/
structure Terminal (request : Request) (fresh seen : Bool) (received : List UInt8) (world : World) : Prop where
  held : Held received world
  exited : seen = true → world.process = .exited
  came : ∃ result, world.operation = some (.completed result) ∧
    (Outcome request fresh world result ∨ seen = true ∧ Aborted request world result)

theorem Effect.terminal {seen : Bool} (effect : Effect world after) (terminal : Terminal request fresh seen received world) :
    Terminal request fresh seen received after where
  held := effect.held terminal.held
  exited seen := effect.process_exited (terminal.exited seen)
  came := by
    obtain ⟨result, completed, outcome | ⟨seen, aborted⟩⟩ := terminal.came
    · exact ⟨result, effect.completed completed, .inl (effect.outcome outcome)⟩
    · exact ⟨result, effect.completed completed, .inr ⟨seen, effect.aborted aborted⟩⟩

/-- A completed operation reports without the daemon. -/
theorem signal_enabled (completed : world.operation = some (.completed result)) (unsignalled : world.signalled = false) :
    ∃ act : Act, act.free = true ∧ (world.act act).isSome :=
  ⟨.signal, rfl, by simp [World.act, completed, unsignalled]⟩

end

end KunobiDaemon.Local.Ready
