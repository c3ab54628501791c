import KunobiDaemon.Local.PipeOperations

/-! What the functions of a readiness pipe's reader do, each with one specification. -/

set_option autoImplicit false

namespace KunobiDaemon.Local.Ready

open Lib.Dialogues Lib.Interference

section
variable {received : List UInt8} {world after : World} {request : Request} {fresh : Bool}
  {result : Except Code (List UInt8)}

def bytesOf : Except Code (List UInt8) → List UInt8
  | .ok bytes => bytes
  | .error _ => []

/-- What `settle` returns. -/
def Settled (request : Request) (fresh watching : Bool) (received : List UInt8) :
    Except Code (Except Code (List UInt8) × Bool) → World → Prop
  | .ok (result, seen), world =>
      Held (received ++ bytesOf result) world ∧ world.operation = none ∧
        (seen = true → watching = true ∧ world.process = .exited) ∧
        (Outcome request fresh world result ∨ seen = true ∧ Aborted request world result)
  | .error _, _ => False

theorem Held.taken (held : Held received world) (completed : world.operation = some (.completed result)) :
    Held (received ++ bytesOf result) { world with operation := none } := by
  refine held.update (by simp) ?_
  have balance := held.balance
  rw [World.carried, completed] at balance
  rw [World.carried_idle rfl, List.append_nil]
  cases result with
  | ok bytes => exact balance
  | error code => simpa [bytesOf] using balance

theorem finish_safe {seen watching : Bool} (terminal : Terminal request fresh seen received world)
    (watched : seen = true → watching = true) :
    Safe setting (Settled request fresh watching received) 1
      (.ask .getOverlappedResult fun result => .done (.ok (result, seen))) world := by
  refine .ask_stable (stable_of_effect fun _ _ terminal effect => effect.terminal terminal) terminal ?_ ?_
  · intro now terminal _
    obtain ⟨result, completed, -⟩ := terminal.came
    cases signalled : now.signalled with
    | true => exact .inl (by simp [World.answer, completed, signalled])
    | false => exact .inr (signal_enabled completed signalled)
  · intro now reply after terminal answered
    obtain ⟨result, completed, outcome⟩ := terminal.came
    simp only [setting, World.answer, completed, Option.ite_none_right_eq_some] at answered
    obtain ⟨-, done⟩ := answered
    cases done
    exact .done ⟨terminal.held.taken completed, rfl, fun seen => ⟨watched seen, terminal.exited seen⟩, outcome⟩

theorem Doing.terminal (doing : Doing request fresh received world) (completed : world.operation = some (.completed result)) :
    Terminal request fresh false received world where
  held := doing.held
  exited seen := by cases seen
  came := by
    rcases doing.underway with pending | ⟨result, completed, outcome⟩
    · cases completed.symm.trans pending
    · exact ⟨result, completed, .inl outcome⟩

/-- A cancelled operation may have completed already. -/
theorem cancel_terminal (doing : Doing request fresh received world) (exited : world.process = .exited)
    (answered : world.answer .cancelIoEx = some ((), after)) : Terminal request fresh true received after := by
  rcases doing.underway with pending | ⟨result, completed, outcome⟩
  · simp only [World.answer, pending] at answered
    cases answered
    refine ⟨?_, fun _ => exited, _, rfl, .inr ⟨rfl, rfl, exited, ?_⟩⟩
    · have balance := doing.held.balance
      rw [World.carried_pending pending] at balance
      exact doing.held.update (by simp) balance
    · rintro rfl
      exact doing.held.connecting pending
  · simp only [World.answer, completed] at answered
    cases answered
    exact ⟨doing.held, fun _ => exited, result, completed, .inl outcome⟩

theorem settle_safe {watching : Bool} (doing : Doing request fresh received world)
    (watched : watching = true ∨ ∃ result, world.operation = some (.completed result)) :
    Safe setting (Settled request fresh watching received) 3 (settle watching) world := by
  have stable : setting.Stable fun world => Doing request fresh received world ∧
      (watching = true ∨ ∃ result, world.operation = some (.completed result)) :=
    stable_of_effect fun _ _ both effect =>
      ⟨effect.doing both.1, both.2.imp_right fun ⟨result, completed⟩ => ⟨result, effect.completed completed⟩⟩
  refine .ask_stable stable ⟨doing, watched⟩ ?_ ?_
  · rintro now ⟨doing, watched⟩ gone
    rcases doing.underway with pending | ⟨result, completed, -⟩
    · have exited := doing.exited_of_pending gone pending
      have watching : watching = true := watched.resolve_right fun ⟨_, completed⟩ => by cases pending.symm.trans completed
      refine .inl ?_
      simp [World.answer, doing.held.unsignalled _ pending, watching, exited]
    · cases signalled : now.signalled with
      | true => exact .inl (by simp [World.answer, signalled])
      | false => exact .inr (signal_enabled completed signalled)
  · rintro now woke after ⟨doing, watched⟩ answered
    simp only [setting, World.answer] at answered
    split at answered
    · cases answered
      rename_i signalled
      rcases doing.underway with pending | ⟨result, completed, -⟩
      · cases signalled.symm.trans (doing.held.unsignalled _ pending)
      · cases watching <;> exact (finish_safe (doing.terminal completed) (by simp)).mono (fun _ _ => id) (Nat.le_succ 1)
    · obtain ⟨⟨watching, exited⟩, done⟩ := Option.ite_none_right_eq_some.mp answered
      cases done
      subst watching
      have remains : setting.Stable fun world => Doing request fresh received world ∧ world.process = .exited :=
        stable_of_effect fun _ _ both effect => ⟨effect.doing both.1, effect.process_exited both.2⟩
      refine .ask_stable remains ⟨doing, exited⟩ (fun now _ _ => .inl ?_) ?_
      · simp only [World.answer]
        split <;> rfl
      · rintro now reply after ⟨doing, exited⟩ answered
        exact finish_safe (cancel_terminal doing exited answered) (by simp)

/-- What the reader has learned. -/
structure Knows (reader : Reader) (world : World) : Prop where
  process : reader.process = true → world.Started
  connected : reader.connected = true → world.client ≠ .absent
  exited : reader.exited = true → world.process = .exited

/-- Between two steps of the reader. -/
structure Resting (reader : Reader) (fresh : Bool) (received : List UInt8) (world : World) : Prop where
  held : Held received world
  idle : world.operation = none
  knows : Knows reader world
  gone : fresh = true → world.Gone

/-- The steps that can still end with nothing, once the daemon is gone. -/
def Reader.turns (reader : Reader) : Nat := (if reader.connected then 0 else 2) + (if reader.exited then 0 else 1)

/-- What a step of the reader comes to. -/
def Stepped (before : Reader) (fresh : Bool) (received : List UInt8) : Reader × Except Code Next → World → Prop
  | (reader, .ok next), world =>
      reader.ended = before.ended ∧ world.operation = none ∧ Knows reader world ∧
        match next with
        | .got bytes => bytes ≠ [] ∧ Held (received ++ bytes) world
        | .ended => Held received world ∧ world.Gone ∧ received = world.written
        | .again => Held received world ∧ reader.turns ≤ before.turns ∧ (fresh = true → reader.turns < before.turns)
  | (_, .error _), _ => False

theorem Effect.knows {reader : Reader} (effect : Effect world after) (knows : Knows reader world) : Knows reader after where
  process arrived := effect.started (knows.process arrived)
  connected connected := effect.client_present (knows.connected connected)
  exited exited := effect.process_exited (knows.exited exited)

theorem Effect.idle (effect : Effect world after) (idle : world.operation = none) : after.operation = none := by
  cases effect with
  | accepted _ _ pending | handed _ _ pending | broke _ pending => cases idle.symm.trans pending
  | _ => exact idle

theorem Effect.resting {reader : Reader} (effect : Effect world after) (resting : Resting reader fresh received world) :
    Resting reader fresh received after where
  held := effect.held resting.held
  idle := effect.idle resting.idle
  knows := effect.knows resting.knows
  gone fresh := effect.gone (resting.gone fresh)

theorem Effect.stepped {before : Reader} {found : Reader × Except Code Next} (effect : Effect world after)
    (stepped : Stepped before fresh received found world) : Stepped before fresh received found after := by
  obtain ⟨reader, _ | next⟩ := found
  · exact stepped.elim
  obtain ⟨ended, idle, knows, came⟩ := stepped
  refine ⟨ended, effect.idle idle, effect.knows knows, ?_⟩
  cases next with
  | got bytes => exact ⟨came.1, effect.held came.2⟩
  | ended =>
      obtain ⟨held, gone, all⟩ := came
      exact ⟨effect.held held, effect.gone gone, all.trans (effect.written gone).symm⟩
  | again => exact ⟨effect.held came.1, came.2⟩

/-- The reader's questions leave the daemon as it is. -/
theorem answer_keeps {question : Question} {reply : question.Reply} (answered : world.answer question = some (reply, after)) :
    after.process = world.process ∧ after.client = world.client ∧ after.written = world.written ∧
      after.delivered = world.delivered := by
  cases question with
  | recv =>
      simp only [World.answer] at answered
      split at answered
      · cases answered
        exact ⟨rfl, rfl, rfl, rfl⟩
      · obtain ⟨-, done⟩ := Option.ite_none_right_eq_some.mp answered
        cases done
        exact ⟨rfl, rfl, rfl, rfl⟩
  | createEvent =>
      cases answered
      exact ⟨rfl, rfl, rfl, rfl⟩
  | waitForMultipleObjects watching =>
      simp only [World.answer] at answered
      split at answered
      · cases answered
        exact ⟨rfl, rfl, rfl, rfl⟩
      · obtain ⟨-, done⟩ := Option.ite_none_right_eq_some.mp answered
        cases done
        exact ⟨rfl, rfl, rfl, rfl⟩
  | getOverlappedResult =>
      simp only [World.answer] at answered
      split at answered
      · obtain ⟨-, done⟩ := Option.ite_none_right_eq_some.mp answered
        cases done
        exact ⟨rfl, rfl, rfl, rfl⟩
      · cases answered
  | connectNamedPipe | peekNamedPipe | readFile length | cancelIoEx =>
      simp only [World.answer] at answered
      split at answered <;> cases answered <;> exact ⟨rfl, rfl, rfl, rfl⟩

theorem Knows.answer {reader : Reader} {question : Question} {reply : question.Reply} (knows : Knows reader world)
    (answered : world.answer question = some (reply, after)) : Knows reader after := by
  obtain ⟨process, client, -⟩ := answer_keeps answered
  obtain ⟨started, connected, exited⟩ := knows
  rw [← client] at connected
  rw [← process] at exited
  rw [World.Started, ← process] at started
  exact ⟨started, connected, exited⟩

/-- A terminal read, as the step that made it. -/
theorem received_stepped {reader : Reader} {length : Nat} {watching seen : Bool}
    (settled : Settled (.read length) fresh watching received (.ok (result, seen)) world) (knows : Knows reader world)
    (watched : watching = true → reader.exited = false) :
    Stepped reader fresh received (reader.received result seen) world := by
  obtain ⟨held, idle, exits, came⟩ := settled
  have learned : Knows { reader with exited := reader.exited || seen } world := by
    refine ⟨knows.process, knows.connected, fun exited => ?_⟩
    rcases Bool.or_eq_true_iff.mp exited with before | now
    · exact knows.exited before
    · exact (exits now).2
  rcases came with outcome | ⟨rfl, rfl, exited, -⟩
  · cases result with
    | ok bytes =>
        cases bytes with
        | nil =>
            rw [bytesOf, List.append_nil] at held
            refine ⟨rfl, idle, learned, held, ?_, fun begun => absurd rfl (outcome begun)⟩
            cases before : reader.exited <;> simp [Reader.turns, before]
            split <;> omega
        | cons byte rest => exact ⟨rfl, idle, learned, by simp, held⟩
    | error code =>
        obtain ⟨rfl, -, closed, empty⟩ := outcome
        rw [bytesOf, List.append_nil] at held
        exact ⟨rfl, idle, learned, held, .inr (.inr closed), held.all_received idle empty⟩
  · rw [bytesOf, List.append_nil] at held
    have before := watched (exits rfl).1
    have fewer : ({ reader with exited := reader.exited || true } : Reader).turns < reader.turns := by
      simp [Reader.turns, before]
    exact ⟨rfl, idle, learned, held, Nat.le_of_lt fewer, fun _ => fewer⟩

theorem settle_bind_safe {reader : Reader} {watching : Bool} {post : Reader × Except Code Next → World → Prop}
    {rest : Except Code (Except Code (List UInt8) × Bool) → Asking (Reader × Except Code Next)}
    (doing : Doing request fresh received world) (knows : Knows reader world)
    (watched : watching = true ∨ ∃ result, world.operation = some (.completed result))
    (goes : ∀ result seen after, Settled request fresh watching received (.ok (result, seen)) after →
      Knows reader after → Safe setting post 0 (rest (.ok (result, seen))) after) :
    Safe setting post 3 ((settle watching).bind rest) world := by
  change Safe setting post (0 + 3) _ world
  refine Safe.bind ?_
  have framed := (settle_safe doing watched).frame (P := Knows reader)
    (stable_of_effect fun _ _ knows effect => effect.knows knows) (fun _ _ _ _ knows => knows.answer) knows
  refine framed.mono ?_ (Nat.le_refl 3)
  rintro (error | ⟨result, seen⟩) after ⟨settled, knows⟩
  · exact settled.elim
  · exact goes result seen after settled knows

theorem Resting.event {reader : Reader} (resting : Resting reader fresh received world) :
    Resting reader fresh received { world with signalled := false } where
  held := by
    refine resting.held.update ?_ ?_
    · intro request pending
      cases resting.idle.symm.trans pending
    · exact resting.held.balance
  idle := resting.idle
  knows := ⟨resting.knows.process, resting.knows.connected, resting.knows.exited⟩
  gone := resting.gone

/-- Nothing is under way, and the event of the next operation is not set. -/
theorem Effect.prepared {reader : Reader} (effect : Effect world after)
    (prepared : Resting reader fresh received world ∧ world.signalled = false) :
    Resting reader fresh received after ∧ after.signalled = false := by
  refine ⟨effect.resting prepared.1, ?_⟩
  cases effect with
  | signalled completed => cases prepared.1.idle.symm.trans completed
  | _ => exact prepared.2

/-- An operation begun with its event not set. -/
theorem Resting.doing {reader : Reader} (resting : Resting reader fresh received world)
    (unset : world.signalled = false) (arrived : reader.process = true)
    (connecting : request = .connect → world.client = .absent)
    (reading : ∀ length, request = .read length → world.buffer = [] ∧ world.client = .opened) :
    Doing request fresh received { world with operation := some (.pending request) } where
  held := by
    have balance := resting.held.balance
    rw [World.carried_idle resting.idle] at balance
    refine ⟨balance, resting.held.silent, resting.held.unborn, resting.held.delivered, ?_, ?_, fun _ _ => unset⟩
    · intro pending
      cases pending
      exact connecting rfl
    · intro length pending
      cases pending
      exact reading length rfl
  gone := resting.gone
  started := resting.knows.process arrived
  underway := .inl rfl

/-- A read of what is in the pipe. -/
theorem Resting.reads {reader : Reader} {length : Nat} (resting : Resting reader fresh received world)
    (arrived : reader.process = true) (some : world.buffer ≠ []) (room : 0 < length) :
    Doing (.read length) fresh received
      ({ world with buffer := world.buffer.drop length, signalled := true }.complete (.ok (world.buffer.take length))) where
  held := by
    have balance := resting.held.balance
    rw [World.carried_idle resting.idle, List.append_nil] at balance
    refine resting.held.update (by simp) ?_
    simp only [World.carried, List.append_assoc, List.take_append_drop]
    exact balance
  gone := resting.gone
  started := resting.knows.process arrived
  underway := .inr ⟨_, rfl, fun _ => by simp [some, Nat.ne_of_gt room]⟩

/-- What is in the pipe stays there while nothing is under way. -/
theorem Effect.buffer {reader : Reader} (effect : Effect world after) (resting : Resting reader fresh received world)
    (some : world.buffer ≠ []) : after.buffer ≠ [] := by
  cases effect with
  | wrote => exact fun empty => some (List.append_eq_nil_iff.mp empty).1
  | handed _ _ pending => cases resting.idle.symm.trans pending
  | _ => exact some

theorem receive_safe {reader : Reader} {size : Nat} {watching : Bool} (resting : Resting reader fresh received world)
    (arrived : reader.process = true) (connected : reader.connected = true) (room : 0 < size)
    (watched : watching = true → reader.exited = false) (ready : watching = true ∨ world.buffer ≠ []) :
    Safe setting (Stepped reader fresh received) 5 (reader.receive size watching) world := by
  have stable : setting.Stable fun world => Resting reader fresh received world ∧
      (watching = true ∨ world.buffer ≠ []) :=
    stable_of_effect fun _ _ both effect => ⟨effect.resting both.1, both.2.imp_right (effect.buffer both.1)⟩
  refine .ask_stable stable ⟨resting, ready⟩ (fun _ _ _ => .inl rfl) ?_
  rintro now event after ⟨resting, ready⟩ answered
  cases answered
  have prepared : setting.Stable fun world => (Resting reader fresh received world ∧ world.signalled = false) ∧
      (watching = true ∨ world.buffer ≠ []) :=
    stable_of_effect fun _ _ both effect => ⟨effect.prepared both.1, both.2.imp_right (effect.buffer both.1.1)⟩
  have terminal : ∀ length result seen after,
      Settled (.read length) fresh watching received (.ok (result, seen)) after → Knows reader after →
      Safe setting (Stepped reader fresh received) 0 (.done (reader.received result seen)) after :=
    fun length result seen after settled knows => .done (received_stepped settled knows watched)
  have enough : 0 < min size u32Max := by
    simp only [u32Max]
    omega
  refine .ask_stable prepared ⟨⟨resting.event, rfl⟩, ready⟩ ?_ ?_
  · intro now _ _
    refine .inl ?_
    simp only [World.answer]
    split <;> rfl
  · rintro now started after ⟨⟨resting, unset⟩, ready⟩ answered
    change now.answer (.readFile (min size u32Max)) = _ at answered
    have knows := resting.knows.answer answered
    simp only [World.answer] at answered
    split at answered
    · rename_i absent
      exact absurd absent (resting.knows.connected connected)
    · rename_i closed empty
      cases answered
      exact .done ⟨rfl, resting.idle, knows, resting.held, .inr (.inr closed),
        resting.held.all_received resting.idle empty⟩
    · rename_i opened empty
      cases answered
      have doing : Doing (.read (min size u32Max)) fresh received _ :=
        resting.doing unset arrived (by simp) fun _ _ => ⟨empty, opened⟩
      have watching := ready.resolve_right fun some => some empty
      exact settle_bind_safe doing knows (.inl watching) (terminal _)
    · rename_i unconnected broken waits
      cases answered
      have some : now.buffer ≠ [] := by
        intro empty
        cases client : now.client with
        | absent => exact unconnected client
        | opened => exact waits client empty
        | closed => exact broken client empty
      exact settle_bind_safe (resting.reads arrived some enough) knows (.inr ⟨_, rfl⟩) (terminal _)

theorem drain_safe {reader : Reader} {size : Nat} (resting : Resting reader fresh received world)
    (arrived : reader.process = true) (connected : reader.connected = true) (exited : reader.exited = true)
    (room : 0 < size) : Safe setting (Stepped reader fresh received) 6 (reader.drain size) world := by
  have stable : setting.Stable (Resting reader fresh received) := stable_of_effect fun _ _ resting effect => effect.resting resting
  refine .ask_stable stable resting ?_ ?_
  · intro now _ _
    refine .inl ?_
    simp only [World.answer]
    split <;> rfl
  · rintro now peeked after resting answered
    have gone : now.Gone := .inr (.inl (resting.knows.exited exited))
    simp only [setting, World.answer] at answered
    split at answered
    · rename_i absent
      exact absurd absent (resting.knows.connected connected)
    · rename_i closed empty
      cases answered
      exact .done ⟨rfl, resting.idle, resting.knows, resting.held, gone, resting.held.all_received resting.idle empty⟩
    · cases answered
      cases available : min now.buffer.length u32Max with
      | zero =>
          have empty : now.buffer = [] := by
            simp only [u32Max] at available
            exact List.length_eq_zero_iff.mp (by omega)
          exact .done ⟨rfl, resting.idle, resting.knows, resting.held, gone, resting.held.all_received resting.idle empty⟩
      | succ count =>
          have some : now.buffer ≠ [] := by
            rintro empty
            simp [empty] at available
          exact receive_safe resting arrived connected (by omega) (by simp) (.inr some)

/-- A terminal connection, as the step that made it. -/
theorem accepted_stepped {reader : Reader} {watching seen : Bool}
    (settled : Settled .connect fresh watching received (.ok (result, seen)) world) (knows : Knows reader world)
    (unconnected : reader.connected = false) : Stepped reader fresh received (reader.accepted result seen) world := by
  obtain ⟨held, idle, exits, came⟩ := settled
  rcases came with outcome | ⟨rfl, rfl, exited, absent⟩
  · cases result with
    | ok bytes =>
        obtain ⟨rfl, present⟩ := outcome
        rw [bytesOf, List.append_nil] at held
        have fewer : ({ reader with exited := seen, connected := true } : Reader).turns < reader.turns := by
          have few : (if seen = true then 0 else 1) ≤ 1 := by split <;> decide
          simp only [Reader.turns, unconnected, ↓reduceIte, Bool.false_eq_true]
          omega
        exact ⟨rfl, idle, ⟨knows.process, fun _ => present, fun seen => (exits seen).2⟩, held, Nat.le_of_lt fewer, fun _ => fewer⟩
    | error code => exact absurd rfl outcome.2.1
  · rw [bytesOf, List.append_nil] at held
    exact ⟨rfl, idle, ⟨knows.process, knows.connected, fun _ => exited⟩, held, .inr (.inl exited),
      held.none_received (absent rfl)⟩

theorem connect_safe {reader : Reader} (resting : Resting reader fresh received world) (arrived : reader.process = true)
    (unconnected : reader.connected = false) :
    Safe setting (Stepped reader fresh received) 5 reader.connect world := by
  have stable : setting.Stable (Resting reader fresh received) :=
    stable_of_effect fun _ _ resting effect => effect.resting resting
  refine .ask_stable stable resting (fun _ _ _ => .inl rfl) ?_
  rintro now event after resting answered
  cases answered
  have prepared : setting.Stable fun world => Resting reader fresh received world ∧ world.signalled = false :=
    stable_of_effect fun _ _ both effect => effect.prepared both
  refine .ask_stable prepared ⟨resting.event, rfl⟩ ?_ ?_
  · intro now _ _
    refine .inl ?_
    simp only [World.answer]
    split <;> rfl
  · rintro now connected after ⟨resting, unset⟩ answered
    have fewer : ({ reader with connected := true } : Reader).turns < reader.turns := by
      simp [Reader.turns, unconnected]
    have joined : ∀ world, Resting reader fresh received world → world.client ≠ .absent →
        Stepped reader fresh received ({ reader with connected := true }, .ok .again) world :=
      fun world resting present => ⟨rfl, resting.idle, ⟨resting.knows.process, fun _ => present, resting.knows.exited⟩,
        resting.held, Nat.le_of_lt fewer, fun _ => fewer⟩
    change now.answer .connectNamedPipe = _ at answered
    have knows := resting.knows.answer answered
    simp only [World.answer] at answered
    split at answered
    · rename_i absent
      cases answered
      have doing : Doing .connect fresh received _ := resting.doing unset arrived (fun _ => absent) (by simp)
      exact settle_bind_safe doing knows (.inl rfl) fun result seen after settled knows =>
        .done (accepted_stepped settled knows unconnected)
    · rename_i opened
      cases answered
      exact .done (joined now resting (by simp [opened]))
    · rename_i closed
      cases answered
      exact .done (joined now resting (by simp [closed]))

/-- When the daemon is gone, its handle arrives or the launcher has given up. -/
theorem Held.delivery (held : Held received world) (gone : world.Gone) :
    (world.answer .recv).isSome ∨ ∃ act : Act, act.free = true ∧ (world.act act).isSome := by
  cases delivered : world.delivered with
  | true => exact .inl (by simp [World.answer, delivered])
  | false =>
      rcases gone with failed | exited | closed
      · exact .inl (by simp [World.answer, delivered, failed])
      · exact .inr ⟨.deliver, rfl, by simp [World.act, delivered, exited]⟩
      · have started : world.Started := Classical.byContradiction fun unborn => by
          cases closed.symm.trans (held.unborn unborn)
        exact .inr ⟨.deliver, rfl, by simp [World.act, delivered, show _ ∨ _ from started]⟩

/-- A step whose handle has arrived. -/
theorem arrived_safe {reader : Reader} {size : Nat} (resting : Resting reader fresh received world)
    (arrived : reader.process = true) (room : 0 < size) :
    Safe setting (Stepped reader fresh received) 6
      (if !reader.connected then reader.connect
        else if reader.exited then reader.drain size else reader.receive size true) world := by
  cases connected : reader.connected with
  | false => exact (connect_safe resting arrived connected).mono (fun _ _ => id) (Nat.le_succ 5)
  | true =>
      cases exited : reader.exited with
      | true => exact drain_safe resting arrived connected exited room
      | false =>
          exact (receive_safe resting arrived connected room (fun _ => exited) (.inl rfl)).mono (fun _ _ => id) (Nat.le_succ 5)

theorem step_safe {reader : Reader} {size : Nat} (resting : Resting reader fresh received world) (room : 0 < size) :
    Safe setting (Stepped reader fresh received) 7 (reader.step size) world := by
  cases arrived : reader.process with
  | true =>
      simp only [Reader.step, Reader.withProcess, arrived]
      exact (arrived_safe resting arrived room).mono (fun _ _ => id) (Nat.le_succ 6)
  | false =>
      simp only [Reader.step, Reader.withProcess, arrived]
      have stable : setting.Stable (Resting reader fresh received) :=
        stable_of_effect fun _ _ resting effect => effect.resting resting
      refine .ask_stable stable resting ?_ ?_
      · intro now resting gone
        exact resting.held.delivery gone
      · intro now reply after resting answered
        simp only [setting, World.answer] at answered
        split at answered
        · cases answered
          rename_i delivered
          have handed : Resting { reader with process := true } fresh received now :=
            ⟨resting.held, resting.idle,
              ⟨fun _ => resting.held.delivered delivered, resting.knows.connected, resting.knows.exited⟩, resting.gone⟩
          refine (arrived_safe handed rfl room).mono ?_ (Nat.le_refl 6)
          rintro ⟨after, _ | next⟩ world stepped
          · exact stepped
          · exact stepped
        · obtain ⟨failed, done⟩ := Option.ite_none_right_eq_some.mp answered
          cases done
          have absent : now.client = .absent := resting.held.unborn (by simp [World.Started, failed])
          exact .done ⟨rfl, resting.idle, resting.knows, resting.held, .inl failed, resting.held.none_received absent⟩

end

end KunobiDaemon.Local.Ready
