import KunobiDaemon.Client
import KunobiDaemon.Control.Watch

/-! Health and drain requests on one authenticated connection.

`serve` drops its setup when the deadline passes. It may then be at any of its questions, and
asks no more.
-/

set_option autoImplicit false

namespace KunobiDaemon.Control

open Lib.Dialogues
open Lib.Streams (Method Process performs_within)
open Lib.Streams.Process (Writes writes_attempt writes_attemptIn writes_bind)
open Surroundings
open Wire hiding Control

/-- A service with the revision that its snapshots report. -/
structure HealthService extends ControlService where
  revision : UInt64
  deriving DecidableEq, Repr

namespace HealthService

variable (library : Library) (service : HealthService)

open Program

/-- Read a bounded snapshot. -/
def snapshot : Program Question.Reply Health :=
  .ask .lifecycleSnapshot fun (state : Snapshot) =>
  .ask .loadReady fun (ready : Bool) =>
  .done {
    processId := service.processId
    generation := service.generation
    build := service.build
    revision := service.revision
    ready := ready && !state.draining
    draining := state.draining
    active := UInt64.ofNat state.active }

/-- Handle a control request. -/
def handle (request : Wire.Control) : Program Question.Reply (Except IoError Wire.Control) :=
  if request.kind ≠ .known .lifecycle || !request.payload.isEmpty || !request.token.isEmpty ||
      request.offset.isSome || (request.generation ≠ 0 && request.generation ≠ service.generation) then
    .done (.error (invalid "invalid lifecycle request"))
  else if request.operation = Operation.HEALTH then
    service.snapshot.bind fun health => .done (health.response library.health request)
  else if request.operation = Operation.DRAIN then
    .ask .startDrain fun _ => service.snapshot.bind fun health => .done (health.response library.health request)
  else .done (.error (invalid "unsupported lifecycle request"))

def validateWatch (request : Wire.Control) : Except IoError Unit :=
  if !request.payload.isEmpty || !request.token.isEmpty || request.offset.isSome ||
      (request.generation ≠ 0 && request.generation ≠ service.generation) then
    .error (invalid "invalid WATCH request")
  else .ok ()

/-- Serve one authenticated connection. -/
def serve (offer : Hello) : Program Question.Reply (Except IoError Unit) :=
  (talk (AsyncSession.accept library.hello offer)).bind fun result => attempt id result fun session =>
  (talk (session.receive library.control).program).bind fun (session, received) =>
  attempt id received fun request =>
  if request.operation = Operation.WATCH && request.kind = .known .lifecycle then
    attempt id (service.validateWatch request) fun _ =>
    .ask (.serveWatch session request) .done
  else if session.agreement.capabilities &&& Capability.HEALTH_DETAILS = 0 then
    .done (.error (invalid "typed health not negotiated"))
  else
    (service.handle library request).bind fun handled => attempt id handled fun reply =>
    (talk (session.send library.control reply).program).bind fun (_, sent) => attempt id sent fun _ =>
    .done (.ok ())

end HealthService

section
variable {M : Type} {codec : Codec M} {may : List UInt8 → Prop} {session : AsyncSession}

theorem writes_sendMessage {message : M} (allowed : may (frame (codec.encode message))) :
    Writes may (session.sendMessage codec message) := by
  refine writes_attemptIn fun _ _ => writes_attemptIn fun buffer encoded => ?_
  have framed : buffer = frame (codec.encode message) := by
    rcases encodeFrame_cases codec message session.agreement.maxFrame with ⟨_, refused, -⟩ | ⟨whole, -⟩
    · rw [refused] at encoded
      cases encoded
    · rw [whole] at encoded
      cases encoded
      rfl
  refine .write (framed ▸ allowed) fun _ => writes_attemptIn fun _ _ => ?_
  exact .flush fun _ => writes_attemptIn fun _ _ => .done

theorem writes_receiveMessage : Writes may (session.receiveMessage codec) := by
  refine writes_attemptIn fun _ _ => .read fun _ => writes_attemptIn fun header _ => ?_
  dsimp only
  split
  · exact .done
  · exact .read fun _ => writes_attemptIn fun buffer _ => writes_attemptIn fun _ _ => .done

theorem writes_readAcceptance : Writes may AsyncSession.readAcceptance := by
  refine .read fun _ => writes_attempt fun byte => ?_
  split
  · exact .done
  · exact .done

end

/-- What a server writes before there is a session. -/
def Greets (offer : Hello) (bytes : List UInt8) : Prop :=
  bytes = frame offer.encode ∨ bytes = [1] ∨ bytes = frame Refused.protocolTooOld.hello.encode

section
variable {decode : UInt32 → List UInt8 → Option Hello} {offer : Hello}

theorem writes_offered {may : List UInt8 → Prop} : Writes may (AsyncSession.offered decode) := by
  refine .read fun _ => writes_attempt fun magic => ?_
  split
  · exact .done
  · exact writes_bind writes_receiveMessage fun _ => writes_attempt fun _ => .done

theorem writes_accept : Writes (Greets offer) (AsyncSession.accept decode offer) := by
  refine writes_attempt fun _ => writes_bind writes_offered fun _ => writes_attempt fun (session, remote) => ?_
  dsimp only
  split
  · split
    · rename_i rejected
      obtain ⟨-, -, rfl⟩ := rejection_iff.mp rejected
      exact writes_bind (writes_sendMessage (.inr (.inr rfl))) fun _ => .done
    · exact .done
  · refine writes_bind (writes_sendMessage (.inl rfl)) fun _ => writes_attempt fun _ => ?_
    refine writes_bind writes_readAcceptance fun _ => writes_attempt fun _ => ?_
    refine .write (.inr (.inl rfl)) fun _ => writes_attempt fun _ => ?_
    exact .flush fun _ => writes_attempt fun _ => .done

end

section
variable {acts : List (Act Question.Reply)} {session left : AsyncSession}

theorem runs_talk_sendMessage {M : Type} {codec : Codec M} {message : M} (live : session.failed = false)
    (runs : Runs Possible (talk (session.sendMessage codec message)) acts (left, .ok ())) :
    left = session ∧ Moved acts [] (frame (codec.encode message)) := by
  rw [AsyncSession.sendMessage_eq] at runs
  obtain ⟨sending, _, ⟨frames, _⟩, rfl, sent, ends⟩ := runs_talk_bind runs
  cases ends
  obtain ⟨agreement, failed⟩ := session
  cases live
  obtain ⟨rfl, moved⟩ := runs_talk_send sent
  exact ⟨rfl, (List.append_nil sending).symm ▸ moved⟩

theorem runs_talk_receiveMessage {M : Type} {codec : Codec M} {message : M} (live : session.failed = false)
    (runs : Runs Possible (talk (session.receiveMessage codec)) acts (left, .ok message)) :
    left = session ∧ ∃ body, codec.decode session.agreement.maxFrame body = some message ∧
      Moved acts (frame body) [] := by
  rw [AsyncSession.receiveMessage_eq] at runs
  obtain ⟨receiving, _, ⟨frames, _⟩, rfl, received, ends⟩ := runs_talk_bind runs
  cases ends
  obtain ⟨agreement, failed⟩ := session
  cases live
  obtain ⟨rfl, body, -, decoded, moved⟩ := runs_talk_receive received
  exact ⟨rfl, body, decoded, (List.append_nil receiving).symm ▸ moved⟩

/-- What a server read and what it agreed on. -/
structure Admitted (decode : UInt32 → List UInt8 → Option Hello) (offer : Hello) (acts : List (Act Question.Reply))
    (greeting : List UInt8) (remote : Hello) (agreement : Agreement) : Prop where
  decoded : decode HELLO_LIMIT greeting = some remote
  agreed : negotiate offer remote = .ok agreement
  moved : Moved acts (MAGIC ++ frame greeting ++ [1]) (frame offer.encode ++ [1])

theorem runs_talk_offered {decode : UInt32 → List UInt8 → Option Hello} {remote : Hello}
    (runs : Runs Possible (talk (AsyncSession.offered decode)) acts (.ok (session, remote))) :
    session = AsyncSession.unestablished ∧
    ∃ greeting, decode HELLO_LIMIT greeting = some remote ∧ Moved acts (MAGIC ++ frame greeting) [] := by
  obtain ⟨_, _, rfl, -, replied⟩ := runs_ask runs
  obtain ⟨magic, rfl, checks⟩ := runs_talk_attempt replied
  split at checks
  · cases checks
  · rename_i same
    obtain ⟨receiving, _, ⟨_, _⟩, rfl, received, answered⟩ := runs_talk_bind checks
    obtain ⟨_, rfl, ends⟩ := runs_talk_attempt answered
    cases ends
    obtain ⟨rfl, greeting, decoded, moved⟩ := runs_talk_receiveMessage rfl received
    refine ⟨rfl, greeting, decoded, ?_⟩
    rw [List.append_nil, Classical.not_not.mp same]
    exact moved.cons rfl rfl

theorem runs_talk_accept {decode : UInt32 → List UInt8 → Option Hello} {offer : Hello}
    (runs : Runs Possible (talk (AsyncSession.accept decode offer)) acts (.ok session)) :
    ∃ greeting remote agreement, session = ⟨agreement, false⟩ ∧
      Admitted decode offer acts greeting remote agreement := by
  obtain ⟨_, -, asks⟩ := runs_talk_attempt runs
  obtain ⟨reading, _, _, rfl, offered, judges⟩ := runs_talk_bind asks
  obtain ⟨⟨_, remote⟩, rfl, negotiates⟩ := runs_talk_attempt judges
  obtain ⟨rfl, greeting, decoded, read⟩ := runs_talk_offered offered
  dsimp only at negotiates
  cases agreed : negotiate offer remote with
  | error error =>
      simp only [agreed] at negotiates
      split at negotiates
      · obtain ⟨_, _, _, -, -, ends⟩ := runs_talk_bind negotiates
        cases ends
      · cases negotiates
  | ok agreement =>
      simp only [agreed] at negotiates
      obtain ⟨sending, _, ⟨_, _⟩, rfl, sent, answered⟩ := runs_talk_bind negotiates
      obtain ⟨_, rfl, waits⟩ := runs_talk_attempt answered
      obtain ⟨rfl, gave⟩ := runs_talk_sendMessage rfl sent
      obtain ⟨waiting, _, _, rfl, confirmed, accepts⟩ := runs_talk_bind waits
      obtain ⟨_, rfl, writes⟩ := runs_talk_attempt accepts
      obtain ⟨_, _, rfl, -, wrote⟩ := runs_ask writes
      obtain ⟨_, rfl, flushes⟩ := runs_talk_attempt wrote
      obtain ⟨_, _, rfl, -, flushed⟩ := runs_ask flushes
      obtain ⟨_, rfl, ends⟩ := runs_talk_attempt flushed
      cases ends
      refine ⟨greeting, remote, agreement, rfl, decoded, agreed, ?_⟩
      have confirms := runs_readAcceptance confirmed
      exact .congr (read.append (gave.append (confirms.append Moved.nil.flushed.wrote))) (by simp) (by simp [Hello.codec])

theorem runs_async_receive {codec : Codec Wire.Control} {message : Wire.Control} (live : session.failed = false)
    (runs : Runs Possible (talk (session.receive codec).program) acts (left, .ok message)) :
    left = session ∧ ∃ body, codec.decode session.agreement.maxFrame body = some message ∧
      Permitted session.agreement message ∧ Moved acts (frame body) [] := by
  obtain ⟨_, performs, moved⟩ := performs_of_runs runs
  rw [AsyncSession.receive_eq] at performs
  obtain ⟨frames, rfl, receives⟩ := performs_within performs
  obtain ⟨-, got⟩ := performs_receivingChecked rfl receives
  obtain ⟨agreement, failed⟩ := session
  cases live
  obtain ⟨limit, failed⟩ := frames
  cases got with
  | received _ decoded permitted => exact ⟨rfl, _, decoded, permitted, moved⟩
  | lost never => exact absurd rfl (never (some message))

variable {library : Library} {service : HealthService} {offer : Hello} {request reply : Wire.Control}

theorem runs_snapshot {health : Health} (runs : Runs Possible service.snapshot acts health) : Moved acts [] [] := by
  obtain ⟨_, _, rfl, -, loads⟩ := runs_ask runs
  obtain ⟨_, _, rfl, -, ends⟩ := runs_ask loads
  cases ends
  exact ⟨rfl, rfl⟩

/-- A request is answered with an observation of the service, and nothing goes over the connection. -/
theorem runs_handle (runs : Runs Possible (service.handle library request) acts (.ok reply)) :
    ∃ health, Health.response library.health health request = .ok reply ∧ Moved acts [] [] := by
  unfold HealthService.handle at runs
  split at runs
  · cases runs
  · split at runs
    · obtain ⟨observing, _, health, rfl, observed, answers⟩ := runs_bind runs
      generalize answered : Health.response library.health health request = result at answers
      cases answers
      exact ⟨health, answered, (runs_snapshot observed).append .nil⟩
    · split at runs
      · obtain ⟨_, _, rfl, -, drained⟩ := runs_ask runs
        obtain ⟨observing, _, health, rfl, observed, answers⟩ := runs_bind drained
        generalize answered : Health.response library.health health request = result at answers
        cases answers
        exact ⟨health, answered, .cons ((runs_snapshot observed).append .nil) rfl rfl⟩
      · cases runs

theorem asks_snapshot {asked : Question} (asks : Asks Possible service.snapshot acts asked) : asked.shares = true := by
  cases asks with
  | first => rfl
  | later _ loads =>
      cases loads with
      | first => rfl
      | later _ ends => cases ends

theorem asks_handle {asked : Question} (asks : Asks Possible (service.handle library request) acts asked) :
    asked.shares = true := by
  unfold HealthService.handle at asks
  split at asks
  · cases asks
  · split at asks
    · rcases asks_bind asks with observes | ⟨_, _, _, -, -, ends⟩
      · exact asks_snapshot observes
      · cases ends
    · split at asks
      · cases asks with
        | first => rfl
        | later _ drained =>
            rcases asks_bind drained with observes | ⟨_, _, _, -, -, ends⟩
            · exact asks_snapshot observes
            · cases ends
      · cases asks

/-- A typed observation is ready to go out on a session. -/
structure Reported (library : Library) (offer : Hello) (acts : List (Act Question.Reply)) (agreement : Agreement)
    (reply : Wire.Control) : Prop where
  negotiated : ∃ greeting remote body request health, library.hello HELLO_LIMIT greeting = some remote ∧
    negotiate offer remote = .ok agreement ∧ library.control.decode agreement.maxFrame body = some request ∧
    Health.response library.health health request = .ok reply ∧
    Moved acts (MAGIC ++ frame greeting ++ [1] ++ frame body) (frame offer.encode ++ [1])
  typed : agreement.capabilities &&& Capability.HEALTH_DETAILS ≠ 0

/-- Where `serve` can be when it asks. -/
inductive Juncture (library : Library) (offer : Hello) (acts : List (Act Question.Reply)) (asked : Question) : Prop where
  | accepting {greeted : List (Act Question.Reply)} :
      Asks Possible (talk (AsyncSession.accept library.hello offer)) greeted asked → Juncture library offer acts asked
  | receiving {session : AsyncSession} {heard : List (Act Question.Reply)} :
      Asks Possible (talk (session.receive library.control).program) heard asked → Juncture library offer acts asked
  | watching {session : AsyncSession} {request : Wire.Control} : request.operation = Operation.WATCH →
      request.kind = .known .lifecycle → asked = .serveWatch session request → Juncture library offer acts asked
  | observing : asked.shares = true → Juncture library offer acts asked
  | answering {before sent : List (Act Question.Reply)} {agreement : Agreement} {reply : Wire.Control} :
      acts = before ++ sent → Reported library offer before agreement reply →
      Asks Possible (talk (AsyncSession.send library.control ⟨agreement, false⟩ reply).program) sent asked →
      Juncture library offer acts asked

theorem juncture_of_asks {asked : Question} (asks : Asks Possible (service.serve library offer) acts asked) :
    Juncture library offer acts asked := by
  rcases asks_bind asks with greets | ⟨greeting, _, _, rfl, accepted, established⟩
  · exact .accepting greets
  obtain ⟨session, rfl, receives⟩ := asks_attempt established
  obtain ⟨hello, remote, agreement, rfl, admitted⟩ := runs_talk_accept accepted
  rcases asks_bind receives with hears | ⟨hearing, _, ⟨_, _⟩, rfl, received, heard⟩
  · exact .receiving hears
  obtain ⟨request, rfl, judges⟩ := asks_attempt heard
  obtain ⟨rfl, body, decoded, -, read⟩ := runs_async_receive rfl received
  dsimp only at judges
  split at judges
  · rename_i watch
    obtain ⟨_, -, watches⟩ := asks_attempt judges
    simp only [Bool.and_eq_true, decide_eq_true_eq] at watch
    cases watches with
    | first => exact .watching watch.1 watch.2 rfl
    | later _ ends => cases ends
  · split at judges
    · cases judges
    · rename_i typed
      rcases asks_bind judges with handles | ⟨handling, sent, _, rfl, handled, answers⟩
      · exact .observing (asks_handle handles)
      obtain ⟨reply, rfl, sends⟩ := asks_attempt answers
      obtain ⟨health, response, quiet⟩ := runs_handle handled
      rcases asks_bind sends with sends | ⟨_, _, ⟨_, _⟩, -, -, ends⟩
      · have moved := admitted.moved.append (read.append quiet)
        have whole : greeting ++ (hearing ++ (handling ++ sent)) = (greeting ++ (hearing ++ handling)) ++ sent := by simp
        refine .answering whole ⟨?_, typed⟩ sends
        exact ⟨hello, remote, body, request, health, admitted.decoded, admitted.agreed, decoded, response,
          moved.congr (by simp) (by simp)⟩
      · obtain ⟨_, -, ends⟩ := asks_attempt ends
        cases ends

theorem writes_send {codec : Codec Wire.Control} {message : Wire.Control} :
    Writes (· = frame (codec.encode message)) (session.send codec message).program := by
  rw [AsyncSession.send, Method.program_attempt, AsyncSession.program_sendingMessage]
  exact writes_attemptIn fun _ _ => writes_sendMessage rfl

theorem writes_receive {codec : Codec Wire.Control} : Writes (fun _ => False) (session.receive codec).program := by
  rw [AsyncSession.receive, Method.program_bind, AsyncSession.program_receivingMessage]
  refine writes_bind writes_receiveMessage ?_
  rintro ⟨session, received⟩
  dsimp only
  rw [Method.program_attempt]
  refine writes_attemptIn fun message _ => ?_
  cases session.agreement.check message <;> exact .done

/-- What goes out after the greeting is a typed observation, on a session that has agreed on it. -/
theorem reported_of_asks {bytes : List UInt8}
    (asks : Asks Possible (service.serve library offer) acts (.write bytes)) :
    Greets offer bytes ∨ ∃ before agreement reply, before <+: acts ∧
      Reported library offer before agreement reply ∧ bytes = frame (library.control.encode reply) := by
  cases juncture_of_asks asks with
  | accepting greets => exact .inl (may_of_asks writes_accept greets)
  | receiving hears => exact (may_of_asks writes_receive hears).elim
  | watching _ _ same => cases same
  | observing shares => cases shares
  | answering whole reported sends =>
      have written := may_of_asks writes_send sends
      refine .inr ⟨_, _, _, ?_, reported, written⟩
      rw [whole]
      exact List.prefix_append _ _

theorem watch_of_asks {request : Wire.Control}
    (asks : Asks Possible (service.serve library offer) acts (.serveWatch session request)) :
    request.operation = Operation.WATCH ∧ request.kind = .known .lifecycle := by
  cases juncture_of_asks asks with
  | accepting greets => cases streams_of_asks greets
  | receiving hears => cases streams_of_asks hears
  | watching operation kind same =>
      cases same
      exact ⟨operation, kind⟩
  | observing shares => cases shares
  | answering _ _ sends => cases streams_of_asks sends

end

section
variable {library : Library} {offer : Hello}

section
variable {endpoint : String} {operation : UInt32} {expected : Option ProcessId} {deadline : Instant}
variable {acts : List (Act Question.Reply)} {observed : Health} {account : Client.Account}

theorem details_of_earned (required : offer.required &&& Capability.HEALTH_DETAILS ≠ 0)
    (earned : Client.Earned library endpoint offer operation expected deadline acts observed account) :
    account.agreement.capabilities &&& Capability.HEALTH_DETAILS ≠ 0 :=
  fun apart => required (and_eq_zero_of_among earned.agreed.clientRequired apart)

theorem details_iff_of_earned
    (earned : Client.Earned library endpoint offer operation expected deadline acts observed account) :
    account.agreement.capabilities &&& Capability.HEALTH_DETAILS ≠ 0 ↔
      offer.supported &&& Capability.HEALTH_DETAILS ≠ 0 ∧
      account.remote.supported &&& Capability.HEALTH_DETAILS ≠ 0 := by
  rw [earned.agreed.capabilities]
  have single : Capability.HEALTH_DETAILS.toNat = 2 ^ 4 := rfl
  exact and_and_bit_ne_zero single

end

/-- The client asks for no agreement on typed observations: those that it accepts were negotiated in
exactly the runs in which both offers support them. A client that requires them is in no other run, and a
service sends them only where they were negotiated, whatever the client requires. -/
theorem typed_health_iff_both_support (library : Library) (offer : Hello) :
    (∀ endpoint expected deadline acts observed operation,
      operation = Operation.HEALTH ∧
        Runs Possible (Client.health library endpoint offer expected deadline) acts (.ok observed) ∨
      operation = Operation.DRAIN ∧
        Runs Possible (Client.drain library endpoint offer expected deadline) acts (.ok observed) →
      (∃ account, Client.Earned library endpoint offer operation expected deadline acts observed account) ∧
      ∀ account, Client.Earned library endpoint offer operation expected deadline acts observed account →
        (account.agreement.capabilities &&& Capability.HEALTH_DETAILS ≠ 0 ↔
          offer.supported &&& Capability.HEALTH_DETAILS ≠ 0 ∧
          account.remote.supported &&& Capability.HEALTH_DETAILS ≠ 0) ∧
        (offer.required &&& Capability.HEALTH_DETAILS ≠ 0 →
          account.agreement.capabilities &&& Capability.HEALTH_DETAILS ≠ 0)) ∧
    (∀ (service : HealthService) (served : Hello) acts bytes,
      Asks Possible (service.serve library served) acts (.write bytes) → Greets served bytes ∨
      ∃ before agreement reply, before <+: acts ∧ Reported library served before agreement reply ∧
        bytes = frame (library.control.encode reply)) ∧
    (∀ (service : HealthService) (served : Hello) acts session request,
      Asks Possible (service.serve library served) acts (.serveWatch session request) →
      request.operation = Operation.WATCH ∧
      ∀ codec event, (service.frame codec request event).operation = Operation.WATCH) := by
  refine ⟨fun endpoint expected deadline acts observed operation returned => ?_, ?_, ?_⟩
  · refine ⟨?_, fun account earned => ⟨details_iff_of_earned earned, fun required => details_of_earned required earned⟩⟩
    rcases returned with ⟨rfl, runs⟩ | ⟨rfl, runs⟩
    · exact Client.earned_of_runs runs
    · exact Client.earned_of_runs runs
  · exact fun _ _ _ _ => reported_of_asks
  · exact fun _ _ _ _ _ asks => ⟨(watch_of_asks asks).1, fun _ _ => rfl⟩

end

theorem detailed_client_is_told_typed_health :
    (∃ account, Client.Earned Client.kacheLibrary "kache.sock" Client.detailedClient Operation.HEALTH
      (some ⟨7, by decide⟩) 105 Client.kacheRun.1 Client.kacheHealth account) ∧
    ∀ account, Client.Earned Client.kacheLibrary "kache.sock" Client.detailedClient Operation.HEALTH
      (some ⟨7, by decide⟩) 105 Client.kacheRun.1 Client.kacheHealth account →
      account.agreement.capabilities &&& Capability.HEALTH_DETAILS ≠ 0 ∧
      account.remote.supported &&& Capability.HEALTH_DETAILS ≠ 0 := by
  have returned : Client.kacheRun.2 = .ok Client.kacheHealth := by decide +kernel
  obtain ⟨told, exactly⟩ := (typed_health_iff_both_support Client.kacheLibrary Client.detailedClient).1 _ _ _ _ _ _
    (.inl ⟨rfl, returned ▸ runs_play Client.Service.possible _ _⟩)
  refine ⟨told, fun account earned => ?_⟩
  obtain ⟨both, required⟩ := exactly account earned
  have agreed := required (by decide)
  exact ⟨agreed, (both.mp agreed).2⟩

/-- A client that does not require typed observations, told by a service that does not offer them. -/
def untypedRun : List (Act Question.Reply) × Except Client.RequestError Health :=
  (Client.health Client.kacheLibrary "kache.sock" kacheClient none 105).play Client.Service.reply
    (Client.kacheService kacheServer)

theorem untyped_health_is_accepted :
    Runs Possible (Client.health Client.kacheLibrary "kache.sock" kacheClient none 105) untypedRun.1
      (.ok Client.kacheHealth) ∧
    (∃ account, Client.Earned Client.kacheLibrary "kache.sock" kacheClient Operation.HEALTH none 105 untypedRun.1
      Client.kacheHealth account) ∧
    ∀ account, Client.Earned Client.kacheLibrary "kache.sock" kacheClient Operation.HEALTH none 105 untypedRun.1
      Client.kacheHealth account → account.agreement.capabilities &&& Capability.HEALTH_DETAILS = 0 := by
  have returned : untypedRun.2 = .ok Client.kacheHealth := by decide +kernel
  have runs : Runs Possible (Client.health Client.kacheLibrary "kache.sock" kacheClient none 105) untypedRun.1
      (.ok Client.kacheHealth) := returned ▸ runs_play Client.Service.possible _ _
  refine ⟨runs, Client.earned_of_runs runs, fun account earned => ?_⟩
  -- Whatever the service says it supports, the client does not support this capability.
  have lacks : kacheClient.supported &&& Capability.HEALTH_DETAILS = 0 := by decide
  rw [earned.agreed.capabilities, UInt64.and_assoc, UInt64.and_comm account.remote.supported, ← UInt64.and_assoc, lacks,
    UInt64.zero_and]

end KunobiDaemon.Control
