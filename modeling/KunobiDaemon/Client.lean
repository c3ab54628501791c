import KunobiDaemon.Surroundings
import KunobiDaemon.Wire.Handshake

/-! One control request to a running service, and what its answer rests on.

The client asks the operating system and the clock, and talks to whoever is at the other
end of the connection.
-/

set_option autoImplicit false

namespace KunobiDaemon.Client

open Lib.Dialogues
open Lib.Streams (performs_within)
open Peer (Credentials ExpectedProcess.grant SameUser.grant)
open Surroundings
open Wire

/-- Why a control request did not produce a trusted reply. -/
inductive RequestError where
  | unavailable (error : ConnectError)
  | peer (rejected : Peer.Rejected)
  | credentials (error : IoError)
  | processMismatch (peer : ProcessId) (reported : UInt32)
  | late
  | protocol (error : IoError)
  deriving DecidableEq, Repr

open Program

/-- One process if it is named, and any process of this user otherwise. -/
def checkPeer (expected : Option ProcessId) (evidence : Credentials) : Except Peer.Rejected Unit :=
  match expected with
  | some pid => (ExpectedProcess.grant (fun _ => some pid) evidence).map fun _ => ()
  | none => SameUser.grant evidence

/-- Send one lifecycle operation and return the reply. -/
def request (library : Library) (endpoint : String) (offer : Hello) (operation : UInt32)
    (expected : Option ProcessId) (deadline : Instant) : Program Question.Reply (Except RequestError Health) :=
  .ask (.connectOnceUntil endpoint deadline) fun reply => attempt .unavailable reply fun _ =>
  .ask .credentials fun reply => attempt .credentials reply fun evidence =>
  attempt .peer (checkPeer expected evidence) fun _ =>
  match evidence.pid with
  | none => .done (.error (.peer .unreported))
  | some peer =>
      .ask .now fun (now : Instant) =>
      let remaining : Duration := deadline - now
      if remaining = 0 then .done (.error .late)
      else
        .ask (.setReadDeadline remaining) fun reply => attempt .protocol reply fun _ =>
        .ask .split fun reply => attempt .protocol reply fun _ =>
        (talk (Session.connect library.hello offer)).bind fun result => attempt .protocol result fun session =>
        let message : Control := { operation }
        (talk (session.send library.control message).program).bind fun (session, sent) =>
        attempt .protocol sent fun _ =>
        (talk (session.receive library.control).program).bind fun (_, received) =>
        attempt .protocol received fun reply =>
        attempt .protocol (Health.fromResponse library.health reply message) fun health =>
        if health.processId ≠ peer.val then .done (.error (.processMismatch peer health.processId))
        else
          .ask .now fun (now : Instant) => if now ≥ deadline then .done (.error .late) else .done (.ok health)

def health (library : Library) (endpoint : String) (offer : Hello) (expected : Option ProcessId)
    (deadline : Instant) : Program Question.Reply (Except RequestError Health) :=
  request library endpoint offer Operation.HEALTH expected deadline

def drain (library : Library) (endpoint : String) (offer : Hello) (expected : Option ProcessId)
    (deadline : Instant) : Program Question.Reply (Except RequestError Health) :=
  request library endpoint offer Operation.DRAIN expected deadline

/-- What a handshake that succeeds exchanged and agreed on. -/
structure Joined (decode : UInt32 → List UInt8 → Option Hello) (offer : Hello) (acts : List (Act Question.Reply))
    (greeting : List UInt8) (remote : Hello) (agreement : Agreement) : Prop where
  decoded : decode HELLO_LIMIT greeting = some remote
  agreed : negotiate offer remote = .ok agreement
  moved : Moved acts (frame greeting ++ [1]) (MAGIC ++ frame offer.encode ++ [1])

theorem runs_talk_connect {decode : UInt32 → List UInt8 → Option Hello} {offer : Hello}
    {acts : List (Act Question.Reply)} {session : Session}
    (runs : Runs Possible (talk (Session.connect decode offer)) acts (.ok session)) :
    ∃ greeting remote agreement, session = Session.established agreement ∧
      Joined decode offer acts greeting remote agreement := by
  unfold Session.connect at runs
  obtain ⟨_, -, asks⟩ := runs_talk_attempt runs
  obtain ⟨_, _, rfl, -, asked⟩ := runs_ask asks
  obtain ⟨_, rfl, sends⟩ := runs_talk_attempt asked
  rw [attempt_new] at sends
  obtain ⟨sending, _, ⟨frames, _⟩, rfl, sent, offered⟩ := runs_talk_bind sends
  obtain ⟨_, rfl, receives⟩ := runs_talk_attempt offered
  obtain ⟨rfl, gave⟩ := runs_talk_send sent
  obtain ⟨receiving, _, ⟨frames, _⟩, rfl, received, answered⟩ := runs_talk_bind receives
  obtain ⟨remote, rfl, checks⟩ := runs_talk_attempt answered
  obtain ⟨rfl, greeting, -, decoded, got⟩ := runs_talk_receive received
  obtain ⟨_, -, negotiates⟩ := runs_talk_attempt checks
  obtain ⟨agreement, agreed, accepts⟩ := runs_talk_attempt negotiates
  obtain ⟨_, _, rfl, -, accepted⟩ := runs_ask accepts
  obtain ⟨_, rfl, flushes⟩ := runs_talk_attempt accepted
  obtain ⟨_, _, rfl, -, flushed⟩ := runs_ask flushes
  obtain ⟨_, rfl, waits⟩ := runs_talk_attempt flushed
  obtain ⟨waiting, _, _, rfl, confirmed, concludes⟩ := runs_talk_bind waits
  obtain ⟨_, rfl, ends⟩ := runs_talk_attempt concludes
  cases ends
  refine ⟨greeting, remote, agreement, rfl, decoded, agreed, ?_⟩
  have confirms := (runs_readAcceptance confirmed).append .nil
  exact .congr (gave.append (got.append confirms.flushed.wrote)).wrote (by simp) (by simp [Hello.codec])

section
variable {codec : Codec Control} {agreement : Agreement} {session : Session} {acts : List (Act Question.Reply)}

theorem runs_session_send {message : Control}
    (runs : Runs Possible (talk ((Session.established agreement).send codec message).program) acts (session, .ok ())) :
    session = Session.established agreement ∧ Permitted agreement message ∧
      Moved acts [] (frame (codec.encode message)) := by
  obtain ⟨_, performs, moved⟩ := performs_of_runs runs
  rw [Session.send_eq] at performs
  obtain ⟨frames, rfl, sends⟩ := performs_within performs
  obtain ⟨kept, sent⟩ := performs_sendingChecked rfl sends
  obtain ⟨limit, failed⟩ := frames
  cases kept
  cases sent with
  | sent sendable => exact ⟨rfl, sendable.permitted, moved⟩
  | cut _ _ unsent => exact absurd rfl (unsent none)

theorem runs_session_receive {message : Control}
    (runs : Runs Possible (talk ((Session.established agreement).receive codec).program) acts (session, .ok message)) :
    ∃ body, codec.decode agreement.maxFrame body = some message ∧ Permitted agreement message ∧
      Moved acts (frame body) [] := by
  obtain ⟨_, performs, moved⟩ := performs_of_runs runs
  rw [Session.receive_eq] at performs
  obtain ⟨frames, rfl, receives⟩ := performs_within performs
  obtain ⟨-, got⟩ := performs_receivingChecked rfl receives
  obtain ⟨limit, failed⟩ := frames
  cases got with
  | received _ decoded permitted => exact ⟨_, decoded, permitted, moved⟩
  | lost never => exact absurd rfl (never (some message))

end

/-- The version of this build is one of those offered. -/
def Spans (hello : Hello) : Prop := hello.minimum ≤ VERSION ∧ VERSION ≤ hello.maximum

theorem spans_of_negotiate {offer remote : Hello} {agreement : Agreement}
    (agreed : negotiate offer remote = .ok agreement) : Spans offer ∧ Spans remote := by
  obtain ⟨-, -, -, agreed⟩ := negotiate_eq_ok.mp agreed
  unfold Terms.agree at agreed
  split at agreed
  · cases agreed
  · rename_i common
    simp only [Terms.of, Bool.or_eq_true, decide_eq_true_eq, not_or, min_lt, gt_iff_lt, lt_max, UInt32.not_lt] at common
    exact ⟨⟨common.1.1, common.2.1⟩, common.1.2, common.2.2⟩

theorem service_of_negotiate {offer remote : Hello} {agreement : Agreement}
    (agreed : negotiate offer remote = .ok agreement) :
    remote.serviceId = offer.serviceId ∧ remote.application = offer.application ∧
      remote.profile = offer.profile ∧ remote.serviceInstance = offer.serviceInstance := by
  obtain ⟨-, -, same, -⟩ := negotiate_eq_ok.mp agreed
  simp only [sameService, decide_eq_true_eq, Prod.mk.injEq] at same
  exact ⟨same.1.symm, same.2.1.symm, same.2.2.1.symm, same.2.2.2.symm⟩

/-- A conversation that ends with an observation of the peer. -/
structure Conversed (library : Library) (offer : Hello) (operation : UInt32) (talked : List (Act Question.Reply))
    (greeting : List UInt8) (remote : Hello) (agreement : Agreement) (body : List UInt8) (reply : Control)
    (health : Health) : Prop where
  greeted : library.hello HELLO_LIMIT greeting = some remote
  agreed : negotiate offer remote = .ok agreement
  capable : Permitted agreement { operation }
  -- The two offers and acceptances, the request, and the reply at the end.
  moved : Moved talked (frame greeting ++ [1] ++ frame body)
    (MAGIC ++ frame offer.encode ++ [1] ++ frame (library.control.encode { operation }))
  replied : library.control.decode agreement.maxFrame body = some reply
  answers : Answers library.health reply { operation } health

/-- What the client was told, in the order it asked. -/
structure Account where
  evidence : Credentials
  entered : Instant
  talked : List (Act Question.Reply)
  greeting : List UInt8
  remote : Hello
  agreement : Agreement
  body : List UInt8
  reply : Control
  ended : Instant

/-- An observation that the client may trust. -/
structure Earned (library : Library) (endpoint : String) (offer : Hello) (operation : UInt32)
    (expected : Option ProcessId) (deadline : Instant) (acts : List (Act Question.Reply)) (health : Health)
    (account : Account) : Prop where
  asked : acts = ⟨.connectOnceUntil endpoint deadline, .ok ()⟩ :: ⟨.credentials, .ok account.evidence⟩ ::
    ⟨.now, account.entered⟩ :: ⟨.setReadDeadline (deadline - account.entered), .ok ()⟩ :: ⟨.split, .ok ()⟩ ::
    (account.talked ++ [⟨.now, account.ended⟩])
  sameUser : account.evidence.sameUser = true
  expected : ∀ pid ∈ expected, account.evidence.pid = some pid
  conversed : Conversed library offer operation account.talked account.greeting account.remote account.agreement
    account.body account.reply health
  service : account.remote.serviceId = offer.serviceId ∧ account.remote.application = offer.application ∧
    account.remote.profile = offer.profile ∧ account.remote.serviceInstance = offer.serviceInstance
  versions : Spans offer ∧ Spans account.remote
  agreed : account.agreement.Between offer account.remote
  named : account.evidence.pid.map Subtype.val = some health.processId
  prompt : account.ended < deadline

section
variable {library : Library} {endpoint : String} {offer : Hello} {operation : UInt32} {expected : Option ProcessId}
variable {deadline : Instant} {acts : List (Act Question.Reply)} {evidence : Credentials}

theorem sameUser_of_checkPeer (accepted : checkPeer expected evidence = .ok ()) :
    evidence.sameUser = true ∧ ∀ pid ∈ expected, evidence.pid = some pid := by
  cases expected with
  | none => exact ⟨Peer.sameUser_of_grant accepted, nofun⟩
  | some pid =>
      unfold checkPeer at accepted
      cases granted : Peer.ExpectedProcess.grant (fun _ => some pid) evidence with
      | error =>
          simp only [granted] at accepted
          cases accepted
      | ok =>
          obtain ⟨same, reported⟩ := Peer.expectedProcess_of_grant granted
          refine ⟨same, fun other named => ?_⟩
          cases named
          exact reported

/-- What `request` does on a connection it accepts. -/
def converse (library : Library) (offer : Hello) (operation : UInt32) (peer : ProcessId) (deadline : Instant) :
    Program Question.Reply (Except RequestError Health) :=
  (talk (Session.connect library.hello offer)).bind fun result => .attempt .protocol result fun session =>
  (talk (session.send library.control { operation }).program).bind fun (session, sent) =>
  .attempt .protocol sent fun _ =>
  (talk (session.receive library.control).program).bind fun (_, received) =>
  .attempt .protocol received fun reply =>
  .attempt .protocol (Health.fromResponse library.health reply { operation }) fun health =>
  if health.processId ≠ peer.val then .done (.error (.processMismatch peer health.processId))
  else .ask .now fun (now : Instant) => if now ≥ deadline then .done (.error .late) else .done (.ok health)

theorem runs_converse {peer : ProcessId} {health : Health}
    (runs : Runs Possible (converse library offer operation peer deadline) acts (.ok health)) :
    ∃ talked greeting remote agreement body reply ended, acts = talked ++ [⟨.now, ended⟩] ∧
      Conversed library offer operation talked greeting remote agreement body reply health ∧
      health.processId = peer.val ∧ ended < deadline := by
  obtain ⟨joining, _, _, rfl, joined, established⟩ := runs_bind runs
  obtain ⟨session, rfl, sends⟩ := runs_attempt established
  obtain ⟨greeting, remote, agreement, rfl, handshake⟩ := runs_talk_connect joined
  obtain ⟨sending, _, ⟨session, _⟩, rfl, sent, requested⟩ := runs_bind sends
  obtain ⟨_, rfl, receives⟩ := runs_attempt requested
  obtain ⟨rfl, capable, gave⟩ := runs_session_send sent
  obtain ⟨receiving, _, ⟨session, _⟩, rfl, received, answered⟩ := runs_bind receives
  obtain ⟨reply, rfl, observes⟩ := runs_attempt answered
  obtain ⟨body, replied, -, got⟩ := runs_session_receive received
  obtain ⟨found, observed, compares⟩ := runs_attempt observes
  split at compares
  · cases compares
  · rename_i named
    obtain ⟨ended, _, rfl, -, ends⟩ := runs_ask compares
    split at ends
    · cases ends
    · rename_i prompt
      cases ends
      have moved := handshake.moved.append (gave.append got)
      refine ⟨joining ++ (sending ++ receiving), greeting, remote, agreement, body, reply, ended, ?_, ?_, ?_, ?_⟩
      · rw [List.append_assoc, List.append_assoc]
      · exact ⟨handshake.decoded, handshake.agreed, capable, moved.congr (by simp) (by simp), replied,
          answers_of_fromResponse observed⟩
      · exact Classical.not_not.mp named
      · exact Nat.lt_of_not_le prompt

theorem earned_of_runs {health : Health}
    (runs : Runs Possible (request library endpoint offer operation expected deadline) acts (.ok health)) :
    ∃ account, Earned library endpoint offer operation expected deadline acts health account := by
  unfold request at runs
  obtain ⟨_, _, rfl, -, connected⟩ := runs_ask runs
  obtain ⟨_, rfl, reports⟩ := runs_attempt connected
  obtain ⟨_, _, rfl, -, reported⟩ := runs_ask reports
  obtain ⟨evidence, rfl, judges⟩ := runs_attempt reported
  obtain ⟨_, accepted, names⟩ := runs_attempt judges
  obtain ⟨same, expects⟩ := sameUser_of_checkPeer accepted
  cases known : evidence.pid with
  | none =>
      simp only [known] at names
      cases names
  | some peer =>
      simp only [known] at names
      obtain ⟨entered, _, rfl, -, starts⟩ := runs_ask names
      split at starts
      · cases starts
      · obtain ⟨_, _, rfl, -, limited⟩ := runs_ask starts
        obtain ⟨_, rfl, splits⟩ := runs_attempt limited
        obtain ⟨_, _, rfl, -, divided⟩ := runs_ask splits
        obtain ⟨_, rfl, talks⟩ := runs_attempt divided
        obtain ⟨talked, greeting, remote, agreement, body, reply, ended, rfl, conversed, named, prompt⟩ :=
          runs_converse talks
        refine ⟨⟨evidence, entered, talked, greeting, remote, agreement, body, reply, ended⟩, ?_⟩
        exact {
          asked := rfl
          sameUser := same
          expected := expects
          conversed
          service := service_of_negotiate conversed.agreed
          versions := spans_of_negotiate conversed.agreed
          agreed := between_of_negotiate conversed.agreed
          named := by rw [known, named] ; rfl
          prompt }

/-- The first two questions write nothing, and the others are for a peer that was accepted. -/
theorem accepted_of_asks {bytes : List UInt8}
    (asks : Asks Possible (request library endpoint offer operation expected deadline) acts (.write bytes)) :
    ∃ evidence : Credentials, ⟨.credentials, .ok evidence⟩ ∈ acts ∧ evidence.sameUser = true ∧
      ∀ pid ∈ expected, evidence.pid = some pid := by
  cases asks with
  | later _ connected =>
      obtain ⟨_, rfl, reports⟩ := asks_attempt connected
      cases reports with
      | later _ reported =>
          obtain ⟨evidence, rfl, judges⟩ := asks_attempt reported
          obtain ⟨_, accepted, -⟩ := asks_attempt judges
          exact ⟨evidence, by simp, sameUser_of_checkPeer accepted⟩

/-- Whoever is at the other end, a reply that `health` or `drain` returns is what the peer it
checked said of itself, in time, over a session that may ask. -/
theorem trusted_reply_was_earned {program : Program Question.Reply (Except RequestError Health)}
    (called : program = health library endpoint offer expected deadline ∧ operation = Operation.HEALTH ∨
      program = drain library endpoint offer expected deadline ∧ operation = Operation.DRAIN) :
    (∀ acts observed, Runs Possible program acts (.ok observed) →
      ∃ account, Earned library endpoint offer operation expected deadline acts observed account) ∧
    (∀ acts bytes, Asks Possible program acts (.write bytes) →
      ∃ evidence : Credentials, ⟨.credentials, .ok evidence⟩ ∈ acts ∧ evidence.sameUser = true ∧
        ∀ pid ∈ expected, evidence.pid = some pid) := by
  have asks : program = request library endpoint offer operation expected deadline := by
    rcases called with ⟨rfl, rfl⟩ | ⟨rfl, rfl⟩ <;> rfl
  subst asks
  exact ⟨fun _ _ => earned_of_runs, fun _ _ => accepted_of_asks⟩

end

/-! A service that answers from what it has to say. -/

structure Service where
  tells : List UInt8
  peer : Credentials
  clock : Instant

def Service.reply (service : Service) : (question : Question) → question.Reply × Service
  | .connectOnceUntil _ _ => (.ok (), service)
  | .credentials => (.ok service.peer, service)
  | .now => (service.clock, { service with clock := service.clock + 1 })
  | .setReadDeadline _ | .split | .write _ | .flush | .serveWatch _ _ => (.ok (), service)
  | .read count =>
      if count ≤ service.tells.length then
        (.ok (service.tells.take count), { service with tells := service.tells.drop count })
      else (.error unixFaults.eof, { service with tells := [] })
  | .lifecycleSnapshot => (⟨false, 0⟩, service)
  | .loadReady => (true, service)
  | .startDrain => ((), service)

theorem Service.possible (service : Service) (question : Question) : Possible question (service.reply question).1 := by
  cases question with
  | read count =>
      intro bytes told
      simp only [Service.reply] at told
      split at told
      · rename_i enough
        cases told
        exact List.length_take_of_le enough
      · cases told
  | _ => trivial

def detailedClient : Hello := Hello.new kache 19 17

def detailedServer : Hello := Hello.new kache 63 0

def kacheHealth : Health := { processId := 7, generation := 3, ready := true }

def kacheReply : Control := { operation := Operation.HEALTH, generation := 3, payload := kacheHealth.encode }

def kacheLibrary : Library where
  hello := Hello.among [detailedServer, kacheServer]
  control := .among Control.encode [kacheReply]
  health := .among Health.encode [kacheHealth]

/-- A service that agrees to an offer and answers one request. -/
def kacheService (offer : Hello) : Service where
  tells := frame offer.encode ++ [1] ++ frame kacheReply.encode
  peer := ⟨some ⟨7, by decide⟩, true, .connection⟩
  clock := 100

def kacheRun : List (Act Question.Reply) × Except RequestError Health :=
  (health kacheLibrary "kache.sock" detailedClient (some ⟨7, by decide⟩) 105).play Service.reply
    (kacheService detailedServer)

theorem kache_reply_was_earned :
    kacheRun.2 = .ok kacheHealth ∧
    ∃ account, Earned kacheLibrary "kache.sock" detailedClient Operation.HEALTH (some ⟨7, by decide⟩) 105 kacheRun.1
      kacheHealth account := by
  have returned : kacheRun.2 = .ok kacheHealth := by decide +kernel
  refine ⟨returned, ?_⟩
  exact (trusted_reply_was_earned (.inl ⟨rfl, rfl⟩)).1 _ _ (returned ▸ runs_play Service.possible _ _)

end KunobiDaemon.Client
