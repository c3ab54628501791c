import KunobiDaemon.Wire.Session

/-! The asynchronous session, whose frame limit is part of its agreement. -/

set_option autoImplicit false

namespace KunobiDaemon.Wire

open Lib.Bytes
open Lib.Duplex
open Lib.Streams
open Lib.Streams.Process

/-- An asynchronous session without its transport and its scratch storage. -/
structure AsyncSession where
  agreement : Agreement
  failed : Bool
  deriving DecidableEq, Repr

namespace AsyncSession

variable {M : Type}

def unestablished : AsyncSession := ⟨⟨VERSION, 0, HELLO_LIMIT⟩, false⟩

def usable (session : AsyncSession) : Except IoError Unit :=
  if session.failed then .error (invalid "session failed; reconnect without replay") else .ok ()

def sendMessage (codec : Codec M) (session : AsyncSession) (message : M) :
    Process IoError (AsyncSession × Except IoError Unit) :=
  attemptIn session session.usable fun _ =>
  attemptIn session (encodeFrame codec message session.agreement.maxFrame) fun buffer =>
  let session := { session with failed := true }
  .write buffer fun reply => attemptIn session reply fun _ =>
  .flush fun reply => attemptIn session reply fun _ =>
  .done ({ session with failed := false }, .ok ())

def receiveMessage (codec : Codec M) (session : AsyncSession) : Process IoError (AsyncSession × Except IoError M) :=
  attemptIn session session.usable fun _ =>
  let session := { session with failed := true }
  .read 4 fun reply => attemptIn session reply fun header =>
  let length := ofLittle header
  if length = 0 || length > session.agreement.maxFrame.toNat then
    .done (session, .error (invalid "received frame exceeds negotiated bounds"))
  else
    .read length fun reply => attemptIn session reply fun buffer =>
    attemptIn session (decodeMessage codec buffer session.agreement.maxFrame) fun message =>
    .done ({ session with failed := false }, .ok message)

def readAcceptance : Process IoError (Except IoError Unit) :=
  .read 1 fun reply => attempt reply fun byte =>
  if byte ≠ [1] then .done (.error (invalid "peer did not accept negotiation")) else .done (.ok ())

def connect (decode : UInt32 → List UInt8 → Option Hello) (offer : Hello) :
    Process IoError (Except IoError AsyncSession) :=
  attempt offer.validate fun _ =>
  let session := unestablished
  .write MAGIC fun reply => attempt reply fun _ =>
  (session.sendMessage (Hello.codec decode) offer).bind fun (session, sent) => attempt sent fun _ =>
  (session.receiveMessage (Hello.codec decode)).bind fun (session, received) => attempt received fun remote =>
  attempt (checkRefusal remote) fun _ =>
  attempt (negotiate offer remote) fun agreement =>
  .write [1] fun reply => attempt reply fun _ =>
  .flush fun reply => attempt reply fun _ =>
  readAcceptance.bind fun accepted => attempt accepted fun _ =>
  .done (.ok { session with agreement := agreement })

/-- Read the magic and the client's offer. -/
def offered (decode : UInt32 → List UInt8 → Option Hello) : Process IoError (Except IoError (AsyncSession × Hello)) :=
  let session := unestablished
  .read 8 fun reply => attempt reply fun magic =>
  if magic ≠ MAGIC then .done (.error (invalid "wrong binary protocol magic"))
  else
    (session.receiveMessage (Hello.codec decode)).bind fun (session, received) => attempt received fun remote =>
    .done (.ok (session, remote))

/-- Establish a server session. -/
def accept (decode : UInt32 → List UInt8 → Option Hello) (offer : Hello) :
    Process IoError (Except IoError AsyncSession) :=
  attempt offer.validate fun _ =>
  (offered decode).bind fun result => attempt result fun (session, remote) =>
  match negotiate offer remote with
  | .error error =>
      match rejection offer remote with
      -- The failed negotiation is the error to report.
      | some refusal => (session.sendMessage (Hello.codec decode) refusal).bind fun _ => .done (.error error)
      | none => .done (.error error)
  | .ok agreement =>
      (session.sendMessage (Hello.codec decode) offer).bind fun (session, sent) => attempt sent fun _ =>
      readAcceptance.bind fun accepted => attempt accepted fun _ =>
      .write [1] fun reply => attempt reply fun _ =>
      .flush fun reply => attempt reply fun _ =>
      .done (.ok { session with agreement := agreement })

def refuse (decode : UInt32 → List UInt8 → Option Hello) (offer : Hello) (reason : Refused) :
    Process IoError (Except IoError Unit) :=
  (offered decode).bind fun result => attempt result fun (session, remote) =>
  match reason.frame offer remote with
  | some refusal => (session.sendMessage (Hello.codec decode) refusal).bind fun (_, sent) => .done sent
  | none => .done (.ok ())

/-- The codec a session frames its messages with. -/
def frames (session : AsyncSession) : Framed := ⟨session.agreement.maxFrame, session.failed⟩

/-- The asynchronous session that a blocking one corresponds with. -/
def ofSession (session : Session) : AsyncSession := ⟨session.agreement, session.frames.failed⟩

section
variable (codec : Codec M) (session : AsyncSession)

theorem sendMessage_eq (message : M) : session.sendMessage codec message =
    (session.frames.send codec message).bind fun (frames, sent) =>
      .done ({ session with failed := frames.failed }, sent) := by
  obtain ⟨agreement, failed⟩ := session
  cases failed with
  | true => rfl
  | false =>
      unfold sendMessage Framed.send frames
      cases encodeFrame codec message agreement.maxFrame with
      | error => rfl
      | ok buffer =>
          refine congrArg (Process.write buffer) (funext fun reply => ?_)
          cases reply with
          | error => rfl
          | ok =>
              refine congrArg Process.flush (funext fun reply => ?_)
              cases reply <;> rfl

theorem receiveMessage_eq : session.receiveMessage codec =
    (session.frames.receive codec).bind fun (frames, received) =>
      .done ({ session with failed := frames.failed }, received) := by
  obtain ⟨agreement, failed⟩ := session
  cases failed with
  | true => rfl
  | false =>
      refine congrArg (Process.read 4) (funext fun reply => ?_)
      cases reply with
      | error => rfl
      | ok header =>
          change (if ofLittle header = 0 || ofLittle header > agreement.maxFrame.toNat then _ else _) =
            Process.bind (if ofLittle header = 0 || ofLittle header > agreement.maxFrame.toNat then _ else _) _
          split
          · rfl
          · refine congrArg (Process.read (ofLittle header)) (funext fun reply => ?_)
            cases reply with
            | error => rfl
            | ok buffer =>
                dsimp only [attemptIn, frames]
                cases decodeMessage codec buffer agreement.maxFrame <;> rfl

/-- Both kinds of session connect in the same way. -/
theorem connect_eq (decode : UInt32 → List UInt8 → Option Hello) (offer : Hello) :
    connect decode offer = (Session.connect decode offer).mapOk ofSession := by
  unfold connect Session.connect
  rw [attempt_new]
  refine attempt_eq_mapOk _ fun _ => ?_
  refine congrArg (Process.write MAGIC) (funext fun reply => attempt_eq_mapOk _ fun _ => ?_)
  rw [sendMessage_eq, bind_assoc, mapOk_bind]
  -- The asynchronous session keeps the limit apart from the codec, which must not have changed it.
  refine (send_keeps_limit _ _ _).bind_congr fun (⟨limit, failed⟩, sent) kept => ?_
  cases kept
  refine attempt_eq_mapOk _ fun _ => ?_
  rw [receiveMessage_eq, bind_assoc, mapOk_bind]
  refine (receive_keeps_limit _ _).bind_congr fun (frames, received) _ => attempt_eq_mapOk _ fun remote => ?_
  refine attempt_eq_mapOk _ fun _ => attempt_eq_mapOk _ fun agreement => ?_
  refine congrArg (Process.write [1]) (funext fun reply => attempt_eq_mapOk _ fun _ => ?_)
  refine congrArg Process.flush (funext fun reply => attempt_eq_mapOk _ fun _ => ?_)
  rw [mapOk_bind]
  exact congrArg (Process.bind _) (funext fun accepted => attempt_eq_mapOk _ fun _ => rfl)

end

end AsyncSession

end KunobiDaemon.Wire
