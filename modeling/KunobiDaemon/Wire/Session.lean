import KunobiDaemon.Wire.Framing

/-! Session establishment over a blocking transport. -/

set_option autoImplicit false

namespace KunobiDaemon.Wire

open Lib.Bytes
open Lib.Duplex
open Lib.Streams
open Lib.Streams.Process

/-- Offers are encoded as this build does it; what decodes is up to the message library. -/
def Hello.codec (decode : UInt32 → List UInt8 → Option Hello) : Codec Hello := ⟨Hello.encode, decode⟩

/-- An established binary session. -/
structure Session where
  frames : Framed
  agreement : Agreement
  deriving DecidableEq, Repr

def readAcceptance : Process IoError (Except IoError Unit) :=
  .read 1 fun reply => attempt reply fun accepted =>
  if accepted ≠ [1] then .done (.error (invalid "peer did not accept negotiation")) else .done (.ok ())

namespace Session

variable (decode : UInt32 → List UInt8 → Option Hello)

def connect (offer : Hello) : Process IoError (Except IoError Session) :=
  attempt offer.validate fun _ =>
  .write MAGIC fun reply => attempt reply fun _ =>
  attempt (Framed.new HELLO_LIMIT) fun frames =>
  (frames.send (Hello.codec decode) offer).bind fun (frames, sent) => attempt sent fun _ =>
  (frames.receive (Hello.codec decode)).bind fun (frames, received) => attempt received fun remote =>
  attempt (checkRefusal remote) fun _ =>
  attempt (negotiate offer remote) fun agreement =>
  .write [1] fun reply => attempt reply fun _ =>
  .flush fun reply => attempt reply fun _ =>
  readAcceptance.bind fun accepted => attempt accepted fun _ =>
  .done (.ok ⟨{ frames with limit := agreement.maxFrame }, agreement⟩)

/-- Read the magic and the client's offer. -/
def offered : Process IoError (Except IoError (Framed × Hello)) :=
  .read 8 fun reply => attempt reply fun magic =>
  if magic ≠ MAGIC then .done (.error (invalid "wrong binary protocol magic"))
  else
    attempt (Framed.new HELLO_LIMIT) fun frames =>
    (frames.receive (Hello.codec decode)).bind fun (frames, received) => attempt received fun remote =>
    .done (.ok (frames, remote))

def accept (offer : Hello) : Process IoError (Except IoError Session) :=
  attempt offer.validate fun _ =>
  (offered decode).bind fun result => attempt result fun (frames, remote) =>
  match negotiate offer remote with
  | .error error =>
      match rejection offer remote with
      -- The failed negotiation is the error to report, whatever happens to the refusal.
      | some refusal => (frames.send (Hello.codec decode) refusal).bind fun _ => .done (.error error)
      | none => .done (.error error)
  | .ok agreement =>
      (frames.send (Hello.codec decode) offer).bind fun (frames, sent) => attempt sent fun _ =>
      readAcceptance.bind fun accepted => attempt accepted fun _ =>
      .write [1] fun reply => attempt reply fun _ =>
      .flush fun reply => attempt reply fun _ =>
      .done (.ok ⟨{ frames with limit := agreement.maxFrame }, agreement⟩)

def refuse (offer : Hello) (reason : Refused) : Process IoError (Except IoError Unit) :=
  (offered decode).bind fun result => attempt result fun (frames, remote) =>
  match reason.frame offer remote with
  | some refusal => (frames.send (Hello.codec decode) refusal).bind fun (_, sent) => .done sent
  | none => .done (.ok ())

end Session

open Session

/-- The codec of both sides until they have agreed. -/
def Framed.hello : Framed := ⟨HELLO_LIMIT, false⟩

theorem attempt_new {A : Type} (next : Framed → Process IoError (Except IoError A)) :
    attempt (Framed.new HELLO_LIMIT) next = next Framed.hello := by
  have made : Framed.new HELLO_LIMIT = .ok Framed.hello := by decide
  rw [made]
  rfl

section
variable (decode : UInt32 → List UInt8 → Option Hello)

theorem strict_readAcceptance {A : Type} {next : Except IoError Unit → Process IoError (Except IoError A)}
    (strict : ∀ accepted, Strict (next accepted)) : Strict (readAcceptance.bind next) := by
  refine .read fun reply => ?_
  cases reply with
  | error => exact strict _
  | ok accepted =>
      dsimp only [attempt]
      split
      · exact strict _
      · exact strict _

theorem strict_connect (offer : Hello) : Strict (connect decode offer) := by
  unfold connect
  refine strict_attempt fun _ => .write (fun _ => rfl) fun _ => strict_attempt fun _ => ?_
  refine strict_attempt fun frames => strict_send (fun (_, sent) => strict_attempt fun _ => ?_) fun _ _ => rfl
  refine strict_receive fun (_, received) => strict_attempt fun remote => ?_
  refine strict_attempt fun _ => strict_attempt fun agreement => ?_
  refine .write (fun _ => rfl) fun _ => strict_attempt fun _ => ?_
  refine .flush (fun _ => rfl) fun _ => strict_attempt fun _ => ?_
  exact strict_readAcceptance fun accepted => strict_attempt fun _ => .done

theorem strict_offered {A : Type} {next : Except IoError (Framed × Hello) → Process IoError (Except IoError A)}
    (strict : ∀ result, Strict (next result)) : Strict ((offered decode).bind next) := by
  unfold offered
  rw [attempt_new]
  refine .read fun reply => ?_
  cases reply with
  | error => exact strict _
  | ok magic =>
      dsimp only [attempt]
      split
      · exact strict _
      · rw [bind_assoc]
        refine strict_receive fun (_, received) => ?_
        cases received with
        | error => exact strict _
        | ok => exact strict _

theorem strict_refuse (offer : Hello) (reason : Refused) : Strict (refuse decode offer reason) := by
  unfold refuse
  refine strict_offered decode fun result => strict_attempt fun (frames, remote) => ?_
  dsimp only
  split
  · exact strict_send (fun _ => .done) fun _ _ => rfl
  · exact .done

theorem strict_accept (offer : Hello) : Strict (accept decode offer) := by
  unfold accept
  refine strict_attempt fun _ => strict_offered decode fun result => strict_attempt fun (frames, remote) => ?_
  dsimp only
  split
  · split
    · exact strict_send (fun _ => .done) fun _ _ => rfl
    · exact .done
  · refine strict_send (fun (_, sent) => strict_attempt fun _ => ?_) fun _ _ => rfl
    refine strict_readAcceptance fun accepted => strict_attempt fun _ => ?_
    refine .write (fun _ => rfl) fun _ => strict_attempt fun _ => ?_
    exact .flush (fun _ => rfl) fun _ => strict_attempt fun _ => .done

end

section
variable (decode : UInt32 → List UInt8 → Option Hello) {faults : Faults IoError} {closed : Bool}
variable {offer remote : Hello} {agreement : Agreement} {error : IoError} {body : List UInt8} (inbox : List UInt8)

/-- What `connect` does with the answer to its offer. -/
def Session.concludes (offer : Hello) : Framed × Except IoError Hello → Process IoError (Except IoError Session) :=
  fun (frames, received) => attempt received fun remote =>
  attempt (checkRefusal remote) fun _ =>
  attempt (negotiate offer remote) fun agreement =>
  .write [1] fun reply => attempt reply fun _ =>
  .flush fun reply => attempt reply fun _ =>
  readAcceptance.bind fun accepted => attempt accepted fun _ =>
  .done (.ok ⟨{ frames with limit := agreement.maxFrame }, agreement⟩)

/-- A session as both sides leave the handshake with it. -/
def Session.established (agreement : Agreement) : Session := ⟨⟨agreement.maxFrame, false⟩, agreement⟩

theorem runs_connect (valid : offer.validate = .ok ()) (fits : Fits HELLO_LIMIT offer.encode) :
    Runs faults closed (connect decode offer) inbox
      ((Framed.hello.receive (Hello.codec decode)).bind (concludes offer)) inbox (MAGIC ++ frame offer.encode) := by
  unfold connect
  rw [valid, attempt_new]
  refine .write ?_ rfl
  dsimp only [attempt]
  exact .seq (runs_send (Hello.codec decode) fits inbox) .stay (List.append_nil _)

theorem runs_readAcceptance : Runs faults closed readAcceptance (1 :: inbox) (.done (.ok ())) inbox [] :=
  .read [1] rfl .stay

/-- The client accepts an offer it agrees with, and waits for the server to do the same. -/
theorem runs_concludes (fits : Fits HELLO_LIMIT body) (decoded : decode HELLO_LIMIT body = some remote)
    (unset : checkRefusal remote = .ok ()) (agreed : negotiate offer remote = .ok agreement) :
    Runs faults closed ((Framed.hello.receive (Hello.codec decode)).bind (concludes offer)) (frame body ++ inbox)
      (readAcceptance.bind fun accepted => attempt accepted fun _ => .done (.ok (established agreement)))
      inbox [1] := by
  refine .seq (runs_receive (Hello.codec decode) fits decoded inbox) ?_ rfl
  dsimp only [concludes, attempt]
  rw [unset, agreed]
  exact .write (.flush .stay) rfl

/-- The client fails on anything else it is answered. -/
theorem runs_concludes_error (fits : Fits HELLO_LIMIT body) (decoded : decode HELLO_LIMIT body = some remote)
    (failed : (checkRefusal remote).bind (fun _ => negotiate offer remote) = .error error) :
    Runs faults closed ((Framed.hello.receive (Hello.codec decode)).bind (concludes offer)) (frame body ++ inbox)
      (.done (.error error)) inbox [] := by
  refine .seq (runs_receive (Hello.codec decode) fits decoded inbox) ?_ rfl
  dsimp only [concludes, attempt]
  cases unset : checkRefusal remote with
  | error =>
      rw [unset] at failed
      cases failed
      exact .stay
  | ok =>
      rw [unset] at failed
      dsimp only [Except.bind] at failed ⊢
      rw [failed]
      exact .stay

/-- A client that has been answered and fails returns why, having sent its offer and no more. -/
theorem eval_connect_error (valid : offer.validate = .ok ()) (offerFits : Fits HELLO_LIMIT offer.encode)
    (fits : Fits HELLO_LIMIT body) (decoded : decode HELLO_LIMIT body = some remote)
    (failed : (checkRefusal remote).bind (fun _ => negotiate offer remote) = .error error) :
    eval faults (connect decode offer) (frame body ++ inbox) =
      ⟨.error error, inbox, MAGIC ++ frame offer.encode⟩ := by
  have offers : Runs faults false _ _ _ _ _ := runs_connect decode (frame body ++ inbox) valid offerFits
  have returns := offers.trans (runs_concludes_error decode inbox fits decoded failed)
  rw [List.append_nil] at returns
  exact eval_of_returns returns

theorem runs_concludes_eof :
    Runs faults true ((Framed.hello.receive (Hello.codec decode)).bind (concludes offer)) []
      (.done (.error faults.eof)) [] [] :=
  .eof (by decide) .stay

/-- The server has read an offer. -/
theorem runs_offered (fits : Fits HELLO_LIMIT body) (decoded : decode HELLO_LIMIT body = some remote) :
    Runs faults closed (offered decode) (MAGIC ++ (frame body ++ inbox))
      (.done (.ok (Framed.hello, remote))) inbox [] := by
  unfold offered
  refine .read MAGIC rfl ?_
  dsimp only [attempt]
  rw [if_neg (Classical.not_not.mpr rfl)]
  refine .seq (runs_receive (Hello.codec decode) fits decoded inbox) ?_ rfl
  exact .stay

/-- The client sent the magic and an offer that decodes. -/
def Offers (bytes : List UInt8) (remote : Hello) (rest : List UInt8) : Prop :=
  ∃ body, Fits HELLO_LIMIT body ∧ bytes = MAGIC ++ (frame body ++ rest) ∧ decode HELLO_LIMIT body = some remote

/-- How reading an offer can end on any bytes. -/
inductive Offered (bytes : List UInt8) : Outcome (Except IoError (Framed × Hello)) → Prop where
  | offer {remote : Hello} {rest : List UInt8} : Offers decode bytes remote rest →
      Offered bytes ⟨.ok (Framed.hello, remote), rest, []⟩
  | failed {error : IoError} {rest : List UInt8} : Offered bytes ⟨.error error, rest, []⟩

theorem offered_any (faults : Faults IoError) (bytes : List UInt8) :
    Offered decode bytes (eval faults (offered decode) bytes) := by
  unfold offered
  rw [attempt_new]
  refine eval_read (fun magic tail whole _ => ?_) .failed
  dsimp only [attempt]
  split
  · exact .failed
  · rename_i same
    rw [eval_bind]
    have read := received faults (Hello.codec decode) HELLO_LIMIT tail
    unfold Framed.hello
    generalize eval faults (Framed.receive (Hello.codec decode) ⟨HELLO_LIMIT, false⟩) tail = outcome at read
    cases read with
    | failed => exact .failed
    | @message body rest _ fits framed decoded =>
        have begins : bytes = MAGIC ++ (frame body ++ rest) := by
          rw [whole, Classical.not_not.mp same, framed]
        exact .offer ⟨body, fits, begins, decoded⟩

/-- What `accept` does once it has sent its offer. -/
def Session.admits (agreement : Agreement) : Process IoError (Except IoError Session) :=
  readAcceptance.bind fun accepted => attempt accepted fun _ =>
  .write [1] fun reply => attempt reply fun _ =>
  .flush fun reply => attempt reply fun _ =>
  .done (.ok (established agreement))

theorem runs_accept (valid : offer.validate = .ok ()) (offerFits : Fits HELLO_LIMIT offer.encode)
    (fits : Fits HELLO_LIMIT body) (decoded : decode HELLO_LIMIT body = some remote)
    (agreed : negotiate offer remote = .ok agreement) :
    Runs faults closed (accept decode offer) (MAGIC ++ (frame body ++ inbox)) (admits agreement) inbox
      (frame offer.encode) := by
  unfold accept
  rw [valid]
  dsimp only [attempt]
  refine .seq (runs_offered decode inbox fits decoded) ?_ rfl
  dsimp only
  rw [agreed]
  exact .seq (runs_send (Hello.codec decode) offerFits inbox) .stay (List.append_nil _)

theorem runs_admits : Runs faults closed (admits agreement) (1 :: inbox)
    (.done (.ok (established agreement))) inbox [1] :=
  .seq (runs_readAcceptance inbox) (.write (.flush .stay) rfl) rfl

theorem refusal_fits (reason : Refused) : Fits HELLO_LIMIT reason.hello.encode := by
  cases reason <;> exact ⟨by decide, by decide⟩

/-- The bytes a server answers an offer with that it does not negotiate with. -/
def answer (offer remote : Hello) : List UInt8 :=
  match rejection offer remote with
  | some refusal => frame refusal.encode
  | none => []

theorem runs_accept_error (valid : offer.validate = .ok ()) (fits : Fits HELLO_LIMIT body)
    (decoded : decode HELLO_LIMIT body = some remote) (failed : negotiate offer remote = .error error) :
    Runs faults closed (accept decode offer) (MAGIC ++ (frame body ++ inbox)) (.done (.error error)) inbox
      (answer offer remote) := by
  unfold accept answer
  rw [valid]
  dsimp only [attempt]
  refine .seq (runs_offered decode inbox fits decoded) ?_ rfl
  dsimp only
  rw [failed]
  dsimp only
  cases rejected : rejection offer remote with
  | none => exact .stay
  | some refusal =>
      -- A refusal sets one field, so it fits whatever the offers are.
      have refusalFits : Fits HELLO_LIMIT refusal.encode := (rejection_iff.mp rejected).2.2 ▸ refusal_fits _
      exact .seq (runs_send (Hello.codec decode) refusalFits inbox) .stay (List.append_nil _)

theorem runs_accept_eof (valid : offer.validate = .ok ()) :
    Runs faults true (accept decode offer) [] (.done (.error faults.eof)) [] [] := by
  unfold accept
  rw [valid]
  exact .eof (by decide) .stay

end

/-! The part of the message library that the messages of one installation need. -/

def Hello.among (messages : List Hello) (_ : UInt32) (bytes : List UInt8) : Option Hello :=
  messages.find? fun hello => hello.encode = bytes

def unixFaults : Faults IoError where
  eof := ⟨.unexpectedEof, .message "failed to fill whole buffer"⟩
  broken := ⟨.brokenPipe, .os 32⟩

end KunobiDaemon.Wire
