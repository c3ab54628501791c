import KunobiDaemon.Wire.Session

/-! A client's `connect` against a server's `accept`. -/

set_option autoImplicit false

namespace KunobiDaemon.Wire

open Lib.Bytes
open Lib.Duplex
open Lib.Streams
open Lib.Streams.Process
open Lib.Systems
open Session

section
variable (decode : UInt32 → List UInt8 → Option Hello) (client server : Hello)

def start : Net IoError Session := ⟨connect decode client, accept decode server, [], []⟩

/-- Both established the same session and nothing is left to read, or both failed. -/
def Concluded (net : Net IoError Session) : Prop :=
  match negotiate client server with
  | .ok agreement => net = ⟨.done (.ok (established agreement)), .done (.ok (established agreement)), [], []⟩
  | .error _ => net.failed

/-- What the two offers need of the message library. -/
structure Legible (decode : UInt32 → List UInt8 → Option Hello) (hello : Hello) : Prop where
  bounded : hello.encode.length ≤ HELLO_LIMIT.toNat
  decoded : decode HELLO_LIMIT hello.encode = some hello

variable {decode} {client server} {faults : Faults IoError}

theorem Legible.fits {hello : Hello} (legible : Legible decode hello) (valid : hello.validate = .ok ()) :
    Fits HELLO_LIMIT hello.encode :=
  ⟨Hello.encode_ne_nil valid, legible.bounded⟩

theorem connect_invalid {error : IoError} (broken : client.validate = .error error) :
    connect decode client = .done (.error error) := by
  rw [connect, broken, attempt]

theorem accept_invalid {error : IoError} (broken : server.validate = .error error) :
    accept decode server = .done (.error error) := by
  rw [accept, broken, attempt]

/-- Both agree: offer, offer, acceptance, acceptance. -/
theorem ticks_agreed {agreement : Agreement} (legible : Legible decode client) (also : Legible decode server)
    (unset : checkRefusal server = .ok ()) (agreed : negotiate client server = .ok agreement) :
    Relation.ReflTransGen (Tick faults) (start decode client server)
      ⟨.done (.ok (established agreement)), .done (.ok (established agreement)), [], []⟩ := by
  obtain ⟨valid, serverValid, -, -⟩ := negotiate_eq_ok.mp agreed
  have clientFits := legible.fits valid
  have serverFits := also.fits serverValid
  have admitted (closed : Bool) : Runs faults closed (accept decode server) (MAGIC ++ frame client.encode)
      (admits agreement) [] (frame server.encode) :=
    (runs_accept decode [] serverValid serverFits clientFits legible.decoded (negotiate_comm.mp agreed)).exactly
  have concluded (closed : Bool) : Runs faults closed
      ((Framed.hello.receive (Hello.codec decode)).bind (concludes client)) (frame server.encode)
      (readAcceptance.bind fun accepted => attempt accepted fun _ => .done (.ok (established agreement))) [] [1] :=
    (runs_concludes decode [] serverFits also.decoded unset agreed).exactly
  -- The sides take turns; the diamond rule takes care of every other schedule.
  refine (ticks_left [] (runs_connect decode [] valid clientFits)).trans ?_
  refine (ticks_right [] (admitted _)).trans ?_
  refine (ticks_left [] (concluded _)).trans ?_
  refine (ticks_right [] (runs_admits [])).trans ?_
  exact ticks_left [] (.seq (runs_readAcceptance []) .stay rfl)

/-- A server that does not agree answers or not, and closes; the client fails either way. -/
theorem ticks_rejected {error : IoError} (legible : Legible decode client) (valid : client.validate = .ok ())
    (serverValid : server.validate = .ok ()) (failed : negotiate server client = .error error)
    (refusals : Legible decode Refused.protocolTooOld.hello) :
    ∃ final : Net IoError Session, Relation.ReflTransGen (Tick faults) (start decode client server) final ∧
      final.failed := by
  have clientFits := legible.fits valid
  have rejected (closed : Bool) : Runs faults closed (accept decode server) (MAGIC ++ frame client.encode)
      (.done (.error error)) [] (answer server client) :=
    (runs_accept_error decode [] serverValid clientFits legible.decoded failed).exactly
  have after := (ticks_left [] (runs_connect decode [] valid clientFits)).trans (ticks_right [] (rejected _))
  unfold answer at after
  cases decided : rejection server client with
  | none =>
      rw [decided] at after
      exact ⟨_, after.trans (ticks_left _ (runs_concludes_eof decode)), rfl, rfl⟩
  | some refusal =>
      rw [decided, (rejection_iff.mp decided).2.2] at after
      have told : (checkRefusal Refused.protocolTooOld.hello).bind
          (fun _ => negotiate client Refused.protocolTooOld.hello) = .error Refused.protocolTooOld.toError := rfl
      have refused (closed : Bool) : Runs faults closed
          ((Framed.hello.receive (Hello.codec decode)).bind (concludes client))
          (frame Refused.protocolTooOld.hello.encode) (.done (.error Refused.protocolTooOld.toError)) [] [] :=
        (runs_concludes_error decode [] (refusal_fits _) refusals.decoded told).exactly
      exact ⟨_, after.trans (ticks_left _ (refused _)), rfl, rfl⟩

/-- Two offers that do not agree end in two errors, whichever side finds out first. -/
theorem ticks_failed {error : IoError} (legible : Legible decode client)
    (refusals : Legible decode Refused.protocolTooOld.hello) (failed : negotiate client server = .error error) :
    ∃ final : Net IoError Session, Relation.ReflTransGen (Tick faults) (start decode client server) final ∧
      final.failed := by
  cases valid : client.validate with
  | error =>
      unfold start
      rw [connect_invalid valid]
      cases serverValid : server.validate with
      | error =>
          rw [accept_invalid serverValid]
          exact ⟨_, .refl, rfl, rfl⟩
      | ok => exact ⟨_, ticks_right [] (runs_accept_eof decode serverValid), rfl, rfl⟩
  | ok =>
      cases serverValid : server.validate with
      | error =>
          unfold start
          rw [accept_invalid serverValid]
          refine ⟨_, (ticks_left [] (runs_connect decode [] valid (legible.fits valid))).trans
            (ticks_left _ (runs_concludes_eof decode)), ?_⟩
          exact ⟨rfl, rfl⟩
      | ok =>
          cases agreed : negotiate server client with
          | ok =>
              rw [negotiate_comm.mp agreed] at failed
              cases failed
          | error => exact ticks_rejected legible valid serverValid agreed refusals

theorem finishes_concluded (legible : Legible decode client) (also : Legible decode server)
    (refusals : Legible decode Refused.protocolTooOld.hello) (unset : server.refusal = .known .notRefused) :
    Finishes faults (start decode client server) (Concluded client server) := by
  have strict : (start decode client server).Strict := ⟨strict_connect decode client, strict_accept decode server⟩
  unfold Concluded
  cases agreed : negotiate client server with
  | ok agreement =>
      have offered : checkRefusal server = .ok () := by rw [checkRefusal, unset, EnumValue.asKnown]
      apply finishes strict (ticks_agreed legible also offered agreed)
      · intro next ticked
        cases ticked with
        | left ticked => cases ticked
        | right ticked => cases ticked
      · rfl
      · -- Neither side ends with an error, so no run fails early.
        intro net _ gone
        rcases gone with gone | gone <;> cases gone
  | error error =>
      obtain ⟨final, ticks, failed⟩ := ticks_failed legible refusals agreed
      exact finishes strict ticks (fun _ ticked => failed.stuck (move_of_tick ticked)) failed fun _ failed _ => failed

/-- What an agreement between two offers is. -/
structure Agreement.Between (client server : Hello) (agreement : Agreement) : Prop where
  version : agreement.version = VERSION
  capabilities : agreement.capabilities = client.supported &&& server.supported
  clientRequired : client.required &&& ~~~agreement.capabilities = 0
  serverRequired : server.required &&& ~~~agreement.capabilities = 0
  maxFrame : agreement.maxFrame = min client.maxFrame server.maxFrame

theorem between_of_negotiate {agreement : Agreement} (agreed : negotiate client server = .ok agreement) :
    agreement.Between client server := by
  obtain ⟨-, -, -, agreed⟩ := negotiate_eq_ok.mp agreed
  obtain ⟨rfl, clientMet, serverMet⟩ := Terms.agree_eq_ok agreed
  exact ⟨rfl, rfl, clientMet, serverMet, rfl⟩

/-- Both hold a session on the same agreement, over channels that carry nothing else. -/
structure Established (faults : Faults IoError) (client server : Hello) (net : Net IoError Session) : Prop where
  agreed : ∃ session, net.left = .done (.ok session) ∧ net.right = .done (.ok session) ∧
    negotiate client server = .ok session.agreement ∧ session.agreement.Between client server ∧
    Carries faults session.frames session.frames net.toRight ∧ Carries faults session.frames session.frames net.toLeft
  quiet : net.toLeft = [] ∧ net.toRight = []

/-- Both returned an error, and the offers do not agree. -/
structure Rejected (client server : Hello) (net : Net IoError Session) : Prop where
  left : ∃ error, net.left = .done (.error error)
  right : ∃ error, net.right = .done (.error error)
  disagreed : ∃ error, negotiate client server = .error error

theorem Concluded.outcome {net : Net IoError Session} (concluded : Concluded client server net) :
    Established faults client server net ∨ Rejected client server net := by
  unfold Concluded at concluded
  cases agreed : negotiate client server with
  | ok agreement =>
      rw [agreed] at concluded
      subst concluded
      have carries := carries_nil faults agreement.maxFrame
      exact .inl ⟨⟨_, rfl, rfl, agreed, between_of_negotiate agreed, carries, carries⟩, rfl, rfl⟩
  | error error =>
      rw [agreed] at concluded
      exact .inr ⟨done_of_gone concluded.1, done_of_gone concluded.2, error, agreed⟩

/-- Every run of the handshake ends, none deadlocks, and its end is what `negotiate` says. -/
theorem handshake_agrees (legible : Legible decode client) (also : Legible decode server)
    (refusals : Legible decode Refused.protocolTooOld.hello) (unset : server.refusal = .known .notRefused) :
    ∃ bound, ∀ count net, Steps (Move faults) count (start decode client server) net →
      count ≤ bound ∧ ¬ net.Deadlocked ∧
      ((∃ next, Move faults net next) ∨ Established faults client server net ∨ Rejected client server net) := by
  have finishes : Finishes faults (start decode client server) (Concluded client server) :=
    finishes_concluded legible also refusals unset
  obtain ⟨bound, runs⟩ := finishes
  refine ⟨bound, fun count net moves => ?_⟩
  obtain ⟨short, moving | concluded⟩ := runs count net moves
  · obtain ⟨next, moved⟩ := moving
    exact ⟨short, fun deadlocked => deadlocked.stuck moved, .inl ⟨next, moved⟩⟩
  · have outcome : Established faults client server net ∨ Rejected client server net := concluded.outcome
    refine ⟨short, fun deadlocked => ?_, .inr outcome⟩
    -- A side that has returned does not wait.
    have waiting := deadlocked.left
    obtain ⟨⟨session, returned, -⟩, -⟩ | ⟨⟨error, returned⟩, -, -⟩ := outcome
    · rw [returned] at waiting
      cases waiting
    · rw [returned] at waiting
      cases waiting

end

def kacheClient : Hello := Hello.new kache 7 1

def kacheServer : Hello := Hello.new kache 11 2

def kacheDecode : UInt32 → List UInt8 → Option Hello :=
  Hello.among [kacheClient, kacheServer, Refused.protocolTooOld.hello]

theorem handshake_agrees_kache :
    negotiate kacheClient kacheServer = .ok ⟨2, 3, 65536⟩ ∧
    ∃ bound, ∀ count net, Steps (Move unixFaults) count (start kacheDecode kacheClient kacheServer) net →
      count ≤ bound ∧ ¬ net.Deadlocked ∧
      ((∃ next, Move unixFaults net next) ∨ Established unixFaults kacheClient kacheServer net ∨
        Rejected kacheClient kacheServer net) :=
  ⟨by decide, handshake_agrees ⟨by decide, by decide⟩ ⟨by decide, by decide⟩ ⟨by decide, by decide⟩ rfl⟩

end KunobiDaemon.Wire
