import KunobiDaemon.Lib.Agreeing
import KunobiDaemon.Wire.Poisoning
import KunobiDaemon.Wire.Splitting

/-! Blocking and asynchronous sessions speak the same protocol.

They do the same operations on their transport as long as the replies are alike, and say alike what
came of it. The loops under the asynchronous ones are those of its runtime. They are a parameter, of which
no more is assumed than its documentation says (`Documented`): they may word the errors that they make
themselves in another way than the standard library.
-/

set_option autoImplicit false

namespace KunobiDaemon.Wire

open Lib.Agreeing
open Lib.Bytes
open Lib.Duplex
open Lib.Pieces
open Lib.Streams
open Lib.Streams.Process

/-- Loops that repeat a call which was interrupted, and report the end of a stream and a write that takes
nothing under their kinds. -/
structure Documented (loops : Conventions IoError) : Prop where
  interrupted : ∀ error, loops.interrupted error = decide (error.kind = .interrupted)
  eof : loops.eof.kind = .unexpectedEof
  writeZero : loops.writeZero.kind = .writeZero

def SameKind (error other : IoError) : Prop := error.kind = other.kind

theorem SameKind.refl (error : IoError) : SameKind error error := rfl

/-! ## The two kinds of session, operation by operation -/

/-- The asynchronous session frames its messages with the codec, under the agreement. -/
structure Holds (agreement : Agreement) (frames : Framed) (session : AsyncSession) : Prop where
  frames : session.frames = frames
  agreement : session.agreement = agreement

/-- A call on the codec, and the call on the session that holds it. -/
def Held {A : Type} (agreement : Agreement) (out : Framed × Except IoError A) (other : AsyncSession × Except IoError A) :
    Prop :=
  Holds agreement out.1 other.1 ∧ Alike SameKind Eq out.2 other.2

section
variable {M : Type} (codec : Codec M) {agreement : Agreement} {frames : Framed} {session : AsyncSession}

theorem held_error {A : Type} (holds : Holds agreement frames session) {error other : IoError}
    (same : SameKind error other) :
    Held (A := A) agreement (frames, .error error) (session, .error other) :=
  ⟨holds, .error same⟩

theorem Holds.mark (holds : Holds agreement frames session) (failed : Bool) :
    Holds agreement { frames with failed } { session with failed } := by
  obtain ⟨rfl, rfl⟩ := holds
  exact ⟨rfl, rfl⟩

theorem agree_send (holds : Holds agreement frames session) (message : M) :
    Agree SameKind (Held agreement) (frames.send codec message) (session.sendMessage codec message) := by
  have marked := holds.mark
  obtain ⟨rfl, rfl⟩ := holds
  unfold Framed.send AsyncSession.sendMessage
  refine agree_attemptIn (.refl .refl _) (fun _ _ => held_error ⟨rfl, rfl⟩) fun _ _ _ => ?_
  refine agree_attemptIn (.refl .refl _) (fun _ _ => held_error ⟨rfl, rfl⟩) fun buffer _ same => ?_
  subst same
  refine .write fun reply reply' alike => agree_attemptIn alike (fun _ _ => held_error (marked true)) fun _ _ _ => ?_
  refine .flush fun reply reply' alike => agree_attemptIn alike (fun _ _ => held_error (marked true)) fun _ _ _ => ?_
  exact .done ⟨marked false, .ok rfl⟩

theorem agree_receive (holds : Holds agreement frames session) :
    Agree SameKind (Held agreement) (frames.receive codec) (session.receiveMessage codec) := by
  have marked := holds.mark
  obtain ⟨rfl, rfl⟩ := holds
  unfold Framed.receive AsyncSession.receiveMessage
  refine agree_attemptIn (.refl .refl _) (fun _ _ => held_error ⟨rfl, rfl⟩) fun _ _ _ => ?_
  refine .read fun reply reply' alike => agree_attemptIn alike (fun _ _ => held_error (marked true)) fun header _ same => ?_
  subst same
  refine agree_ite (fun _ => .done (held_error (marked true) (.refl _))) fun _ => ?_
  refine .read fun reply reply' alike => agree_attemptIn alike (fun _ _ => held_error (marked true)) fun buffer _ same => ?_
  subst same
  refine agree_attemptIn (.refl .refl _) (fun _ _ => held_error (marked true)) fun value _ same => ?_
  subst same
  exact .done ⟨marked false, .ok rfl⟩

end

theorem agree_readAcceptance : Agree SameKind (Alike SameKind Eq) readAcceptance AsyncSession.readAcceptance := by
  refine .read fun reply reply' alike => agree_attempt alike fun accepted _ same => ?_
  subst same
  exact agree_ite (fun _ => .done (.error (.refl _))) fun _ => .done (.ok rfl)

/-! ## Establishment -/

section
variable (decode : UInt32 → List UInt8 → Option Hello)

/-- The agreement that an asynchronous session begins with. -/
def Agreement.hello : Agreement := ⟨VERSION, 0, HELLO_LIMIT⟩

theorem holds_hello : Holds .hello .hello .unestablished := ⟨rfl, rfl⟩

/-- An established session, and the asynchronous one that corresponds with it. -/
structure Corresponds (session : Session) (other : AsyncSession) : Prop where
  same : other = .ofSession session
  limit : session.frames.limit = session.agreement.maxFrame

theorem corresponds_established {agreement before : Agreement} {frames : Framed} {session : AsyncSession}
    (holds : Holds before frames session) :
    Corresponds ⟨{ frames with limit := agreement.maxFrame }, agreement⟩ { session with agreement := agreement } := by
  obtain ⟨rfl, rfl⟩ := holds
  exact ⟨rfl, rfl⟩

theorem agree_connect (offer : Hello) :
    Agree SameKind (Alike SameKind Corresponds) (Session.connect decode offer) (AsyncSession.connect decode offer) := by
  unfold Session.connect AsyncSession.connect
  rw [attempt_new]
  refine agree_attempt (.refl .refl _) fun _ _ _ => ?_
  refine .write fun reply reply' alike => agree_attempt alike fun _ _ _ => ?_
  refine (agree_send (Hello.codec decode) holds_hello offer).bind fun (frames, sent) (session, sent') (⟨holds, sents⟩) => ?_
  refine agree_attempt sents fun _ _ _ => ?_
  refine (agree_receive (Hello.codec decode) holds).bind fun (frames, received) (session, received') ⟨holds, alike⟩ => ?_
  refine agree_attempt alike fun remote _ same => ?_
  subst same
  refine agree_attempt (.refl .refl _) fun _ _ _ => agree_attempt (.refl .refl _) fun agreement _ same => ?_
  subst same
  refine .write fun reply reply' alike => agree_attempt alike fun _ _ _ => ?_
  refine .flush fun reply reply' alike => agree_attempt alike fun _ _ _ => ?_
  refine agree_readAcceptance.bind fun accepted accepted' alike => agree_attempt alike fun _ _ _ => ?_
  exact .done (.ok (corresponds_established holds))

/-- An offer that was read. -/
def Offering (out : Framed × Hello) (other : AsyncSession × Hello) : Prop := Holds .hello out.1 other.1 ∧ out.2 = other.2

theorem agree_offered :
    Agree SameKind (Alike SameKind Offering) (Session.offered decode) (AsyncSession.offered decode) := by
  unfold Session.offered AsyncSession.offered
  rw [attempt_new]
  refine .read fun reply reply' alike => agree_attempt alike fun magic _ same => ?_
  subst same
  refine agree_ite (fun _ => .done (.error (.refl _))) fun _ => ?_
  refine (agree_receive (Hello.codec decode) holds_hello).bind fun (frames, received) (session, received') ⟨holds, alike⟩ => ?_
  exact agree_attempt alike fun remote _ same => .done (.ok ⟨holds, same⟩)

theorem agree_accept (offer : Hello) :
    Agree SameKind (Alike SameKind Corresponds) (Session.accept decode offer) (AsyncSession.accept decode offer) := by
  unfold Session.accept AsyncSession.accept
  refine agree_attempt (.refl .refl _) fun _ _ _ => ?_
  refine (agree_offered decode).bind fun result result' alike => ?_
  refine agree_attempt alike fun (frames, remote) (session, remote') ⟨holds, same⟩ => ?_
  cases same
  dsimp only
  cases negotiate offer remote with
  | error error =>
      cases rejection offer remote with
      | none => exact .done (.error (.refl _))
      | some refusal =>
          exact (agree_send (Hello.codec decode) holds refusal).bind fun _ _ _ => .done (.error (.refl _))
  | ok agreement =>
      refine (agree_send (Hello.codec decode) holds offer).bind fun (frames, sent) (session, sent') ⟨holds, alike⟩ => ?_
      refine agree_attempt alike fun _ _ _ => ?_
      refine agree_readAcceptance.bind fun accepted accepted' alike => agree_attempt alike fun _ _ _ => ?_
      refine .write fun reply reply' alike => agree_attempt alike fun _ _ _ => ?_
      refine .flush fun reply reply' alike => agree_attempt alike fun _ _ _ => ?_
      exact .done (.ok (corresponds_established holds))

theorem agree_refuse (offer : Hello) (reason : Refused) :
    Agree SameKind (Alike SameKind Eq) (Session.refuse decode offer reason) (AsyncSession.refuse decode offer reason) := by
  unfold Session.refuse AsyncSession.refuse
  refine (agree_offered decode).bind fun result result' alike => ?_
  refine agree_attempt alike fun (frames, remote) (session, remote') ⟨holds, same⟩ => ?_
  cases same
  dsimp only
  cases reason.frame offer remote with
  | none => exact .done (.ok rfl)
  | some refusal =>
      exact (agree_send (Hello.codec decode) holds refusal).bind fun (frames, sent) (session, sent') held => .done held.2

end

/-! ## Calls -/

section
variable (codec : Codec Control) {session : Session} {other : AsyncSession}

/-- A call on the session, and the call on the corresponding one. -/
def Called (out : Session × Reply) (other : AsyncSession × Reply) : Prop :=
  Corresponds out.1 other.1 ∧ Alike SameKind Eq out.2 other.2

theorem Corresponds.holds (corresponds : Corresponds session other) :
    Holds session.agreement session.frames other := by
  obtain ⟨rfl, limit⟩ := corresponds
  refine ⟨?_, rfl⟩
  rw [AsyncSession.frames, AsyncSession.ofSession, ← limit]

theorem Holds.corresponds {frames : Framed} (holds : Holds session.agreement frames other) :
    Corresponds { session with frames } other := by
  obtain ⟨rfl, agreement⟩ := holds
  refine ⟨?_, ?_⟩
  · rw [AsyncSession.ofSession, AsyncSession.frames, ← agreement]
  · exact congrArg Agreement.maxFrame agreement

theorem agree_session_send (corresponds : Corresponds session other) (message : Control) :
    Agree SameKind (fun out out' => Corresponds out.1 out'.1 ∧ Alike SameKind Eq out.2 out'.2)
      (session.send codec message).program (other.send codec message).program := by
  have holds := corresponds.holds
  rw [Session.send, AsyncSession.send, Method.program_attempt, Method.program_attempt, holds.agreement,
    Method.program_within, Framed.program_sending, AsyncSession.program_sendingMessage]
  refine agree_attemptIn (.refl .refl _) (fun _ _ same => ⟨corresponds, .error same⟩) fun _ _ _ => ?_
  exact (agree_send codec holds message).map_left fun _ _ held => ⟨held.1.corresponds, held.2⟩

theorem agree_session_receive (corresponds : Corresponds session other) :
    Agree SameKind (fun out out' => Corresponds out.1 out'.1 ∧ Alike SameKind Eq out.2 out'.2)
      (session.receive codec).program (other.receive codec).program := by
  have holds := corresponds.holds
  rw [Session.receive, AsyncSession.receive, Method.program_bind, Method.program_bind, Method.program_within,
    bind_assoc, Framed.program_receiving, AsyncSession.program_receivingMessage]
  refine (agree_receive codec holds).bind ?_
  rintro ⟨frames, received⟩ ⟨left, received'⟩ ⟨held, alike⟩
  simp only [Process.bind, Method.program_attempt]
  refine agree_attemptIn alike (fun _ _ same => ⟨held.corresponds, .error same⟩) fun message _ same => ?_
  subst same
  have agreed : left.agreement.check message = session.agreement.check message :=
    congrArg (·.check message) held.agreement
  rw [agreed]
  cases session.agreement.check message with
  | error error => exact .done ⟨(held.mark true).corresponds, .error (.refl _)⟩
  | ok => exact .done ⟨held.corresponds, .ok rfl⟩

theorem agree_call (corresponds : Corresponds session other) (request : Request) :
    Agree SameKind Called (session.call codec request).program (other.call codec request).program := by
  cases request with
  | send message =>
      simp only [Session.call, AsyncSession.call, Method.map, Method.program_bind]
      exact (agree_session_send codec corresponds message).bind fun _ _ called => .done ⟨called.1, called.2.map⟩
  | receive =>
      simp only [Session.call, AsyncSession.call, Method.map, Method.program_bind]
      exact (agree_session_receive codec corresponds).bind fun _ _ called => .done ⟨called.1, called.2.map⟩

/-- Calls one after the other, whatever comes of them. -/
def calls {S : Type} (call : S → Request → Method S IoError Reply) : List Request → S → Process IoError (S × List Reply)
  | [], session => .done (session, [])
  | request :: requests, session =>
      (call session request).program.bind fun (session, reply) =>
        (calls call requests session).bind fun (session, replies) => .done (session, reply :: replies)

/-- Establish a session and make calls on it. -/
def speaks {S : Type} (call : S → Request → Method S IoError Reply) (opening : Process IoError (Except IoError S))
    (requests : List Request) : Process IoError (Except IoError (S × List Reply)) :=
  opening.bind fun opened => attempt opened fun session => (calls call requests session).bind fun out => .done (.ok out)

/-- A reply with the kind of its error. -/
def kindOf (reply : Reply) : Except ErrorKind (Option Control) := reply.mapError IoError.kind

theorem kindOf_eq {reply other : Reply} (alike : Alike SameKind Eq reply other) : kindOf reply = kindOf other := by
  cases alike with
  | ok same => rw [same]
  | error same => exact congrArg Except.error same

/-- Sessions that correspond after calls with replies that are alike. -/
def SameEnd (out : Session × List Reply) (other : AsyncSession × List Reply) : Prop :=
  AsyncSession.ofSession out.1 = other.1 ∧ out.2.map kindOf = other.2.map kindOf

theorem agree_calls (requests : List Request) (corresponds : Corresponds session other) :
    Agree SameKind SameEnd (calls (Session.call codec) requests session) (calls (AsyncSession.call codec) requests other) := by
  induction requests generalizing session other with
  | nil => exact .done ⟨corresponds.same.symm, rfl⟩
  | cons request requests ih =>
      refine (agree_call codec corresponds request).bind fun (left, reply) (left', reply') ⟨still, alike⟩ => ?_
      refine (ih still).bind fun _ _ ends => .done ⟨ends.1, ?_⟩
      rw [List.map_cons, List.map_cons, kindOf_eq alike, ends.2]

theorem agree_speaks {opening : Process IoError (Except IoError Session)}
    {opening' : Process IoError (Except IoError AsyncSession)}
    (opened : Agree SameKind (Alike SameKind Corresponds) opening opening') (requests : List Request) :
    Agree SameKind (Alike SameKind SameEnd) (speaks (Session.call codec) opening requests)
      (speaks (AsyncSession.call codec) opening' requests) := by
  refine opened.bind fun result result' alike => agree_attempt alike fun session other corresponds => ?_
  exact (agree_calls codec requests corresponds).bind fun _ _ ends => .done (.ok ends)

end

/-! ## Over any transport, and in any pair -/

/-- Over any transport both have done the same after as many calls of it: neither has returned yet, or both
have, with what is alike. Both return over a transport that does not interrupt for ever. -/
def SpeakAlike {A B : Type} (loops : Conventions IoError) (S : A → B → Prop) (p : Process IoError (Except IoError A))
    (q : Process IoError (Except IoError B)) : Prop :=
  ∀ (T : Type) (transport : Transport IoError T) (io : T),
    (∀ fuel, Option.Rel (fun out other => out.1 = other.1 ∧ Alike SameKind S out.2 other.2)
      (perform standard transport fuel p io) (perform loops transport fuel q io)) ∧
    ∀ patience, Patient standard transport patience →
      ∃ enough last result result', Alike SameKind S result result' ∧ ∀ fuel, enough ≤ fuel →
        perform standard transport fuel p io = some (last, result) ∧
        perform loops transport fuel q io = some (last, result')

section
variable {loops : Conventions IoError} (documented : Documented loops)
include documented

theorem sameLoops : SameLoops SameKind standard loops :=
  ⟨.refl, documented.interrupted, documented.eof.symm, documented.writeZero.symm⟩

theorem speakAlike_of_agree {A B : Type} {S : A → B → Prop} {p : Process IoError (Except IoError A)}
    {q : Process IoError (Except IoError B)} (agree : Agree SameKind (Alike SameKind S) p q) : SpeakAlike loops S p q := by
  intro T transport io
  have alike : ∀ fuel, Option.Rel (fun out other => out.1 = other.1 ∧ Alike SameKind S out.2 other.2)
      (perform standard transport fuel p io) (perform loops transport fuel q io) :=
    fun fuel => perform_alike (sameLoops documented) agree fuel io
  refine ⟨alike, fun patience patient => ?_⟩
  obtain ⟨enough, ⟨last, result⟩, returns, -⟩ := perform_returns patient p io
  have also : Patient loops transport patience :=
    ⟨fun called again => patient.read called ((documented.interrupted _).symm.trans again),
      fun called again => patient.write called ((documented.interrupted _).symm.trans again)⟩
  obtain ⟨enough', ⟨last', result'⟩, returns', -⟩ := perform_returns also q io
  have both := alike (max enough enough')
  dsimp only at returns returns'
  rw [returns _ (Nat.le_max_left _ _), returns' _ (Nat.le_max_right _ _)] at both
  cases both with
  | some met =>
      obtain ⟨same, met⟩ := met
      cases same
      refine ⟨max enough enough', last, result, result', met, fun fuel bound => ⟨returns fuel ?_, returns' fuel ?_⟩⟩
      · exact Nat.le_trans (Nat.le_max_left _ _) bound
      · exact Nat.le_trans (Nat.le_max_right _ _) bound

end

inductive Flavor where
  | blocking
  | asynchronous
  deriving DecidableEq, Repr

/-- How a side is told that its peer has closed, with the error of a write that the transport reports. -/
def Flavor.faults (loops : Conventions IoError) (broken : IoError) : Flavor → Faults IoError
  | .blocking => ⟨standard.eof, broken⟩
  | .asynchronous => ⟨loops.eof, broken⟩

theorem sameFaults {loops : Conventions IoError} (documented : Documented loops) (broken : IoError)
    (flavor other : Flavor) : SameFaults SameKind (flavor.faults loops broken) (other.faults loops broken) := by
  have eof : SameKind standard.eof loops.eof := documented.eof.symm
  cases flavor with
  | blocking =>
      cases other with
      | blocking => exact ⟨rfl, rfl⟩
      | asynchronous => exact ⟨eof, rfl⟩
  | asynchronous =>
      cases other with
      | blocking => exact ⟨eof.symm, rfl⟩
      | asynchronous => exact ⟨rfl, rfl⟩

/-- What a side has at the end: its session, if it has one, and the replies to its calls. -/
abbrev End := Option (AsyncSession × List Reply)

section
variable (decode : UInt32 → List UInt8 → Option Hello) (codec : Codec Control)

def client (offer : Hello) (requests : List Request) : Flavor → Process IoError (Except IoError End)
  | .blocking => (speaks (Session.call codec) (Session.connect decode offer) requests).mapOk fun (session, replies) =>
      some (.ofSession session, replies)
  | .asynchronous => (speaks (AsyncSession.call codec) (AsyncSession.connect decode offer) requests).mapOk some

/-- A server that accepts, or one that refuses for a reason. -/
def server (offer : Hello) (requests : List Request) : Option Refused → Flavor → Process IoError (Except IoError End)
  | none, .blocking => (speaks (Session.call codec) (Session.accept decode offer) requests).mapOk fun (session, replies) =>
      some (.ofSession session, replies)
  | none, .asynchronous => (speaks (AsyncSession.call codec) (AsyncSession.accept decode offer) requests).mapOk some
  | some reason, .blocking => (Session.refuse decode offer reason).mapOk fun _ => none
  | some reason, .asynchronous => (AsyncSession.refuse decode offer reason).mapOk fun _ => none

/-- Ends with the same session and replies that are alike. -/
def SameEnds (one other : End) : Prop :=
  one.map (Prod.map id (List.map kindOf)) = other.map (Prod.map id (List.map kindOf))

theorem agree_mapOk {A B C D : Type} {S : A → B → Prop} {post : C → D → Prop} {f : A → C} {g : B → D}
    {p : Process IoError (Except IoError A)} {q : Process IoError (Except IoError B)}
    (agree : Agree SameKind (Alike SameKind S) p q) (met : ∀ a b, S a b → post (f a) (g b)) :
    Agree SameKind (Alike SameKind post) (p.mapOk f) (q.mapOk g) := by
  refine agree.bind fun result result' alike => .done ?_
  cases alike with
  | ok same => exact .ok (met _ _ same)
  | error same => exact .error same

theorem sameEnds_of_sameEnd {out : Session × List Reply} {other : AsyncSession × List Reply} (ends : SameEnd out other) :
    SameEnds (some (.ofSession out.1, out.2)) (some other) :=
  congrArg some (Prod.ext ends.1 ends.2)

/-- Both flavors of a program agree with each other, and each with itself when it is told alike. -/
theorem agree_flavors {program : Flavor → Process IoError (Except IoError End)}
    (agree : Agree SameKind (Alike SameKind SameEnds) (program .blocking) (program .asynchronous))
    (flavor other : Flavor) : Agree SameKind (Alike SameKind SameEnds) (program flavor) (program other) := by
  have swap {a b : Except IoError End} (alike : Alike SameKind SameEnds a b) : Alike SameKind SameEnds b a := by
    cases alike with
    | ok same => exact .ok same.symm
    | error same => exact .error same.symm
  have chain {a b : Except IoError End} (both : ∃ c, Alike SameKind SameEnds a c ∧ Alike SameKind SameEnds c b) :
      Alike SameKind SameEnds a b := by
    obtain ⟨c, first, second⟩ := both
    cases first with
    | ok same =>
        cases second with
        | ok also => exact .ok (same.trans also)
    | error same =>
        cases second with
        | error also => exact .error (same.trans also)
  have back := (agree.symm fun _ _ => Eq.symm).mono fun _ _ => swap
  cases flavor with
  | blocking =>
      cases other with
      | blocking => exact (agree.trans SameKind.refl back).mono fun _ _ => chain
      | asynchronous => exact agree
  | asynchronous =>
      cases other with
      | blocking => exact back
      | asynchronous => exact (back.trans SameKind.refl agree).mono fun _ _ => chain

theorem agree_client (offer : Hello) (requests : List Request) (flavor other : Flavor) :
    Agree SameKind (Alike SameKind SameEnds) (client decode codec offer requests flavor)
      (client decode codec offer requests other) :=
  @agree_flavors (client decode codec offer requests)
    (agree_mapOk (agree_speaks codec (agree_connect decode offer) requests) fun _ _ => sameEnds_of_sameEnd) flavor other

theorem agree_server (offer : Hello) (requests : List Request) (reason : Option Refused) (flavor other : Flavor) :
    Agree SameKind (Alike SameKind SameEnds) (server decode codec offer requests reason flavor)
      (server decode codec offer requests reason other) := by
  refine @agree_flavors (server decode codec offer requests reason) ?_ flavor other
  cases reason with
  | none => exact agree_mapOk (agree_speaks codec (agree_accept decode offer) requests) fun _ _ => sameEnds_of_sameEnd
  | some reason => exact agree_mapOk (agree_refuse decode offer reason) fun _ _ _ => rfl

end

/-- A client and a server, each of its flavor, with nothing on the way. -/
def pair (decode : UInt32 → List UInt8 → Option Hello) (codec : Codec Control) (offer served : Hello)
    (requests answers : List Request) (reason : Option Refused) (clientFlavor serverFlavor : Flavor) : Net IoError End :=
  ⟨client decode codec offer requests clientFlavor, server decode codec served answers reason serverFlavor, [], []⟩

/-- Blocking and asynchronous sessions do the same over any transport, and a pair of any two does what the
blocking pair does. -/
theorem sessions_speak_the_same_protocol {loops : Conventions IoError} (documented : Documented loops)
    (decode : UInt32 → List UInt8 → Option Hello) (codec : Codec Control) :
    (∀ offer requests, SpeakAlike loops SameEnd (speaks (Session.call codec) (Session.connect decode offer) requests)
      (speaks (AsyncSession.call codec) (AsyncSession.connect decode offer) requests)) ∧
    (∀ offer requests, SpeakAlike loops SameEnd (speaks (Session.call codec) (Session.accept decode offer) requests)
      (speaks (AsyncSession.call codec) (AsyncSession.accept decode offer) requests)) ∧
    (∀ offer reason,
      SpeakAlike loops Eq (Session.refuse decode offer reason) (AsyncSession.refuse decode offer reason)) ∧
    ∀ broken offer served requests answers reason clientFlavor serverFlavor,
      (∀ net, Relation.ReflTransGen (Moves (clientFlavor.faults loops broken) (serverFlavor.faults loops broken))
          (pair decode codec offer served requests answers reason clientFlavor serverFlavor) net →
        ∃ net', Relation.ReflTransGen (Move (Flavor.blocking.faults loops broken))
          (pair decode codec offer served requests answers reason .blocking .blocking) net' ∧
          Similar SameKind SameEnds net net') ∧
      ∀ net', Relation.ReflTransGen (Move (Flavor.blocking.faults loops broken))
          (pair decode codec offer served requests answers reason .blocking .blocking) net' →
        ∃ net, Relation.ReflTransGen (Moves (clientFlavor.faults loops broken) (serverFlavor.faults loops broken))
          (pair decode codec offer served requests answers reason clientFlavor serverFlavor) net ∧
          Similar SameKind SameEnds net' net := by
  refine ⟨fun offer requests => speakAlike_of_agree documented (agree_speaks codec (agree_connect decode offer) requests),
    fun offer requests => speakAlike_of_agree documented (agree_speaks codec (agree_accept decode offer) requests),
    fun offer reason => speakAlike_of_agree documented (agree_refuse decode offer reason), ?_⟩
  intro broken offer served requests answers reason clientFlavor serverFlavor
  have moves : Move (A := End) (Flavor.blocking.faults loops broken) =
      Moves (Flavor.blocking.faults loops broken) (Flavor.blocking.faults loops broken) :=
    funext fun net => funext fun next => propext move_iff_moves
  have similar (one two one' two' : Flavor) : Similar SameKind SameEnds
      (pair decode codec offer served requests answers reason one two)
      (pair decode codec offer served requests answers reason one' two') :=
    ⟨agree_client decode codec offer requests one one', agree_server decode codec served answers reason two two', rfl, rfl⟩
  have faults := sameFaults documented broken
  rw [moves]
  refine ⟨fun net run => ?_, fun net run => ?_⟩
  · exact (similar _ _ _ _).run (faults _ _) (faults _ _) run
  · exact (similar _ _ _ _).run (faults _ _) (faults _ _) run

/-- Loops that word their errors in their own way. -/
def terse : Conventions IoError where
  interrupted error := error.kind = .interrupted
  eof := ⟨.unexpectedEof, .message "early eof"⟩
  writeZero := ⟨.writeZero, .message "write zero"⟩

/-- A transport whose first read is interrupted and whose stream is at its end. -/
def interruptedOnce : Transport IoError Bool where
  read interrupted _ := (true, if interrupted then .ok [] else .error ⟨.interrupted, .os 4⟩)
  write io bytes := (io, .ok bytes.length)
  flush io := (io, .ok ())

/-- Both read again after an interruption, and report the end of the stream. -/
theorem interrupted_servers_speak_alike :
    Documented terse ∧
    ∃ enough last result result', Alike SameKind Eq result result' ∧ ∀ fuel, enough ≤ fuel →
      perform standard interruptedOnce fuel
        (Session.refuse (fun _ _ => none) (Hello.new kache 3 1) .retiring) false = some (last, result) ∧
      perform terse interruptedOnce fuel
        (AsyncSession.refuse (fun _ _ => none) (Hello.new kache 3 1) .retiring) false = some (last, result') := by
  have documented : Documented terse := ⟨fun _ => rfl, rfl, rfl⟩
  have patient : Patient standard interruptedOnce fun interrupted => (!interrupted).toNat := by
    constructor
    · rintro (_ | _) count next error called _
      · cases called
        exact Nat.zero_lt_one
      · cases called
    · intro io bytes next error called
      cases called
  refine ⟨documented, ?_⟩
  exact ((sessions_speak_the_same_protocol documented (fun _ _ => none) (.among Control.encode [])).2.2.1
    (Hello.new kache 3 1) .retiring _ interruptedOnce false).2 _ patient

end KunobiDaemon.Wire
