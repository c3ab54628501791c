import KunobiDaemon.Wire.Session

/-! Which clients a server refuses with a reason, and what they make of it. -/

set_option autoImplicit false

namespace KunobiDaemon.Wire

open Lib.Bytes
open Lib.Duplex
open Lib.Streams
open Lib.Streams.Process
open Session

section
variable (decode : UInt32 → List UInt8 → Option Hello) {faults : Faults IoError}
variable {offer remote : Hello} {reason : Refused} {bytes rest : List UInt8}

/-- All that a server writes to a client: nothing, or one refusal to a client that understands it. -/
inductive Answered (offer : Hello) (reason : Refused) (bytes : List UInt8) : List UInt8 → Prop where
  | silent : Answered offer reason bytes []
  | refused {remote : Hello} {rest : List UInt8} : Offers decode bytes remote rest → Answerable offer remote →
      Answered offer reason bytes (frame reason.hello.encode)

/-- The bytes `refuse` answers an offer with. -/
theorem sent_refuse (faults : Faults IoError) (offer : Hello) (reason : Refused)
    (offers : Offers decode bytes remote rest) :
    (eval faults (refuse decode offer reason) bytes).sent =
      if (reason.frame offer remote).isSome then frame reason.hello.encode else [] := by
  obtain ⟨body, fits, rfl, decoded⟩ := offers
  have reads : Runs faults false _ _ _ _ _ := runs_offered decode rest fits decoded
  unfold refuse
  rw [eval_bind, eval_of_returns reads]
  dsimp only [attempt]
  cases answer : reason.frame offer remote with
  | none => rfl
  | some refusal =>
      obtain ⟨-, rfl⟩ := refused_frame_eq_some.mp answer
      have sends : Runs faults false (Framed.hello.send (Hello.codec decode) reason.hello) rest _ rest
          (frame reason.hello.encode) := runs_send (Hello.codec decode) (refusal_fits reason) rest
      dsimp only
      rw [eval_bind, eval_of_returns sends]
      simp only [eval, List.nil_append, List.append_nil, Option.isSome_some, if_true]

theorem answered_refuse (faults : Faults IoError) (offer : Hello) (reason : Refused) (bytes : List UInt8) :
    Answered decode offer reason bytes (eval faults (refuse decode offer reason) bytes).sent := by
  have read := offered_any decode faults bytes
  generalize same : eval faults (offered decode) bytes = outcome at read
  cases read with
  | failed =>
      unfold refuse
      rw [eval_bind, same]
      exact .silent
  | @offer remote rest offers =>
      rw [sent_refuse decode faults offer reason offers]
      cases answer : reason.frame offer remote with
      | none => exact .silent
      | some refusal => exact .refused offers (refused_frame_eq_some.mp answer).1

theorem sent_accept_error {error : IoError} (valid : offer.validate = .ok ())
    (offers : Offers decode bytes remote rest) (failed : negotiate offer remote = .error error) :
    (eval faults (accept decode offer) bytes).sent = answer offer remote := by
  obtain ⟨body, fits, rfl, decoded⟩ := offers
  have returns : Runs faults false _ _ _ _ _ := runs_accept_error decode rest valid fits decoded failed
  rw [eval_of_returns returns]

theorem answered_accept (valid : offer.validate = .ok ())
    (fails : ∀ remote rest, Offers decode bytes remote rest → ∃ error, negotiate offer remote = .error error) :
    Answered decode offer .protocolTooOld bytes (eval faults (accept decode offer) bytes).sent := by
  have read := offered_any decode faults bytes
  generalize same : eval faults (offered decode) bytes = outcome at read
  cases read with
  | failed =>
      unfold accept
      rw [valid]
      dsimp only [attempt]
      rw [eval_bind, same]
      exact .silent
  | @offer remote rest offers =>
      obtain ⟨error, failed⟩ := fails remote rest offers
      rw [sent_accept_error decode valid offers failed, answer]
      cases decided : rejection offer remote with
      | none => exact .silent
      | some refusal =>
          obtain ⟨-, answerable, rfl⟩ := rejection_iff.mp decided
          exact .refused offers answerable

/-- A server that agrees sends its own offer, which no client can take for a refusal. -/
theorem sent_accept_agreed {agreement : Agreement} (valid : offer.validate = .ok ())
    (offers : Offers decode bytes remote rest) (agreed : negotiate offer remote = .ok agreement) :
    (eval faults (accept decode offer) bytes).sent ≠ frame reason.hello.encode := by
  obtain ⟨body, fits, rfl, decoded⟩ := offers
  by_cases bounded : offer.encode.length ≤ HELLO_LIMIT.toNat
  · have offerFits : Fits HELLO_LIMIT offer.encode := ⟨Hello.encode_ne_nil valid, bounded⟩
    have runs : Runs faults false _ _ _ _ _ := runs_accept decode rest valid offerFits fits decoded agreed
    rw [eval_runs runs, ← List.append_nil (frame reason.hello.encode)]
    intro same
    -- An offer begins with its version, and a refusal has none.
    have encoded := frame_injective offerFits (refusal_fits reason) same
    obtain ⟨tail, begins⟩ := Hello.encode_eq_cons valid
    rw [begins] at encoded
    cases reason <;> cases encoded
  · -- The offer is too long to send, so nothing is.
    have reads : Runs faults false _ _ _ _ _ := runs_offered decode rest fits decoded
    have nothing : (eval faults (accept decode offer) (MAGIC ++ (frame body ++ rest))).sent = [] := by
      unfold accept
      rw [valid]
      dsimp only [attempt]
      rw [eval_bind, eval_of_returns reads]
      dsimp only
      rw [agreed, Framed.hello]
      dsimp only
      rw [send_too_long (Hello.codec decode) (Nat.lt_of_not_le bounded)]
      rfl
    rw [nothing]
    cases reason <;> decide

/-- A client learns that it is too old exactly when it is. -/
theorem refuses_iff_tooOld (valid : offer.validate = .ok ()) (offers : Offers decode bytes remote rest)
    (answerable : Answerable offer remote) :
    (eval faults (accept decode offer) bytes).sent = frame Refused.protocolTooOld.hello.encode ↔
      TooOld offer remote := by
  cases agreed : negotiate offer remote with
  | ok agreement =>
      refine iff_of_false (sent_accept_agreed decode valid offers agreed) fun old => ?_
      obtain ⟨error, failed⟩ := old.hopeless rfl rfl
      rw [agreed] at failed
      cases failed
  | error error =>
      rw [sent_accept_error decode valid offers agreed, answer]
      cases decided : rejection offer remote with
      | none =>
          refine iff_of_false (by decide) fun old => ?_
          rw [rejection_iff.mpr ⟨old, answerable, rfl⟩] at decided
          cases decided
      | some refusal =>
          obtain ⟨old, -, rfl⟩ := rejection_iff.mp decided
          exact iff_of_true rfl old

/-- What a delivered refusal makes of a connection attempt, whatever else it says. -/
theorem connect_refused {client : Hello} {body : List UInt8} (valid : client.validate = .ok ())
    (bounded : client.encode.length ≤ HELLO_LIMIT.toNat) (fits : Fits HELLO_LIMIT body)
    (decoded : decode HELLO_LIMIT body = some remote) (refused : remote.refusal ≠ .known .notRefused) :
    ∃ error, (eval faults (connect decode client) (frame body ++ rest)).result = .error error ∧
      error.kind = .connectionRefused ∧
      ∀ reason, Refused.of error = some reason ↔ remote.refusal = .known reason.refusal := by
  obtain ⟨error, failed, told⟩ := checkRefusal_error refused
  have stops : (checkRefusal remote).bind (fun _ => negotiate client remote) = .error error := by
    rw [failed]
    rfl
  refine ⟨error, ?_, told⟩
  rw [eval_connect_error decode rest valid ⟨Hello.encode_ne_nil valid, bounded⟩ fits decoded stops]

/-- Refusals go only to clients that understand them, tell them the truth, and are understood. -/
theorem refusals_understood (valid : offer.validate = .ok ())
    (legible : ∀ reason : Refused, decode HELLO_LIMIT reason.hello.encode = some reason.hello) :
    -- Nothing but one refusal is ever written, to a client that sent such an offer.
    (∀ bytes reason, ∃ all, Replies faults (refuse decode offer reason) bytes all ∧
      Answered decode offer reason bytes all) ∧
    (∀ bytes, (∀ remote rest, Offers decode bytes remote rest → ∃ error, negotiate offer remote = .error error) →
      ∃ all, Replies faults (accept decode offer) bytes all ∧ Answered decode offer .protocolTooOld bytes all) ∧
    -- Every such client gets it from `refuse`, and from `accept` if it is too old.
    (∀ bytes remote rest reason, Offers decode bytes remote rest → Answerable offer remote →
      Replies faults (refuse decode offer reason) bytes (frame reason.hello.encode)) ∧
    (∀ bytes remote rest, Offers decode bytes remote rest → Answerable offer remote →
      (Replies faults (accept decode offer) bytes (frame Refused.protocolTooOld.hello.encode) ↔
        TooOld offer remote)) ∧
    -- No other offer of that build would do.
    (∀ remote other : Hello, TooOld offer remote → other.minimum = remote.minimum →
      other.maximum = remote.maximum → other.supported = remote.supported →
      ∃ error, negotiate offer other = .error error) ∧
    -- A client that is delivered a refusal returns it, with the reason if it knows it.
    (∀ client body remote rest, client.validate = .ok () → client.encode.length ≤ HELLO_LIMIT.toNat →
      Fits HELLO_LIMIT body → decode HELLO_LIMIT body = some remote → remote.refusal ≠ .known .notRefused →
      ∃ error, (eval faults (connect decode client) (frame body ++ rest)).result = .error error ∧
        error.kind = .connectionRefused ∧
        ∀ reason, Refused.of error = some reason ↔ remote.refusal = .known reason.refusal) ∧
    ∀ client rest reason, client.validate = .ok () → client.encode.length ≤ HELLO_LIMIT.toNat →
      ∃ error, (eval faults (connect decode client) (frame reason.hello.encode ++ rest)).result = .error error ∧
        error.kind = .connectionRefused ∧ Refused.of error = some reason := by
  refine ⟨fun bytes reason => ⟨_, replies (strict_refuse decode offer reason) bytes, ?_⟩,
    fun bytes fails => ⟨_, replies (strict_accept decode offer) bytes, ?_⟩,
    fun bytes remote rest reason offers answerable => ?_, fun bytes remote rest offers answerable => ⟨?_, ?_⟩,
    fun remote other old _ maximum supported => old.hopeless maximum supported,
    fun client body remote rest clientValid bounded fits decoded refused => ?_,
    fun client rest reason clientValid bounded => ?_⟩
  · exact answered_refuse decode faults offer reason bytes
  · exact answered_accept decode valid fails
  · have sent := sent_refuse decode faults offer reason offers
    rw [refused_frame_eq_some.mpr ⟨answerable, rfl⟩, Option.isSome_some, if_pos rfl] at sent
    rw [← sent]
    exact replies (strict_refuse decode offer reason) bytes
  · exact fun replied => (refuses_iff_tooOld decode valid offers answerable).mp replied.1
  · intro old
    rw [← (refuses_iff_tooOld decode valid offers answerable).mpr old]
    exact replies (strict_accept decode offer) bytes
  · exact connect_refused decode clientValid bounded fits decoded refused
  · have refused : reason.hello.refusal ≠ .known .notRefused := by cases reason <;> decide
    obtain ⟨error, failed, kind, told⟩ :=
      connect_refused decode clientValid bounded (refusal_fits reason) (legible reason) refused
    exact ⟨error, failed, kind, (told reason).mpr rfl⟩

end

/-- A client of the first version, which the binary protocol no longer speaks. -/
def firstVersion : Hello := { Hello.new kache 7 1 with minimum := 1, maximum := 1 }

def firstDecode : UInt32 → List UInt8 → Option Hello :=
  Hello.among [firstVersion, Refused.protocolTooOld.hello, Refused.peerRejected.hello, Refused.retiring.hello]

theorem refusals_understood_firstVersion :
    Replies unixFaults (accept firstDecode (Hello.new kache 3 1)) (MAGIC ++ frame firstVersion.encode)
      (frame Refused.protocolTooOld.hello.encode) := by
  have understood := @refusals_understood firstDecode unixFaults (Hello.new kache 3 1) (by decide)
    (fun reason => by cases reason <;> decide)
  have offers : Offers firstDecode (MAGIC ++ frame firstVersion.encode) firstVersion [] :=
    ⟨firstVersion.encode, ⟨by decide, by decide⟩, by rw [List.append_nil], by decide⟩
  exact (understood.2.2.2.1 _ firstVersion [] offers ⟨rfl, by decide, rfl, rfl, rfl, rfl⟩).mpr (.inl (by decide))

end KunobiDaemon.Wire
