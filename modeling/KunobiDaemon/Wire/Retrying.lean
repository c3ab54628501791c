import KunobiDaemon.Wire.Async
import KunobiDaemon.Wire.Refusals

/-! What a client that retries transient errors makes of a server's decision against it. -/

set_option autoImplicit false

namespace KunobiDaemon.Wire

open Lib.Duplex
open Lib.Streams
open IoError

theorem isTransient_connectionRefused (platform : Platform) {error : IoError}
    (kind : error.kind = .connectionRefused) : isTransient platform error = true := by
  simp [isTransient, kind]

theorem isTransient_invalid (platform : Platform) (text : String) : isTransient platform (invalid text) = false := by
  cases platform <;> rfl

/-- How many exchanges a client makes that repeats one exactly while its error is transient,
if the exchanges would end like this. -/
def exchanges {A : Type} (platform : Platform) : List (Except IoError A) → Nat
  | [] => 0
  | .ok _ :: _ => 1
  | .error error :: rest => if isTransient platform error then exchanges platform rest + 1 else 1

theorem exchanges_replicate {A : Type} (platform : Platform) (error : IoError) (more : Nat) :
    exchanges platform (List.replicate (more + 1) (.error error : Except IoError A)) =
      if isTransient platform error then more + 1 else 1 := by
  induction more with
  | zero => cases kind : isTransient platform error <;> simp [exchanges, kind]
  | succ more ih =>
      rw [List.replicate_succ, exchanges, ih]
      cases isTransient platform error <;> rfl

section
variable (decode : UInt32 → List UInt8 → Option Hello) {faults : Faults IoError} (platform : Platform)
variable {client remote : Hello} {body : List UInt8} (rest : List UInt8)

/-- The server decided against the client: it refused it, or offered what the client cannot accept. -/
def DecidedAgainst (client remote : Hello) : Prop :=
  remote.refusal ≠ .known .notRefused ∨ ∃ error, negotiate client remote = .error error

theorem decided_error (decided : DecidedAgainst client remote) :
    ∃ error, (checkRefusal remote).bind (fun _ => negotiate client remote) = .error error ∧
      (isTransient platform error = false ↔ remote.refusal = .known .notRefused) := by
  -- An offer fails in `negotiate`, with invalid data; a refusal in `checkRefusal`, as a refused connection.
  by_cases offered : remote.refusal = .known .notRefused
  · obtain refused | ⟨error, failed⟩ := decided
    · exact absurd offered refused
    · obtain ⟨text, rfl⟩ := negotiate_error failed
      have passed : checkRefusal remote = .ok () := by rw [checkRefusal, offered, EnumValue.asKnown]
      refine ⟨invalid text, ?_, iff_of_true (isTransient_invalid platform text) offered⟩
      rw [passed, ← failed]
      rfl
  · obtain ⟨error, failed, kind, -⟩ := checkRefusal_error offered
    refine ⟨error, ?_, iff_of_false ?_ offered⟩
    · rw [failed]
      rfl
    · rw [isTransient_connectionRefused platform kind]
      decide

/-- A decision is final for such a client exactly when it came as an offer; a refusal is repeated. -/
theorem decision_final_iff (valid : client.validate = .ok ()) (bounded : client.encode.length ≤ HELLO_LIMIT.toNat)
    (fits : Fits HELLO_LIMIT body) (decoded : decode HELLO_LIMIT body = some remote)
    (decided : DecidedAgainst client remote) :
    ∃ error, (eval faults (Session.connect decode client) (frame body ++ rest)).result = .error error ∧
      (eval faults (AsyncSession.connect decode client) (frame body ++ rest)).result = .error error ∧
      (isTransient platform error = false ↔ remote.refusal = .known .notRefused) ∧
      ∀ more, exchanges platform (List.replicate (more + 1) (.error error : Except IoError Session)) =
        if remote.refusal = .known .notRefused then 1 else more + 1 := by
  obtain ⟨error, failed, final⟩ := decided_error platform decided
  have returned : eval faults (Session.connect decode client) (frame body ++ rest) = ⟨.error error, rest, _⟩ :=
    eval_connect_error decode rest valid ⟨Hello.encode_ne_nil valid, bounded⟩ fits decoded failed
  refine ⟨error, by rw [returned], ?_, final, fun more => ?_⟩
  · rw [AsyncSession.connect_eq, Process.mapOk, eval_bind, returned]
    rfl
  · rw [exchanges_replicate]
    by_cases offered : remote.refusal = .known .notRefused
    · rw [final.mpr offered, if_pos offered]
      rfl
    · rw [if_neg offered, if_pos (eq_true_of_ne_false (mt final.mp offered))]

end

/-- A server that lacks what the client requires offers itself, and the client stops. -/
def lesserServer : Hello := Hello.new kache 2 0

theorem decision_final_iff_lesserServer :
    ∃ error, (eval unixFaults (Session.connect (Hello.among [lesserServer]) (Hello.new kache 3 1))
        (frame lesserServer.encode ++ [])).result = .error error ∧
      (eval unixFaults (AsyncSession.connect (Hello.among [lesserServer]) (Hello.new kache 3 1))
        (frame lesserServer.encode ++ [])).result = .error error ∧
      (isTransient .unix error = false ↔ lesserServer.refusal = .known .notRefused) ∧
      ∀ more, exchanges .unix (List.replicate (more + 1) (.error error : Except IoError Session)) =
        if lesserServer.refusal = .known .notRefused then 1 else more + 1 :=
  decision_final_iff (Hello.among [lesserServer]) .unix [] (by decide) (by decide) ⟨by decide, by decide⟩
    (by decide) (.inr ⟨invalid "required capability unavailable", by decide⟩)

/-- The server tells a client of the first version that it is too old; the client takes that for transient. -/
theorem refusal_taken_for_transient :
    (eval unixFaults (Session.accept firstDecode (Hello.new kache 3 1)) (MAGIC ++ frame firstVersion.encode)).sent =
      frame Refused.protocolTooOld.hello.encode ∧
    ∃ error, (eval unixFaults (Session.connect firstDecode firstVersion)
        (frame Refused.protocolTooOld.hello.encode)).result = .error error ∧
      (eval unixFaults (AsyncSession.connect firstDecode firstVersion)
        (frame Refused.protocolTooOld.hello.encode)).result = .error error ∧
      Refused.of error = some .protocolTooOld ∧ isTransient .unix error = true :=
  ⟨by decide, Refused.protocolTooOld.toError, by decide, by decide, by decide, by decide⟩

end KunobiDaemon.Wire
