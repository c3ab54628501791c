import KunobiDaemon.Wire.Control

/-! Typed observations of a service, and the replies that carry them. -/

set_option autoImplicit false

namespace KunobiDaemon.Wire

open Lib.Bytes

/-- Typed in-memory Health payloads on HEALTH and DRAIN replies. -/
def Capability.HEALTH_DETAILS : UInt64 := 16

structure Health where
  processId : UInt32 := 0
  generation : UInt64 := 0
  build : String := ""
  revision : UInt64 := 0
  ready : Bool := false
  draining : Bool := false
  active : UInt64 := 0
  -- The fields this build does not know, as they were encoded.
  unknownFields : List UInt8 := []
  deriving DecidableEq, Repr

namespace Health

def encode (health : Health) : List UInt8 :=
  putNumber 1 health.processId.toNat ++ putNumber 2 health.generation.toNat ++
  putBytes 3 health.build.toUTF8.toList ++ putNumber 4 health.revision.toNat ++
  putNumber 5 health.ready.toNat ++ putNumber 6 health.draining.toNat ++ putNumber 7 health.active.toNat ++
  health.unknownFields

def response (codec : Codec Health) (health : Health) (request : Control) : Except IoError Control :=
  if request.kind ≠ .known .lifecycle ||
      !(request.operation = Operation.HEALTH || request.operation = Operation.DRAIN) then
    .error (invalid "not a health or drain request")
  else
    .ok {
      operation := request.operation
      requestId := request.requestId
      generation := health.generation
      payload := codec.encode health }

/-- Decode a correlated reply. -/
def fromResponse (codec : Codec Health) (reply request : Control) : Except IoError Health :=
  if reply.kind ≠ .known .lifecycle ||
      !(request.operation = Operation.HEALTH || request.operation = Operation.DRAIN) ||
      reply.operation ≠ request.operation || reply.requestId ≠ request.requestId || !reply.token.isEmpty ||
      reply.offset.isSome then
    .error (invalid "unexpected health response")
  else
    match decodeMessage codec reply.payload MAX_FRAME with
    | .error error => .error error
    | .ok health =>
        if health.processId = 0 || health.generation ≠ reply.generation || (health.ready && health.draining) then
          .error (invalid "invalid health observation")
        else .ok health

end Health

/-- What makes a reply the one to a request, and its payload an observation. -/
structure Answers (codec : Codec Health) (reply request : Control) (health : Health) : Prop where
  kind : reply.kind = .known .lifecycle
  asked : request.operation = Operation.HEALTH ∨ request.operation = Operation.DRAIN
  operation : reply.operation = request.operation
  requestId : reply.requestId = request.requestId
  token : reply.token = []
  offset : reply.offset = none
  decoded : codec.decode MAX_FRAME reply.payload = some health
  named : health.processId ≠ 0
  generation : health.generation = reply.generation
  exclusive : ¬ (health.ready = true ∧ health.draining = true)

theorem answers_of_fromResponse {codec : Codec Health} {reply request : Control} {health : Health}
    (accepted : Health.fromResponse codec reply request = .ok health) : Answers codec reply request health := by
  unfold Health.fromResponse at accepted
  split at accepted
  · cases accepted
  · rename_i correlated
    unfold decodeMessage at accepted
    cases decoded : codec.decode MAX_FRAME reply.payload with
    | none =>
        rw [decoded] at accepted
        cases accepted
    | some found =>
        simp only [decoded] at accepted
        split at accepted
        · cases accepted
        · rename_i valid
          cases accepted
          simp only [Bool.or_eq_true, Bool.not_eq_true', decide_eq_true_eq, not_or, Bool.not_eq_true,
            Classical.not_not, Option.isSome_eq_false_iff, Option.isNone_iff_eq_none, List.isEmpty_iff,
            ne_eq, Bool.and_eq_true, Bool.not_eq_false] at correlated valid
          obtain ⟨⟨⟨⟨⟨kind, asked⟩, operation⟩, requestId⟩, token⟩, offset⟩ := correlated
          obtain ⟨⟨named, generation⟩, exclusive⟩ := valid
          exact { kind, asked, operation, requestId, token, offset, decoded, named, generation, exclusive }

end KunobiDaemon.Wire
