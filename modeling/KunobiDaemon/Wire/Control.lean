import KunobiDaemon.Lib.Methods
import KunobiDaemon.Wire.Async
import Mathlib.Data.Nat.Bitwise

/-! Operations of an established session, and the capabilities they need.

The methods say what a session holds at each of their operations. Where no call is dropped
they are the programs of `Framed` and `AsyncSession` (`program_sending` and the others).
-/

set_option autoImplicit false

namespace KunobiDaemon.Wire

open Lib.Bytes
open Lib.Streams

inductive MessageKind where
  | lifecycle
  | application
  deriving DecidableEq, Repr

def MessageKind.toI32 : MessageKind → Int32
  | .lifecycle => 0
  | .application => 1

structure Control where
  operation : UInt32 := 0
  requestId : UInt64 := 0
  generation : UInt64 := 0
  token : List UInt8 := []
  offset : Option UInt64 := none
  payload : List UInt8 := []
  kind : EnumValue MessageKind := .known .lifecycle
  -- The fields this build does not know, as they were encoded.
  unknownFields : List UInt8 := []
  deriving DecidableEq, Repr

def Control.kindNumber (message : Control) : Int32 :=
  match message.kind with
  | .known kind => kind.toI32
  | .unknown number => number

/-- The fields in the order of their numbers. An offset that is set is written even if it is zero. -/
def Control.encode (message : Control) : List UInt8 :=
  putNumber 1 message.operation.toNat ++ putNumber 2 message.requestId.toNat ++
  putNumber 3 message.generation.toNat ++ putBytes 4 message.token ++
  (message.offset.elim [] fun offset => putVarint 40 ++ putVarint offset.toNat) ++
  putBytes 6 message.payload ++ putNumber 7 message.kindNumber.toInt64.toUInt64.toNat ++
  message.unknownFields

namespace Capability

def HEALTH : UInt64 := 1
def DRAIN : UInt64 := 2
def HANDOFF : UInt64 := 4
def APPLICATION : UInt64 := 8
def WATCH : UInt64 := 32

end Capability

namespace Operation

def HEALTH : UInt32 := 1
def DRAIN : UInt32 := 2
def PREPARE : UInt32 := 3
def ABORT : UInt32 := 7
def WATCH : UInt32 := 8

end Operation

def requiredCapability (message : Control) : Except IoError UInt64 :=
  match message.kind.asKnown with
  | some .application =>
      if message.operation ≠ 0 then .ok Capability.APPLICATION
      else .error (invalid "invalid message kind or application operation")
  | none => .error (invalid "invalid message kind or application operation")
  | some .lifecycle =>
      if message.operation = Operation.HEALTH then .ok Capability.HEALTH
      else if message.operation = Operation.DRAIN then .ok Capability.DRAIN
      else if Operation.PREPARE ≤ message.operation && message.operation ≤ Operation.ABORT then
        .ok Capability.HANDOFF
      else if message.operation = Operation.WATCH then .ok Capability.WATCH
      else .error (invalid "unknown control operation")

/-- `Session::check`, which the asynchronous session has too. -/
def Agreement.check (agreement : Agreement) (message : Control) : Except IoError Unit :=
  match requiredCapability message with
  | .error error => .error error
  | .ok required =>
      if required &&& agreement.capabilities = 0 then .error (invalid "operation capability was not negotiated")
      else .ok ()

/-- A message whose capability both sides have. -/
def Permitted (agreement : Agreement) (message : Control) : Prop :=
  ∃ required, requiredCapability message = .ok required ∧ required &&& agreement.capabilities = required ∧
    required ≠ 0

/-- Every operation needs a single capability. -/
theorem requiredCapability_bit {message : Control} {required : UInt64}
    (known : requiredCapability message = .ok required) : ∃ bit, required.toNat = 2 ^ bit := by
  unfold requiredCapability at known
  split at known
  · split at known
    · cases known
      exact ⟨3, rfl⟩
    · cases known
  · cases known
  · split_ifs at known
    · cases known
      exact ⟨0, rfl⟩
    · cases known
      exact ⟨1, rfl⟩
    · cases known
      exact ⟨2, rfl⟩
    · cases known
      exact ⟨5, rfl⟩

theorem and_bit_ne_zero {required capabilities : UInt64} {bit : Nat} (single : required.toNat = 2 ^ bit) :
    capabilities &&& required ≠ 0 ↔ capabilities.toNat.testBit bit = true := by
  have masked : (capabilities &&& required).toNat = (capabilities.toNat.testBit bit).toNat * 2 ^ bit := by
    rw [UInt64.toNat_and, single, Nat.and_two_pow]
  rw [Ne, ← UInt64.toNat_inj, masked]
  cases capabilities.toNat.testBit bit with
  | true => simp
  | false => simp

theorem and_eq_self_of_bit {required capabilities : UInt64} {bit : Nat} (single : required.toNat = 2 ^ bit)
    (shared : required &&& capabilities ≠ 0) : required &&& capabilities = required := by
  rw [UInt64.and_comm, and_bit_ne_zero single] at shared
  apply UInt64.toNat_inj.mp
  rw [UInt64.toNat_and, single, Nat.and_comm, Nat.and_two_pow, shared, Bool.toNat_true, Nat.one_mul]

/-- A single capability is shared by two sets that both have it. -/
theorem and_and_bit_ne_zero {required ours theirs : UInt64} {bit : Nat} (single : required.toNat = 2 ^ bit) :
    ours &&& theirs &&& required ≠ 0 ↔ ours &&& required ≠ 0 ∧ theirs &&& required ≠ 0 := by
  rw [and_bit_ne_zero single, and_bit_ne_zero single, and_bit_ne_zero single, UInt64.toNat_and, Nat.testBit_and,
    Bool.and_eq_true]

theorem check_eq_ok {agreement : Agreement} {message : Control} :
    agreement.check message = .ok () ↔ Permitted agreement message := by
  unfold Agreement.check Permitted
  cases known : requiredCapability message with
  | error error => simp
  | ok required =>
      obtain ⟨bit, single⟩ := requiredCapability_bit known
      by_cases shared : required &&& agreement.capabilities = 0
      · simp only [shared, if_true, reduceCtorEq, false_iff]
        rintro ⟨_, same, whole, some_⟩
        cases same
        exact some_ (whole.symm.trans shared)
      · have whole := and_eq_self_of_bit single shared
        simp only [shared, if_false, true_iff]
        exact ⟨required, rfl, whole, whole ▸ shared⟩

variable {M : Type}

namespace Framed

/-- `Framed::send`, with what a call holds while it writes. -/
def sending (codec : Codec M) (frames : Framed) (message : M) : Method Framed IoError (Except IoError Unit) :=
  .attempt frames frames.usable fun _ =>
  .attempt frames (encodeFrame codec message frames.limit) fun buffer =>
  let frames := { frames with failed := true }
  .write frames buffer fun reply => .attempt frames reply fun _ =>
  .flush frames fun reply => .attempt frames reply fun _ =>
  .done { frames with failed := false } (.ok ())

/-- `Framed::receive`, with what a call holds while it reads. -/
def receiving (codec : Codec M) (frames : Framed) : Method Framed IoError (Except IoError M) :=
  .attempt frames frames.usable fun _ =>
  let frames := { frames with failed := true }
  .read frames 4 fun reply => .attempt frames reply fun header =>
  let length := ofLittle header
  if length = 0 || length > frames.limit.toNat then
    .done frames (.error (invalid "received frame exceeds negotiated bounds"))
  else
    .read frames length fun reply => .attempt frames reply fun buffer =>
    .attempt frames (decodeMessage codec buffer frames.limit) fun value =>
    .done { frames with failed := false } (.ok value)

theorem program_sending (codec : Codec M) (frames : Framed) (message : M) :
    (frames.sending codec message).program = frames.send codec message := by
  simp only [sending, send, Method.program_attempt, Method.program]

theorem program_receiving (codec : Codec M) (frames : Framed) :
    (frames.receiving codec).program = frames.receive codec := by
  simp only [receiving, receive, Method.program_attempt, Method.program, apply_ite Method.program]

end Framed

namespace Session

/-- Send a negotiated operation. -/
def send (codec : Codec Control) (session : Session) (message : Control) :
    Method Session IoError (Except IoError Unit) :=
  .attempt session (session.agreement.check message) fun _ =>
  (session.frames.sending codec message).within fun frames => { session with frames }

/-- Receive a negotiated operation. Unknown operations terminate the session. -/
def receive (codec : Codec Control) (session : Session) : Method Session IoError (Except IoError Control) :=
  ((session.frames.receiving codec).within fun frames => { session with frames }).bind fun session received =>
  .attempt session received fun message =>
  match session.agreement.check message with
  | .error error => .done { session with frames := { session.frames with failed := true } } (.error error)
  | .ok () => .done session (.ok message)

end Session

namespace AsyncSession

/-- `AsyncSession::send_message`, with what a call holds while it writes. -/
def sendingMessage (codec : Codec M) (session : AsyncSession) (message : M) :
    Method AsyncSession IoError (Except IoError Unit) :=
  .attempt session session.usable fun _ =>
  .attempt session (encodeFrame codec message session.agreement.maxFrame) fun buffer =>
  let session := { session with failed := true }
  .write session buffer fun reply => .attempt session reply fun _ =>
  .flush session fun reply => .attempt session reply fun _ =>
  .done { session with failed := false } (.ok ())

/-- `AsyncSession::receive_message`, with what a call holds while it reads. -/
def receivingMessage (codec : Codec M) (session : AsyncSession) :
    Method AsyncSession IoError (Except IoError M) :=
  .attempt session session.usable fun _ =>
  let session := { session with failed := true }
  .read session 4 fun reply => .attempt session reply fun header =>
  let length := ofLittle header
  if length = 0 || length > session.agreement.maxFrame.toNat then
    .done session (.error (invalid "received frame exceeds negotiated bounds"))
  else
    .read session length fun reply => .attempt session reply fun buffer =>
    .attempt session (decodeMessage codec buffer session.agreement.maxFrame) fun message =>
    .done { session with failed := false } (.ok message)

theorem program_sendingMessage (codec : Codec M) (session : AsyncSession) (message : M) :
    (session.sendingMessage codec message).program = session.sendMessage codec message := by
  simp only [sendingMessage, sendMessage, Method.program_attempt, Method.program]

theorem program_receivingMessage (codec : Codec M) (session : AsyncSession) :
    (session.receivingMessage codec).program = session.receiveMessage codec := by
  simp only [receivingMessage, receiveMessage, Method.program_attempt, Method.program, apply_ite Method.program]

/-- Send one operation. -/
def send (codec : Codec Control) (session : AsyncSession) (message : Control) :
    Method AsyncSession IoError (Except IoError Unit) :=
  .attempt session (session.agreement.check message) fun _ => session.sendingMessage codec message

/-- Receive one operation. -/
def receive (codec : Codec Control) (session : AsyncSession) :
    Method AsyncSession IoError (Except IoError Control) :=
  (session.receivingMessage codec).bind fun session received =>
  .attempt session received fun message =>
  match session.agreement.check message with
  | .error error => .done { session with failed := true } (.error error)
  | .ok () => .done session (.ok message)

end AsyncSession

end KunobiDaemon.Wire
