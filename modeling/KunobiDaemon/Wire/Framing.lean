import KunobiDaemon.Lib.Duplex
import KunobiDaemon.Wire.Hello

/-! Bounded framing: four bytes of body length in little endian, then one message.

The message library is a parameter: `encode` is total, and `decode` may refuse bytes.
-/

set_option autoImplicit false

namespace KunobiDaemon.Wire

open Lib.Bytes
open Lib.Duplex
open Lib.Streams
open Lib.Streams.Process

structure Codec (M : Type) where
  encode : M → List UInt8
  decode : UInt32 → List UInt8 → Option M

variable {M : Type}

/-- The part of the message library that a conversation needs. -/
def Codec.among (encode : M → List UInt8) (messages : List M) : Codec M :=
  ⟨encode, fun _ bytes => messages.find? fun message => encode message = bytes⟩

def encodeFrame (codec : Codec M) (message : M) (limit : UInt32) : Except IoError (List UInt8) :=
  let body := codec.encode message
  if body.length > limit.toNat then .error ⟨.other, .codec⟩
  else if body.length = 0 then .error (invalid "empty message")
  else .ok (little 4 body.length ++ body)

def decodeMessage (codec : Codec M) (buffer : List UInt8) (limit : UInt32) : Except IoError M :=
  match codec.decode limit buffer with
  | none => .error ⟨.other, .codec⟩
  | some message => .ok message

/-- A frame codec without its transport and its scratch storage. -/
structure Framed where
  limit : UInt32
  failed : Bool
  deriving DecidableEq, Repr

namespace Framed

def new (limit : UInt32) : Except IoError Framed :=
  if MIN_FRAME ≤ limit && limit ≤ MAX_FRAME then .ok ⟨limit, false⟩
  else .error (invalid "invalid frame limit")

def usable (frames : Framed) : Except IoError Unit :=
  if frames.failed then .error (invalid "session failed; reconnect without replay") else .ok ()

/-- Encode one complete bounded message and flush it. -/
def send (codec : Codec M) (frames : Framed) (message : M) : Process IoError (Framed × Except IoError Unit) :=
  attemptIn frames frames.usable fun _ =>
  attemptIn frames (encodeFrame codec message frames.limit) fun buffer =>
  -- A failure in the middle of a frame leaves the stream unusable.
  let frames := { frames with failed := true }
  .write buffer fun reply => attemptIn frames reply fun _ =>
  .flush fun reply => attemptIn frames reply fun _ =>
  .done ({ frames with failed := false }, .ok ())

/-- Read exactly one message without consuming bytes from the next frame. -/
def receive (codec : Codec M) (frames : Framed) : Process IoError (Framed × Except IoError M) :=
  attemptIn frames frames.usable fun _ =>
  let frames := { frames with failed := true }
  .read 4 fun reply => attemptIn frames reply fun header =>
  let length := ofLittle header
  if length = 0 || length > frames.limit.toNat then
    .done (frames, .error (invalid "received frame exceeds negotiated bounds"))
  else
    .read length fun reply => attemptIn frames reply fun buffer =>
    attemptIn frames (decodeMessage codec buffer frames.limit) fun value =>
    .done ({ frames with failed := false }, .ok value)

end Framed

/-- The bytes of one message on the wire. -/
def frame (body : List UInt8) : List UInt8 := little 4 body.length ++ body

/-- A body that a frame of the limit can carry. -/
structure Fits (limit : UInt32) (body : List UInt8) : Prop where
  some : body ≠ []
  bounded : body.length ≤ limit.toNat

section
variable (codec : Codec M) {limit : UInt32} {message : M} {body : List UInt8}
variable {faults : Faults IoError} {closed : Bool}

theorem encodeFrame_eq (fits : Fits limit (codec.encode message)) :
    encodeFrame codec message limit = .ok (frame (codec.encode message)) := by
  unfold encodeFrame
  rw [if_neg (Nat.not_lt.mpr fits.bounded), if_neg (mt List.eq_nil_of_length_eq_zero fits.some)]
  rfl

theorem runs_send (fits : Fits limit (codec.encode message)) (inbox : List UInt8) :
    Runs faults closed (Framed.send codec ⟨limit, false⟩ message) inbox
      (.done (⟨limit, false⟩, .ok ())) inbox (frame (codec.encode message)) := by
  unfold Framed.send
  dsimp only
  rw [encodeFrame_eq codec fits]
  exact .write (.flush .stay) (List.append_nil _)

/-- A message that does not fit is refused before its first byte. -/
theorem send_too_long (long : limit.toNat < (codec.encode message).length) :
    Framed.send codec ⟨limit, false⟩ message = .done (⟨limit, false⟩, .error ⟨.other, .codec⟩) := by
  unfold Framed.send encodeFrame
  dsimp only
  rw [if_pos long]
  rfl

theorem ofLittle_header (fits : Fits limit body) : ofLittle (little 4 body.length) = body.length :=
  ofLittle_little 4 body.length (Nat.lt_of_le_of_lt fits.bounded limit.toNat_lt)

/-- A frame says where it ends, so two frames that begin one stream are the same. -/
theorem frame_injective {other : UInt32} {next rest more : List UInt8} (fits : Fits limit body)
    (also : Fits other next) (same : frame body ++ rest = frame next ++ more) : body = next := by
  unfold frame at same
  rw [List.append_assoc, List.append_assoc] at same
  obtain ⟨header, tail⟩ := List.append_inj same (by simp)
  have sized : body.length = next.length := by
    rw [← ofLittle_header fits, header, ofLittle_header also]
  exact (List.append_inj tail sized).1

theorem runs_receive (fits : Fits limit body) (decoded : codec.decode limit body = some message)
    (rest : List UInt8) :
    Runs faults closed (Framed.receive codec ⟨limit, false⟩) (frame body ++ rest)
      (.done (⟨limit, false⟩, .ok message)) rest [] := by
  have within : (body.length = 0 || body.length > limit.toNat) = false := by
    simp [fits.some, fits.bounded]
  rw [frame, List.append_assoc]
  refine .read (little 4 body.length) (length_little 4 _) ?_
  dsimp only [attemptIn]
  rw [ofLittle_header fits, within]
  refine .read body rfl ?_
  dsimp only [attemptIn]
  rw [decodeMessage, decoded]
  exact .stay

end

/-- How a receive can end on any bytes: with the message of their first frame, or failed. -/
inductive Received (codec : Codec M) (limit : UInt32) (bytes : List UInt8) :
    Outcome (Framed × Except IoError M) → Prop where
  | message {body rest : List UInt8} {message : M} : Fits limit body → bytes = frame body ++ rest →
      codec.decode limit body = some message →
      Received codec limit bytes ⟨(⟨limit, false⟩, .ok message), rest, []⟩
  | failed {error : IoError} {rest : List UInt8} :
      Received codec limit bytes ⟨(⟨limit, true⟩, .error error), rest, []⟩

theorem received (faults : Faults IoError) (codec : Codec M) (limit : UInt32) (bytes : List UInt8) :
    Received codec limit bytes (eval faults (Framed.receive codec ⟨limit, false⟩) bytes) := by
  refine eval_read (fun header tail whole sized => ?_) .failed
  dsimp only [attemptIn]
  split
  · exact .failed
  · rename_i within
    refine eval_read (fun body rest split full => ?_) .failed
    dsimp only [attemptIn, decodeMessage]
    cases decoded : codec.decode limit body with
    | none => exact .failed
    | some message =>
        -- Four bytes hold one length in one way, so these are the header of the body.
        have header_eq : header = little 4 body.length := by
          rw [full, ← sized, little_ofLittle]
        simp only [Bool.or_eq_true, decide_eq_true_eq, not_or, Nat.not_lt] at within
        refine .message ⟨?_, full ▸ within.2⟩ ?_ decoded
        · rintro rfl
          exact within.1 full.symm
        · rw [whole, split, frame, header_eq, List.append_assoc]

/-- The next message one codec sends is the next one the other reads. -/
def Carries (faults : Faults IoError) (sender receiver : Framed) (channel : List UInt8) : Prop :=
  ∀ (M : Type) (codec : Codec M) (message : M) (inbox : List UInt8), Fits sender.limit (codec.encode message) →
    codec.decode receiver.limit (codec.encode message) = some message →
    eval faults (receiver.receive codec) (channel ++ (eval faults (sender.send codec message) inbox).sent) =
      ⟨(receiver, .ok message), [], []⟩

theorem carries_nil (faults : Faults IoError) (limit : UInt32) :
    Carries faults ⟨limit, false⟩ ⟨limit, false⟩ [] := by
  intro M codec message inbox fits decoded
  have sends : Runs faults false _ inbox _ inbox _ := runs_send codec fits inbox
  have receives : Runs faults false _ _ _ [] [] := (runs_receive codec fits decoded []).exactly
  rw [eval_of_returns sends]
  exact eval_of_returns receives

/-! Framing never changes the limit. -/

theorem send_keeps_limit (codec : Codec M) (frames : Framed) (message : M) :
    Returns (fun out => out.1.limit = frames.limit) (frames.send codec message) := by
  unfold Framed.send
  refine returns_attemptIn (fun _ => rfl) fun _ => returns_attemptIn (fun _ => rfl) fun buffer => ?_
  refine .write fun reply => returns_attemptIn (fun _ => rfl) fun _ => ?_
  exact .flush fun reply => returns_attemptIn (fun _ => rfl) fun _ => .done rfl

theorem receive_keeps_limit (codec : Codec M) (frames : Framed) :
    Returns (fun out => out.1.limit = frames.limit) (frames.receive codec) := by
  unfold Framed.receive
  refine returns_attemptIn (fun _ => rfl) fun _ => ?_
  refine .read fun reply => returns_attemptIn (fun _ => rfl) fun header => ?_
  dsimp only
  split
  · exact .done rfl
  · refine .read fun reply => returns_attemptIn (fun _ => rfl) fun buffer => ?_
    exact returns_attemptIn (fun _ => rfl) fun value => .done rfl

/-! A side that finds its peer gone in a frame gives up. -/

section
variable {A : Type} {codec : Codec M} {frames : Framed} {message : M}

theorem strict_send {next : Framed × Except IoError Unit → Process IoError (Except IoError A)}
    (strict : ∀ sent, Strict (next sent)) (fails : ∀ frames error, gone (next (frames, .error error)) = true) :
    Strict ((frames.send codec message).bind next) := by
  unfold Framed.send
  cases frames.usable with
  | error => exact strict _
  | ok =>
      cases encodeFrame codec message frames.limit with
      | error => exact strict _
      | ok buffer =>
          refine .write (fun error => fails _ error) fun reply => ?_
          cases reply with
          | error => exact strict _
          | ok =>
              refine .flush (fun error => fails _ error) fun reply => ?_
              cases reply with
              | error => exact strict _
              | ok => exact strict _

theorem strict_receive {next : Framed × Except IoError M → Process IoError (Except IoError A)}
    (strict : ∀ received, Strict (next received)) : Strict ((frames.receive codec).bind next) := by
  unfold Framed.receive
  cases frames.usable with
  | error => exact strict _
  | ok =>
      refine .read fun reply => ?_
      cases reply with
      | error => exact strict _
      | ok header =>
          dsimp only [attemptIn]
          split
          · exact strict _
          · refine .read fun reply => ?_
            cases reply with
            | error => exact strict _
            | ok buffer =>
                dsimp only [attemptIn]
                cases decodeMessage codec buffer frames.limit with
                | error => exact strict _
                | ok value => exact strict _

end

end KunobiDaemon.Wire
