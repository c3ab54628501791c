import KunobiDaemon.Lib.Agreeing
import KunobiDaemon.Wire.Control

/-! Framing over a transport that gives and takes bytes in pieces of any size.

Here `Framed` has its transport and its scratch storage, and `read_exact` and `write_all` are
the loops of the standard library. Its calls are those of `Framed` without them (`send_perform`,
`receive_perform`): what is left in the storage never matters. Over a transport that is only ever
interrupted, a receive returns what `Framed.receive` returns on all the bytes that come (`receive_eval`).
-/

set_option autoImplicit false

namespace KunobiDaemon.Wire

open Lib.Agreeing
open Lib.Bytes
open Lib.Pieces
open Lib.Streams

/-- The errors of `Read::read_exact` and `Write::write_all`. -/
def standard : Conventions IoError where
  interrupted error := error.kind = .interrupted
  eof := ⟨.unexpectedEof, .message "failed to fill whole buffer"⟩
  writeZero := ⟨.writeZero, .message "failed to write whole buffer"⟩

/-- `Vec::resize`, with zeros -/
def resize (buffer : List UInt8) (length : Nat) : List UInt8 :=
  buffer.take length ++ List.replicate (length - buffer.length) 0

/-- `Framed` with its transport and its scratch storage. -/
structure Buffered (T : Type) extends Framed where
  io : T
  buffer : List UInt8

namespace Buffered

variable {M T : Type} (transport : Transport IoError T) (codec : Codec M)

def send (fuel : Nat) (self : Buffered T) (message : M) : Option (Buffered T × Except IoError Unit) :=
  match self.usable with
  | .error error => some (self, .error error)
  | .ok () =>
      match encodeFrame codec message self.limit with
      | .error error => some ({ self with buffer := [0, 0, 0, 0] }, .error error)
      | .ok frame =>
          let self := { self with buffer := frame, failed := true }
          (writeAll standard transport fuel self.io self.buffer).bind fun (io, written) =>
          match written with
          | .error error => some ({ self with io }, .error error)
          | .ok () =>
              match transport.flush io with
              | (io, .error error) => some ({ self with io }, .error error)
              | (io, .ok ()) => some ({ self with io, failed := false }, .ok ())

def receive (fuel : Nat) (self : Buffered T) : Option (Buffered T × Except IoError M) :=
  match self.usable with
  | .error error => some (self, .error error)
  | .ok () =>
      let self := { self with failed := true }
      (readExact standard transport fuel self.io [] [0, 0, 0, 0]).bind fun (io, header, result) =>
      let self := { self with io }
      match result with
      | .error error => some (self, .error error)
      | .ok () =>
          let length := ofLittle header
          if length = 0 || length > self.limit.toNat then
            some (self, .error (invalid "received frame exceeds negotiated bounds"))
          else
            let self := { self with buffer := resize self.buffer length }
            (readExact standard transport fuel self.io [] self.buffer).bind fun (io, buffer, result) =>
            let self := { self with io, buffer }
            match result with
            | .error error => some (self, .error error)
            | .ok () =>
                match decodeMessage codec self.buffer self.limit with
                | .error error => some (self, .error error)
                | .ok value => some ({ self with failed := false }, .ok value)

/-- Send messages one after the other. -/
def sendAll (fuel : Nat) (self : Buffered T) : List M → Option (Buffered T × Except IoError Unit)
  | [] => some (self, .ok ())
  | message :: rest =>
      (send transport codec fuel self message).bind fun (self, sent) =>
      match sent with
      | .error error => some (self, .error error)
      | .ok () => sendAll fuel self rest

end Buffered

section
variable {M T : Type} {transport : Transport IoError T} {codec : Codec M}

theorem length_resize (buffer : List UInt8) (length : Nat) : (resize buffer length).length = length := by
  unfold resize
  simp only [List.length_append, List.length_take, List.length_replicate]
  omega

theorem usable_eq {frames : Framed} (fresh : frames.failed = false) : frames.usable = .ok () := by
  rw [Framed.usable, fresh]
  rfl

/-- Without its storage, a send is the one of `Framed` over this transport. -/
theorem send_perform (fuel : Nat) (self : Buffered T) (message : M) :
    (Buffered.send transport codec fuel self message).map (fun (next, sent) => (next.io, next.toFramed, sent)) =
      perform standard transport fuel (self.toFramed.send codec message) self.io := by
  unfold Buffered.send Framed.send
  cases self.usable with
  | error error => rfl
  | ok =>
      dsimp only [Process.attemptIn]
      cases encodeFrame codec message self.limit with
      | error error => rfl
      | ok frame =>
          simp only [perform]
          rcases writeAll standard transport fuel self.io frame with _ | ⟨io, error | _⟩
          · rfl
          · rfl
          · rcases flushed : transport.flush io with ⟨last, error | _⟩
            all_goals
              simp only [Option.bind_some, perform, flushed]
              rfl

/-- Without its storage, a receive is the one of `Framed` over this transport. -/
theorem receive_perform (fuel : Nat) (self : Buffered T) :
    (Buffered.receive transport codec fuel self).map (fun (next, received) => (next.io, next.toFramed, received)) =
      perform standard transport fuel (self.toFramed.receive codec) self.io := by
  unfold Buffered.receive Framed.receive
  cases self.usable with
  | error error => rfl
  | ok =>
      simp only [Process.attemptIn, perform, List.replicate]
      rcases readExact standard transport fuel self.io [] [0, 0, 0, 0] with _ | ⟨io, header, error | _⟩
      · rfl
      · rfl
      · simp only [Option.bind_some, Except.map]
        split
        · rfl
        · -- Both buffers are as long, and a read that succeeds has overwritten them.
          have length : (resize self.buffer (ofLittle header)).length =
              (List.replicate (ofLittle header) (0 : UInt8)).length := by
            rw [length_resize, List.length_replicate]
          have storage := readExact_storage standard transport fuel io [] length
          simp only [perform]
          generalize readExact standard transport fuel io [] (resize self.buffer (ofLittle header)) = first at storage
          generalize readExact standard transport fuel io [] (List.replicate (ofLittle header) 0) = second at storage
          cases storage with
          | none => rfl
          | @some one other met =>
              obtain ⟨last, buffer, result⟩ := one
              obtain ⟨_, overwritten, _⟩ := other
              obtain ⟨rfl, rfl, same⟩ := met
              cases result with
              | error error => rfl
              | ok =>
                  cases same rfl
                  simp only [Option.bind_some, Except.map]
                  cases decodeMessage codec buffer self.limit <;> rfl

/-- The bytes that belong to a frame whose header was read, or a part of that header. -/
inductive Within (limit : UInt32) : List UInt8 → Prop where
  | header {bytes : List UInt8} : bytes.length ≤ 4 → Within limit bytes
  | body {header bytes : List UInt8} : header.length = 4 → 1 ≤ ofLittle header → ofLittle header ≤ limit.toNat →
      bytes.length ≤ ofLittle header → Within limit (header ++ bytes)

/-- What a receive has done to the stream and to the codec, however it ended. -/
structure Receipt (source : Source standard transport) (codec : Codec M) (before after : Buffered T)
    (result : Except IoError M) : Prop where
  limit : after.limit = before.limit
  used : ∃ bytes, source.content before.io = bytes ++ source.content after.io ∧ Within before.limit bytes
  storage : after.buffer = before.buffer ∨ after.buffer.length ≤ before.limit.toNat
  message : ∀ message, result = .ok message → after.failed = false ∧
    ∃ body, Fits before.limit body ∧ source.content before.io = frame body ++ source.content after.io ∧
      codec.decode before.limit body = some message
  poisoned : ∀ error, result = .error error → after.failed = true

theorem Receipt.failed {source : Source standard transport} {codec : Codec M} {before after : Buffered T}
    {error : IoError} (limit : after.limit = before.limit)
    (used : ∃ bytes, source.content before.io = bytes ++ source.content after.io ∧ Within before.limit bytes)
    (storage : after.buffer = before.buffer ∨ after.buffer.length ≤ before.limit.toNat)
    (poisoned : after.failed = true) : Receipt source codec before after (.error error) :=
  ⟨limit, used, storage, fun _ same => (by cases same), fun _ _ => poisoned⟩

/-- Whatever bytes come, in whatever pieces, `receive` returns, uses up no more than one frame and
poisons the codec unless that frame is whole. -/
theorem receive_any (source : Source standard transport) (codec : Codec M) (self : Buffered T)
    (fresh : self.failed = false) :
    Eventually (Buffered.receive transport codec · self) fun (next, result) =>
      Receipt source codec self next result := by
  unfold Buffered.receive
  simp only [usable_eq fresh]
  refine (source.readExact_ends self.io [] [0, 0, 0, 0]).bind ?_
  rintro ⟨io, header, result⟩ ends
  cases ends with
  | eof few drained =>
      refine .pure (.failed rfl ⟨source.content self.io, ?_, .header (Nat.le_of_lt few)⟩ (.inl rfl) rfl)
      rw [drained, List.append_nil]
  | failed comes few =>
      exact .pure (.failed rfl ⟨_, comes, .header (Nat.le_of_lt few)⟩ (.inl rfl) rfl)
  | @full _ header comes four =>
      have four : header.length = 4 := four
      simp only [List.nil_append]
      split
      · exact .pure (.failed rfl ⟨_, comes, .header (Nat.le_of_eq four)⟩ (.inl rfl) rfl)
      · rename_i within
        simp only [Bool.or_eq_true, decide_eq_true_eq, not_or, Nat.not_lt] at within
        obtain ⟨some_, bounded⟩ := within
        refine (source.readExact_ends io [] (resize self.buffer (ofLittle header))).bind ?_
        rintro ⟨last, buffer, result⟩ ends
        have sized : (resize self.buffer (ofLittle header)).length = ofLittle header := length_resize _ _
        -- The header and as much of the body as came.
        have used (bytes : List UInt8) (more : source.content io = bytes ++ source.content last)
            (short : bytes.length ≤ ofLittle header) :
            ∃ bytes, source.content self.io = bytes ++ source.content last ∧ Within self.limit bytes := by
          refine ⟨header ++ bytes, ?_, .body four (Nat.pos_of_ne_zero some_) bounded short⟩
          rw [comes, more, List.append_assoc]
        cases ends with
        | eof few drained length =>
            rw [sized] at few length
            refine .pure (.failed rfl (used (source.content io) ?_ (Nat.le_of_lt few)) (.inr ?_) rfl)
            · rw [drained, List.append_nil]
            · simpa [length] using bounded
        | failed more few _ length =>
            rw [sized] at few length
            refine .pure (.failed rfl (used _ more (Nat.le_of_lt few)) (.inr ?_) rfl)
            simpa [length] using bounded
        | @full _ body more length =>
            rw [sized] at length
            have kept : body.length ≤ self.limit.toNat := length ▸ bounded
            simp only [List.nil_append, decodeMessage]
            cases decoded : codec.decode self.limit body with
            | none => exact .pure (.failed rfl (used _ more (Nat.le_of_eq length)) (.inr kept) rfl)
            | some message =>
                refine .pure ⟨rfl, used _ more (Nat.le_of_eq length), .inr kept, ?_, fun _ same => by cases same⟩
                rintro _ ⟨⟩
                -- Four bytes hold one length in one way, so these are the header of the body.
                have header_eq : header = little 4 body.length := by rw [length, ← four, little_ofLittle]
                refine ⟨rfl, body, ⟨?_, kept⟩, ?_, decoded⟩
                · rintro rfl
                  exact some_ length.symm
                · rw [comes, more, frame, header_eq, List.append_assoc]

/-- Over a transport that is only interrupted, the pieces make no difference. -/
theorem receive_eval (source : Source standard transport) (steady : Steady standard transport) (faults : Faults IoError)
    (eof : faults.eof = standard.eof) (codec : Codec M) (self : Buffered T) (fresh : self.failed = false) :
    Eventually (Buffered.receive transport codec · self) fun (next, result) =>
      eval faults (self.toFramed.receive codec) (source.content self.io) =
        ⟨(next.toFramed, result), source.content next.io, []⟩ := by
  unfold Buffered.receive Framed.receive
  simp only [usable_eq fresh]
  refine (source.readExact_ends self.io [] [0, 0, 0, 0]).bind ?_
  rintro ⟨io, header, result⟩ ends
  cases ends with
  | eof few drained =>
      have few : (source.content self.io).length < 4 := few
      refine .pure ?_
      rw [Process.attemptIn, eval_read_short few, eof]
      simp only [Process.attemptIn, eval, drained]
  | failed _ _ unsteady => exact absurd steady unsteady
  | @full _ header comes four =>
      have four : header.length = 4 := four
      rw [Process.attemptIn, comes, eval_read_full four]
      simp only [List.nil_append, Process.attemptIn]
      split
      · exact .pure rfl
      · refine (source.readExact_ends io [] (resize self.buffer (ofLittle header))).bind ?_
        rintro ⟨last, buffer, result⟩ ends
        have sized : (resize self.buffer (ofLittle header)).length = ofLittle header := length_resize _ _
        cases ends with
        | eof few drained =>
            rw [sized] at few
            refine .pure ?_
            rw [eval_read_short few, eof]
            simp only [eval, drained]
        | failed _ _ unsteady => exact absurd steady unsteady
        | @full _ body more length =>
            rw [sized] at length
            rw [more, eval_read_full length]
            simp only [List.nil_append, decodeMessage]
            cases codec.decode self.limit body with
            | none => exact .pure rfl
            | some message => exact .pure rfl

/-- A stream that has no whole frame of the limit at its start. -/
inductive Broken (limit : UInt32) : List UInt8 → Prop where
  | cut {other : UInt32} {body bytes missing : List UInt8} : Fits other body → bytes ++ missing = frame body →
      missing ≠ [] → Broken limit bytes
  | zero {header rest : List UInt8} : header.length = 4 → ofLittle header = 0 → Broken limit (header ++ rest)
  | oversized {header rest : List UInt8} : header.length = 4 → limit.toNat < ofLittle header →
      Broken limit (header ++ rest)

theorem header_of_frame {limit : UInt32} {header rest body more : List UInt8} (fits : Fits limit body)
    (four : header.length = 4) (same : header ++ rest = frame body ++ more) : ofLittle header = body.length := by
  rw [frame, List.append_assoc] at same
  obtain ⟨rfl, -⟩ := List.append_inj same (by simp [four])
  exact ofLittle_header fits

theorem Broken.no_frame {limit : UInt32} {content body rest : List UInt8} (broken : Broken limit content)
    (fits : Fits limit body) : content ≠ frame body ++ rest := by
  intro same
  cases broken with
  | cut alsoFits whole missing =>
      rw [same, List.append_assoc] at whole
      have bodies : body = _ := frame_injective fits alsoFits (whole.trans (List.append_nil _).symm)
      subst bodies
      simp only [List.append_right_eq_self, List.append_eq_nil_iff] at whole
      exact missing whole.2
  | zero four none =>
      have length := header_of_frame fits four same
      exact fits.some (List.eq_nil_of_length_eq_zero (length.symm.trans none))
  | oversized four long =>
      have length := header_of_frame fits four same
      exact absurd fits.bounded (Nat.not_le.mpr (length ▸ long))

theorem Receipt.refuses {source : Source standard transport} {self next : Buffered T} {result : Except IoError M}
    (receipt : Receipt source codec self next result) (broken : Broken self.limit (source.content self.io)) :
    ∃ error, result = .error error := by
  cases result with
  | error error => exact ⟨error, rfl⟩
  | ok message =>
      obtain ⟨-, body, fits, same, -⟩ := receipt.message message rfl
      exact absurd same (broken.no_frame fits)

/-! ## Sending -/

/-- A message that does not fit is refused before the transport is touched. -/
theorem send_refused {limit : UInt32} {message : M} (unfit : ¬ Fits limit (codec.encode message)) (fuel : Nat)
    {self : Buffered T} (fresh : self.toFramed = ⟨limit, false⟩) :
    ∃ next error, Buffered.send transport codec fuel self message = some (next, .error error) ∧
      next.io = self.io ∧ next.toFramed = ⟨limit, false⟩ := by
  have refused : ∃ error, encodeFrame codec message self.limit = .error error := by
    unfold encodeFrame
    rw [show self.limit = limit by rw [fresh]]
    by_cases long : (codec.encode message).length > limit.toNat
    · exact ⟨_, if_pos long⟩
    · have empty : (codec.encode message).length = 0 := by
        by_contra some_
        exact unfit ⟨fun nil => some_ (by rw [nil, List.length_nil]), Nat.not_lt.mp long⟩
      exact ⟨_, (if_neg long).trans (if_pos empty)⟩
  obtain ⟨error, refused⟩ := refused
  refine ⟨{ self with buffer := [0, 0, 0, 0] }, error, ?_, rfl, fresh⟩
  unfold Buffered.send
  simp only [usable_eq (show self.failed = false by rw [fresh]), refused]

theorem send_written (sink : Sink standard transport) {limit : UInt32} {message : M}
    (fits : Fits limit (codec.encode message)) {self : Buffered T} (fresh : self.toFramed = ⟨limit, false⟩) :
    Eventually (Buffered.send transport codec · self message) fun (next, sent) =>
      sent = .ok () ∧ next.toFramed = ⟨limit, false⟩ ∧
        sink.written next.io = sink.written self.io ++ frame (codec.encode message) := by
  have limited : self.limit = limit := by rw [fresh]
  unfold Buffered.send
  simp only [usable_eq (show self.failed = false by rw [fresh]), encodeFrame_eq codec (limited ▸ fits)]
  refine (sink.writeAll_ends self.io _).bind fun (io, written) ⟨ok, whole⟩ => ?_
  subst ok
  obtain ⟨next, flushed, kept⟩ := sink.flushed io
  simp only [flushed]
  exact .pure ⟨rfl, by rw [limited], kept.trans whole⟩

/-- The frames of messages, one after the other. -/
def framesOf (codec : Codec M) (messages : List M) : List UInt8 := messages.flatMap fun message => frame (codec.encode message)

theorem sendAll_written (sink : Sink standard transport) {limit : UInt32} {messages : List M}
    (fit : ∀ message ∈ messages, Fits limit (codec.encode message)) {self : Buffered T}
    (fresh : self.toFramed = ⟨limit, false⟩) :
    Eventually (Buffered.sendAll transport codec · self messages) fun (next, sent) =>
      sent = .ok () ∧ sink.written next.io = sink.written self.io ++ framesOf codec messages := by
  induction messages generalizing self with
  | nil => exact .pure ⟨rfl, (List.append_nil _).symm⟩
  | cons message rest ih =>
      rw [List.forall_mem_cons] at fit
      refine (send_written sink fit.1 fresh).bind fun (next, sent) ⟨ok, still, written⟩ => ?_
      subst ok
      refine (ih fit.2 still).mono fun (last, sent) ⟨ok, more⟩ => ⟨ok, ?_⟩
      rw [more, written, List.append_assoc]
      rfl

/-! ## What is sent is what is received -/

/-- Each receive returns the next message and uses up its frame and no more. -/
def Yields (source : Source standard transport) (codec : Codec M) (fuel : Nat) (rest : List UInt8) :
    List M → Buffered T → Prop
  | [], self => source.content self.io = rest
  | message :: messages, self => ∃ next, Buffered.receive transport codec fuel self = some (next, .ok message) ∧
      source.content self.io = frame (codec.encode message) ++ source.content next.io ∧
      Yields source codec fuel rest messages next

/-- A message that fits, and that the message library decodes as it was encoded. -/
structure Carried (codec : Codec M) (limit : UInt32) (message : M) : Prop where
  fits : Fits limit (codec.encode message)
  decoded : codec.decode limit (codec.encode message) = some message

theorem yields (source : Source standard transport) (steady : Steady standard transport) {limit : UInt32}
    {messages : List M} (carried : ∀ message ∈ messages, Carried codec limit message) {self : Buffered T}
    (fresh : self.toFramed = ⟨limit, false⟩) {rest : List UInt8}
    (comes : source.content self.io = framesOf codec messages ++ rest) :
    ∃ enough, ∀ fuel, enough ≤ fuel → Yields source codec fuel rest messages self := by
  induction messages generalizing self with
  | nil => exact ⟨0, fun _ _ => comes⟩
  | cons message messages ih =>
      rw [List.forall_mem_cons] at carried
      obtain ⟨⟨fits, decoded⟩, others⟩ := carried
      have comes : source.content self.io = frame (codec.encode message) ++ (framesOf codec messages ++ rest) := by
        rw [comes, framesOf, List.flatMap_cons, List.append_assoc]
        rfl
      obtain ⟨enough, ⟨next, result⟩, returns, same⟩ :=
        receive_eval source steady unixFaults rfl codec self (by rw [fresh])
      have runs : Runs unixFaults false _ _ _ _ _ := runs_receive codec fits decoded (framesOf codec messages ++ rest)
      simp only [fresh, comes, eval_of_returns runs, Outcome.mk.injEq, Prod.mk.injEq] at same
      obtain ⟨⟨still, rfl⟩, left, -⟩ := same
      obtain ⟨more, all⟩ := ih others still.symm left.symm
      refine ⟨max enough more, fun fuel bound => ⟨next, returns fuel ?_, ?_, all fuel ?_⟩⟩
      · exact Nat.le_trans (Nat.le_max_left _ _) bound
      · rw [comes, left]
      · exact Nat.le_trans (Nat.le_max_right _ _) bound

end

/-- Frames survive any split. What is sent comes back over any transport that gives it in pieces;
a receive uses up one frame at most and is poisoned by anything but a whole one, whatever bytes
come; and a message that does not fit is not sent at all. -/
theorem frames_survive_any_split {M : Type} (codec : Codec M) (limit : UInt32) :
    (∀ (T U : Type) (writing : Transport IoError T) (reading : Transport IoError U) (sink : Sink standard writing)
      (source : Source standard reading), Steady standard reading →
      ∀ (sender : Buffered T) (receiver : Buffered U) (messages : List M), sender.toFramed = ⟨limit, false⟩ →
        receiver.toFramed = ⟨limit, false⟩ → (∀ message ∈ messages, Carried codec limit message) →
        Eventually (Buffered.sendAll writing codec · sender messages) fun (final, sent) => sent = .ok () ∧
          ∃ bytes, sink.written final.io = sink.written sender.io ++ bytes ∧
            ∀ rest, source.content receiver.io = bytes ++ rest →
              ∃ enough, ∀ fuel, enough ≤ fuel → Yields source codec fuel rest messages receiver) ∧
    (∀ (T : Type) (reading : Transport IoError T) (source : Source standard reading) (self : Buffered T),
      self.toFramed = ⟨limit, false⟩ →
      Eventually (Buffered.receive reading codec · self) fun (next, result) =>
        Receipt source codec self next result ∧
          (Broken limit (source.content self.io) → next.failed = true ∧ ∃ error, result = .error error)) ∧
    (∀ (T : Type) (writing : Transport IoError T) (self : Buffered T) (message : M) (fuel : Nat),
      self.toFramed = ⟨limit, false⟩ → ¬ Fits limit (codec.encode message) →
      ∃ next error, Buffered.send writing codec fuel self message = some (next, .error error) ∧ next.io = self.io) := by
  refine ⟨?_, ?_, ?_⟩
  · intro T U writing reading sink source steady sender receiver messages fresh alsoFresh carried
    refine (sendAll_written sink (fun message member => (carried message member).fits) fresh).mono ?_
    intro (final, sent) ⟨ok, written⟩
    exact ⟨ok, _, written, fun rest comes => yields source steady carried alsoFresh comes⟩
  · intro T reading source self fresh
    refine (receive_any source codec self (by rw [fresh])).mono ?_
    intro (next, result) receipt
    refine ⟨receipt, fun broken => ?_⟩
    have limited : self.limit = limit := by rw [fresh]
    obtain ⟨error, rfl⟩ := receipt.refuses (limited.symm ▸ broken)
    exact ⟨receipt.poisoned error rfl, error, rfl⟩
  · intro T writing self message fuel fresh unfit
    obtain ⟨next, error, refused, untouched, -⟩ := send_refused unfit fuel fresh
    exact ⟨next, error, refused, untouched⟩

/-! A transport that gives and takes one byte at a time and is interrupted in between. -/

/-- The bytes to come, with `none` for each interruption. -/
def trickle : Transport IoError (List (Option UInt8)) where
  read
    | io, 0 => (io, .ok [])
    | [], _ + 1 => ([], .ok [])
    | none :: io, _ + 1 => (io, .error ⟨.interrupted, .os 4⟩)
    | some byte :: io, _ + 1 => (io, .ok [byte])
  write
    | none :: io, _ => (io, .error ⟨.interrupted, .os 4⟩)
    | io, [] => (io, .ok 0)
    | io, byte :: _ => (io ++ [some byte], .ok 1)
  flush io := (io, .ok ())

def trickleSource : Source standard trickle where
  content io := io.filterMap id
  patience io := io.count none
  gave := by
    rintro io next (_ | count) piece read
    · cases read
      exact ⟨rfl, Nat.le_refl _, Nat.le_refl _⟩
    · rcases io with _ | ⟨_ | byte, io⟩ <;> cases read
      · exact ⟨rfl, Nat.zero_le _, Nat.le_refl _⟩
      · exact ⟨rfl, Nat.le_add_left _ _, by simp⟩
  ended := by
    rintro io next count read
    rcases io with _ | ⟨_ | byte, io⟩ <;> cases read
    rfl
  failed := by
    rintro io next (_ | count) error read
    · cases read
    · rcases io with _ | ⟨_ | byte, io⟩ <;> cases read
      exact ⟨rfl, fun _ => by simp⟩

def trickleSink : Sink standard trickle where
  written io := io.filterMap id
  patience io := io.count none
  took := by
    intro io next bytes count wrote
    rcases io with _ | ⟨_ | first, io⟩ <;> rcases bytes with _ | ⟨byte, rest⟩ <;> cases wrote <;> simp
  failed := by
    intro io next bytes error wrote
    rcases io with _ | ⟨_ | first, io⟩ <;> rcases bytes with _ | ⟨byte, rest⟩ <;> cases wrote <;>
      exact ⟨rfl, rfl, by simp⟩
  flushed io := ⟨io, rfl, rfl⟩

theorem trickle_steady : Steady standard trickle := by
  rintro io next (_ | count) error read
  · cases read
  · rcases io with _ | ⟨_ | byte, io⟩ <;> cases read
    rfl

/-- Two requests, and the part of the message library that reads them. -/
def requests : List Control := [{ operation := Operation.HEALTH }, { operation := Operation.DRAIN }]

def requestCodec : Codec Control := .among Control.encode requests

/-- Their frames and one byte more, between interruptions. -/
def trickling : List (Option UInt8) :=
  [some 2, none, some 0, some 0, some 0, none, some 8, some 1, some 2, some 0, some 0, some 0, none, some 8, some 2, some 9]

theorem trickle_frames_survive :
    Eventually (Buffered.sendAll trickle requestCodec · ⟨⟨256, false⟩, [none], []⟩ requests) fun (final, sent) =>
      sent = .ok () ∧ ∃ bytes, trickleSink.written final.io = bytes ∧
        ∀ rest, trickleSource.content trickling = bytes ++ rest →
          ∃ enough, ∀ fuel, enough ≤ fuel →
            Yields trickleSource requestCodec fuel rest requests ⟨⟨256, false⟩, trickling, []⟩ := by
  have carried : ∀ message ∈ requests, Carried requestCodec 256 message :=
    List.forall_mem_cons.mpr ⟨⟨⟨by decide, by decide⟩, by decide⟩,
      List.forall_mem_singleton.mpr ⟨⟨by decide, by decide⟩, by decide⟩⟩
  exact (frames_survive_any_split requestCodec 256).1 _ _ trickle trickle trickleSink trickleSource trickle_steady
    ⟨⟨256, false⟩, [none], []⟩ ⟨⟨256, false⟩, trickling, []⟩ requests rfl rfl carried

/-- The first of these frames, read byte by byte between interruptions. -/
example : Buffered.receive trickle requestCodec 9 ⟨⟨256, false⟩, trickling, []⟩ =
    some (⟨⟨256, false⟩, trickling.drop 8, [8, 1]⟩, .ok { operation := Operation.HEALTH }) := by
  rfl

end KunobiDaemon.Wire
