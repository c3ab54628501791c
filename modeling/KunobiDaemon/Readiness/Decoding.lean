import KunobiDaemon.Errors
import KunobiDaemon.Readiness.Channel

/-! The wire format of the readiness channel: what a daemon can send and what a launcher reads.

The launcher's thread is `readMessages`, on the results of its reads in order. `Reading` is the
same in terms of the lines of the stream, and `Line` the grammar of a line.
-/

set_option autoImplicit false

namespace KunobiDaemon.Readiness

/-- Longest message in bytes, including its newline. -/
def MAX_MESSAGE : Nat := 256

/-- `MAX_MESSAGE - "progress \n".len()` -/
def MAX_DETAIL : Nat := MAX_MESSAGE - 10

inductive Message where
  | ready
  | progress (detail : Option String)
  deriving DecidableEq, Repr

/-- `b"ready"` -/
def READY : List UInt8 := [114, 101, 97, 100, 121]

/-- `b"progress"` -/
def PROGRESS : List UInt8 := [112, 114, 111, 103, 114, 101, 115, 115]

def SPACE : UInt8 := 32

def NEWLINE : UInt8 := 10

/-- `str::as_bytes` -/
def asBytes (text : String) : List UInt8 := text.toByteArray.data.toList

/-- `String::from_utf8` -/
def fromUtf8 (bytes : List UInt8) : Option String := String.fromUTF8? ⟨bytes.toArray⟩

def printable (bytes : List UInt8) : Bool := bytes.all fun byte => 32 ≤ byte && byte ≤ 126

/-- `strip_prefix(b"progress ")` -/
def stripProgress (line : List UInt8) : Option (List UInt8) :=
  if PROGRESS ++ [SPACE] <+: line then some (line.drop 9) else none

/-- The message a complete line holds, if any. -/
def parse (line : List UInt8) : Option Message :=
  if line = READY then some .ready
  else if line = PROGRESS then some (.progress none)
  else
    match stripProgress line with
    | none => none
    | some detail =>
        if detail.isEmpty || !printable detail then none
        else (fromUtf8 detail).map fun detail => .progress (some detail)

/-- The line for a progress message. -/
def progressLine (detail : String) : Except IoError (List UInt8) :=
  if (asBytes detail).length > MAX_DETAIL || !printable (asBytes detail) then
    .error ⟨.invalidInput, .message "a progress detail is printable ASCII of at most MAX_DETAIL bytes"⟩
  else
    .ok (PROGRESS ++ (if (asBytes detail).isEmpty then [] else SPACE :: asBytes detail) ++ [NEWLINE])

/-- What one more byte of the stream completed. -/
inductive Step where
  | more
  | message (message : Message)
  | malformed
  deriving DecidableEq, Repr

structure Decoder where
  line : List UInt8 := []
  deriving DecidableEq, Repr

def Decoder.push (decoder : Decoder) (byte : UInt8) : Decoder × Step :=
  if byte = NEWLINE then
    match parse decoder.line with
    | some message => ({}, .message message)
    | none => ({}, .malformed)
  -- No room left for this byte and the newline.
  else if decoder.line.length ≥ MAX_MESSAGE - 1 then (decoder, .malformed)
  else (⟨decoder.line ++ [byte]⟩, .more)

/-- An event with its detail, as `Shared::post` gets it. -/
abbrev Posted := Event × Option String

/-- The loop over the bytes of one read. Without a decoder the thread has returned. -/
def Decoder.consume (decoder : Decoder) : List UInt8 → List Posted × Option Decoder
  | [] => ([], some decoder)
  | byte :: rest =>
      match decoder.push byte with
      | (decoder, .more) => decoder.consume rest
      | (decoder, .message (.progress detail)) =>
          ((.progress, detail) :: (decoder.consume rest).1, (decoder.consume rest).2)
      | (_, .message .ready) => ([(.ready, none)], none)
      | (_, .malformed) => ([(.malformed, none)], none)

/-- Whether a failed read ends the channel. -/
def endsChannel (error : IoError) : Bool := error.kind ≠ .interrupted

/-- What the thread posts, on the results of its reads, as long as the handle is not dropped. -/
def readMessages (decoder : Decoder) : List (Except IoError (List UInt8)) → List Posted
  | [] => []
  | .ok [] :: _ => [(.closed, none)]
  | .ok (byte :: piece) :: reads =>
      match decoder.consume (byte :: piece) with
      | (posts, none) => posts
      | (posts, some decoder) => posts ++ readMessages decoder reads
  | .error error :: reads => if endsChannel error then [(.closed, none)] else readMessages decoder reads

/-- What a daemon has written to its end of the channel. -/
structure Notifier where
  pipe : List UInt8 := []
  deriving DecidableEq, Repr

namespace Notifier

def progress (notifier : Notifier) (detail : String) : Notifier × Except IoError Unit :=
  match progressLine detail with
  | .error error => (notifier, .error error)
  | .ok line => (⟨notifier.pipe ++ line⟩, .ok ())

def ready (notifier : Notifier) : List UInt8 := notifier.pipe ++ (READY ++ [NEWLINE])

/-- The calls of a daemon: progress with these details, and then `ready` or the end. -/
def calls (notifier : Notifier) (ready : Bool) : List String → List UInt8
  | [] => if ready then notifier.ready else notifier.pipe
  | detail :: rest => (notifier.progress detail).1.calls ready rest

end Notifier

/-! ## The reference reading -/

/-- The grammar of a line. -/
inductive Line : List UInt8 → Message → Prop where
  | ready : Line READY .ready
  | bare : Line PROGRESS (.progress none)
  | detailed {detail : String} : 1 ≤ (asBytes detail).length → (asBytes detail).length ≤ MAX_DETAIL →
      (∀ byte ∈ asBytes detail, 32 ≤ byte ∧ byte ≤ 126) →
      Line (PROGRESS ++ SPACE :: asBytes detail) (.progress (some detail))

/-- What a stream says, line by line. -/
inductive Reading : List UInt8 → List Posted → Prop where
  | closed {tail : List UInt8} : NEWLINE ∉ tail → tail.length < MAX_MESSAGE → Reading tail [(.closed, none)]
  | endless {line rest : List UInt8} : NEWLINE ∉ line → line.length = MAX_MESSAGE →
      Reading (line ++ rest) [(.malformed, none)]
  | ready {line rest : List UInt8} : Line line .ready → Reading (line ++ NEWLINE :: rest) [(.ready, none)]
  | progress {line rest : List UInt8} {detail : Option String} {posts : List Posted} :
      Line line (.progress detail) → Reading rest posts →
      Reading (line ++ NEWLINE :: rest) ((.progress, detail) :: posts)
  | malformed {line rest : List UInt8} : NEWLINE ∉ line → line.length < MAX_MESSAGE → (∀ message, ¬ Line line message) →
      Reading (line ++ NEWLINE :: rest) [(.malformed, none)]

/-- The results of reads that divide a stream, up to the one that ends it. -/
inductive Divides : List (Except IoError (List UInt8)) → List UInt8 → Prop where
  | eof {later : List (Except IoError (List UInt8))} : Divides (.ok [] :: later) []
  | failed {error : IoError} {later : List (Except IoError (List UInt8))} : error.kind ≠ .interrupted →
      Divides (.error error :: later) []
  | interrupted {error : IoError} {reads : List (Except IoError (List UInt8))} {stream : List UInt8} :
      error.kind = .interrupted → Divides reads stream → Divides (.error error :: reads) stream
  | piece {bytes stream : List UInt8} {reads : List (Except IoError (List UInt8))} : bytes ≠ [] →
      bytes.length ≤ MAX_MESSAGE → Divides reads stream → Divides (.ok bytes :: reads) (bytes ++ stream)

/-! ## Text and bytes -/

theorem fromUtf8_asBytes (text : String) : fromUtf8 (asBytes text) = some text := by
  have same : (⟨(asBytes text).toArray⟩ : ByteArray) = text.toByteArray := rfl
  unfold fromUtf8
  rw [same, String.fromUTF8?, dif_pos text.isValidUTF8]
  rfl

theorem asBytes_of_fromUtf8 {bytes : List UInt8} {text : String} (decoded : fromUtf8 bytes = some text) :
    asBytes text = bytes := by
  unfold fromUtf8 String.fromUTF8? at decoded
  split at decoded
  · cases decoded
    rfl
  · cases decoded

theorem printable_iff {bytes : List UInt8} :
    printable bytes = true ↔ ∀ byte ∈ bytes, 32 ≤ byte ∧ byte ≤ 126 := by
  simp [printable]

/-! ## The grammar -/

theorem stripProgress_eq_some {line detail : List UInt8} :
    stripProgress line = some detail ↔ line = PROGRESS ++ SPACE :: detail := by
  unfold stripProgress
  rw [Option.ite_none_right_eq_some, Option.some.injEq]
  constructor
  · rintro ⟨⟨rest, rfl⟩, rfl⟩
    rw [List.append_assoc]
    rfl
  · rintro rfl
    exact ⟨⟨detail, by rw [List.append_assoc]; rfl⟩, rfl⟩

theorem Line.short {line : List UInt8} {message : Message} (formed : Line line message) :
    NEWLINE ∉ line ∧ line.length < MAX_MESSAGE := by
  cases formed with
  | ready => decide
  | bare => decide
  | @detailed detail _ bounded printed =>
      constructor
      · intro member
        rw [List.mem_append, List.mem_cons] at member
        rcases member with member | member | member
        · revert member
          decide
        · cases member
        · exact absurd (printed _ member).1 (by decide)
      · have eight : PROGRESS.length = 8 := rfl
        rw [List.length_append, List.length_cons, eight]
        simp only [MAX_DETAIL, MAX_MESSAGE] at bounded ⊢
        omega

/-- A line that a decoder has room for is parsed by the grammar. -/
theorem parse_eq_some {line : List UInt8} {message : Message} (room : line.length < MAX_MESSAGE) :
    parse line = some message ↔ Line line message := by
  constructor
  · intro parsed
    unfold parse at parsed
    split at parsed
    · rename_i same
      cases parsed
      exact same ▸ .ready
    · split at parsed
      · rename_i same
        cases parsed
        exact same ▸ .bare
      · split at parsed
        · cases parsed
        · rename_i detail stripped
          rw [stripProgress_eq_some] at stripped
          rw [Option.ite_none_left_eq_some, Option.map_eq_some_iff] at parsed
          obtain ⟨allowed, text, decoded, rfl⟩ := parsed
          simp only [Bool.or_eq_true, List.isEmpty_iff, Bool.not_eq_true', not_or, Bool.not_eq_false] at allowed
          obtain rfl := asBytes_of_fromUtf8 decoded
          subst stripped
          have eight : PROGRESS.length = 8 := rfl
          rw [List.length_append, List.length_cons, eight] at room
          refine .detailed (List.length_pos_iff.mpr allowed.1) ?_ (printable_iff.mp allowed.2)
          simp only [MAX_DETAIL, MAX_MESSAGE] at room ⊢
          omega
  · intro formed
    cases formed with
    | ready => rfl
    | bare => rfl
    | @detailed detail some_ _ printed =>
        have other : PROGRESS ++ SPACE :: asBytes detail ≠ READY := nofun
        have longer : PROGRESS ++ SPACE :: asBytes detail ≠ PROGRESS := by simp
        have allowed : ((asBytes detail).isEmpty || !printable (asBytes detail)) = false := by
          rw [printable_iff.mpr printed]
          simpa using List.length_pos_iff.mp some_
        unfold parse
        rw [if_neg other, if_neg longer, stripProgress_eq_some.mpr rfl]
        simp only [allowed, Bool.false_eq_true, if_false, fromUtf8_asBytes, Option.map_some]

/-! ## The decoder -/

section
variable {line bytes rest : List UInt8}

theorem push_newline : Decoder.push ⟨line⟩ NEWLINE =
    match parse line with
    | some message => ({}, .message message)
    | none => ({}, .malformed) :=
  if_pos rfl

theorem push_byte {byte : UInt8} (other : byte ≠ NEWLINE) (room : line.length + 1 < MAX_MESSAGE) :
    Decoder.push ⟨line⟩ byte = (⟨line ++ [byte]⟩, .more) := by
  have short : ¬ line.length ≥ MAX_MESSAGE - 1 := by
    simp only [MAX_MESSAGE] at room ⊢
    omega
  rw [Decoder.push, if_neg other, if_neg short]

theorem push_full {byte : UInt8} (other : byte ≠ NEWLINE) (full : line.length + 1 = MAX_MESSAGE) :
    Decoder.push ⟨line⟩ byte = (⟨line⟩, .malformed) := by
  have long : line.length ≥ MAX_MESSAGE - 1 := by
    simp only [MAX_MESSAGE] at full ⊢
    omega
  rw [Decoder.push, if_neg other, if_pos long]

/-- Bytes within a line are kept. -/
theorem consume_line (inner : NEWLINE ∉ bytes) (room : line.length + bytes.length < MAX_MESSAGE) :
    Decoder.consume ⟨line⟩ (bytes ++ rest) = Decoder.consume ⟨line ++ bytes⟩ rest := by
  induction bytes generalizing line with
  | nil => rw [List.nil_append, List.append_nil]
  | cons byte bytes ih =>
      rw [List.mem_cons, not_or] at inner
      rw [List.length_cons] at room
      have pushed : Decoder.push ⟨line⟩ byte = _ := push_byte (Ne.symm inner.1) (by omega)
      rw [List.cons_append, Decoder.consume, pushed]
      dsimp only
      rw [ih inner.2 (by rw [List.length_append, List.length_singleton]; omega), List.append_assoc]
      rfl

/-- How a stream is divided into reads does not matter. -/
theorem consume_append (decoder : Decoder) (first second : List UInt8) :
    decoder.consume (first ++ second) =
      match decoder.consume first with
      | (posts, none) => (posts, none)
      | (posts, some decoder) => (posts ++ (decoder.consume second).1, (decoder.consume second).2) := by
  induction first generalizing decoder with
  | nil => rfl
  | cons byte first ih =>
      rw [List.cons_append, Decoder.consume, Decoder.consume]
      rcases decoder.push byte with ⟨next, _ | (_ | detail) | _⟩
      · exact ih next
      · rfl
      · simp only [ih next]
        rcases next.consume first with ⟨posts, _ | last⟩ <;> rfl
      · rfl

end

/-- What the thread posts on a stream that ends. -/
def readStream (decoder : Decoder) (stream : List UInt8) : List Posted :=
  match decoder.consume stream with
  | (posts, none) => posts
  | (posts, some _) => posts ++ [(.closed, none)]

theorem readMessages_eq {reads : List (Except IoError (List UInt8))} {stream : List UInt8}
    (divides : Divides reads stream) (decoder : Decoder) : readMessages decoder reads = readStream decoder stream := by
  induction divides generalizing decoder with
  | eof => rfl
  | failed other => exact if_pos (decide_eq_true other)
  | interrupted same _ ih =>
      rw [readMessages, if_neg (by simp [endsChannel, same]), ih]
  | @piece bytes stream reads some_ _ _ ih =>
      obtain ⟨byte, piece, rfl⟩ := List.exists_cons_of_ne_nil some_
      rw [readMessages, readStream, consume_append]
      rcases decoder.consume (byte :: piece) with ⟨posts, _ | next⟩
      · rfl
      · simp only [ih next, readStream]
        rcases next.consume stream with ⟨more, _ | last⟩
        · rfl
        · exact (List.append_assoc _ _ _).symm

section
variable {line rest : List UInt8}

theorem readStream_line {bytes : List UInt8} (inner : NEWLINE ∉ bytes)
    (room : line.length + bytes.length < MAX_MESSAGE) :
    readStream ⟨line⟩ (bytes ++ rest) = readStream ⟨line ++ bytes⟩ rest := by
  unfold readStream
  rw [consume_line inner room]

/-- A whole line is a message or it is malformed. -/
theorem readStream_newline : readStream ⟨line⟩ (NEWLINE :: rest) =
    match parse line with
    | some (.progress detail) => (.progress, detail) :: readStream {} rest
    | some .ready => [(.ready, none)]
    | none => [(.malformed, none)] := by
  unfold readStream
  rw [Decoder.consume, push_newline]
  rcases parse line with _ | _ | detail
  · rfl
  · rfl
  · dsimp only
    rcases Decoder.consume {} rest with ⟨posts, _ | last⟩ <;> rfl

theorem readStream_full {byte : UInt8} (other : byte ≠ NEWLINE) (full : line.length + 1 = MAX_MESSAGE) :
    readStream ⟨line⟩ (byte :: rest) = [(.malformed, none)] := by
  unfold readStream
  rw [Decoder.consume, push_full other full]

end

/-- The posts of a decoder with a part of a line are a reading of that line and the stream. -/
theorem reading_readStream {line : List UInt8} (inner : NEWLINE ∉ line) (room : line.length < MAX_MESSAGE)
    (stream : List UInt8) : Reading (line ++ stream) (readStream ⟨line⟩ stream) := by
  -- The line is part of the statement because each byte either goes into it or ends it.
  induction stream generalizing line with
  | nil =>
      rw [List.append_nil]
      exact .closed inner room
  | cons byte rest ih =>
      by_cases newline : byte = NEWLINE
      · subst newline
        rw [readStream_newline]
        cases parsed : parse line with
        | none =>
            refine .malformed inner room fun message formed => ?_
            cases parsed.symm.trans ((parse_eq_some room).mpr formed)
        | some message =>
            have formed := (parse_eq_some room).mp parsed
            cases message with
            | ready => exact .ready formed
            | progress detail => exact .progress formed (ih List.not_mem_nil (by decide))
      · have longer : NEWLINE ∉ line ++ [byte] := by
          rw [List.mem_append, List.mem_singleton, not_or]
          exact ⟨inner, Ne.symm newline⟩
        rcases Nat.lt_or_eq_of_le (Nat.succ_le_of_lt room) with short | full
        · have kept : readStream ⟨line⟩ ([byte] ++ rest) = readStream ⟨line ++ [byte]⟩ rest :=
            readStream_line (by simpa using Ne.symm newline) short
          rw [← List.singleton_append, kept, ← List.append_assoc]
          exact ih longer (by simpa using short)
        · rw [readStream_full newline full, ← List.singleton_append, ← List.append_assoc]
          exact .endless longer (by simpa using full)

/-- A stream has one reading. -/
theorem Reading.eq_readStream {stream : List UInt8} {posts : List Posted} (reading : Reading stream posts) :
    readStream {} stream = posts := by
  have begins {line rest : List UInt8} (inner : NEWLINE ∉ line) (room : line.length < MAX_MESSAGE) :
      readStream {} (line ++ rest) = readStream ⟨line⟩ rest :=
    readStream_line inner (by simpa using room)
  induction reading with
  | @closed tail inner room =>
      rw [← List.append_nil tail, begins inner room]
      rfl
  | @endless whole rest inner full =>
      have some_ : whole ≠ [] := fun none => by
        rw [none] at full
        cases full
      obtain ⟨init, last, rfl⟩ : ∃ init last, whole = init ++ [last] :=
        ⟨_, _, (List.dropLast_concat_getLast some_).symm⟩
      rw [List.mem_append, List.mem_singleton, not_or] at inner
      rw [List.length_append, List.length_singleton] at full
      rw [List.append_assoc, begins inner.1 (by omega), List.singleton_append, readStream_full (Ne.symm inner.2) full]
  | ready formed =>
      rw [begins formed.short.1 formed.short.2, readStream_newline, (parse_eq_some formed.short.2).mpr formed]
  | progress formed _ ih =>
      rw [begins formed.short.1 formed.short.2, readStream_newline, (parse_eq_some formed.short.2).mpr formed]
      exact congrArg _ ih
  | @malformed whole rest inner room other =>
      rw [begins inner room, readStream_newline]
      cases parsed : parse whole with
      | none => rfl
      | some message => exact absurd ((parse_eq_some room).mp parsed) (other message)

/-- One event is final, and it is the last. -/
theorem Reading.final {stream : List UInt8} {posts : List Posted} (reading : Reading stream posts) :
    ∃ earlier last, posts = earlier ++ [last] ∧ (∀ post ∈ earlier, post.1 = .progress) ∧ last.1 ≠ .progress := by
  induction reading with
  | closed | endless | ready | malformed => exact ⟨[], _, rfl, nofun, nofun⟩
  | @progress _ _ detail _ _ _ ih =>
      obtain ⟨earlier, last, rfl, progress, final⟩ := ih
      exact ⟨(.progress, detail) :: earlier, last, rfl, List.forall_mem_cons.mpr ⟨rfl, progress⟩, final⟩

/-! ## What a daemon can send -/

/-- Push bytes one after the other. -/
def Decoder.pushAll (decoder : Decoder) : List UInt8 → Decoder × List Step
  | [] => (decoder, [])
  | byte :: rest =>
      let (next, step) := decoder.push byte
      ((next.pushAll rest).1, step :: (next.pushAll rest).2)

/-- The decoder takes the line and its newline for the message. -/
def Accepted (line : List UInt8) (message : Message) : Prop :=
  (Decoder.pushAll {} (line ++ [NEWLINE])).2 = List.replicate line.length .more ++ [.message message]

/-- A notifier writes the line and its newline. -/
def Sendable (line : List UInt8) : Prop :=
  Notifier.ready {} = line ++ [NEWLINE] ∨ ∃ detail, Notifier.progress {} detail = (⟨line ++ [NEWLINE]⟩, .ok ())

theorem pushAll_append (decoder : Decoder) (first second : List UInt8) :
    decoder.pushAll (first ++ second) = (((decoder.pushAll first).1.pushAll second).1,
      (decoder.pushAll first).2 ++ ((decoder.pushAll first).1.pushAll second).2) := by
  induction first generalizing decoder with
  | nil => rfl
  | cons byte first ih => simp only [List.cons_append, Decoder.pushAll, ih]

theorem length_pushAll (decoder : Decoder) (bytes : List UInt8) :
    (decoder.pushAll bytes).2.length = bytes.length := by
  induction bytes generalizing decoder with
  | nil => rfl
  | cons byte rest ih => simp only [Decoder.pushAll, List.length_cons, ih]

theorem push_eq_more {line : List UInt8} {byte : UInt8} (more : (Decoder.push ⟨line⟩ byte).2 = .more) :
    byte ≠ NEWLINE ∧ line.length + 1 < MAX_MESSAGE := by
  unfold Decoder.push at more
  split at more
  · split at more <;> cases more
  · rename_i other
    split at more
    · cases more
    · rename_i short
      simp only [MAX_MESSAGE] at short ⊢
      exact ⟨other, by omega⟩

/-- A line is kept as long as there is room. -/
theorem pushAll_more {line bytes : List UInt8} (room : line.length < MAX_MESSAGE) :
    (Decoder.pushAll ⟨line⟩ bytes).2 = List.replicate bytes.length .more ↔
      NEWLINE ∉ bytes ∧ line.length + bytes.length < MAX_MESSAGE := by
  induction bytes generalizing line with
  | nil => simpa [Decoder.pushAll] using room
  | cons byte rest ih =>
      simp only [Decoder.pushAll, List.length_cons, List.replicate_succ, List.cons.injEq, List.mem_cons, not_or]
      constructor
      · rintro ⟨more, later⟩
        obtain ⟨other, short⟩ := push_eq_more more
        rw [push_byte other (by omega)] at later
        have length : (line ++ [byte]).length = line.length + 1 := by simp
        have inner := (ih (length ▸ short)).mp later
        rw [length] at inner
        exact ⟨⟨Ne.symm other, inner.1⟩, by omega⟩
      · rintro ⟨⟨other, inner⟩, short⟩
        have length : (line ++ [byte]).length = line.length + 1 := by simp
        rw [push_byte (Ne.symm other) (by omega)]
        exact ⟨rfl, (ih (by omega)).mpr ⟨inner, by omega⟩⟩

theorem pushAll_line {line bytes : List UInt8} (inner : NEWLINE ∉ bytes)
    (room : line.length + bytes.length < MAX_MESSAGE) : (Decoder.pushAll ⟨line⟩ bytes).1 = ⟨line ++ bytes⟩ := by
  induction bytes generalizing line with
  | nil => rw [List.append_nil]; rfl
  | cons byte rest ih =>
      rw [List.mem_cons, not_or] at inner
      rw [List.length_cons] at room
      have length : (line ++ [byte]).length = line.length + 1 := by simp
      simp only [Decoder.pushAll]
      rw [push_byte (Ne.symm inner.1) (by omega), ih inner.2 (by omega), List.append_assoc]
      rfl

theorem accepted_iff {line : List UInt8} {message : Message} : Accepted line message ↔ Line line message := by
  have split : Accepted line message ↔
      (Decoder.pushAll {} line).2 = List.replicate line.length .more ∧
        ((Decoder.pushAll {} line).1.push NEWLINE).2 = .message message := by
    unfold Accepted
    rw [pushAll_append]
    constructor
    · intro same
      obtain ⟨first, last⟩ := List.append_inj same (by rw [length_pushAll, List.length_replicate])
      exact ⟨first, List.head_eq_of_cons_eq last⟩
    · rintro ⟨first, last⟩
      rw [first]
      exact congrArg _ (congrArg (· :: []) last)
  have ended (inner : NEWLINE ∉ line) (room : line.length < MAX_MESSAGE) :
      ((Decoder.pushAll {} line).1.push NEWLINE).2 = .message message ↔ Line line message := by
    have kept : (Decoder.pushAll {} line).1 = ⟨line⟩ := pushAll_line inner (by simpa using room)
    rw [kept, push_newline, ← parse_eq_some room]
    cases parse line with
    | none => simp
    | some found => simp
  rw [split, pushAll_more (by decide)]
  constructor
  · rintro ⟨⟨inner, room⟩, last⟩
    exact (ended inner (by simpa using room)).mp last
  · intro formed
    exact ⟨⟨formed.short.1, by simpa using formed.short.2⟩, (ended formed.short.1 formed.short.2).mpr formed⟩

/-- What a progress call writes, if it is allowed to. -/
theorem progressLine_eq_ok {detail : String} {bytes : List UInt8} :
    progressLine detail = .ok bytes ↔
      ((asBytes detail).length ≤ MAX_DETAIL ∧ ∀ byte ∈ asBytes detail, 32 ≤ byte ∧ byte ≤ 126) ∧
        bytes = PROGRESS ++ (if (asBytes detail).isEmpty then [] else SPACE :: asBytes detail) ++ [NEWLINE] := by
  unfold progressLine
  rw [← printable_iff]
  split
  · rename_i refused
    simp only [reduceCtorEq, false_iff, not_and]
    intro allowed
    simp [allowed, Nat.not_lt.mpr allowed.1] at refused
  · rename_i allowed
    simp only [Bool.or_eq_true, decide_eq_true_eq, Bool.not_eq_true', not_or, Nat.not_lt, Bool.not_eq_false] at allowed
    simp only [Except.ok.injEq, allowed, and_self, true_and]
    exact eq_comm

/-- The message of a detail. -/
def messageOf (detail : String) : Message := .progress (if (asBytes detail).isEmpty then none else some detail)

theorem line_of_progressLine {detail : String} {line : List UInt8}
    (sent : progressLine detail = .ok (line ++ [NEWLINE])) : Line line (messageOf detail) := by
  obtain ⟨⟨bounded, printed⟩, same⟩ := progressLine_eq_ok.mp sent
  obtain ⟨rfl, -⟩ := List.append_inj' same rfl
  unfold messageOf
  cases empty : (asBytes detail).isEmpty with
  | true => exact .bare
  | false =>
      refine .detailed (List.length_pos_iff.mpr fun none => ?_) bounded printed
      rw [none] at empty
      cases empty

theorem sendable_iff {line : List UInt8} : Sendable line ↔ ∃ message, Line line message := by
  constructor
  · rintro (ready | ⟨detail, sent⟩)
    · have same : READY ++ [NEWLINE] = line ++ [NEWLINE] := ready
      obtain ⟨rfl, -⟩ := List.append_inj' same rfl
      exact ⟨.ready, .ready⟩
    · unfold Notifier.progress at sent
      split at sent
      · nomatch congrArg Prod.snd sent
      · rename_i bytes written
        simp only [List.nil_append, Prod.mk.injEq, Notifier.mk.injEq, and_true] at sent
        exact ⟨_, line_of_progressLine (sent ▸ written)⟩
  · rintro ⟨message, formed⟩
    have sends (detail : String) (written : progressLine detail = .ok (line ++ [NEWLINE])) : Sendable line := by
      refine .inr ⟨detail, ?_⟩
      rw [Notifier.progress, written]
      rfl
    cases formed with
    | ready => exact .inl rfl
    | bare => exact sends "" rfl
    | @detailed detail some_ bounded printed =>
        refine sends detail (progressLine_eq_ok.mpr ⟨⟨bounded, printed⟩, ?_⟩)
        have empty : (asBytes detail).isEmpty = false := by simpa using List.length_pos_iff.mp some_
        rw [empty]
        rfl

/-! ## A daemon's calls -/

/-- What the calls of a daemon say: the progress it was allowed to report, and how it ended. -/
def said (ready : Bool) : List String → List Posted
  | [] => [(if ready then .ready else .closed, none)]
  | detail :: rest =>
      if (progressLine detail).isOk then
        (.progress, if (asBytes detail).isEmpty then none else some detail) :: said ready rest
      else said ready rest

theorem calls_append (pipe more : List UInt8) (ready : Bool) (details : List String) :
    Notifier.calls ⟨pipe ++ more⟩ ready details = pipe ++ Notifier.calls ⟨more⟩ ready details := by
  induction details generalizing more with
  | nil => cases ready <;> simp [Notifier.calls, Notifier.ready]
  | cons detail rest ih =>
      simp only [Notifier.calls, Notifier.progress]
      cases progressLine detail with
      | error => exact ih more
      | ok line =>
          simp only [List.append_assoc]
          exact ih _

theorem reading_calls (ready : Bool) (details : List String) :
    Reading (Notifier.calls {} ready details) (said ready details) := by
  induction details with
  | nil =>
      cases ready with
      | true => exact .ready .ready
      | false => exact .closed List.not_mem_nil (by decide)
  | cons detail rest ih =>
      simp only [Notifier.calls, Notifier.progress, said]
      cases written : progressLine detail with
      | error => exact ih
      | ok bytes =>
          obtain ⟨-, same⟩ := progressLine_eq_ok.mp written
          generalize PROGRESS ++ _ = line at same
          subst same
          have stream := calls_append (line ++ [NEWLINE]) [] ready rest
          rw [List.append_nil, List.append_assoc] at stream
          have sent : (Except.ok (line ++ [NEWLINE]) : Except IoError (List UInt8)).isOk = true := rfl
          dsimp only [List.nil_append]
          rw [stream, if_pos sent]
          exact .progress (line_of_progressLine written) ih

theorem push_room {decoder : Decoder} (room : decoder.line.length < MAX_MESSAGE) (byte : UInt8) :
    (decoder.push byte).1.line.length < MAX_MESSAGE := by
  unfold Decoder.push
  split
  · split <;> exact Nat.zero_lt_succ _
  · split
    · exact room
    · rename_i short
      simp only [MAX_MESSAGE, List.length_append, List.length_singleton] at short ⊢
      omega

theorem pushAll_room {decoder : Decoder} (room : decoder.line.length < MAX_MESSAGE) (bytes : List UInt8) :
    (decoder.pushAll bytes).1.line.length < MAX_MESSAGE := by
  induction bytes generalizing decoder with
  | nil => exact room
  | cons byte rest ih => exact ih (push_room room byte)

/-- The launcher reads exactly what a daemon can send: its posts are the one reading of the stream,
however the reads divide it, and end with its one final event. -/
theorem channel_reads_what_a_daemon_sends :
    (∀ reads stream, Divides reads stream → ∀ posts, readMessages {} reads = posts ↔ Reading stream posts) ∧
    (∀ reads stream, Divides reads stream → ∃ earlier last, readMessages {} reads = earlier ++ [last] ∧
      (∀ post ∈ earlier, post.1 = .progress) ∧ last.1 ≠ .progress) ∧
    (∀ line, (∃ message, Accepted line message) ↔ Sendable line) ∧
    (∀ ready details reads, Divides reads (Notifier.calls {} ready details) →
      readMessages {} reads = said ready details) ∧
    (∀ bytes, (Decoder.pushAll {} bytes).1.line.length < MAX_MESSAGE) := by
  have reads_once {reads : List (Except IoError (List UInt8))} {stream : List UInt8} (divides : Divides reads stream) :
      Reading stream (readMessages {} reads) := by
    rw [readMessages_eq divides]
    exact reading_readStream List.not_mem_nil (by decide) stream
  refine ⟨fun reads stream divides posts => ⟨fun same => same ▸ reads_once divides, fun reading => ?_⟩,
    fun reads stream divides => (reads_once divides).final, fun line => ?_, fun ready details reads divides => ?_,
    pushAll_room (by decide)⟩
  · rw [readMessages_eq divides]
    exact reading.eq_readStream
  · rw [sendable_iff]
    exact exists_congr fun _ => accepted_iff
  · rw [readMessages_eq divides]
    exact (reading_calls ready details).eq_readStream

end KunobiDaemon.Readiness
