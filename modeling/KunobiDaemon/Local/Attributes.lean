import KunobiDaemon.Errors
import KunobiDaemon.Lib.Bytes
import KunobiDaemon.Lib.Memory
import KunobiDaemon.Lib.Utf16

/-! Decoding the ordinary process-identity attribute of a token, on Windows.

A buffer holds records that point into it. Its bytes and pointers are whatever they are, at any
address. The records are laid out as C lays them out, for pointers of either width.
-/

set_option autoImplicit false

namespace KunobiDaemon.Local.Security

open Lib Memory

/-- The width of a pointer. -/
inductive Width where
  | narrow
  | wide
  deriving DecidableEq, Repr

namespace Width

def bytes : Width → Nat
  | .narrow => 4
  | .wide => 8

/-- The size of the address space. -/
def space (width : Width) : Nat := 256 ^ width.bytes

end Width

/-- The next multiple of an alignment. -/
def aligned (offset alignment : Nat) : Nat := (offset + (alignment - 1)) / alignment * alignment

/-- A number in a record. -/
def field (record : List UInt8) (offset size : Nat) : Nat := Bytes.ofLittle ((record.drop offset).take size)

structure Attributes where
  version : Nat
  reserved : Nat
  count : Nat
  first : Nat
  deriving DecidableEq, Repr

structure UnicodeString where
  length : Nat
  maximumLength : Nat
  buffer : Nat
  deriving DecidableEq, Repr

structure Attribute where
  name : UnicodeString
  valueType : Nat
  reserved : Nat
  flags : Nat
  count : Nat
  values : Nat
  deriving DecidableEq, Repr

inductive OrdinaryAttributes where
  | empty
  | processUnique
  deriving DecidableEq, Repr

section
variable (width : Width)

def Attributes.size : Nat := aligned 8 width.bytes + width.bytes

def Attributes.ofBytes (record : List UInt8) : Attributes where
  version := field record 0 2
  reserved := field record 2 2
  count := field record 4 4
  first := field record (aligned 8 width.bytes) width.bytes

def UnicodeString.size : Nat := aligned 4 width.bytes + width.bytes

def UnicodeString.ofBytes (record : List UInt8) : UnicodeString where
  length := field record 0 2
  maximumLength := field record 2 2
  buffer := field record (aligned 4 width.bytes) width.bytes

def Attribute.size : Nat := aligned (UnicodeString.size width + 12) width.bytes + width.bytes

def Attribute.ofBytes (record : List UInt8) : Attribute where
  name := .ofBytes width record
  valueType := field record (UnicodeString.size width) 2
  reserved := field record (UnicodeString.size width + 2) 2
  flags := field record (UnicodeString.size width + 4) 4
  count := field record (UnicodeString.size width + 8) 4
  values := field record (aligned (UnicodeString.size width + 12) width.bytes) width.bytes

end

def other (text : String) : IoError := ⟨.other, .message text⟩

/-- The name, in the bytes of its UTF-16 units. -/
def processUniqueName : List UInt8 :=
  (Utf16.encode "TSA://ProcUnique".toList).flatMap fun unit => Bytes.little 2 unit.toNat

section
variable {width : Width} (contents : Contents) (bytes : Slice width.space)

/-- Where a pointer points to in the buffer. -/
def offset (pointer : Nat) : Except IoError Nat :=
  if bytes.pointer ≤ pointer then .ok (pointer - bytes.pointer)
  else .error (other "invalid token security attribute pointer")

def region (pointer length : Nat) : Except IoError (Slice width.space) :=
  (offset bytes pointer).bind fun start =>
    match (bytes.getFrom start).bind (·.getTo length) with
    | none => .error (other "truncated token security attribute")
    | some part => .ok part

def value {T : Type} (ofBytes : List UInt8 → T) (size start : Nat) : Reading width.space IoError T :=
  match (bytes.getFrom start).bind (·.getTo size) with
  | none => .answered (.error (other "truncated token security attribute record"))
  | some part => do
      let record ← .read contents part
      pure (ofBytes record)

/-- The attribute is the known one, but for its name and values. -/
def Attribute.familiar (record : Attribute) : Bool :=
  !(record.valueType != 2 || record.reserved != 0 || record.flags != 0x41 || record.count != 2 ||
    record.name.length != 32 || record.name.maximumLength < record.name.length)

/-- The only attribute of a buffer. -/
def processUnique (first : Nat) : Reading width.space IoError (Option OrdinaryAttributes) := do
  let start ← .answered (offset bytes first)
  let record ← value contents bytes (Attribute.ofBytes width) (Attribute.size width) start
  if record.familiar then
    let region ← .answered (region bytes record.name.buffer 32)
    let name ← .read contents region
    if name = processUniqueName then
      -- The values differ from process to process, so their pointer is checked and they are not read.
      let _ ← .answered (Security.region bytes record.values 16)
      pure (some .processUnique)
    else pure none
  else pure none

def ordinaryAttributes : Reading width.space IoError (Option OrdinaryAttributes) := do
  let header ← value contents bytes (Attributes.ofBytes width) (Attributes.size width) 0
  if header.version != 1 || header.reserved != 0 then pure none
  else
    match header.count with
    | 0 => pure (some .empty)
    | 1 => processUnique contents bytes header.first
    | _ => pure none

end

def matchingOrdinaryAttributes {width : Width} (contents : Contents) (client daemon : Slice width.space) :
    Reading width.space IoError Bool := do
  match ← ordinaryAttributes contents client with
  | none => pure false
  | some client =>
      let daemon ← ordinaryAttributes contents daemon
      pure (decide (some client = daemon))

/-! ## What is accepted -/

section
variable {width : Width} (contents : Contents) (bytes : Slice width.space)

/-- The header of a buffer, if it is that long. -/
def header : Attributes := .ofBytes width (contents.read bytes.pointer (Attributes.size width))

/-- The record the header points to. -/
def record : Attribute := .ofBytes width (contents.read (header contents bytes).first (Attribute.size width))

/-- A list of so many attributes, of the known version. -/
structure Lists (count : Nat) : Prop where
  held : bytes.Holds bytes.pointer (Attributes.size width)
  version : (header contents bytes).version = 1
  reserved : (header contents bytes).reserved = 0
  count : (header contents bytes).count = count

/-- The attribute that every process has, with the name and the values it points to. -/
structure ProcessUnique : Prop where
  held : bytes.Holds (header contents bytes).first (Attribute.size width)
  valueType : (record contents bytes).valueType = 2
  reserved : (record contents bytes).reserved = 0
  flags : (record contents bytes).flags = 0x41
  count : (record contents bytes).count = 2
  length : (record contents bytes).name.length = 32
  capacity : (record contents bytes).name.length ≤ (record contents bytes).name.maximumLength
  named : bytes.Holds (record contents bytes).name.buffer 32
  name : contents.read (record contents bytes).name.buffer 32 = processUniqueName
  valued : bytes.Holds (record contents bytes).values 16

def Ordinary : OrdinaryAttributes → Prop
  | .empty => Lists contents bytes 0
  | .processUnique => Lists contents bytes 1 ∧ ProcessUnique contents bytes

/-- An address of the header, of the record or of the name. -/
def Shape (address : Nat) : Prop :=
  (bytes.pointer ≤ address ∧ address < bytes.pointer + Attributes.size width) ∨
  ((header contents bytes).first ≤ address ∧ address < (header contents bytes).first + Attribute.size width) ∨
  ((record contents bytes).name.buffer ≤ address ∧ address < (record contents bytes).name.buffer + 32)

/-- A slice that lies in the buffer and holds nothing but its header, its record or its name. -/
def Proper (slice : Slice width.space) : Prop :=
  bytes.Holds slice.pointer slice.length ∧ ∀ address, slice.Holds address 1 → Shape contents bytes address

end

/-! ## One lemma for each step of the decoder -/

section
variable {width : Width} {contents : Contents} {bytes : Slice width.space}

theorem offset_eq_ok {pointer start : Nat} :
    offset bytes pointer = .ok start ↔ bytes.pointer ≤ pointer ∧ start = pointer - bytes.pointer := by
  unfold offset
  split
  · rename_i inside
    simp [inside, eq_comm]
  · rename_i outside
    simp [outside]

theorem region_eq_ok {pointer length : Nat} {part : Slice width.space} :
    region bytes pointer length = .ok part ↔
      bytes.Holds pointer length ∧ part.pointer = pointer ∧ part.length = length := by
  unfold region
  cases found : offset bytes pointer with
  | error error =>
      have outside : ¬ bytes.pointer ≤ pointer := by
        intro inside
        rw [offset, if_pos inside] at found
        cases found
      simp [Except.bind, Slice.Holds, outside]
  | ok start =>
      obtain ⟨inside, rfl⟩ := offset_eq_ok.mp found
      simp only [Except.bind]
      constructor
      · intro answered
        split at answered
        · cases answered
        · rename_i part there
          cases answered
          obtain ⟨fits, at_, long⟩ := Slice.part_eq_some.mp there
          exact ⟨⟨inside, by omega⟩, by omega, long⟩
      · rintro ⟨⟨-, holds⟩, at_, long⟩
        rw [Slice.part_eq_some.mpr ⟨by omega, by omega, long⟩]

theorem exists_region {pointer length : Nat} (holds : bytes.Holds pointer length) :
    ∃ part, region bytes pointer length = .ok part ∧ part.pointer = pointer ∧ part.length = length := by
  have fits : pointer + length ≤ width.space := Nat.le_trans holds.2 bytes.fits
  exact ⟨⟨pointer, length, fits⟩, region_eq_ok.mpr ⟨holds, rfl, rfl⟩, rfl, rfl⟩

theorem value_eq_ok {T : Type} {ofBytes : List UInt8 → T} {size start : Nat} {read : T} :
    (value contents bytes ofBytes size start).answer = .ok read ↔
      start + size ≤ bytes.length ∧ read = ofBytes (contents.read (bytes.pointer + start) size) := by
  unfold value
  split
  · rename_i missing
    have outside : ¬ start + size ≤ bytes.length := by
      intro inside
      obtain ⟨part, found, -⟩ := Slice.exists_part inside
      rw [missing] at found
      cases found
    simp [Reading.answered, outside]
  · rename_i part found
    obtain ⟨inside, at_, long⟩ := Slice.part_eq_some.mp found
    simp [Reading.answer_bind, Reading.read, Except.bind, pure, inside, at_, long, eq_comm]

theorem value_reads {T : Type} {ofBytes : List UInt8 → T} {size start : Nat} :
    (value contents bytes ofBytes size start).Reads fun slice =>
      bytes.Holds slice.pointer slice.length ∧ slice.pointer = bytes.pointer + start ∧ slice.length = size := by
  unfold value
  split
  · exact .answered _
  · rename_i part found
    obtain ⟨inside, at_, long⟩ := Slice.part_eq_some.mp found
    refine .bind (fun slice member => ?_) fun read _ => .pure _
    cases List.mem_singleton.mp member
    exact ⟨⟨by omega, by omega⟩, at_, long⟩

theorem value_local {T : Type} (ofBytes : List UInt8 → T) (size start : Nat) :
    Reading.Local fun contents => value contents bytes ofBytes size start := by
  unfold value
  split
  · exact .const _
  · exact .bind (.read _) fun read => .const _

theorem familiar_iff {record : Attribute} :
    record.familiar = true ↔ record.valueType = 2 ∧ record.reserved = 0 ∧ record.flags = 0x41 ∧ record.count = 2 ∧
      record.name.length = 32 ∧ record.name.length ≤ record.name.maximumLength := by
  simp [Attribute.familiar, and_assoc]

theorem processUnique_eq_ok {kind : OrdinaryAttributes} :
    (processUnique contents bytes (header contents bytes).first).answer = .ok (some kind) ↔
      kind = .processUnique ∧ ProcessUnique contents bytes := by
  unfold processUnique
  constructor
  · intro answered
    obtain ⟨start, found, answered⟩ := Reading.answer_bind_eq_ok.mp answered
    obtain ⟨read, decoded, answered⟩ := Reading.answer_bind_eq_ok.mp answered
    obtain ⟨inside, rfl⟩ := offset_eq_ok.mp found
    obtain ⟨held, rfl⟩ := value_eq_ok.mp decoded
    rw [Nat.add_sub_cancel' inside] at answered
    split at answered
    · rename_i familiar
      obtain ⟨valueType, reserved, flags, count, length, capacity⟩ := familiar_iff.mp familiar
      obtain ⟨part, named, answered⟩ := Reading.answer_bind_eq_ok.mp answered
      obtain ⟨named, pointer, long⟩ := region_eq_ok.mp named
      obtain ⟨name, same, answered⟩ := Reading.answer_bind_eq_ok.mp answered
      cases same
      split at answered
      · rename_i name
        obtain ⟨values, valued, answered⟩ := Reading.answer_bind_eq_ok.mp answered
        cases answered
        rw [pointer, long] at name
        exact ⟨rfl, ⟨inside, by omega⟩, valueType, reserved, flags, count, length, capacity, named, name,
          (region_eq_ok.mp valued).1⟩
      · cases answered
    · cases answered
  · rintro ⟨rfl, unique⟩
    obtain ⟨inside, held⟩ := unique.held
    have familiar := familiar_iff.mpr
      ⟨unique.valueType, unique.reserved, unique.flags, unique.count, unique.length, unique.capacity⟩
    obtain ⟨part, named, pointer, long⟩ := exists_region unique.named
    obtain ⟨values, valued, -⟩ := exists_region unique.valued
    refine Reading.answer_bind_eq_ok.mpr ⟨_, offset_eq_ok.mpr ⟨inside, rfl⟩, ?_⟩
    refine Reading.answer_bind_eq_ok.mpr ⟨record contents bytes, value_eq_ok.mpr ⟨by omega, ?_⟩, ?_⟩
    · rw [Nat.add_sub_cancel' inside]
      rfl
    · rw [if_pos familiar]
      refine Reading.answer_bind_eq_ok.mpr ⟨part, named, ?_⟩
      refine Reading.answer_bind_eq_ok.mpr ⟨_, rfl, ?_⟩
      rw [pointer, long, if_pos unique.name]
      exact Reading.answer_bind_eq_ok.mpr ⟨values, valued, rfl⟩

/-- What a buffer is decoded to is what it is. -/
theorem ordinaryAttributes_eq_ok {kind : OrdinaryAttributes} :
    (ordinaryAttributes contents bytes).answer = .ok (some kind) ↔ Ordinary contents bytes kind := by
  unfold ordinaryAttributes
  constructor
  · intro answered
    obtain ⟨read, decoded, answered⟩ := Reading.answer_bind_eq_ok.mp answered
    obtain ⟨held, rfl⟩ := value_eq_ok.mp decoded
    have holds : bytes.Holds bytes.pointer (Attributes.size width) := ⟨Nat.le_refl _, by omega⟩
    split at answered
    · cases answered
    · rename_i known
      have fields : (header contents bytes).version = 1 ∧ (header contents bytes).reserved = 0 := by
        simpa [header] using known
      split at answered
      · rename_i count
        cases answered
        exact ⟨holds, fields.1, fields.2, count⟩
      · rename_i count
        obtain ⟨rfl, unique⟩ := processUnique_eq_ok.mp answered
        exact ⟨⟨holds, fields.1, fields.2, count⟩, unique⟩
      · cases answered
  · intro ordinary
    have listed : ∃ count, Lists contents bytes count := by
      cases kind with
      | empty => exact ⟨0, ordinary⟩
      | processUnique => exact ⟨1, ordinary.1⟩
    obtain ⟨count, lists⟩ := listed
    have known : ((header contents bytes).version != 1 || (header contents bytes).reserved != 0) = false := by
      simp [lists.version, lists.reserved]
    have held := lists.held.2
    refine Reading.answer_bind_eq_ok.mpr ⟨header contents bytes, value_eq_ok.mpr ⟨by omega, rfl⟩, ?_⟩
    rw [known, if_neg Bool.false_ne_true]
    cases kind with
    | empty => rw [ordinary.count]; rfl
    | processUnique =>
        rw [ordinary.1.count]
        exact processUnique_eq_ok.mpr ⟨rfl, ordinary.2⟩

/-! ## What is read -/

theorem header_of_value {read : Attributes}
    (decoded : (value contents bytes (Attributes.ofBytes width) (Attributes.size width) 0).answer = .ok read) :
    read = header contents bytes := (value_eq_ok.mp decoded).2

theorem record_of_value {start : Nat} {read : Attribute} (found : offset bytes (header contents bytes).first = .ok start)
    (decoded : (value contents bytes (Attribute.ofBytes width) (Attribute.size width) start).answer = .ok read) :
    read = record contents bytes := by
  obtain ⟨inside, rfl⟩ := offset_eq_ok.mp found
  obtain ⟨-, rfl⟩ := value_eq_ok.mp decoded
  rw [Nat.add_sub_cancel' inside]
  rfl

theorem processUnique_reads :
    (processUnique contents bytes (header contents bytes).first).Reads (Proper contents bytes) := by
  refine .bind (.answered _) fun start found => ?_
  refine .bind (fun slice member => ?_) fun read decoded => ?_
  · obtain ⟨holds, pointer, long⟩ := value_reads slice member
    obtain ⟨inside, rfl⟩ := offset_eq_ok.mp found
    refine ⟨holds, fun address covered => .inr (.inl ?_)⟩
    dsimp only [Slice.Holds] at covered
    omega
  · cases record_of_value found decoded
    split
    · refine .bind (.answered _) fun part named => ?_
      obtain ⟨named, pointer, long⟩ := region_eq_ok.mp named
      refine .bind (fun slice member => ?_) fun name _ => ?_
      · cases List.mem_singleton.mp member
        refine ⟨by rwa [pointer, long], fun address covered => .inr (.inr ?_)⟩
        dsimp only [Slice.Holds] at covered
        omega
      · split
        · exact .bind (.answered _) fun values _ => .pure _
        · exact .pure _
    · exact .pure _

/-- The decoder reads the header, the record and the name of the buffer it decodes, and nothing else. -/
theorem ordinaryAttributes_reads : (ordinaryAttributes contents bytes).Reads (Proper contents bytes) := by
  refine .bind (fun slice member => ?_) fun read decoded => ?_
  · obtain ⟨holds, pointer, long⟩ := value_reads slice member
    refine ⟨holds, fun address covered => .inl ?_⟩
    dsimp only [Slice.Holds] at covered
    omega
  · cases header_of_value decoded
    split
    · exact .pure _
    · split
      · exact .pure _
      · exact processUnique_reads
      · exact .pure _

theorem processUnique_local (first : Nat) : Reading.Local fun contents => processUnique contents bytes first := by
  unfold processUnique
  refine .bind (.const _) fun start => .bind (value_local _ _ _) fun read => ?_
  split
  · refine .bind (.const _) fun part => .bind (.read _) fun name => ?_
    split <;> exact .const _
  · exact .const _

theorem ordinaryAttributes_local : Reading.Local fun contents => ordinaryAttributes contents bytes := by
  unfold ordinaryAttributes
  refine .bind (value_local _ _ _) fun read => ?_
  split
  · exact .const _
  · split
    · exact .const _
    · exact processUnique_local _
    · exact .const _

end

section
variable {width : Width} {contents : Contents} {client daemon : Slice width.space}

theorem matching_eq_true :
    (matchingOrdinaryAttributes contents client daemon).answer = .ok true ↔
      ∃ kind, Ordinary contents client kind ∧ Ordinary contents daemon kind := by
  unfold matchingOrdinaryAttributes
  constructor
  · intro answered
    obtain ⟨decoded, first, answered⟩ := Reading.answer_bind_eq_ok.mp answered
    cases decoded with
    | none => cases answered
    | some kind =>
        obtain ⟨decoded, second, same⟩ := Reading.answer_bind_eq_ok.mp answered
        have same : some kind = decoded := by simpa [pure] using same
        subst same
        exact ⟨kind, ordinaryAttributes_eq_ok.mp first, ordinaryAttributes_eq_ok.mp second⟩
  · rintro ⟨kind, first, second⟩
    refine Reading.answer_bind_eq_ok.mpr ⟨some kind, ordinaryAttributes_eq_ok.mpr first, ?_⟩
    refine Reading.answer_bind_eq_ok.mpr ⟨some kind, ordinaryAttributes_eq_ok.mpr second, ?_⟩
    simp [pure]

/-- The daemon's buffer is decoded after the client's, or not at all. -/
theorem accesses_matching :
    (matchingOrdinaryAttributes contents client daemon).accesses = (ordinaryAttributes contents client).accesses ∨
    (matchingOrdinaryAttributes contents client daemon).accesses =
      (ordinaryAttributes contents client).accesses ++ (ordinaryAttributes contents daemon).accesses := by
  unfold matchingOrdinaryAttributes
  cases first : ordinaryAttributes contents client with
  | mk accesses answer =>
      cases answer with
      | error error => exact .inl rfl
      | ok decoded =>
          cases decoded with
          | none => exact .inl (List.append_nil _)
          | some kind =>
              refine .inr ?_
              cases second : ordinaryAttributes contents daemon with
              | mk later answer => cases answer <;> simp [bind, pure]

theorem matching_reads :
    (matchingOrdinaryAttributes contents client daemon).Reads fun slice =>
      Proper contents client slice ∨ Proper contents daemon slice := by
  intro slice member
  have split : slice ∈ (ordinaryAttributes contents client).accesses ∨
      slice ∈ (ordinaryAttributes contents daemon).accesses := by
    rcases accesses_matching with one | both
    · exact .inl (one ▸ member)
    · exact List.mem_append.mp (both ▸ member)
  exact split.imp (ordinaryAttributes_reads slice) (ordinaryAttributes_reads slice)

theorem matching_local (client daemon : Slice width.space) :
    Reading.Local fun contents => matchingOrdinaryAttributes contents client daemon := by
  unfold matchingOrdinaryAttributes
  refine .bind ordinaryAttributes_local fun decoded => ?_
  cases decoded with
  | none => exact .const _
  | some kind => exact .bind ordinaryAttributes_local fun decoded => .const _

end

/-- Only known attributes match. Each buffer is read inside its bounds, and the answer depends on nothing but the
headers, records and names: the values can be anything. -/
theorem only_known_attributes_match {width : Width} (contents : Contents) (client daemon : Slice width.space) :
    ((matchingOrdinaryAttributes contents client daemon).answer = .ok true ↔
      ∃ kind, Ordinary contents client kind ∧ Ordinary contents daemon kind) ∧
    ((¬ ∃ kind, Ordinary contents client kind ∧ Ordinary contents daemon kind) →
      (matchingOrdinaryAttributes contents client daemon).answer = .ok false ∨
      ∃ error, (matchingOrdinaryAttributes contents client daemon).answer = .error error) ∧
    ((matchingOrdinaryAttributes contents client daemon).accesses = (ordinaryAttributes contents client).accesses ∨
      (matchingOrdinaryAttributes contents client daemon).accesses =
        (ordinaryAttributes contents client).accesses ++ (ordinaryAttributes contents daemon).accesses) ∧
    (∀ slice ∈ (ordinaryAttributes contents client).accesses, client.Holds slice.pointer slice.length) ∧
    (∀ slice ∈ (ordinaryAttributes contents daemon).accesses, daemon.Holds slice.pointer slice.length) ∧
    ∀ other : Contents,
      (∀ address, Shape contents client address ∨ Shape contents daemon address → contents address = other address) →
      matchingOrdinaryAttributes other client daemon = matchingOrdinaryAttributes contents client daemon := by
  refine ⟨matching_eq_true, fun apart => ?_, accesses_matching, fun slice member => (ordinaryAttributes_reads slice member).1,
    fun slice member => (ordinaryAttributes_reads slice member).1, fun other agrees => ?_⟩
  · cases answer : (matchingOrdinaryAttributes contents client daemon).answer with
    | error error => exact .inr ⟨error, rfl⟩
    | ok matched =>
        cases matched with
        | false => exact .inl rfl
        | true => exact absurd (matching_eq_true.mp answer) apart
  · refine matching_local client daemon contents other fun slice member address covered => agrees address ?_
    exact (matching_reads slice member).imp (fun proper => proper.2 address covered) (fun proper => proper.2 address covered)

end KunobiDaemon.Local.Security
