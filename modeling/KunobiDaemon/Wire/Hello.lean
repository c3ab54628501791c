import KunobiDaemon.Identity
import KunobiDaemon.Lib.Bytes

/-! Offers, what two of them agree on, and refusals. -/

set_option autoImplicit false

namespace KunobiDaemon

open Lib.Bytes

namespace Wire

def MAGIC : List UInt8 := [75, 78, 68, 80, 66, 48, 48, 50]

def VERSION : UInt32 := 2

def MAX_FRAME : UInt32 := 65536

def HELLO_LIMIT : UInt32 := 1024

def MIN_FRAME : UInt32 := 256

/-- An enumeration field: a declared value, or a number this build does not know. -/
inductive EnumValue (A : Type) where
  | known (value : A)
  | unknown (number : Int32)
  deriving DecidableEq, Repr

def EnumValue.asKnown {A : Type} : EnumValue A → Option A
  | .known value => some value
  | .unknown _ => none

inductive Refusal where
  | notRefused
  | protocolTooOld
  | peerRejected
  | serverRetiring
  deriving DecidableEq, Repr

def Refusal.toI32 : Refusal → Int32
  | .notRefused => 0
  | .protocolTooOld => 1
  | .peerRejected => 2
  | .serverRetiring => 3

def EnumValue.toI32 : EnumValue Refusal → Int32
  | .known value => value.toI32
  | .unknown number => number

structure Hello where
  minimum : UInt32 := 0
  maximum : UInt32 := 0
  supported : UInt64 := 0
  required : UInt64 := 0
  maxFrame : UInt32 := 0
  application : List UInt8 := []
  profile : List UInt8 := []
  serviceInstance : List UInt8 := []
  serviceId : List UInt8 := []
  readsRefusal : Bool := false
  refusal : EnumValue Refusal := .known .notRefused
  -- The fields this build does not know, as they were encoded.
  unknownFields : List UInt8 := []
  deriving DecidableEq, Repr

namespace Hello

def new (identity : ServiceIdentity) (supported required : UInt64) : Hello where
  minimum := VERSION
  maximum := VERSION
  supported := supported
  required := required
  maxFrame := MAX_FRAME
  application := identity.application
  profile := identity.profile
  serviceInstance := identity.serviceInstance
  serviceId := identity.id.val
  readsRefusal := true

/-- The fields in the order of their numbers. A negative number is extended to 64 bits. -/
def encode (hello : Hello) : List UInt8 :=
  putNumber 1 hello.minimum.toNat ++ putNumber 2 hello.maximum.toNat ++
  putNumber 3 hello.supported.toNat ++ putNumber 4 hello.required.toNat ++
  putNumber 5 hello.maxFrame.toNat ++
  putBytes 6 hello.application ++ putBytes 7 hello.profile ++ putBytes 8 hello.serviceInstance ++
  putBytes 9 hello.serviceId ++
  putNumber 10 hello.readsRefusal.toNat ++ putNumber 11 hello.refusal.toI32.toInt64.toUInt64.toNat ++
  hello.unknownFields

end Hello

/-- The numeric part of an offer. -/
structure Terms where
  minimum : UInt32
  maximum : UInt32
  supported : UInt64
  required : UInt64
  maxFrame : UInt32

/-- Agreed limits for one connection. -/
structure Agreement where
  version : UInt32
  capabilities : UInt64
  maxFrame : UInt32
  deriving DecidableEq, Repr

namespace Terms

def of (hello : Hello) : Terms :=
  ⟨hello.minimum, hello.maximum, hello.supported, hello.required, hello.maxFrame⟩

def valid (terms : Terms) : Bool :=
  terms.minimum ≠ 0 && terms.minimum ≤ terms.maximum && terms.required &&& ~~~terms.supported = 0 &&
  (MIN_FRAME ≤ terms.maxFrame && terms.maxFrame ≤ MAX_FRAME)

def agree (terms remote : Terms) : Except IoError Agreement :=
  if max terms.minimum remote.minimum > VERSION || min terms.maximum remote.maximum < VERSION then
    .error (invalid "no implemented binary version in common")
  else if (terms.required ||| remote.required) &&& ~~~(terms.supported &&& remote.supported) ≠ 0 then
    .error (invalid "required capability unavailable")
  else .ok ⟨VERSION, terms.supported &&& remote.supported, min terms.maxFrame remote.maxFrame⟩

end Terms

def Hello.validate (hello : Hello) : Except IoError Unit :=
  match Uuid.ofBytes hello.serviceId with
  | none => .error (invalid "service UUID must have 16 bytes")
  | some id =>
      match ServiceIdentity.new id hello.application hello.profile hello.serviceInstance with
      | .error _ => .error (invalid "invalid service identity")
      | .ok _ =>
          if (Terms.of hello).valid then .ok () else .error (invalid "invalid version or capability offer")

def sameService (a b : Hello) : Bool :=
  (a.serviceId, a.application, a.profile, a.serviceInstance) =
    (b.serviceId, b.application, b.profile, b.serviceInstance)

/-- Negotiate compatible versions, required capabilities and receive bounds. -/
def negotiate (localOffer remote : Hello) : Except IoError Agreement := do
  localOffer.validate
  remote.validate
  if sameService localOffer remote then (Terms.of localOffer).agree (Terms.of remote)
  else .error (invalid "service identity mismatch")

end Wire

namespace Refused

open Wire

def refusal : Refused → Refusal
  | .protocolTooOld => .protocolTooOld
  | .peerRejected => .peerRejected
  | .retiring => .serverRetiring

/-- A refusal sets no other field. -/
def hello (reason : Refused) : Hello := { refusal := .known reason.refusal }

/-- The frame that refuses a client, if it reads refusals and names the service the offer serves. -/
def frame (reason : Refused) (offer remote : Hello) : Option Hello :=
  if remote.readsRefusal && sameService offer remote && remote.validate.isOk then some reason.hello
  else none

end Refused

namespace Wire

/-- What a server sends before closing on a failed negotiation. -/
def rejection (offer remote : Hello) : Option Hello :=
  if remote.maximum < VERSION || offer.required &&& ~~~remote.supported ≠ 0 then
    Refused.protocolTooOld.frame offer remote
  else none

/-- Fail with the server's refusal if the message is one rather than an offer. -/
def checkRefusal (remote : Hello) : Except IoError Unit :=
  match remote.refusal.asKnown with
  | some .notRefused => .ok ()
  | some .protocolTooOld => .error Refused.protocolTooOld.toError
  | some .peerRejected => .error Refused.peerRejected.toError
  | some .serverRetiring => .error Refused.retiring.toError
  | none => .error ⟨.connectionRefused, .message "connection refused for an unknown reason"⟩

/-! What two offers agree on. -/

theorem max_comm (a b : UInt32) : max a b = max b a := by
  have one : max a b = if a ≤ b then b else a := rfl
  have other : max b a = if b ≤ a then a else b := rfl
  rw [one, other]
  simp only [UInt32.le_iff_toNat_le]
  split <;> split <;> first | rfl | (apply UInt32.toNat_inj.mp; omega)

theorem min_comm (a b : UInt32) : min a b = min b a := by
  have one : min a b = if a ≤ b then a else b := rfl
  have other : min b a = if b ≤ a then b else a := rfl
  rw [one, other]
  simp only [UInt32.le_iff_toNat_le]
  split <;> split <;> first | rfl | (apply UInt32.toNat_inj.mp; omega)

theorem min_lt {a b c : UInt32} : min a b < c ↔ a < c ∨ b < c := by
  have same : min a b = if a ≤ b then a else b := rfl
  simp only [same, UInt32.lt_iff_toNat_lt, UInt32.le_iff_toNat_le]
  split <;> omega

theorem lt_max {a b c : UInt32} : c < max a b ↔ c < a ∨ c < b := by
  have same : max a b = if a ≤ b then b else a := rfl
  simp only [same, UInt32.lt_iff_toNat_lt, UInt32.le_iff_toNat_le]
  split <;> omega

/-- Both support what both require. -/
theorem or_and_not_and {a b s t : UInt64} : (a ||| b) &&& ~~~(s &&& t) = 0 ↔
    (a &&& ~~~s = 0 ∧ b &&& ~~~s = 0) ∧ a &&& ~~~t = 0 ∧ b &&& ~~~t = 0 := by
  have spread : (a ||| b) &&& ~~~(s &&& t) =
      ((a &&& ~~~s) ||| (b &&& ~~~s)) ||| ((a &&& ~~~t) ||| (b &&& ~~~t)) := by
    apply UInt64.eq_of_toBitVec_eq
    apply BitVec.eq_of_getLsbD_eq
    intro i bound
    simp only [UInt64.toBitVec_and, UInt64.toBitVec_or, UInt64.toBitVec_not, BitVec.getLsbD_and,
      BitVec.getLsbD_or, BitVec.getLsbD_not, bound, decide_true, Bool.true_and]
    grind
  rw [spread, UInt64.or_eq_zero_iff, UInt64.or_eq_zero_iff, UInt64.or_eq_zero_iff]

theorem or_and {a b c : UInt64} : (a ||| b) &&& ~~~c = 0 ↔ a &&& ~~~c = 0 ∧ b &&& ~~~c = 0 := by
  have same := or_and_not_and (a := a) (b := b) (s := c) (t := c)
  rwa [UInt64.and_self, and_self_iff] at same

/-- Bits that are all among others share none with what the others share none with. -/
theorem and_eq_zero_of_among {a b c : UInt64} (among : a &&& ~~~c = 0) (apart : c &&& b = 0) : a &&& b = 0 := by
  have spread : a &&& b = (a &&& (c &&& b)) ||| ((a &&& ~~~c) &&& b) := by
    apply UInt64.eq_of_toBitVec_eq
    apply BitVec.eq_of_getLsbD_eq
    intro i bound
    simp only [UInt64.toBitVec_and, UInt64.toBitVec_or, UInt64.toBitVec_not, BitVec.getLsbD_and,
      BitVec.getLsbD_or, BitVec.getLsbD_not, bound, decide_true, Bool.true_and]
    grind
  rw [spread, among, apart, UInt64.and_zero, UInt64.zero_and, UInt64.or_zero]

theorem Terms.agree_comm (terms remote : Terms) : terms.agree remote = remote.agree terms := by
  unfold agree
  rw [max_comm, min_comm terms.maximum, UInt64.or_comm, UInt64.and_comm terms.supported, min_comm terms.maxFrame]

theorem Terms.agree_eq_ok {terms remote : Terms} {agreement : Agreement}
    (agreed : terms.agree remote = .ok agreement) :
    agreement = ⟨VERSION, terms.supported &&& remote.supported, min terms.maxFrame remote.maxFrame⟩ ∧
      terms.required &&& ~~~agreement.capabilities = 0 ∧ remote.required &&& ~~~agreement.capabilities = 0 := by
  unfold agree at agreed
  split at agreed
  · cases agreed
  · split at agreed
    · cases agreed
    · rename_i met
      cases agreed
      exact ⟨rfl, or_and.mp (Classical.not_not.mp met)⟩

/-- An older or less able peer cannot agree, whatever it asks for itself. -/
theorem Terms.agree_error (terms remote : Terms)
    (lacks : remote.maximum < VERSION ∨ terms.required &&& ~~~remote.supported ≠ 0) :
    ∃ error, terms.agree remote = .error error := by
  unfold agree
  split
  · exact ⟨_, rfl⟩
  · rename_i common
    split
    · exact ⟨_, rfl⟩
    · rename_i met
      rcases lacks with older | missing
      · simp [min_lt, older] at common
      · exact absurd (or_and_not_and.mp (Classical.not_not.mp met)).2.1 missing

theorem sameService_comm (a b : Hello) : sameService a b = sameService b a :=
  decide_eq_decide.mpr eq_comm

theorem negotiate_eq_ok {offer remote : Hello} {agreement : Agreement} :
    negotiate offer remote = .ok agreement ↔ offer.validate = .ok () ∧ remote.validate = .ok () ∧
      sameService offer remote = true ∧ (Terms.of offer).agree (Terms.of remote) = .ok agreement := by
  unfold negotiate
  cases offer.validate with
  | error => simp [bind, Except.bind]
  | ok =>
      cases remote.validate with
      | error => simp [bind, Except.bind]
      | ok => cases sameService offer remote <;> simp [bind, Except.bind]

theorem Hello.validate_error {hello : Hello} {error : IoError} (failed : hello.validate = .error error) :
    ∃ text, error = invalid text := by
  unfold validate at failed
  split at failed
  · cases failed
    exact ⟨_, rfl⟩
  · split at failed
    · cases failed
      exact ⟨_, rfl⟩
    · split at failed
      · cases failed
      · cases failed
        exact ⟨_, rfl⟩

theorem Terms.agree_invalid {terms remote : Terms} {error : IoError} (failed : terms.agree remote = .error error) :
    ∃ text, error = invalid text := by
  unfold agree at failed
  split at failed
  · cases failed
    exact ⟨_, rfl⟩
  · split at failed
    · cases failed
      exact ⟨_, rfl⟩
    · cases failed

/-- Every failed negotiation is invalid data. -/
theorem negotiate_error {offer remote : Hello} {error : IoError} (failed : negotiate offer remote = .error error) :
    ∃ text, error = invalid text := by
  unfold negotiate at failed
  cases valid : offer.validate with
  | error =>
      rw [valid] at failed
      cases failed
      exact Hello.validate_error valid
  | ok =>
      cases remoteValid : remote.validate with
      | error =>
          rw [valid, remoteValid] at failed
          cases failed
          exact Hello.validate_error remoteValid
      | ok =>
          rw [valid, remoteValid] at failed
          dsimp only [bind, Except.bind] at failed
          split at failed
          · exact Terms.agree_invalid failed
          · cases failed
            exact ⟨_, rfl⟩

/-- Both peers reach the same agreement, or neither reaches one. -/
theorem negotiate_comm {offer remote : Hello} {agreement : Agreement} :
    negotiate offer remote = .ok agreement ↔ negotiate remote offer = .ok agreement := by
  rw [negotiate_eq_ok, negotiate_eq_ok, sameService_comm, Terms.agree_comm]
  exact and_left_comm

theorem Hello.terms_valid {hello : Hello} (valid : hello.validate = .ok ()) : (Terms.of hello).valid = true := by
  unfold validate at valid
  split at valid
  · cases valid
  · split at valid
    · cases valid
    · split at valid
      · assumption
      · cases valid

/-- An offer that passes its checks has a version, and its encoding begins with that field. -/
theorem Hello.encode_eq_cons {hello : Hello} (valid : hello.validate = .ok ()) :
    ∃ rest, hello.encode = 8 :: rest := by
  have terms := terms_valid valid
  simp only [Terms.valid, Terms.of, Bool.and_eq_true] at terms
  have version : hello.minimum.toNat ≠ 0 := fun zero =>
    of_decide_eq_true terms.1.1.1 (UInt32.toNat_inj.mp zero)
  have first : putNumber 1 hello.minimum.toNat = 8 :: putVarint hello.minimum.toNat := by
    rw [putNumber, if_neg version]
    rfl
  simp only [encode, first, List.cons_append]
  exact ⟨_, rfl⟩

theorem Hello.encode_ne_nil {hello : Hello} (valid : hello.validate = .ok ()) : hello.encode ≠ [] := by
  obtain ⟨rest, encoded⟩ := encode_eq_cons valid
  simp [encoded]

/-- A client that a refusal may be sent to: it reads refusals, and names the server's service. -/
structure Answerable (offer remote : Hello) : Prop where
  reads : remote.readsRefusal = true
  valid : remote.validate = .ok ()
  serviceId : remote.serviceId = offer.serviceId
  application : remote.application = offer.application
  profile : remote.profile = offer.profile
  serviceInstance : remote.serviceInstance = offer.serviceInstance

/-- The client lacks a version or a capability that the server requires. -/
def TooOld (offer remote : Hello) : Prop :=
  remote.maximum < VERSION ∨ offer.required &&& ~~~remote.supported ≠ 0

/-! Refusals. -/

section
variable {offer remote refusal : Hello} {reason : Refused}

theorem isOk_iff {E : Type} {result : Except E Unit} : result.isOk = true ↔ result = .ok () := by
  cases result <;> simp [Except.isOk, Except.toBool]

theorem refused_frame_eq_some :
    reason.frame offer remote = some refusal ↔ Answerable offer remote ∧ refusal = reason.hello := by
  simp only [Refused.frame, sameService, Option.ite_none_right_eq_some, Bool.and_eq_true, decide_eq_true_eq,
    Prod.mk.injEq, isOk_iff, Option.some.injEq]
  constructor
  · rintro ⟨⟨⟨reads, id, application, profile, name⟩, valid⟩, rfl⟩
    exact ⟨⟨reads, valid, id.symm, application.symm, profile.symm, name.symm⟩, rfl⟩
  · rintro ⟨answerable, rfl⟩
    exact ⟨⟨⟨answerable.reads, answerable.serviceId.symm, answerable.application.symm, answerable.profile.symm,
      answerable.serviceInstance.symm⟩, answerable.valid⟩, rfl⟩

theorem rejection_iff : rejection offer remote = some refusal ↔
    TooOld offer remote ∧ Answerable offer remote ∧ refusal = Refused.protocolTooOld.hello := by
  simp only [rejection, Option.ite_none_right_eq_some, Bool.or_eq_true, decide_eq_true_eq, refused_frame_eq_some]
  rfl

/-- A client is told the reason it was refused for, if it knows it. -/
theorem checkRefusal_error (refused : remote.refusal ≠ .known .notRefused) :
    ∃ error, checkRefusal remote = .error error ∧ error.kind = .connectionRefused ∧
      ∀ reason, Refused.of error = some reason ↔ remote.refusal = .known reason.refusal := by
  unfold checkRefusal
  cases field : remote.refusal with
  | unknown number => exact ⟨_, rfl, rfl, fun reason => by simp [Refused.of]⟩
  | known value =>
      cases value with
      | notRefused => contradiction
      | protocolTooOld | peerRejected | serverRetiring =>
          exact ⟨_, rfl, rfl, fun reason => by cases reason <;> simp [Refused.of, Refused.toError, Refused.refusal]⟩

/-- A client that is too old is too old with any offer of the same versions and capabilities. -/
theorem TooOld.hopeless {other : Hello} (old : TooOld offer remote) (maximum : other.maximum = remote.maximum)
    (supported : other.supported = remote.supported) : ∃ error, negotiate offer other = .error error := by
  cases agreed : negotiate offer other with
  | error error => exact ⟨error, rfl⟩
  | ok agreement =>
      obtain ⟨-, -, -, agreed⟩ := negotiate_eq_ok.mp agreed
      unfold TooOld at old
      rw [← maximum, ← supported] at old
      obtain ⟨error, failed⟩ := (Terms.of offer).agree_error (Terms.of other) old
      rw [agreed] at failed
      cases failed

end

end Wire

end KunobiDaemon
