import KunobiDaemon.Errors
import Mathlib.Data.List.Basic

/-! Service identities. Text is its UTF-8 bytes. -/

set_option autoImplicit false

namespace KunobiDaemon

/-- Sixteen bytes. -/
abbrev Uuid := { bytes : List UInt8 // bytes.length = 16 }

def Uuid.ofBytes (bytes : List UInt8) : Option Uuid :=
  if sized : bytes.length = 16 then some ⟨bytes, sized⟩ else none

def isAsciiLowercase (byte : UInt8) : Bool := 97 ≤ byte && byte ≤ 122

def isAsciiUppercase (byte : UInt8) : Bool := 65 ≤ byte && byte ≤ 90

def isAsciiDigit (byte : UInt8) : Bool := 48 ≤ byte && byte ≤ 57

def isAsciiAlphanumeric (byte : UInt8) : Bool :=
  isAsciiLowercase byte || isAsciiUppercase byte || isAsciiDigit byte

def dash : UInt8 := 45

def dot : UInt8 := 46

/-- Canonical lowercase text of dotted parts that begin and end with a letter or a digit. -/
def canonical (component : List UInt8) : Bool :=
  component ≠ [] && component.length ≤ 64 &&
  component.all (fun byte => isAsciiLowercase byte || isAsciiDigit byte || byte = dash || byte = dot) &&
  (component.splitOn dot).all fun part =>
    part ≠ [] && part.head?.any isAsciiAlphanumeric && part.getLast?.any isAsciiAlphanumeric

/-- A service installation, independent of its binary version or process ID. -/
structure ServiceIdentity where
  id : Uuid
  application : List UInt8
  profile : List UInt8
  serviceInstance : List UInt8
  issued : id.val ≠ List.replicate 16 0
  formed : ∀ component ∈ [application, profile, serviceInstance], canonical component = true

namespace ServiceIdentity

def new (id : Uuid) (application profile serviceInstance : List UInt8) : Except IoError ServiceIdentity :=
  if nil : id.val = List.replicate 16 0 then
    .error ⟨.invalidInput, .message "service UUID must not be nil"⟩
  else if formed : ∀ component ∈ [application, profile, serviceInstance], canonical component = true then
    .ok ⟨id, application, profile, serviceInstance, nil, formed⟩
  else .error ⟨.invalidInput, .message "invalid service identity component"⟩

end ServiceIdentity

/-- One installation. -/
def kache : ServiceIdentity where
  id := ⟨List.replicate 16 7, rfl⟩
  application := [107, 97, 99, 104, 101]
  profile := [115, 116, 97, 98, 108, 101]
  serviceInstance := [109, 97, 105, 110]
  issued := by decide
  formed := by decide

end KunobiDaemon
