/-! I/O errors as the daemon builds and classifies them. -/

set_option autoImplicit false

namespace KunobiDaemon

inductive ErrorKind where
  | notFound
  | permissionDenied
  | connectionRefused
  | connectionReset
  | hostUnreachable
  | networkUnreachable
  | connectionAborted
  | notConnected
  | addrInUse
  | addrNotAvailable
  | networkDown
  | brokenPipe
  | alreadyExists
  | wouldBlock
  | notADirectory
  | isADirectory
  | directoryNotEmpty
  | readOnlyFilesystem
  | staleNetworkFileHandle
  | invalidInput
  | invalidData
  | timedOut
  | writeZero
  | storageFull
  | notSeekable
  | quotaExceeded
  | fileTooLarge
  | resourceBusy
  | executableFileBusy
  | deadlock
  | crossesDevices
  | tooManyLinks
  | invalidFilename
  | argumentListTooLong
  | interrupted
  | unsupported
  | unexpectedEof
  | outOfMemory
  | other
  deriving DecidableEq, Repr

/-- Why a server refused a connection during negotiation. -/
inductive Refused where
  | protocolTooOld
  | peerRejected
  | retiring
  deriving DecidableEq, Repr

/-- What an error carries besides its kind. -/
inductive Cause where
  | message (text : String)
  | refused (reason : Refused)
  -- An encoding or decoding error of the message library.
  | codec
  | os (code : Int32)
  deriving DecidableEq, Repr

structure IoError where
  kind : ErrorKind
  cause : Cause
  deriving DecidableEq, Repr

inductive Platform where
  | unix
  | windows
  deriving DecidableEq, Repr

def invalid (text : String) : IoError := ⟨.invalidData, .message text⟩

namespace Refused

/-- The refusal inside an error, if the server sent one. -/
def of (error : IoError) : Option Refused :=
  match error.cause with
  | .refused reason => some reason
  | _ => none

def toError (reason : Refused) : IoError := ⟨.connectionRefused, .refused reason⟩

end Refused

namespace IoError

def rawOsError (error : IoError) : Option Int32 :=
  match error.cause with
  | .os code => some code
  | _ => none

def busyPipe : Platform → IoError → Bool
  | .windows, error => error.rawOsError = some 231
  | .unix, _ => false

/-- Whether a local connection or exchange that failed with the error can succeed if repeated. -/
def isTransient (platform : Platform) (error : IoError) : Bool :=
  (match error.kind with
    | .notFound | .connectionRefused | .connectionReset | .connectionAborted | .notConnected
    | .unexpectedEof | .brokenPipe | .timedOut | .wouldBlock | .interrupted => true
    | _ => false) ||
  busyPipe platform error

end IoError

end KunobiDaemon
