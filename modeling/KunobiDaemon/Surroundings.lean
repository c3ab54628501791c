import KunobiDaemon.Lib.Dialogues
import KunobiDaemon.Peer
import KunobiDaemon.Time
import KunobiDaemon.Wire.Health
import KunobiDaemon.Wire.Poisoning

/-! What programs of both ends ask their surroundings, and what a talk over a connection moves.

Nothing is assumed about the replies, except that a read that succeeds has as many bytes as
it asked for, however they arrived.
-/

set_option autoImplicit false

namespace KunobiDaemon.Surroundings

open Lib.Dialogues
open Lib.Streams (Footprint Method Performs Process)
open Peer (Credentials)
open Wire

inductive ConnectError where
  | connectTimeout
  | permissionDenied
  | endpointTooLong
  | failed (kind : ErrorKind)
  deriving DecidableEq, Repr

/-- What `Lifecycle::snapshot` reports. -/
structure Snapshot where
  draining : Bool
  active : Nat
  deriving DecidableEq, Repr

/-- What a client or a service asks of the operating system, the clock, its connection and the state it shares. -/
inductive Question where
  | connectOnceUntil (endpoint : String) (deadline : Instant)
  | credentials
  | now
  | setReadDeadline (remaining : Duration)
  | split
  | write (bytes : List UInt8)
  | flush
  | read (count : Nat)
  | lifecycleSnapshot
  | loadReady
  | startDrain
  | serveWatch (session : AsyncSession) (request : Control)
  deriving DecidableEq, Repr

/-- The operations of a connection. -/
def Question.streams : Question → Bool
  | .write _ | .flush | .read _ => true
  | _ => false

/-- The state that a service shares with its other callers. -/
def Question.shares : Question → Bool
  | .lifecycleSnapshot | .loadReady | .startDrain => true
  | _ => false

def Question.Reply : Question → Type
  | .connectOnceUntil _ _ => Except ConnectError Unit
  | .credentials => Except IoError Credentials
  | .now => Instant
  | .setReadDeadline _ | .split | .write _ | .flush | .serveWatch _ _ => Except IoError Unit
  | .read _ => Except IoError (List UInt8)
  | .lifecycleSnapshot => Snapshot
  | .loadReady => Bool
  | .startDrain => Unit

/-- A read has all the bytes it asked for or fails. -/
def Possible : (question : Question) → question.Reply → Prop
  | .read count, reply => ∀ bytes, reply = .ok bytes → bytes.length = count
  | _, _ => True

variable {A B : Type}

/-- Talk on the connection. -/
def talk : Process IoError A → Program Question.Reply A
  | .done result => .done result
  | .write bytes next => .ask (.write bytes) fun reply => talk (next reply)
  | .flush next => .ask .flush fun reply => talk (next reply)
  | .read count next => .ask (.read count) fun reply => talk (next reply)

/-- The message library: what offers decode to, and the messages of a session. -/
structure Library where
  hello : UInt32 → List UInt8 → Option Hello
  control : Codec Control
  health : Codec Health

/-- The bytes an operation read. -/
def took : Act Question.Reply → List UInt8
  | ⟨.read _, .ok bytes⟩ => bytes
  | _ => []

/-- The bytes an operation wrote. -/
def gave : Act Question.Reply → List UInt8
  | ⟨.write bytes, .ok ()⟩ => bytes
  | _ => []

section
variable {A B : Type} {acts : List (Act Question.Reply)}

/-- The bytes read and the bytes written in a part of a run. -/
structure Moved (acts : List (Act Question.Reply)) (read written : List UInt8) : Prop where
  taken : acts.flatMap took = read
  given : acts.flatMap gave = written

theorem Moved.nil : Moved [] [] [] := ⟨rfl, rfl⟩

theorem Moved.append {first rest : List (Act Question.Reply)} {read written more also : List UInt8}
    (moved : Moved first read written) (after : Moved rest more also) :
    Moved (first ++ rest) (read ++ more) (written ++ also) := by
  constructor
  · rw [List.flatMap_append, moved.taken, after.taken]
  · rw [List.flatMap_append, moved.given, after.given]

theorem Moved.cons {act : Act Question.Reply} {read written more also : List UInt8} (moved : Moved acts more also)
    (reads : took act = read) (writes : gave act = written) : Moved (act :: acts) (read ++ more) (written ++ also) := by
  constructor
  · rw [List.flatMap_cons, reads, moved.taken]
  · rw [List.flatMap_cons, writes, moved.given]

theorem Moved.wrote {bytes more also : List UInt8} {reply : Unit} (moved : Moved acts more also) :
    Moved (⟨.write bytes, .ok reply⟩ :: acts) more (bytes ++ also) :=
  moved.cons rfl rfl

theorem Moved.flushed {reply : Except IoError Unit} {more also : List UInt8} (moved : Moved acts more also) :
    Moved (⟨.flush, reply⟩ :: acts) more also :=
  moved.cons rfl rfl

theorem Moved.congr {read written more also : List UInt8} (moved : Moved acts read written) (reads : read = more)
    (writes : written = also) : Moved acts more also := by
  subst reads writes
  exact moved

theorem talk_bind (process : Process IoError A) (next : A → Process IoError B) :
    talk (process.bind next) = (talk process).bind fun value => talk (next value) := by
  induction process with
  | done => rfl
  | write _ _ ih | flush _ ih | read _ _ ih => exact congrArg (Program.ask _) (funext ih)

theorem runs_talk_bind {process : Process IoError A} {next : A → Process IoError B} {result : B}
    (runs : Runs Possible (talk (process.bind next)) acts result) :
    ∃ first rest value, acts = first ++ rest ∧ Runs Possible (talk process) first value ∧
      Runs Possible (talk (next value)) rest result := by
  rw [talk_bind] at runs
  exact runs_bind runs

theorem runs_talk_attempt {result : Except IoError A} {next : A → Process IoError (Except IoError B)} {value : B}
    (runs : Runs Possible (talk (Process.attempt result next)) acts (.ok value)) :
    ∃ found, result = .ok found ∧ Runs Possible (talk (next found)) acts (.ok value) := by
  cases result with
  | error => cases runs
  | ok found => exact ⟨found, rfl, runs⟩

/-- A talk asks to write only what its program may. -/
theorem may_of_asks {may : List UInt8 → Prop} {process : Process IoError A} {bytes : List UInt8}
    (writes : process.Writes may) (asks : Asks Possible (talk process) acts (.write bytes)) : may bytes := by
  induction writes generalizing acts with
  | done => cases asks
  | write allowed _ ih =>
      cases asks with
      | first => exact allowed
      | later _ asks => exact ih _ asks
  | flush _ ih | read _ ih =>
      cases asks with
      | later _ asks => exact ih _ asks

/-- A talk asks nothing but its connection. -/
theorem streams_of_asks {process : Process IoError A} {asked : Question} (asks : Asks Possible (talk process) acts asked) :
    asked.streams = true := by
  induction process generalizing acts with
  | done => cases asks
  | write _ _ ih | flush _ ih | read _ _ ih =>
      cases asks with
      | first => rfl
      | later _ asks => exact ih _ asks

/-- A talk is a call of the method that nobody drops. A failed operation may have moved no byte. -/
theorem performs_of_runs {S : Type} {method : Method S IoError A} {self : S} {result : A}
    (runs : Runs Possible (talk method.program) acts (self, result)) :
    ∃ footprint, Performs method footprint self (some result) ∧ Moved acts footprint.taken footprint.given := by
  induction method generalizing acts with
  | done =>
      cases runs
      exact ⟨_, .done, rfl, rfl⟩
  | write _ bytes next ih =>
      obtain ⟨reply, acts, rfl, -, runs⟩ := runs_ask runs
      obtain ⟨_, performs, moved⟩ := ih reply runs
      cases reply with
      | ok => exact ⟨_, .written performs, moved.cons rfl rfl⟩
      | error => exact ⟨_, .writeFailed List.nil_prefix performs, moved.cons rfl rfl⟩
  | flush _ next ih =>
      obtain ⟨reply, acts, rfl, -, runs⟩ := runs_ask runs
      obtain ⟨_, performs, moved⟩ := ih reply runs
      cases reply with
      | ok => exact ⟨_, .flushed performs, moved.cons rfl rfl⟩
      | error => exact ⟨_, .flushFailed performs, moved.cons rfl rfl⟩
  | read _ count next ih =>
      obtain ⟨reply, acts, rfl, full, runs⟩ := runs_ask runs
      obtain ⟨_, performs, moved⟩ := ih reply runs
      cases reply with
      | ok bytes => exact ⟨_, .filled (full bytes rfl) performs, moved.cons rfl rfl⟩
      | error => exact ⟨_, .readFailed (Nat.zero_le _) performs, moved.cons rfl rfl⟩

variable {M : Type} {codec : Codec M} {limit : UInt32} {left : Framed}

theorem runs_talk_send {message : M}
    (runs : Runs Possible (talk (Framed.send codec ⟨limit, false⟩ message)) acts (left, .ok ())) :
    left = ⟨limit, false⟩ ∧ Moved acts [] (frame (codec.encode message)) := by
  rw [← Framed.program_sending] at runs
  obtain ⟨_, performs, moved⟩ := performs_of_runs runs
  obtain ⟨kept, sent⟩ := performs_sending performs
  obtain ⟨bound, failed⟩ := left
  cases kept
  cases sent with
  | sent => exact ⟨rfl, moved⟩
  | cut _ _ unsent => exact absurd rfl unsent

theorem runs_talk_receive {message : M}
    (runs : Runs Possible (talk (Framed.receive codec ⟨limit, false⟩)) acts (left, .ok message)) :
    left = ⟨limit, false⟩ ∧
    ∃ body, Fits limit body ∧ codec.decode limit body = some message ∧ Moved acts (frame body) [] := by
  rw [← Framed.program_receiving] at runs
  obtain ⟨_, performs, moved⟩ := performs_of_runs runs
  obtain ⟨kept, got⟩ := performs_receiving performs
  obtain ⟨bound, failed⟩ := left
  cases kept
  cases got with
  | received fits decoded => exact ⟨rfl, _, fits, decoded, moved⟩
  | lost never => exact absurd rfl (never message)

theorem runs_readAcceptance (runs : Runs Possible (talk readAcceptance) acts (.ok ())) : Moved acts [1] [] := by
  obtain ⟨reply, rest, rfl, -, replied⟩ := runs_ask runs
  obtain ⟨accepted, rfl, ends⟩ := runs_talk_attempt replied
  split at ends
  · cases ends
  · rename_i same
    cases ends
    exact ⟨by rw [Classical.not_not.mp same] ; rfl, rfl⟩

end

end KunobiDaemon.Surroundings
