/-! What the operating system says about the other end of a connection, and who is accepted. -/

set_option autoImplicit false

namespace KunobiDaemon

/-- A nonzero operating-system process ID. -/
abbrev ProcessId := { pid : UInt32 // pid ≠ 0 }

namespace Peer

/-- Where `same_user` came from. -/
inductive UserEvidence where
  | connection
  | pidLookup
  deriving DecidableEq, Repr

structure Credentials where
  pid : Option ProcessId
  sameUser : Bool
  userEvidence : UserEvidence := .connection
  deriving DecidableEq, Repr

/-- Why a policy refused a connection. -/
inductive Rejected where
  | otherUser
  | unreported
  | noExpectedProcess
  | otherProcess (expected observed : ProcessId)
  | noPolicy
  | custom (reason : String)
  deriving DecidableEq, Repr

/-- Decide what a connection may do. -/
abbrev Policy (G : Type) := Credentials → Except Rejected G

/-- The connection's process is the expected one. -/
structure PidMatch where
  pid : ProcessId
  deriving DecidableEq, Repr

def matchPid (observed : Option ProcessId) (expected : ProcessId) : Except Rejected PidMatch :=
  match observed with
  | none => .error .unreported
  | some observed => if observed = expected then .ok ⟨observed⟩ else .error (.otherProcess expected observed)

def SameUser.grant : Policy Unit := fun credentials =>
  if credentials.sameUser then .ok () else .error .otherUser

def ExpectedProcess.grant (expected : Unit → Option ProcessId) : Policy PidMatch := fun credentials =>
  match SameUser.grant credentials with
  | .error rejected => .error rejected
  | .ok () =>
      match expected () with
      | none => .error .noExpectedProcess
      | some expected => matchPid credentials.pid expected

theorem sameUser_of_grant {credentials : Credentials} (granted : SameUser.grant credentials = .ok ()) :
    credentials.sameUser = true := by
  unfold SameUser.grant at granted
  split at granted
  · assumption
  · cases granted

theorem expectedProcess_of_grant {credentials : Credentials} {pid : ProcessId} {found : PidMatch}
    (granted : ExpectedProcess.grant (fun _ => some pid) credentials = .ok found) :
    credentials.sameUser = true ∧ credentials.pid = some pid := by
  unfold ExpectedProcess.grant at granted
  split at granted
  · cases granted
  · rename_i same
    refine ⟨sameUser_of_grant same, ?_⟩
    simp only [matchPid] at granted
    split at granted
    · cases granted
    · rename_i observed reported
      split at granted
      · rename_i agrees
        rw [reported, agrees]
      · cases granted

end Peer

end KunobiDaemon
