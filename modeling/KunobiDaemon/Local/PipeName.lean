import KunobiDaemon.ServicePaths
import Mathlib.Algebra.GroupWithZero.Nat

/-! Named-pipe names scoped to one service installation and one OS user, on Windows.

The parts of a name are separated by a byte that none of them has but the last. Pipe names are
compared ignoring ASCII case.
-/

set_option autoImplicit false

namespace KunobiDaemon.Local

open Lib Paths

/-- Longest pipe name after the part that all of them begin with. -/
def MAX_PIPE_NAME_UNITS : Nat := 247

def UNDERSCORE : UInt8 := 95

/-- The UTF-16 units of UTF-8 text: one for each character, and two for one of four bytes. -/
def utf16Units (text : List UInt8) : Nat :=
  (text.map fun byte => if 128 ≤ byte && byte < 192 then 0 else if 240 ≤ byte then 2 else 1).sum

/-- The pipe name, whatever its length. -/
def pipeName (sid : List UInt8) (identity : ServiceIdentity) (name : SocketName) : List UInt8 :=
  sid ++ ascii "_service-" ++ identity.id.hex ++ ascii "_profile-" ++ identity.profile ++ ascii "_instance-" ++
    identity.serviceInstance ++ ascii "_" ++ name.name.val

/-- The pipe name for an endpoint, for the user with the SID. -/
def userPipeName (display : List UInt8 → String) (sid : List UInt8) (identity : ServiceIdentity) (name : SocketName) :
    Except IoError (List UInt8) :=
  let pipe := pipeName sid identity name
  let units := utf16Units pipe
  let shown := display pipe
  if MAX_PIPE_NAME_UNITS < units then
    .error ⟨.invalidInput, .message s!"pipe name is {units} characters, but a named pipe name can be at most {MAX_PIPE_NAME_UNITS}: {shown}"⟩
  else .ok pipe

def toAsciiLowercase (byte : UInt8) : UInt8 := if isAsciiUppercase byte then byte + 32 else byte

/-- Texts that are equal ignoring ASCII case. -/
def EqIgnoreCase (a b : List UInt8) : Prop := a.map toAsciiLowercase = b.map toAsciiLowercase

theorem toAsciiLowercase_eq_underscore {byte : UInt8} : toAsciiLowercase byte = UNDERSCORE ↔ byte = UNDERSCORE := by
  unfold toAsciiLowercase
  split
  · rename_i upper
    simp only [isAsciiUppercase, Bool.and_eq_true, decide_eq_true_eq, UInt8.le_iff_toNat_le] at upper
    constructor
    · intro same
      have sum := congrArg UInt8.toNat same
      rw [UInt8.toNat_add] at sum
      simp only [UNDERSCORE, UInt8.reduceToNat] at *
      omega
    · rintro rfl
      simp [UNDERSCORE] at upper
  · rfl

theorem toAsciiLowercase_accepted {byte : UInt8} (ok : accepted byte = true) : toAsciiLowercase byte = byte := by
  have lower : isAsciiUppercase byte = false := by
    simp only [accepted, isAsciiLowercase, isAsciiDigit, isAsciiUppercase, Bool.or_eq_true, Bool.and_eq_true,
      decide_eq_true_eq, UInt8.le_iff_toNat_le, Bool.and_eq_false_iff, decide_eq_false_iff_not] at *
    rcases ok with ((ok | ok) | rfl) | rfl
    · simp only [UInt8.reduceToNat] at *
      omega
    · simp only [UInt8.reduceToNat] at *
      omega
    · simp [dash]
    · simp [dot]
  rw [toAsciiLowercase, lower]
  rfl

theorem map_toAsciiLowercase {text : List UInt8} (ok : ∀ byte ∈ text, accepted byte = true) :
    text.map toAsciiLowercase = text := by
  have each : ∀ byte ∈ text, toAsciiLowercase byte = id byte := fun byte member => toAsciiLowercase_accepted (ok byte member)
  rw [List.map_congr_left each, List.map_id]

/-- Texts are told apart by the first separator. -/
theorem append_separator_inj {separator : UInt8} {a b x y : List UInt8} (free : separator ∉ a) (also : separator ∉ b)
    (same : a ++ separator :: x = b ++ separator :: y) : a = b ∧ x = y := by
  induction a generalizing b with
  | nil =>
      cases b with
      | nil => exact ⟨rfl, (List.cons.inj same).2⟩
      | cons byte b => exact absurd ((List.cons.inj same).1 ▸ List.mem_cons_self ..) also
  | cons byte a ih =>
      cases b with
      | nil => exact absurd ((List.cons.inj same).1 ▸ List.mem_cons_self ..) free
      | cons other b =>
          obtain ⟨rfl, later⟩ := List.cons.inj same
          obtain ⟨rfl, rest⟩ := ih (fun member => free (List.mem_cons_of_mem _ member))
            (fun member => also (List.mem_cons_of_mem _ member)) later
          exact ⟨rfl, rest⟩

theorem pipeName_eq (sid : List UInt8) (identity : ServiceIdentity) (name : SocketName) :
    pipeName sid identity name =
      sid ++ UNDERSCORE :: ((ascii "service-" ++ identity.id.hex) ++ UNDERSCORE ::
        ((ascii "profile-" ++ identity.profile) ++ UNDERSCORE ::
          ((ascii "instance-" ++ identity.serviceInstance) ++ UNDERSCORE :: name.name.val))) := by
  have service : ascii "_service-" = UNDERSCORE :: ascii "service-" := by decide
  have profile : ascii "_profile-" = UNDERSCORE :: ascii "profile-" := by decide
  have instance_ : ascii "_instance-" = UNDERSCORE :: ascii "instance-" := by decide
  have bare : ascii "_" = [UNDERSCORE] := by decide
  simp [pipeName, service, profile, instance_, bare]

/-- A name in lowercase is the name of a lowercase user and endpoint. -/
theorem map_pipeName (sid : List UInt8) (identity : ServiceIdentity) (name : SocketName) :
    (pipeName sid identity name).map toAsciiLowercase =
      sid.map toAsciiLowercase ++ UNDERSCORE :: ((ascii "service-" ++ identity.id.hex) ++ UNDERSCORE ::
        ((ascii "profile-" ++ identity.profile) ++ UNDERSCORE ::
          ((ascii "instance-" ++ identity.serviceInstance) ++ UNDERSCORE :: name.name.val.map toAsciiLowercase))) := by
  have separator : toAsciiLowercase UNDERSCORE = UNDERSCORE := by decide
  have service : (ascii "service-").map toAsciiLowercase = ascii "service-" := by decide
  have profile : (ascii "profile-").map toAsciiLowercase = ascii "profile-" := by decide
  have instance_ : (ascii "instance-").map toAsciiLowercase = ascii "instance-" := by decide
  rw [pipeName_eq]
  simp only [List.map_append, List.map_cons, separator, service, profile, instance_, Uuid.hex,
    map_toAsciiLowercase (hex_accepted _ _), map_toAsciiLowercase (canonical_accepted identity.profile_canonical),
    map_toAsciiLowercase (canonical_accepted identity.instance_canonical)]

theorem not_mem_of_accepted {front text : List UInt8} (begins : front.all accepted = true)
    (ok : ∀ byte ∈ text, accepted byte = true) : UNDERSCORE ∉ front ++ text := by
  intro member
  rcases List.mem_append.mp member with early | late
  · exact (accepted_apart (List.all_eq_true.mp begins _ early)).2 rfl
  · exact (accepted_apart (ok _ late)).2 rfl

theorem not_mem_map {sid : List UInt8} (free : UNDERSCORE ∉ sid) : UNDERSCORE ∉ sid.map toAsciiLowercase := by
  intro member
  obtain ⟨byte, listed, same⟩ := List.mem_map.mp member
  exact free (toAsciiLowercase_eq_underscore.mp same ▸ listed)

section
variable {sid sid' : List UInt8} {a b : ServiceIdentity} {name name' : SocketName}

/-- Equal names are of one user, one service and one endpoint. -/
theorem pipeName_inj (free : UNDERSCORE ∉ sid) (also : UNDERSCORE ∉ sid')
    (same : EqIgnoreCase (pipeName sid a name) (pipeName sid' b name')) :
    EqIgnoreCase sid sid' ∧ Same a b ∧ EqIgnoreCase name.name.val name'.name.val := by
  unfold EqIgnoreCase at *
  rw [map_pipeName, map_pipeName] at same
  have service (identity : ServiceIdentity) : UNDERSCORE ∉ ascii "service-" ++ identity.id.hex :=
    not_mem_of_accepted (by decide) (hex_accepted _ _)
  have profile (identity : ServiceIdentity) : UNDERSCORE ∉ ascii "profile-" ++ identity.profile :=
    not_mem_of_accepted (by decide) (canonical_accepted identity.profile_canonical)
  have instance_ (identity : ServiceIdentity) : UNDERSCORE ∉ ascii "instance-" ++ identity.serviceInstance :=
    not_mem_of_accepted (by decide) (canonical_accepted identity.instance_canonical)
  obtain ⟨users, same⟩ := append_separator_inj (not_mem_map free) (not_mem_map also) same
  obtain ⟨services, same⟩ := append_separator_inj (service a) (service b) same
  obtain ⟨profiles, same⟩ := append_separator_inj (profile a) (profile b) same
  obtain ⟨instances, names⟩ := append_separator_inj (instance_ a) (instance_ b) same
  exact ⟨users, ⟨Uuid.hex_injective (List.append_cancel_left services), List.append_cancel_left profiles,
    List.append_cancel_left instances⟩, names⟩

end

theorem userPipeName_eq_ok {display : List UInt8 → String} {sid : List UInt8} {identity : ServiceIdentity}
    {name : SocketName} {pipe : List UInt8} (named : userPipeName display sid identity name = .ok pipe) :
    pipe = pipeName sid identity name := by
  simp only [userPipeName] at named
  split at named
  · cases named
  · exact (Except.ok.inj named).symm

/-- Endpoint names never collide: neither the pipes of two endpoints nor the directories of two services, and no
component of an identity is more or less than one name. -/
theorem endpoint_names_never_collide :
    (∀ (display : List UInt8 → String) (sid sid' : List UInt8) (a b : ServiceIdentity) (name name' : SocketName)
      (pipe pipe' : List UInt8), UNDERSCORE ∉ sid → UNDERSCORE ∉ sid' →
      userPipeName display sid a name = .ok pipe → userPipeName display sid' b name' = .ok pipe' →
      EqIgnoreCase pipe pipe' → EqIgnoreCase sid sid' ∧ Same a b ∧ EqIgnoreCase name.name.val name'.name.val) ∧
    (∀ (os : Os) (display : Path → String) (root : Path) (a b : ServiceIdentity) (paths paths' : ServicePaths),
      a.paths os display root = .ok paths → b.paths os display root = .ok paths' →
      (paths.directory = paths'.directory ↔ Same a b) ∧
      (¬ Same a b → ¬ Within os.style paths.directory paths'.directory ∧
        ¬ Within os.style paths'.directory paths.directory)) ∧
    ∀ identity : ServiceIdentity, ∀ component ∈ [identity.application, identity.profile, identity.serviceInstance],
      Plain component := by
  refine ⟨?_, ?_, fun identity component member => canonical_plain (identity.formed component member)⟩
  · intro display sid sid' a b name name' pipe pipe' free also named named' same
    cases userPipeName_eq_ok named
    cases userPipeName_eq_ok named'
    exact pipeName_inj free also same
  · intro os display root a b paths paths' found found'
    obtain ⟨rfl, -⟩ := paths_eq_ok.mp found
    obtain ⟨rfl, -⟩ := paths_eq_ok.mp found'
    refine ⟨directory_eq_iff, fun differ => ⟨fun within => differ (same_of_within within), fun within => ?_⟩⟩
    obtain ⟨id, profile, serviceInstance⟩ := same_of_within within
    exact differ ⟨id.symm, profile.symm, serviceInstance.symm⟩

/-- Another profile of the same service. -/
def beta : ServiceIdentity := { kache with profile := ascii "beta", formed := by decide }

theorem kache_profiles_never_collide :
    (∃ pipe pipe', userPipeName (fun _ => "") (ascii "S-1-5-18") kache CONTROL_SOCKET = .ok pipe ∧
      userPipeName (fun _ => "") (ascii "s-1-5-18") beta CONTROL_SOCKET = .ok pipe' ∧ ¬ EqIgnoreCase pipe pipe') ∧
    ∃ paths paths', kache.paths .linux (fun _ => "") (ascii "/run/user/1000") = .ok paths ∧
      beta.paths .linux (fun _ => "") (ascii "/run/user/1000") = .ok paths' ∧
      ¬ Within .unix paths.directory paths'.directory ∧ ¬ Within .unix paths'.directory paths.directory := by
  have differ : ¬ Same kache beta := fun same => absurd same.2.1 (by decide)
  obtain ⟨pipes, directories, -⟩ := endpoint_names_never_collide
  refine ⟨⟨_, _, rfl, rfl, fun same => differ ?_⟩, _, _, rfl, rfl, ?_⟩
  · exact (pipes (fun _ => "") (ascii "S-1-5-18") (ascii "s-1-5-18") kache beta CONTROL_SOCKET CONTROL_SOCKET _ _
      (by decide) (by decide) rfl rfl same).2.1
  · exact (directories .linux (fun _ => "") (ascii "/run/user/1000") kache beta _ _ rfl rfl).2 differ

end KunobiDaemon.Local
