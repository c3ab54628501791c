import KunobiDaemon.Identity
import KunobiDaemon.Lib.Bytes
import KunobiDaemon.SocketPath

/-! Resource paths of one service identity under a per-user root.

The UUID, the profile and the instance are a directory each, so two identities that differ in one of
them have directories of equal depth that differ in a component.
-/

set_option autoImplicit false

namespace KunobiDaemon

open Lib Paths

/-- ASCII text as bytes. -/
def ascii (text : String) : List UInt8 := text.toList.map fun c => UInt8.ofNat c.toNat

def hexDigit (digit : Nat) : UInt8 := if digit < 10 then UInt8.ofNat (48 + digit) else UInt8.ofNat (87 + digit)

/-- A number in so many hexadecimal digits. -/
def hex : Nat → Nat → List UInt8
  | 0, _ => []
  | width + 1, number => hex width (number / 16) ++ [hexDigit (number % 16)]

/-- The UUID as a 128-bit number, in 32 digits. -/
def Uuid.hex (id : Uuid) : List UInt8 := KunobiDaemon.hex 32 (Bytes.ofLittle id.val.reverse)

/-! ## The names of the directories -/

/-- A byte that an identity's component may have, lowercase hexadecimal digits included. -/
def accepted (byte : UInt8) : Bool := isAsciiLowercase byte || isAsciiDigit byte || byte = dash || byte = dot

theorem accepted_apart {byte : UInt8} (ok : accepted byte = true) :
    (byte ≠ SLASH ∧ byte ≠ BACKSLASH ∧ byte ≠ COLON ∧ byte ≠ 0) ∧ byte ≠ 95 := by
  refine ⟨⟨?_, ?_, ?_, ?_⟩, ?_⟩ <;>
  · rintro rfl
    revert ok
    decide

theorem canonical_accepted {component : List UInt8} (ok : canonical component = true) :
    ∀ byte ∈ component, accepted byte = true := by
  simp only [canonical, Bool.and_eq_true, List.all_eq_true] at ok
  exact ok.1.2

/-- An accepted component is a plain name. -/
theorem canonical_plain {component : List UInt8} (ok : canonical component = true) : Plain component where
  named := by
    simp only [canonical, Bool.and_eq_true, decide_eq_true_eq] at ok
    exact ok.1.1.1
  here := by
    rintro rfl
    revert ok
    decide
  above := by
    rintro rfl
    revert ok
    decide
  apart byte member := (accepted_apart (canonical_accepted ok byte member)).1

theorem hexDigit_accepted {digit : Nat} (small : digit < 16) : accepted (hexDigit digit) = true := by
  decide +revert

theorem hex_accepted (width number : Nat) : ∀ byte ∈ hex width number, accepted byte = true := by
  induction width generalizing number with
  | zero => simp [hex]
  | succ width ih =>
      intro byte member
      rcases List.mem_append.mp member with early | last
      · exact ih _ byte early
      · exact List.mem_singleton.mp last ▸ hexDigit_accepted (Nat.mod_lt _ (by decide))

/-- A text with a plain beginning of some length is a plain name. -/
theorem plain_append {front name : List UInt8} (long : 2 < front.length)
    (begins : front.all accepted = true) (ok : ∀ byte ∈ name, accepted byte = true) : Plain (front ++ name) := by
  have longer : 2 < (front ++ name).length := by
    rw [List.length_append]
    omega
  refine ⟨?_, ?_, ?_, fun byte member => ?_⟩
  · intro same
    simp [same] at longer
  · intro same
    simp [same] at longer
  · intro same
    simp [same] at longer
  · rcases List.mem_append.mp member with early | late
    · exact (accepted_apart (List.all_eq_true.mp begins byte early)).1
    · exact (accepted_apart (ok byte late)).1

namespace ServiceIdentity

theorem profile_canonical (identity : ServiceIdentity) : canonical identity.profile = true :=
  identity.formed _ (by simp)

theorem instance_canonical (identity : ServiceIdentity) : canonical identity.serviceInstance = true :=
  identity.formed _ (by simp)

theorem service_plain (identity : ServiceIdentity) : Plain (ascii "service-" ++ identity.id.hex) :=
  plain_append (by decide) (by decide) (hex_accepted _ _)

theorem profile_plain (identity : ServiceIdentity) : Plain (ascii "profile-" ++ identity.profile) :=
  plain_append (by decide) (by decide) (canonical_accepted identity.profile_canonical)

theorem instance_plain (identity : ServiceIdentity) : Plain (ascii "instance-" ++ identity.serviceInstance) :=
  plain_append (by decide) (by decide) (canonical_accepted identity.instance_canonical)

def directory (style : Style) (root : Path) (identity : ServiceIdentity) : Path :=
  join style
    (join style (join style root ⟨_, identity.service_plain⟩) ⟨_, identity.profile_plain⟩)
    ⟨_, identity.instance_plain⟩

end ServiceIdentity

theorem control_plain : Plain (ascii "control.sock") := canonical_plain (by decide)

theorem control_short : (ascii "control.sock").length ≤ MAX_NAME_BYTES := by decide

def CONTROL_SOCKET : SocketName := ⟨⟨ascii "control.sock", control_plain⟩, control_short⟩

/-- Conventional resource paths for one service identity under a per-user root. -/
structure ServicePaths where
  directory : Path
  deriving DecidableEq, Repr

section
variable (os : Os) (display : Path → String)

def ServiceIdentity.paths (identity : ServiceIdentity) (root : Path) : Except IoError ServicePaths :=
  let directory := identity.directory os.style root
  (SocketDir.new os display directory [CONTROL_SOCKET]).map fun _ => ⟨directory⟩

namespace ServicePaths

def controlSocket (paths : ServicePaths) : Path := join os.style paths.directory CONTROL_SOCKET.name

/-- The service directory checked against the application's own sockets, together with the control socket. -/
def sockets (paths : ServicePaths) (names : List SocketName) : Except IoError SocketDir :=
  SocketDir.new os display paths.directory (CONTROL_SOCKET :: names)

end ServicePaths

end

/-! ## Directories that keep their promise -/

section
variable (os : Os) (display : Path → String)

/-- A socket directory is accepted when it fits its names, and then it does. -/
structure KeepsPromise (limit : Nat) : Prop where
  accepts : ∀ dir names, (∃ checked, SocketDir.new os display dir names = .ok checked) ↔
    ∀ name ∈ names, (join os.style dir name.name).length ≤ limit
  declared : ∀ dir names checked, SocketDir.new os display dir names = .ok checked →
    ∀ name ∈ names, checked.path os display name = .ok (join os.style dir name.name)
  bounded : ∀ (checked : SocketDir) name path, checked.path os display name = .ok path → path.length ≤ limit
  exact : ∀ dir names budget, dir ≠ [] → dir.getLast? ≠ some SLASH → names ≠ [] → maxDirBytes os names = some budget →
    ((∃ checked, SocketDir.new os display dir names = .ok checked) ↔ dir.length ≤ budget)
  within : ∀ dir names budget, maxDirBytes os names = some budget → dir.length ≤ budget →
    ∃ checked, SocketDir.new os display dir names = .ok checked
  room : ∀ names, ∃ budget, maxDirBytes os names = some budget ∧ 0 < budget
  control : ∀ (identity : ServiceIdentity) root paths, identity.paths os display root = .ok paths →
    (paths.controlSocket os).length ≤ limit
  sockets : ∀ (paths : ServicePaths) names checked, paths.sockets os display names = .ok checked →
    ∀ name ∈ CONTROL_SOCKET :: names, checked.path os display name = .ok (join os.style paths.directory name.name)

end

section
variable {os : Os} {display : Path → String} {limit : Nat}

theorem paths_eq_ok {identity : ServiceIdentity} {root : Path} {paths : ServicePaths} :
    identity.paths os display root = .ok paths ↔ paths = ⟨identity.directory os.style root⟩ ∧
      ∃ checked, SocketDir.new os display (identity.directory os.style root) [CONTROL_SOCKET] = .ok checked := by
  simp only [ServiceIdentity.paths]
  cases SocketDir.new os display (identity.directory os.style root) [CONTROL_SOCKET] with
  | error error => simp [Except.map]
  | ok checked => simp [Except.map, eq_comm]

theorem accepts_iff (limited : MAX_SOCKET_PATH_BYTES os = some limit) (dir : Path) (names : List SocketName) :
    (∃ checked, SocketDir.new os display dir names = .ok checked) ↔
      ∀ name ∈ names, (join os.style dir name.name).length ≤ limit := by
  constructor
  · rintro ⟨checked, accepted⟩
    exact ((SocketDir.new_eq_ok limited).mp accepted).2
  · exact fun fits => ⟨⟨dir⟩, (SocketDir.new_eq_ok limited).mpr ⟨rfl, fits⟩⟩

theorem path_of_declared (limited : MAX_SOCKET_PATH_BYTES os = some limit) {dir : Path} {names : List SocketName}
    {checked : SocketDir} (accepted : SocketDir.new os display dir names = .ok checked) {name : SocketName}
    (member : name ∈ names) : checked.path os display name = .ok (join os.style dir name.name) := by
  obtain ⟨rfl, fits⟩ := (SocketDir.new_eq_ok limited).mp accepted
  exact (SocketDir.path_eq_ok limited).mpr ⟨rfl, fits name member⟩

/-- A checked socket directory keeps its promise. -/
theorem socket_directories_keep_their_promise (limited : MAX_SOCKET_PATH_BYTES os = some limit) :
    KeepsPromise os display limit where
  accepts dir names := accepts_iff limited dir names
  declared dir names checked accepted name member := path_of_declared limited accepted member
  bounded checked name path found := ((SocketDir.path_eq_ok limited).mp found).2
  exact dir names budget some_ bare many budgeted := by
    obtain ⟨budget', most, found, whole, -, all, reached⟩ := maxDirBytes_eq limited names
    cases budgeted.symm.trans found
    have stemmed : (stem os.style dir).length = dir.length + 1 := by
      rw [(style_of_limited limited).1]
      exact length_stem_unix some_ bare
    rw [accepts_iff limited]
    simp only [length_join, stemmed]
    constructor
    · intro fits
      obtain ⟨name, member, long⟩ := reached many
      have fit := fits name member
      omega
    · intro within name member
      have short := all name member
      omega
  within dir names budget budgeted within := by
    obtain ⟨budget', most, found, whole, -, all, -⟩ := maxDirBytes_eq limited names
    cases budgeted.symm.trans found
    rw [accepts_iff limited]
    intro name member
    have short := all name member
    have stemmed := length_stem_le os.style dir
    rw [length_join]
    omega
  room names := by
    obtain ⟨budget, most, found, -, positive, -⟩ := maxDirBytes_eq limited names
    exact ⟨budget, found, positive⟩
  control identity root paths found := by
    obtain ⟨rfl, checked⟩ := paths_eq_ok.mp found
    exact (accepts_iff limited _ _).mp checked _ (List.mem_singleton.mpr rfl)
  sockets paths names checked accepted name member := path_of_declared limited accepted member

theorem socket_directories_keep_their_promise_linux : KeepsPromise .linux (fun _ => "") 107 :=
  socket_directories_keep_their_promise rfl

end

/-! ## Directories of different services -/

theorem hexDigit_injective : ∀ a < 16, ∀ b < 16, hexDigit a = hexDigit b → a = b := by
  decide

theorem hex_injective {width a b : Nat} (fits : a < 16 ^ width) (also : b < 16 ^ width)
    (same : hex width a = hex width b) : a = b := by
  induction width generalizing a b with
  | zero =>
      rw [Nat.pow_zero] at fits also
      omega
  | succ width ih =>
      obtain ⟨front, last⟩ := List.append_inj' same rfl
      rw [Nat.pow_succ] at fits also
      have upper := ih (Nat.div_lt_of_lt_mul (Nat.mul_comm _ _ ▸ fits)) (Nat.div_lt_of_lt_mul (Nat.mul_comm _ _ ▸ also)) front
      have lower := hexDigit_injective _ (Nat.mod_lt a (by decide)) _ (Nat.mod_lt b (by decide)) (List.cons.inj last).1
      omega

theorem ofLittle_lt (bytes : List UInt8) : Bytes.ofLittle bytes < 16 ^ (2 * bytes.length) := by
  induction bytes with
  | nil => decide
  | cons byte bytes ih =>
      have small : byte.toNat < 256 := byte.toNat_lt
      have more : 16 ^ (2 * (bytes.length + 1)) = 256 * 16 ^ (2 * bytes.length) := by
        rw [Nat.mul_add, Nat.pow_add, Nat.mul_comm]
      rw [Bytes.ofLittle, List.length_cons, more]
      omega

theorem Uuid.hex_injective {a b : Uuid} (same : a.hex = b.hex) : a = b := by
  have bound (id : Uuid) : Bytes.ofLittle id.val.reverse < 16 ^ 32 := by
    have small := ofLittle_lt id.val.reverse
    rwa [List.length_reverse, id.property] at small
  have number := KunobiDaemon.hex_injective (bound a) (bound b) same
  have bytes : a.val.reverse = b.val.reverse := by
    rw [← Bytes.little_ofLittle a.val.reverse, ← Bytes.little_ofLittle b.val.reverse, number, List.length_reverse,
      List.length_reverse, a.property, b.property]
  exact Subtype.ext (List.reverse_injective bytes)

/-- The parts of an identity that its resources are named by. -/
def Same (a b : ServiceIdentity) : Prop :=
  a.id = b.id ∧ a.profile = b.profile ∧ a.serviceInstance = b.serviceInstance

/-- A path is another or lies in it. -/
def Within (style : Style) (outer inner : Path) : Prop := components style outer <+: components style inner

/-- The last three components of a service's directory name the service. -/
theorem components_directory (style : Style) (root : Path) :
    ∃ front last, ∀ identity : ServiceIdentity, components style (identity.directory style root) =
      front ++ [.normal (last ++ (ascii "service-" ++ identity.id.hex)), .normal (ascii "profile-" ++ identity.profile),
        .normal (ascii "instance-" ++ identity.serviceInstance)] := by
  obtain ⟨front, last, named⟩ := components_append style (stem style root)
  refine ⟨front, last, fun identity => ?_⟩
  have service : components style (join style root ⟨_, identity.service_plain⟩) =
      front ++ [.normal (last ++ (ascii "service-" ++ identity.id.hex))] := named _ identity.service_plain
  rw [ServiceIdentity.directory, components_join, components_join, service]
  simp

theorem same_of_within {style : Style} {root : Path} {a b : ServiceIdentity}
    (within : Within style (a.directory style root) (b.directory style root)) : Same a b := by
  obtain ⟨front, last, named⟩ := components_directory style root
  have equal : components style (a.directory style root) = components style (b.directory style root) :=
    within.eq_of_length (by simp [named])
  rw [named, named] at equal
  simp only [List.append_cancel_left_eq, List.cons.injEq, Component.normal.injEq, and_true] at equal
  exact ⟨Uuid.hex_injective equal.1, equal.2.1, equal.2.2⟩

theorem directory_eq_iff {style : Style} {root : Path} {a b : ServiceIdentity} :
    a.directory style root = b.directory style root ↔ Same a b := by
  constructor
  · intro equal
    refine same_of_within (?_ : Within style (a.directory style root) (b.directory style root))
    rw [equal]
    exact ⟨[], List.append_nil _⟩
  · rintro ⟨id, profile, serviceInstance⟩
    simp [ServiceIdentity.directory, id, profile, serviceInstance]

end KunobiDaemon
