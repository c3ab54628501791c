import KunobiDaemon.Errors
import KunobiDaemon.Lib.Paths

/-! Unix socket paths that fit, checked where names and directories are chosen.

A directory is checked against the longest name it will hold. The length of a joined path is the
length of what the directory becomes and of the name, so the longest name decides for all of them.
-/

set_option autoImplicit false

namespace KunobiDaemon

open Lib Paths

inductive Os where
  | linux
  | android
  | otherUnix
  | windows
  deriving DecidableEq, Repr

def Os.style : Os → Style
  | .linux | .android | .otherUnix => .unix
  | .windows => .windows

/-- Longest Unix socket path, where local endpoints are Unix sockets. -/
def MAX_SOCKET_PATH_BYTES : Os → Option Nat
  | .linux | .android => some 107
  | .otherUnix => some 103
  | .windows => none

def MAX_NAME_BYTES : Nat := 48

/-- A socket file name, checked when it is constructed. -/
structure SocketName where
  name : Name
  short : name.val.length ≤ MAX_NAME_BYTES

namespace SocketName

/-- A name that is refused panics with the text. -/
def new (name : Path) : Except String SocketName :=
  if named : name = [] then .error "socket name is empty"
  else if short : MAX_NAME_BYTES < name.length then .error "socket name is longer than MAX_NAME_BYTES"
  else if dots : name = [DOT] ∨ name = [DOT, DOT] then .error "socket name is `.` or `..`"
  else if apart : name.all (fun byte => byte ≠ SLASH ∧ byte ≠ BACKSLASH ∧ byte ≠ COLON ∧ byte ≠ 0) = true then
    .ok ⟨⟨name, ⟨named, fun here => dots (.inl here), fun above => dots (.inr above),
      fun byte member => of_decide_eq_true (List.all_eq_true.mp apart byte member)⟩⟩, Nat.le_of_not_lt short⟩
  else .error "socket name contains a path separator, `:` or NUL"

def length (name : SocketName) : Nat := name.name.val.length

end SocketName

section
variable (os : Os) (display : Path → String)

/-- Fails when the path is too long to bind or connect to as a Unix socket. -/
def checkSocketPath (socket : Path) : Except IoError Unit :=
  match MAX_SOCKET_PATH_BYTES os with
  | none => .ok ()
  | some limit =>
      let bytes := socket.length
      let shown := display socket
      if limit < bytes then
        .error ⟨.invalidInput, .message s!"socket path is {bytes} bytes, but a Unix socket path can be at most {limit} on this platform: {shown}"⟩
      else .ok ()

/-- Longest directory that still fits every socket. -/
def maxDirBytes (names : List SocketName) : Option Nat :=
  (MAX_SOCKET_PATH_BYTES os).map fun limit => limit - ((names.map SocketName.length).max?.getD 0 + 1)

/-- The last of the longest names. -/
def longest : List SocketName → Option SocketName
  | [] => none
  | name :: names => some (names.foldl (fun best name => if best.length ≤ name.length then name else best) name)

/-- A directory checked once against every socket it will hold. -/
structure SocketDir where
  dir : Path
  deriving DecidableEq, Repr

namespace SocketDir

def new (dir : Path) (names : List SocketName) : Except IoError SocketDir :=
  match MAX_SOCKET_PATH_BYTES os, longest names with
  | some limit, some longest =>
      let bytes := (join os.style dir longest.name).length
      let most := limit - (longest.length + 1)
      let name := display longest.name.val
      let shown := display dir
      if limit < bytes then
        .error ⟨.invalidInput, .message s!"socket `{name}` in this directory is {bytes} bytes, but a Unix socket path can be at most {limit} on this platform, so the directory can be at most {most} bytes: {shown}"⟩
      else .ok ⟨dir⟩
  | _, _ => .ok ⟨dir⟩

/-- Checked again, so a name that was not declared cannot slip through. -/
def path (checked : SocketDir) (name : SocketName) : Except IoError Path :=
  let path := join os.style checked.dir name.name
  (checkSocketPath os display path).map fun _ => path

end SocketDir

end

/-! ## The longest name decides -/

section
variable {os : Os} {display : Path → String} {dir : Path} {names : List SocketName} {limit : Nat}

theorem length_join (style : Style) (dir : Path) (name : SocketName) :
    (join style dir name.name).length = (stem style dir).length + name.length :=
  List.length_append

theorem longest_fold (names : List SocketName) (first : SocketName) :
    let best := names.foldl (fun best name => if best.length ≤ name.length then name else best) first
    (best = first ∨ best ∈ names) ∧ first.length ≤ best.length ∧ ∀ name ∈ names, name.length ≤ best.length := by
  induction names generalizing first with
  | nil => simp
  | cons name names ih =>
      rw [List.foldl_cons]
      by_cases longer : first.length ≤ name.length
      · obtain ⟨from_, least, all⟩ := ih name
        rw [if_pos longer]
        refine ⟨.inr ?_, Nat.le_trans longer least, ?_⟩
        · rcases from_ with same | later
          · exact List.mem_cons.mpr (.inl same)
          · exact List.mem_cons_of_mem _ later
        · intro other member
          rcases List.mem_cons.mp member with rfl | member
          · exact least
          · exact all other member
      · obtain ⟨from_, least, all⟩ := ih first
        rw [if_neg longer]
        refine ⟨from_.imp_right (List.mem_cons_of_mem _), least, ?_⟩
        intro other member
        rcases List.mem_cons.mp member with rfl | member
        · omega
        · exact all other member

theorem longest_spec {best : SocketName} (found : longest names = some best) :
    best ∈ names ∧ ∀ name ∈ names, name.length ≤ best.length := by
  cases names with
  | nil => cases found
  | cons first names =>
      obtain ⟨from_, least, all⟩ := longest_fold names first
      cases found
      refine ⟨List.mem_cons.mpr from_, fun name member => ?_⟩
      rcases List.mem_cons.mp member with rfl | member
      · exact least
      · exact all name member

theorem longest_eq_none : longest names = none ↔ names = [] := by
  cases names <;> simp [longest]

/-- The longest name, as the budget of a directory counts it. -/
theorem max?_of_longest {best : SocketName} (found : longest names = some best) :
    (names.map SocketName.length).max? = some best.length := by
  obtain ⟨member, all⟩ := longest_spec found
  rw [List.max?_eq_some_iff]
  refine ⟨List.mem_map_of_mem member, fun length listed => ?_⟩
  obtain ⟨name, member, rfl⟩ := List.mem_map.mp listed
  exact all name member

/-- A directory is accepted exactly when every name fits in it. -/
theorem SocketDir.new_eq_ok (limited : MAX_SOCKET_PATH_BYTES os = some limit) {checked : SocketDir} :
    SocketDir.new os display dir names = .ok checked ↔
      checked = ⟨dir⟩ ∧ ∀ name ∈ names, (join os.style dir name.name).length ≤ limit := by
  unfold SocketDir.new
  rw [limited]
  cases found : longest names with
  | none => simp [longest_eq_none.mp found, eq_comm]
  | some best =>
      obtain ⟨member, all⟩ := longest_spec found
      have fits : (∀ name ∈ names, (join os.style dir name.name).length ≤ limit) ↔
          ¬ limit < (join os.style dir best.name).length := by
        rw [Nat.not_lt]
        refine ⟨fun each => each best member, fun longest name declared => ?_⟩
        have shorter := all name declared
        rw [length_join] at *
        omega
      rw [fits]
      by_cases long : limit < (join os.style dir best.name).length
      · simp [long]
      · simp [long, eq_comm]

theorem SocketDir.path_eq_ok (limited : MAX_SOCKET_PATH_BYTES os = some limit) {checked : SocketDir} {name : SocketName}
    {path : Path} :
    checked.path os display name = .ok path ↔
      path = join os.style checked.dir name.name ∧ path.length ≤ limit := by
  unfold SocketDir.path checkSocketPath
  rw [limited]
  by_cases long : limit < (join os.style checked.dir name.name).length
  · simp only [long, if_true, Except.map, reduceCtorEq, false_iff]
    rintro ⟨rfl, fits⟩
    omega
  · simp only [long, if_false, Except.map, Except.ok.injEq]
    constructor
    · rintro rfl
      exact ⟨rfl, Nat.le_of_not_lt long⟩
    · exact fun same => same.1.symm

theorem style_of_limited (limited : MAX_SOCKET_PATH_BYTES os = some limit) : os.style = .unix ∧ 103 ≤ limit := by
  cases os with
  | windows => cases limited
  | _ =>
      cases limited
      exact ⟨rfl, by decide⟩

/-- Joining adds one separator at most. -/
theorem length_stem_le (style : Style) (dir : Path) : (stem style dir).length ≤ dir.length + 1 := by
  unfold stem
  split
  · exact Nat.le_succ _
  · split
    · exact Nat.le_succ _
    · exact Nat.le_of_eq List.length_append

theorem length_stem_unix (some_ : dir ≠ []) (bare : dir.getLast? ≠ some SLASH) :
    (stem .unix dir).length = dir.length + 1 := by
  unfold stem
  split
  · rename_i none_
    exact absurd (List.getLast?_eq_none_iff.mp none_) some_
  · rename_i last ends
    have other : last ≠ SLASH := fun same => bare (same ▸ ends)
    simp [Style.isSeparator, Style.isDrive, other]

/-- The budget of a directory leaves room for the longest name and a separator. -/
theorem maxDirBytes_eq (limited : MAX_SOCKET_PATH_BYTES os = some limit) (names : List SocketName) :
    ∃ budget most, maxDirBytes os names = some budget ∧ budget + (most + 1) = limit ∧ 0 < budget ∧
      (∀ name ∈ names, name.length ≤ most) ∧ (names ≠ [] → ∃ name ∈ names, name.length = most) := by
  have roomy := (style_of_limited limited).2
  cases found : longest names with
  | none =>
      cases longest_eq_none.mp found
      exact ⟨limit - 1, 0, by simp [maxDirBytes, limited], by omega, by omega, by simp, by simp⟩
  | some best =>
      obtain ⟨member, all⟩ := longest_spec found
      have short : best.length ≤ 48 := best.short
      refine ⟨limit - (best.length + 1), best.length, ?_, by omega, by omega, all, fun _ => ⟨best, member, rfl⟩⟩
      rw [maxDirBytes, limited, max?_of_longest found]
      rfl

end

end KunobiDaemon
