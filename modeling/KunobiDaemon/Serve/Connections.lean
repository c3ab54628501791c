import KunobiDaemon.Serve.Loop

/-! What the accept loop does with a connection, and how it counts. -/

set_option autoImplicit false

namespace KunobiDaemon.Serve

open Lib.Histories
open Peer (Credentials Rejected)

section
variable {G : Type}

def Place.idles : Place G → Bool
  | .selecting | .joining | .accepting | .pausing _ => true
  | _ => false

/-- The events between two connections. -/
def Event.asides : Event G → Bool
  | .poll _ | .join _ _ | .pending | .accept (.error _) | .wake => true
  | _ => false

def Event.accepts : Event G → Bool
  | .accept (.ok ()) => true
  | _ => false

/-- Every step of `run`. -/
inductive Moves (budget : Duration) (now : Instant) : Place G → Event G → Place G → Prop where
  | aside {place next : Place G} {event : Event G} : place.idles = true → next.idles = true → event.asides = true →
      Moves budget now place event next
  | stop {place : Place G} {event : Event G} {result : Except IoError Unit} : place.idles = true →
      event.asides = true → Moves budget now place event (.stopped result)
  | accept : Moves budget now .accepting (.accept (.ok ())) .accepted
  | unreadable {error : IoError} : Moves budget now .accepted (.credentials (.error error)) .selecting
  | evident {credentials : Credentials} :
      Moves budget now .accepted (.credentials (.ok credentials)) (.evident credentials)
  | refused {credentials : Credentials} {rejected : Rejected} :
      Moves budget now (.evident credentials) (.grant (.error rejected)) .selecting
  | granted {credentials : Credentials} {grant : G} :
      Moves budget now (.evident credentials) (.grant (.ok grant)) (.granted credentials grant)
  | pooled {credentials : Credentials} {grant : G} {pool : Pool} :
      Moves budget now (.granted credentials grant) (.pool pool) (.pooled credentials grant pool)
  | full {credentials : Credentials} {grant : G} {pool : Pool} :
      Moves budget now (.pooled credentials grant pool) (.acquire false) .selecting
  | permitted {credentials : Credentials} {grant : G} {pool : Pool} :
      Moves budget now (.pooled credentials grant pool) (.acquire true) (.permitted credentials grant pool)
  | closed {credentials : Credentials} {grant : G} {pool : Pool} :
      Moves budget now (.permitted credentials grant pool) (.check false) (.closing pool)
  | checked {credentials : Credentials} {grant : G} {pool : Pool} :
      Moves budget now (.permitted credentials grant pool) (.check true) (.admitting credentials grant pool)
  | invoke {credentials : Credentials} {grant : G} {pool : Pool} :
      Moves budget now (.admitting credentials grant pool) .invoke .selecting
  | dropped {pool : Pool} : Moves budget now (.closing pool) .drop (.stopped (.ok ()))
  | finish {result : Except IoError Unit} :
      Moves budget now (.stopped result) .finish (.finishing result (now + budget))
  | overflow {result : Except IoError Unit} : Moves budget now (.stopped result) .finish .panicked
  | await {result : Except IoError Unit} {deadline : Instant} {handler : Nat} {cancelled : Bool} :
      Moves budget now (.finishing result deadline) (.join handler cancelled) (.finishing result deadline)
  | finished {result : Except IoError Unit} {deadline : Instant} :
      Moves budget now (.finishing result deadline) .empty (.aborting result)
  | elapsed {result : Except IoError Unit} {deadline : Instant} : deadline ≤ now →
      Moves budget now (.finishing result deadline) .elapse (.aborting result)
  | abortAll {result : Except IoError Unit} : Moves budget now (.aborting result) .abortAll (.reaping result 0)
  | reap {result : Except IoError Unit} {aborted handler : Nat} {cancelled : Bool} :
      Moves budget now (.reaping result aborted) (.join handler cancelled)
        (.reaping result (aborted + cancelled.toNat))
  | returned {result : Except IoError Unit} {aborted : Nat} :
      Moves budget now (.reaping result aborted) .empty (.returned result aborted)

variable {platform : Platform} {budget : Duration} {now : Instant} {place place' : Place G} {event : Event G}

theorem moves_of_next (moved : place.next platform budget now event = some place') :
    Moves budget now place event place' := by
  unfold Place.next at moved
  split at moved
  all_goals try cases moved
  · exact .stop rfl rfl
  · exact .aside rfl rfl rfl
  · exact .aside rfl rfl rfl
  · exact .aside rfl rfl rfl
  · exact .aside rfl rfl rfl
  · exact .accept
  · split at moved <;> cases moved
    · exact .aside rfl rfl rfl
    · exact .stop rfl rfl
  · exact .stop rfl rfl
  · exact .aside rfl rfl rfl
  · split at moved <;> cases moved
    exact .aside rfl rfl rfl
  · exact .unreadable
  · exact .evident
  · exact .refused
  · exact .granted
  · exact .pooled
  · exact .full
  · exact .permitted
  · exact .closed
  · exact .checked
  · exact .invoke
  · exact .dropped
  · split at moved <;> cases moved
    · exact .finish
    · exact .overflow
  · exact .await
  · exact .finished
  · split at moved <;> cases moved
    rename_i over_
    exact .elapsed over_
  · exact .abortAll
  · exact .reap
  · exact .returned

/-- What happened with the connection at hand. -/
def Place.story : Place G → List (Event G)
  | .accepted => [.accept (.ok ())]
  | .evident credentials => [.accept (.ok ()), .credentials (.ok credentials)]
  | .granted credentials grant => [.accept (.ok ()), .credentials (.ok credentials), .grant (.ok grant)]
  | .pooled credentials grant pool =>
      [.accept (.ok ()), .credentials (.ok credentials), .grant (.ok grant), .pool pool]
  | .permitted credentials grant pool =>
      [.accept (.ok ()), .credentials (.ok credentials), .grant (.ok grant), .pool pool, .acquire true]
  | .admitting credentials grant pool =>
      [.accept (.ok ()), .credentials (.ok credentials), .grant (.ok grant), .pool pool, .acquire true, .check true]
  | _ => []

/-- All that can happen with a connection. -/
inductive Settled : List (Event G) → Prop where
  | unreadable {error : IoError} : Settled [.accept (.ok ()), .credentials (.error error)]
  | refused {credentials : Credentials} {rejected : Rejected} :
      Settled [.accept (.ok ()), .credentials (.ok credentials), .grant (.error rejected)]
  | full {credentials : Credentials} {grant : G} {pool : Pool} :
      Settled [.accept (.ok ()), .credentials (.ok credentials), .grant (.ok grant), .pool pool, .acquire false]
  | dropped {credentials : Credentials} {grant : G} {pool : Pool} :
      Settled [.accept (.ok ()), .credentials (.ok credentials), .grant (.ok grant), .pool pool, .acquire true,
        .check false]
  | admitted {credentials : Credentials} {grant : G} {pool : Pool} :
      Settled [.accept (.ok ()), .credentials (.ok credentials), .grant (.ok grant), .pool pool, .acquire true,
        .check true, .invoke]

theorem story_of_idles (idle : place.idles = true) : place.story = [] := by
  cases place <;> first | rfl | cases idle

/-- An event between two connections is told to nobody else. -/
theorem quiet_of_asides (aside : event.asides = true) :
    event.visits = false ∧ event.outcome = none ∧ event.accepts = false := by
  cases event with
  | accept reply =>
      cases reply with
      | ok => cases aside
      | error => exact ⟨rfl, rfl, rfl⟩
  | poll | join | pending | wake => exact ⟨rfl, rfl, rfl⟩
  | _ => cases aside

/-- An event is none of a connection's, or one more of it, or its last. -/
inductive Tells (place : Place G) (event : Event G) (place' : Place G) : Prop where
  | apart : event.visits = false → event.outcome = none → place.story = [] → place'.story = [] →
      Tells place event place'
  | goesOn : event.visits = true → event.outcome = none → place'.story = place.story ++ [event] →
      Tells place event place'
  | settles : event.visits = true → event.outcome.isSome = true → Settled (place.story ++ [event]) → place'.story = [] →
      Tells place event place'

theorem Moves.tells (moves : Moves budget now place event place') : Tells place event place' := by
  cases moves with
  | aside idle still aside => exact .apart (quiet_of_asides aside).1 (quiet_of_asides aside).2.1 (story_of_idles idle) (story_of_idles still)
  | stop idle aside => exact .apart (quiet_of_asides aside).1 (quiet_of_asides aside).2.1 (story_of_idles idle) rfl
  | accept | evident | granted | pooled | permitted | checked => exact .goesOn rfl rfl rfl
  | unreadable => exact .settles rfl rfl .unreadable rfl
  | refused => exact .settles rfl rfl .refused rfl
  | full => exact .settles rfl rfl .full rfl
  | closed => exact .settles rfl rfl .dropped rfl
  | invoke => exact .settles rfl rfl .admitted rfl
  | dropped | finish | overflow | await | finished | elapsed | abortAll | reap | returned =>
      exact .apart rfl rfl rfl rfl

/-- Still accepting. -/
def Place.loops : Place G → Bool
  | .selecting | .joining | .accepting | .pausing _ | .accepted | .evident _ | .granted _ _ | .pooled _ _ _
  | .permitted _ _ _ | .admitting _ _ _ => true
  | _ => false

theorem loops_of_idles (idle : place.idles = true) : place.loops = true := by
  cases place <;> first | rfl | cases idle

/-- Connections are dealt with in the loop, and it goes on as long as the drain check allows. -/
theorem Moves.loops (moves : Moves budget now place event place') :
    (event.visits = true → place.loops = true) ∧ (place'.loops = true → place.loops = true ∧ event ≠ .check false) := by
  cases moves with
  | aside idle still aside =>
      refine ⟨fun _ => loops_of_idles idle, fun _ => ⟨loops_of_idles idle, ?_⟩⟩
      rintro rfl
      cases aside
  | stop idle => exact ⟨fun _ => loops_of_idles idle, nofun⟩
  | accept | evident | granted | pooled | permitted | checked | unreadable | refused | full | invoke =>
      exact ⟨fun _ => rfl, fun _ => ⟨rfl, nofun⟩⟩
  | closed => exact ⟨fun _ => rfl, nofun⟩
  | dropped | finish | overflow | await | finished | elapsed | abortAll | reap | returned => exact ⟨nofun, nofun⟩

/-! ## The connections -/

section
variable (s : System G) (event : Event G)

/-- The loop's own state is not shared. -/
theorem shared_eq : s.shared event = { s with
    admission := (s.shared event).admission
    permits := (s.shared event).permits
    handlers := (s.shared event).handlers
    joined := (s.shared event).joined
    aborted := (s.shared event).aborted } := by
  cases event with
  | acquire | drop | invoke | join =>
      simp only [System.shared]
      split <;> rfl
  | _ => rfl

@[simp] theorem shared_history : (s.shared event).history = s.history := by rw [shared_eq]

@[simp] theorem shared_connections : (s.shared event).connections = s.connections := by rw [shared_eq]

@[simp] theorem shared_served : (s.shared event).served = s.served := by rw [shared_eq]

@[simp] theorem shared_now : (s.shared event).now = s.now := by rw [shared_eq]

@[simp] theorem shared_stopped : (s.shared event).stopped = s.stopped := by rw [shared_eq]

end

/-- Each connection has its story, and the one that came too late is the last. -/
structure Recorded (s : System G) : Prop where
  past : ∀ connection < s.connections, Settled (own connection s.history)
  present : own s.connections s.history = s.place.story
  future : ∀ connection > s.connections, own connection s.history = []
  open_ : s.place.loops = true → ∀ entry ∈ s.history, entry.2 ≠ .check false
  last : ∀ before connection after, s.history = before ++ (connection, .check false) :: after → after = []

theorem recorded_start (limits : Limits) (now : Instant) : Recorded (System.start limits now : System G) where
  past _ early := absurd early (Nat.not_lt_zero _)
  present := rfl
  future _ _ := rfl
  open_ _ _ member := nomatch member
  last before connection after split := by simp [System.start] at split

variable {s s' : System G}

theorem own_snoc {connection other : Nat} {history : List (Nat × Event G)} (apart : other ≠ connection) :
    own connection (history ++ [(other, event)]) = own connection history := by
  rw [own_append, own_cons_of_ne apart, own_nil, List.append_nil]

theorem last_snoc {history : List (Nat × Event G)} {entry : Nat × Event G}
    (open_ : ∀ entry ∈ history, entry.2 ≠ .check false) (before : List (Nat × Event G)) (connection : Nat)
    (after : List (Nat × Event G)) (split : history ++ [entry] = before ++ (connection, .check false) :: after) :
    after = [] := by
  rcases List.eq_nil_or_concat after with rfl | ⟨rest, final, rfl⟩
  · rfl
  · have split : history ++ [entry] = (before ++ (connection, .check false) :: rest) ++ [final] := by simpa using split
    obtain ⟨rfl, -⟩ := List.append_inj' split rfl
    exact absurd rfl (open_ (connection, .check false) (by simp))

/-- The events of one connection do not touch the stories of the others. -/
theorem Recorded.told (recorded : Recorded s) (moves : Moves budget s.now s.place event place') :
    Recorded ((s.shared event).kept event place') := by
  obtain ⟨inLoop, onward⟩ := moves.loops
  have open_ (entry : Nat × Event G) (continues : place'.loops = true)
      (member : entry ∈ s.history ++ [(s.connections, event)]) : entry.2 ≠ .check false := by
    obtain ⟨loops, other⟩ := onward continues
    rcases List.mem_append.mp member with earlier | same
    · exact recorded.open_ loops entry earlier
    · rw [List.mem_singleton.mp same]
      exact other
  have fresh {connection : Nat} (apart : s.connections ≠ connection) :
      own connection (s.history ++ [(s.connections, event)]) = own connection s.history := own_snoc apart
  have here : own s.connections (s.history ++ [(s.connections, event)]) = s.place.story ++ [event] := by
    rw [own_append, own_cons_self, own_nil, recorded.present]
  cases moves.tells with
  | apart unseen goesOn quiet still =>
      constructor <;> simp only [System.kept, shared_history, shared_connections, unseen, goesOn, Option.isSome_none,
        Bool.false_eq_true, if_false]
      · exact recorded.past
      · rw [recorded.present, quiet, still]
      · exact recorded.future
      · exact fun continues => recorded.open_ (onward continues).1
      · exact recorded.last
  | goesOn seen goesOn next =>
      constructor <;> simp only [System.kept, shared_history, shared_connections, seen, goesOn, Option.isSome_none,
        Bool.false_eq_true, if_false, if_true]
      · exact fun connection early => fresh (Nat.ne_of_gt early) ▸ recorded.past connection early
      · rw [here, next]
      · exact fun connection late => (fresh (Nat.ne_of_lt late)).trans (recorded.future connection late)
      · exact fun continues entry => open_ entry continues
      · exact last_snoc (recorded.open_ (inLoop seen))
  | settles seen settles settled still =>
      constructor <;> simp only [System.kept, shared_history, shared_connections, seen, settles, if_true]
      · intro connection early
        rcases Nat.lt_or_eq_of_le (Nat.le_of_lt_succ early) with early | rfl
        · exact fresh (Nat.ne_of_gt early) ▸ recorded.past connection early
        · exact here ▸ settled
      · rw [still, fresh (Nat.ne_of_lt (Nat.lt_succ_self _)), recorded.future _ (Nat.lt_succ_self _)]
      · intro connection late
        have later : s.connections < connection := Nat.lt_of_succ_lt late
        exact (fresh (Nat.ne_of_lt later)).trans (recorded.future connection later)
      · exact fun continues entry => open_ entry continues
      · exact last_snoc (recorded.open_ (inLoop seen))

/-! ## The counts -/

def System.accepts (s : System G) : Nat := s.history.countP fun entry => entry.2.accepts

def System.count (s : System G) (outcome : Outcome) : Nat :=
  s.history.countP fun entry => entry.2.outcome = some outcome

/-- A connection that is being dealt with. -/
def Place.visitors (place : Place G) : Nat := if place.story = [] then 0 else 1

theorem visitors_of_story (quiet : place.story = []) : place.visitors = 0 := if_pos quiet

/-- What comes in has an outcome, or is at hand. -/
theorem Moves.conserves (moves : Moves budget now place event place') :
    event.accepts.toNat + place.visitors = event.outcome.isSome.toNat + place'.visitors := by
  cases moves with
  | aside idle still aside =>
      rw [visitors_of_story (story_of_idles idle), visitors_of_story (story_of_idles still),
        (quiet_of_asides aside).2.1, (quiet_of_asides aside).2.2]
      rfl
  | stop idle aside =>
      rw [visitors_of_story (story_of_idles idle), (quiet_of_asides aside).2.1, (quiet_of_asides aside).2.2]
      rfl
  | accept | unreadable | evident | refused | granted | pooled | full | permitted | closed | checked | invoke | dropped
  | finish | overflow | await | finished | elapsed | abortAll | reap | returned => rfl

/-- The counters are what happened. -/
structure Counted (s : System G) : Prop where
  admitted : s.served.admitted = s.count .admitted
  unauthenticated : s.served.unauthenticated = s.count .unauthenticated
  overCapacity : s.served.overCapacity = s.count .overCapacity
  accepted : s.accepts = s.count .admitted + s.count .unauthenticated + s.count .overCapacity + s.count .dropped +
    s.place.visitors
  dropped : s.count .dropped ≤ 1

theorem visits_of_accepts (accepted : event.accepts = true) : event.visits = true := by
  cases event with
  | accept reply =>
      cases reply with
      | ok => rfl
      | error => cases accepted
  | _ => cases accepted

theorem visits_of_outcome {outcome : Outcome} (decided : event.outcome = some outcome) : event.visits = true := by
  cases event with
  | credentials | grant | acquire | check | invoke => rfl
  | _ => cases decided

theorem countP_told (kind : Event G → Bool) (seen : kind event = true → event.visits = true) :
    ((s.shared event).kept event place').history.countP (fun entry => kind entry.2) =
      s.history.countP (fun entry => kind entry.2) + (kind event).toNat := by
  cases known : kind event with
  | true => simp [System.kept, seen known, known]
  | false =>
      simp only [System.kept, shared_history, shared_connections]
      split
      · simp [List.countP_append, known]
      · rfl

theorem count_told (outcome : Outcome) :
    ((s.shared event).kept event place').count outcome =
      s.count outcome + (decide (event.outcome = some outcome)).toNat :=
  countP_told (fun event => decide (event.outcome = some outcome)) fun decided =>
    visits_of_outcome (of_decide_eq_true decided)

theorem served_count (served : Served) (outcome : Option Outcome) :
    (served.count outcome).admitted = served.admitted + (decide (outcome = some .admitted)).toNat ∧
    (served.count outcome).unauthenticated =
      served.unauthenticated + (decide (outcome = some .unauthenticated)).toNat ∧
    (served.count outcome).overCapacity = served.overCapacity + (decide (outcome = some .overCapacity)).toNat := by
  rcases outcome with _ | _ | _ | _ | _ <;> exact ⟨rfl, rfl, rfl⟩

/-- Every outcome is one of the four. -/
theorem isSome_outcome (outcome : Option Outcome) : outcome.isSome.toNat =
    (decide (outcome = some .admitted)).toNat + (decide (outcome = some .unauthenticated)).toNat +
      (decide (outcome = some .overCapacity)).toNat + (decide (outcome = some .dropped)).toNat := by
  rcases outcome with _ | _ | _ | _ | _ <;> rfl

theorem check_of_dropped (dropped : event.outcome = some .dropped) : event = .check false := by
  cases event with
  | check accepting =>
      cases accepting with
      | false => rfl
      | true => cases dropped
  | credentials reply | grant reply => cases reply <;> cases dropped
  | acquire taken => cases taken <;> cases dropped
  | _ => cases dropped

theorem Counted.told (counted : Counted s) (recorded : Recorded s)
    (moves : Moves budget s.now s.place event place') : Counted ((s.shared event).kept event place') := by
  have accepts : ((s.shared event).kept event place').accepts = s.accepts + event.accepts.toNat :=
    countP_told Event.accepts visits_of_accepts
  obtain ⟨admitted, unauthenticated, overCapacity⟩ := served_count s.served event.outcome
  constructor
  · rw [count_told, ← counted.admitted, ← admitted]
    simp only [System.kept, shared_served]
  · rw [count_told, ← counted.unauthenticated, ← unauthenticated]
    simp only [System.kept, shared_served]
  · rw [count_told, ← counted.overCapacity, ← overCapacity]
    simp only [System.kept, shared_served]
  · have conserved := moves.conserves
    have balanced := counted.accepted
    rw [isSome_outcome] at conserved
    rw [accepts, count_told, count_told, count_told, count_told]
    simp only [System.kept]
    omega
  · rw [count_told]
    by_cases decided : event.outcome = some .dropped
    · -- The drain check is made in the loop, which has found admission open so far.
      have loops := moves.loops.1 (visits_of_outcome decided)
      have none_ : s.count .dropped = 0 := List.countP_eq_zero.mpr fun entry member dropped =>
        recorded.open_ loops entry member (check_of_dropped (of_decide_eq_true dropped))
      simp [none_, decided]
    · simpa [decided] using counted.dropped

end

end KunobiDaemon.Serve
