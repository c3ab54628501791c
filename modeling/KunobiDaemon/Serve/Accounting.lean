import KunobiDaemon.Serve.Handlers

/-! The accept loop accounts for every connection and leaves no handler running. -/

set_option autoImplicit false

namespace KunobiDaemon.Serve

open Lib.Histories
open Lib.Systems
open Peer (Credentials)

section
variable {G : Type}

variable {platform : Platform} {budget : Duration} {place place' : Place G} {event : Event G}
variable {s s' : System G}

/-! ## The permits -/

/-- The permit that the loop holds. -/
def Place.permit : Place G → Option Pool
  | .permitted _ _ pool | .admitting _ _ pool | .closing pool => some pool
  | _ => none

/-- The permits that live. -/
def System.live (s : System G) : List Pool := s.place.permit.toList ++ s.permits

structure Stocked (limits : Limits) (s : System G) : Prop where
  limits : s.admission.limits = limits
  stocks : s.admission.Stocks s.live

theorem limits_tryAcquire (admission : Admission) (pool : Pool) :
    (admission.tryAcquire pool).1.limits = admission.limits := by
  unfold Admission.tryAcquire
  split <;> rfl

theorem permit_of_idles (idle : place.idles = true) : place.permit = none := by
  cases place <;> first | rfl | cases idle

theorem shared_of_asides (aside : event.asides = true) :
    (s.shared event).admission = s.admission ∧ (s.shared event).permits = s.permits := by
  cases event with
  | join =>
      simp only [System.shared]
      split <;> exact ⟨rfl, rfl⟩
  | poll | pending | accept | wake => exact ⟨rfl, rfl⟩
  | _ => cases aside

variable {limits : Limits}

theorem Stocked.told (stocked : Stocked limits s) (moves : Moves budget s.now s.place event place')
    (tells : s.tells event = true) : Stocked limits ((s.shared event).kept event place') := by
  obtain ⟨bounds, stocks⟩ := stocked
  unfold System.live at stocks
  generalize at_ : s.place = place at moves stocks
  cases moves with
  | aside idle still aside =>
      obtain ⟨admission, permits⟩ := shared_of_asides (s := s) aside
      rw [permit_of_idles idle] at stocks
      refine ⟨by simpa [System.kept, admission] using bounds, ?_⟩
      simpa [System.live, System.kept, admission, permits, permit_of_idles still] using stocks
  | stop idle aside =>
      obtain ⟨admission, permits⟩ := shared_of_asides (s := s) aside
      rw [permit_of_idles idle] at stocks
      refine ⟨by simpa [System.kept, admission] using bounds, ?_⟩
      simpa [System.live, System.kept, admission, permits, Place.permit] using stocks
  | full =>
      simp only [System.tells, at_, decide_eq_true_eq] at tells
      simp only [System.kept, System.shared, at_]
      exact ⟨(limits_tryAcquire _ _).trans bounds, stocks.refused tells.symm⟩
  | permitted =>
      simp only [System.tells, at_, decide_eq_true_eq] at tells
      simp only [System.kept, System.shared, at_]
      exact ⟨(limits_tryAcquire _ _).trans bounds, stocks.acquired tells.symm⟩
  | invoke =>
      simp only [System.kept, System.shared, at_]
      exact ⟨bounds, stocks⟩
  | @dropped pool =>
      simp only [System.kept, System.shared, at_]
      have released : (s.admission.release pool).Stocks ((pool :: s.permits).erase pool) := stocks.released
      exact ⟨bounds, by simpa [System.live, Place.permit] using released⟩
  | accept | unreadable | evident | refused | granted | pooled | closed | checked | finish | overflow | finished
  | elapsed | abortAll | returned => exact ⟨bounds, stocks⟩
  | await | reap =>
      simp only [System.kept, System.shared]
      split <;> exact ⟨bounds, stocks⟩

/-! ## Whole runs -/

structure Orderly (limits : Limits) (budget : Duration) (s : System G) : Prop where
  recorded : Recorded s
  counted : Counted s
  handled : Handled s
  tended : Tended budget s
  stocked : Stocked limits s

theorem orderly_start (limits : Limits) (now : Instant) : Orderly limits budget (System.start limits now : System G) where
  recorded := recorded_start limits now
  counted := ⟨rfl, rfl, rfl, rfl, Nat.zero_le _⟩
  handled := ⟨fun _ member => absurd member List.not_mem_nil, List.nodup_nil, rfl⟩
  tended := tended_start limits now
  stocked := ⟨rfl, Admission.stocks_new limits⟩

/-- What others can change: the gate, the permits, the time, and how handlers end. -/
theorem Orderly.around {gate : Lifecycle.Gate} {admission : Admission} {permits : List Pool} {now : Instant}
    {handlers : List (Handler G)} (orderly : Orderly limits budget s) (later : s.now ≤ now)
    (given : handlers.map (fun handler => (handler.authenticated, handler.permit)) =
      s.handlers.map fun handler => (handler.authenticated, handler.permit))
    (caused : ∀ handler ∈ handlers, handler.status = .cancelled → handler.aborting = true)
    (aborting : ∀ handler ∈ handlers, handler.aborting = true → ∃ other ∈ s.handlers, other.aborting = true)
    (bounds : admission.limits = limits) (stocks : admission.Stocks (s.place.permit.toList ++ permits)) :
    Orderly limits budget { s with gate, admission, permits, now, handlers } := by
  obtain ⟨recorded, counted, handled, tended, -⟩ := orderly
  have empty (none_ : s.handlers = []) : handlers = [] := by
    rw [none_, List.map_nil] at given
    exact List.map_eq_nil_iff.mp given
  have same : System.given { s with gate, admission, permits, now, handlers } = s.given := by
    simp only [System.given, List.map_append, given]
  refine ⟨⟨recorded.past, recorded.present, recorded.future, recorded.open_, recorded.last⟩,
    ⟨counted.admitted, counted.unauthenticated, counted.overCapacity, counted.accepted, counted.dropped⟩,
    ⟨same ▸ handled.known, same ▸ handled.distinct, same ▸ handled.number⟩, ?_, ⟨bounds, stocks⟩⟩
  refine ⟨tended.ended, fun handler member cancelled => ?_, fun handler member aborted => ?_, tended.waits, ?_⟩
  · rcases List.mem_append.mp member with left | joined
    · exact caused handler left cancelled
    · exact tended.caused handler (List.mem_append_right _ joined) cancelled
  · rcases List.mem_append.mp member with left | joined
    · obtain ⟨other, inside, also⟩ := aborting handler left aborted
      exact tended.timely other (List.mem_append_left _ inside) also
    · exact tended.timely handler (List.mem_append_right _ joined) aborted
  · have knows := tended.knows
    dsimp only
    generalize s.place = place at knows
    cases place with
    | stopped =>
        obtain ⟨stopped, known, early⟩ := knows
        exact ⟨stopped, known, Nat.le_trans early later⟩
    | aborting =>
        rcases knows with none_ | ⟨stopped, known, early⟩
        · exact .inl (empty none_)
        · exact .inr ⟨stopped, known, Nat.le_trans early later⟩
    | returned => exact ⟨empty knows.1, knows.2⟩
    | _ => exact knows

theorem map_set_eq {A B : Type} {f : A → B} {list : List A} {i : Nat} {value : A} (inside : i < list.length)
    (same : f value = f list[i]) : (list.set i value).map f = list.map f := by
  have bound : i < (list.map f).length := by simpa using inside
  rw [List.map_set, same, ← List.getElem_map f (h := bound), List.set_getElem_self]

theorem Orderly.step {label : Label G} (orderly : Orderly limits budget s)
    (stepped : s.step platform budget label = some s') : Orderly limits budget s' := by
  have quiet := orderly.tended
  have caused (handler : Handler G) (member : handler ∈ s.handlers) :
      handler.status = .cancelled → handler.aborting = true := quiet.caused handler (List.mem_append_left _ member)
  have aborting (handler : Handler G) (member : handler ∈ s.handlers) (aborted : handler.aborting = true) :
      ∃ other ∈ s.handlers, other.aborting = true := ⟨handler, member, aborted⟩
  obtain ⟨bounds, stocks⟩ := orderly.stocked
  cases label with
  | loop event =>
      simp only [System.step] at stepped
      split at stepped
      · rename_i place next
        simp only [Option.ite_none_right_eq_some, Option.some.injEq] at stepped
        obtain ⟨tells, rfl⟩ := stepped
        have moves := moves_of_next next
        exact ⟨orderly.recorded.told moves, orderly.counted.told orderly.recorded moves,
          orderly.handled.told orderly.recorded moves, orderly.tended.told moves tells, orderly.stocked.told moves tells⟩
      · cases stepped
  | drain =>
      cases stepped
      exact orderly.around (Nat.le_refl _) rfl caused aborting bounds stocks
  | wait time =>
      cases stepped
      exact orderly.around (Nat.le_add_right _ _) rfl caused aborting bounds stocks
  | acquire pool =>
      simp only [System.step, Option.some.injEq] at stepped
      subst stepped
      refine orderly.around (Nat.le_refl _) rfl caused aborting ((limits_tryAcquire _ _).trans bounds) ?_
      cases taken : (s.admission.tryAcquire pool).2 with
      | true => exact (stocks.acquired taken).perm List.perm_middle.symm
      | false => exact stocks.refused taken
  | release pool =>
      simp only [System.step, Option.ite_none_right_eq_some, Option.some.injEq] at stepped
      obtain ⟨lives, rfl⟩ := stepped
      refine orderly.around (Nat.le_refl _) rfl caused aborting bounds ?_
      have released : (s.admission.release pool).Stocks ((s.permits ++ s.place.permit.toList).erase pool) :=
        (stocks.perm List.perm_append_comm).released
      rw [List.erase_append_left _ lives] at released
      exact released.perm List.perm_append_comm
  | ended handler status =>
      simp only [System.step] at stepped
      split at stepped
      · rename_i task found
        simp only [Option.ite_none_right_eq_some, Option.some.injEq, Bool.and_eq_true, decide_eq_true_eq,
          Bool.or_eq_true] at stepped
        obtain ⟨⟨⟨running, ended⟩, cancelled⟩, rfl⟩ := stepped
        have inside := List.mem_of_getElem? found
        refine orderly.around (Nat.le_refl _) ?_ (fun other member => ?_) (fun other member aborted => ?_) bounds stocks
        · obtain ⟨bound, rfl⟩ := List.getElem?_eq_some_iff.mp found
          exact map_set_eq bound rfl
        · rcases List.mem_or_eq_of_mem_set member with earlier | rfl
          · exact caused other earlier
          · exact fun now_ => cancelled.resolve_left (absurd now_)
        · rcases List.mem_or_eq_of_mem_set member with earlier | rfl
          · exact ⟨other, earlier, aborted⟩
          · exact ⟨task, inside, aborted⟩
      · cases stepped

def ServeError.counts : Except ServeError Served → Served
  | .ok served => served
  | .error failed => failed.served

/-- Everything that `run` did, when it returns. -/
structure Accounted (budget : Duration) (s : System G) (served : Served) : Prop where
  -- The handler was invoked so many times, with what came all the way, and never after a closed check.
  admitted : served.admitted = s.count .admitted ∧ s.joined.length = s.count .admitted
  given : ∀ handler ∈ s.joined,
    own handler.authenticated.connection s.history = admission (handler.authenticated, handler.permit)
  distinct : (s.joined.map (·.authenticated.connection)).Nodup
  closed : ∀ before connection after, s.history = before ++ (connection, .check false) :: after →
    ∀ entry ∈ after, entry.2 ≠ .invoke
  -- Every connection that was accepted was admitted, refused, or dropped at the end.
  unauthenticated : served.unauthenticated = s.count .unauthenticated
  overCapacity : served.overCapacity = s.count .overCapacity
  accepted : s.accepts = served.admitted + served.unauthenticated + served.overCapacity + s.count .dropped
  dropped : s.count .dropped ≤ 1
  settled : ∀ connection < s.connections, Settled (own connection s.history)
  strangers : ∀ connection, (∃ event ∈ own connection s.history, event.outcome = some .unauthenticated) →
    .acquire true ∉ own connection s.history
  -- Nothing is left, and what was cut off had its time.
  left : s.handlers = []
  ended : ∀ handler ∈ s.joined, handler.status ≠ .running
  aborted : served.aborted = s.joined.countP (·.status = .cancelled)
  cancelled : ∀ handler ∈ s.joined, handler.status = .cancelled → handler.aborting = true
  timely : ∀ handler ∈ s.joined, handler.aborting = true →
    ∃ stopped aborted, s.stopped = some stopped ∧ s.aborted = some aborted ∧ stopped + budget ≤ aborted

theorem Settled.stranger {events : List (Event G)} (settled : Settled events)
    (failed : ∃ event ∈ events, event.outcome = some .unauthenticated) : .acquire true ∉ events := by
  cases settled with
  | unreadable | refused => simp
  | full | dropped | admitted => simp [Event.outcome] at failed

theorem Orderly.accounted {result : Except IoError Unit} {aborted : Nat} (orderly : Orderly limits budget s)
    (returned : s.place = .returned result aborted) : Accounted budget s { s.served with aborted } := by
  obtain ⟨recorded, counted, handled, tended, -⟩ := orderly
  have knows := tended.knows
  have balanced := counted.accepted
  have present := recorded.present
  rw [returned] at knows balanced present
  have whole : s.given = s.joined.map fun handler => (handler.authenticated, handler.permit) := by
    rw [System.given, knows.1, List.nil_append]
  have inside {handler : Handler G} (member : handler ∈ s.joined) : handler ∈ s.handlers ++ s.joined :=
    List.mem_append_right _ member
  constructor
  · have number := handled.number
    rw [whole, List.length_map, counted.admitted] at number
    exact ⟨counted.admitted, number⟩
  · intro handler member
    exact (handled.known _ (whole ▸ List.mem_map_of_mem member)).2
  · simpa [whole, Function.comp_def] using handled.distinct
  · intro before connection after split entry member
    rw [recorded.last before connection after split] at member
    cases member
  · exact counted.unauthenticated
  · exact counted.overCapacity
  · rw [counted.admitted, counted.unauthenticated, counted.overCapacity]
    exact balanced
  · exact counted.dropped
  · exact recorded.past
  · intro connection failed
    rcases Nat.lt_trichotomy connection s.connections with early | rfl | late
    · exact (recorded.past connection early).stranger failed
    · rw [present]
      exact List.not_mem_nil
    · rw [recorded.future connection late]
      exact List.not_mem_nil
  · exact knows.1
  · exact tended.ended
  · exact knows.2
  · exact fun handler member => tended.caused handler (inside member)
  · exact fun handler member => tended.timely handler (inside member)

/-- Whatever is accepted, answered, started, ended or drained, and whenever: no pool is ever
over its limit, and when `run` returns it has accounted for every connection and handler. -/
theorem run_accounts_for_every_connection {start : Instant}
    (path : Path (System.step platform budget) Any (System.start limits start) s) :
    (∀ pool, s.admission.active pool = s.live.count pool ∧ s.live.count pool ≤ limits.limit pool) ∧
    (∀ result, s.report = some result → Accounted budget s (ServeError.counts result)) := by
  have orderly : Orderly limits budget s :=
    path.invariant (fun _ _ _ orderly _ stepped => orderly.step stepped) (orderly_start limits start)
  refine ⟨fun pool => ?_, fun result reported => ?_⟩
  · obtain ⟨bounds, stocks⟩ := orderly.stocked
    refine ⟨stocks.counted pool, ?_⟩
    rw [← stocks.counted, ← bounds]
    exact stocks.bounded pool
  · unfold System.report at reported
    split at reported
    · rename_i aborted returned
      cases reported
      exact orderly.accounted returned
    · rename_i error aborted returned
      cases reported
      exact orderly.accounted returned
    · cases reported

end

/-- Three connections: one that is served until it is cut off, one that cannot be identified, and one that
comes as the drain starts. -/
def lastCalls : List (Label Unit) :=
  let sameUser : Credentials := ⟨none, true, .connection⟩
  let arrives : List (Label Unit) := [.loop (.poll false), .loop .pending, .loop (.accept (.ok ()))]
  let checks : List (Label Unit) :=
    [.loop (.credentials (.ok sameUser)), .loop (.grant (.ok ())), .loop (.pool .control), .loop (.acquire true)]
  arrives ++ checks ++ [.loop (.check true), .loop .invoke] ++
  arrives ++ [.loop (.credentials (.error (invalid "no peer")))] ++
  arrives ++ checks ++ [.drain, .loop (.check false), .loop .drop] ++
  [.loop .finish, .wait 5, .loop .elapse, .loop .abortAll, .ended 0 .cancelled, .release .control,
    .loop (.join 0 true), .loop .empty]

theorem last_calls_are_accounted_for : ∃ s : System Unit,
    replay (System.step .unix 5) lastCalls (.start {} 100) = some s ∧
    s.report = some (.ok ⟨1, 1, 0, 1⟩) ∧ s.count .dropped = 1 ∧ Accounted 5 s ⟨1, 1, 0, 1⟩ := by
  obtain ⟨s, replayed⟩ : ∃ s : System Unit, replay (System.step .unix 5) lastCalls (.start {} 100) = some s := ⟨_, rfl⟩
  have accounts := (run_accounts_for_every_connection (path_of_replay lastCalls replayed)).2
  cases replayed
  exact ⟨_, rfl, rfl, rfl, accounts (.ok ⟨1, 1, 0, 1⟩) rfl⟩

end KunobiDaemon.Serve
