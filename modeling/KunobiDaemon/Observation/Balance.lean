import KunobiDaemon.Lib.Systems
import KunobiDaemon.Observation.Ledger

/-! Event and activity accounting balances, over any steps of any number of threads.

Every function only asks for operations that the account of its party is ready for, so the ledger
stays even whatever the interleaving. The rest is to read it off: what a member holds is what it
is doing.
-/

set_option autoImplicit false

namespace KunobiDaemon.Observation

open Lib.Dialogues Lib.Interference Lib.Systems Lib.Totals

/-! ## What a role knows of its account -/

section
variable {capacity : Nat} {role : Role} {account : Account} {work : Work}

/-- The account of a call under way, between its operations. -/
def Role.Holds : Role → Account → Prop
  | .calling, account =>
      account.connected = false ∧ (∀ direction, account.held direction = false) ∧ ∀ direction, account.owed direction = 0
  | .creating, account => (∀ direction, account.held direction = false) ∧ ∀ direction, account.owed direction = 0
  | .working work, account =>
      account.connected = true ∧
      (∀ direction, (account.last direction || account.begun = some direction) =
        (account.last direction || work.direction = direction)) ∧
      (work.blocking = true → ∀ direction, account.last direction = false)
  | .dropping, account =>
      account.begun = none ∧ (account.connected = false → ∀ direction, account.held direction = false) ∧
        ∀ direction, account.owed direction = 0

theorem Role.Holds.owes (holds : (Role.working work).Holds account) (bytes : Option (Direction × Nat)) :
    (Role.working work).Holds (account.owes bytes) := by
  cases bytes <;> exact holds

theorem Role.Holds.step {question : Question} (holds : role.Holds account) (ready : account.Ready role question)
    (reply : question.Reply) : role.Holds (account.after capacity question reply) := by
  obtain ⟨permits, allows, -, -⟩ := ready
  cases question with
  | pending direction =>
      obtain ⟨work, rfl, rfl⟩ := allows
      obtain ⟨connected, held, blocking⟩ := holds
      have added := held work.direction
      simp [permits.1, permits.2.1] at added
  | release direction =>
      cases role with
      | calling => exact absurd permits (by simp [Account.Permits, holds.2.1])
      | creating => exact absurd permits (by simp [Account.Permits, holds.1])
      | working work => exact holds
      | dropping =>
          refine ⟨holds.1, fun gone other => ?_, holds.2.2⟩
          rw [Account.after, held_release, holds.2.1 gone other, Bool.false_and]
  | connect =>
      obtain rfl : role = .creating := allows
      exact holds
  | disconnect =>
      obtain rfl : role = .dropping := allows
      exact ⟨holds.1, fun _ => permits.2, holds.2.2⟩
  | bytes direction count =>
      have owed : (∀ other, account.owed other = 0) →
          ∀ other, Function.update account.owed direction (account.owed direction - count) other = 0 := by
        intro none other
        by_cases same : other = direction
        · simp [same, none]
        · simp [Function.update_of_ne same, none]
      cases role with
      | calling => exact ⟨holds.1, holds.2.1, owed holds.2.2⟩
      | creating => exact ⟨holds.1, owed holds.2⟩
      | working work => exact holds
      | dropping => exact ⟨holds.1, holds.2.1, owed holds.2.2⟩
  | call direction transfers | poll direction transfers =>
      obtain ⟨work, rfl, rfl⟩ := allows
      exact holds.owes _
  | enter | leave | tryLock | length | elapsed | pushBack | unlock | lostEvents | lock | drain | busySince | lastProgress
  | errors => cases role <;> exact holds

theorem polls_starts {io : AsyncObservedIo} {direction : Direction} {transfers : Bool}
    {report : AsyncObservedIo → Outcome → Doing AsyncObservedIo} {rest : AsyncObservedIo × Bool → Doing Rest} :
    ∃ question next, (io.polls direction transfers report).bind rest = .ask question next ∧
      (question = .pending direction ∨ io.pending direction = true ∧ ∃ transfers, question = .poll direction transfers) := by
  unfold AsyncObservedIo.polls AsyncObservedIo.begin
  split
  · exact ⟨_, _, rfl, .inr ⟨‹_›, _, rfl⟩⟩
  · exact ⟨_, _, rfl, .inl rfl⟩

/-- A call on a wrapper starts by adding to `pending`, unless a poll in its direction is pending. -/
theorem work_starts {wrapper : Wrapper} {program : Doing Rest} (works : work.program capacity wrapper = some program) :
    ∃ question next, program = .ask question next ∧
      (work.blocking = true → ∀ direction, wrapper.pending direction = false) ∧
      (question = .pending work.direction ∨
        wrapper.pending work.direction = true ∧ ∃ transfers, question = .poll work.direction transfers) := by
  cases wrapper with
  | blocking io =>
      cases work with
      | read | write | flush =>
          cases works
          exact ⟨_, _, rfl, fun _ _ => rfl, .inl rfl⟩
      | pollRead | pollWrite | pollFlush | pollShutdown => cases works
  | async io =>
      cases work with
      | pollRead | pollWrite | pollFlush | pollShutdown =>
          cases works
          obtain ⟨question, next, same, starts⟩ := polls_starts
          exact ⟨question, next, same, fun blocking => absurd blocking Bool.false_ne_true, starts⟩
      | read | write | flush => cases works

theorem work_holds {wrapper : Wrapper} {question : Question} {next : question.Reply → Doing Rest}
    (rested : Rested wrapper account) (works : work.program capacity wrapper = some (.ask question next))
    (reply : question.Reply) : (Role.working work).Holds (account.after capacity question reply) := by
  obtain ⟨_, _, same, blocking, starts⟩ := work_starts works
  cases same
  have last : work.blocking = true → ∀ direction, account.last direction = false :=
    fun blocks direction => (rested.last direction).trans (blocking blocks direction)
  obtain rfl | ⟨pending, transfers, rfl⟩ := starts
  · exact ⟨rested.connected, fun direction => by simp [Account.after], last⟩
  · refine Role.Holds.owes ⟨rested.connected, fun direction => ?_, last⟩ _
    rw [← rested.last] at pending
    by_cases same : work.direction = direction
    · subst same
      simp [pending]
    · simp [rested.begun, same]

theorem drop_starts (wrapper : Wrapper) : ∃ question next, wrapper.drop capacity = .ask question next := by
  cases wrapper with
  | blocking io => exact ⟨_, _, rfl⟩
  | async io =>
      obtain ⟨io, read, write⟩ := io
      cases read <;> cases write <;> exact ⟨_, _, rfl⟩

/-! ## Members -/

def Member.Sound (capacity : Nat) (member : Member) : Prop :=
  match member.actor with
  | .busy role program =>
      (∃ question next, program = .ask question next) ∧ role.Holds member.account ∧
        ∃ count, Safe (books capacity role) (Back role) count program member.account
  | .resting wrapper => Rested wrapper member.account
  | .gone => member.account.Gone

theorem held_returns (account : Account) (last : Direction → Bool) (direction : Direction) :
    (account.returns last).held direction = last direction := by
  simp [Account.returns, Account.held]

/-- What a role leaves is sound, and comes to what it held before. -/
theorem resume_sound {count : Nat} {program : Doing Rest} (holds : role.Holds account)
    (safe : Safe (books capacity role) (Back role) count program account) :
    (Member.resume role account program).Sound capacity ∧
      ((Member.resume role account program).account = account ∨
        ∃ last, (Member.resume role account program).account = account.returns last ∧
          ∀ direction, (account.returns last).held direction = account.held direction) := by
  cases program with
  | ask question next => exact ⟨⟨⟨question, next, rfl⟩, holds, count, safe⟩, .inl rfl⟩
  | done rest =>
      cases safe with
      | done back =>
          cases rest with
          | none =>
              refine ⟨⟨back.connected, fun direction => held_returns account _ direction, back.hold, back.recording,
                back.closes, back.owed⟩, .inr ⟨_, rfl, fun direction => ?_⟩⟩
              rw [held_returns, back.held]
          | some rest =>
              obtain ⟨wrapper, pending⟩ := rest
              refine ⟨back.1, .inr ⟨_, rfl, fun direction => ?_⟩⟩
              rw [back.1.held, back.2]

end

/-! ## The whole system -/

section
variable {bits : Nat} {s t : System bits}

structure Even (s : System bits) : Prop where
  ledger : Ledger s.observations s.history (s.members.map Member.account)
  members : ∀ member ∈ s.members, member.Sound s.observations.capacity

theorem answer_capacity {o o' : Observations bits} {input : Input} {question : Question} {reply : question.Reply}
    (answered : o.answer input question = some (reply, o')) : o'.capacity = o.capacity := by
  cases question with
  | call direction transfers =>
      obtain ⟨outcome, -, done⟩ := Option.map_eq_some_iff.mp answered
      cases done
      rfl
  | lock =>
      obtain ⟨-, done⟩ := Option.ite_none_left_eq_some.mp answered
      cases done
      rfl
  | _ =>
      cases answered
      rfl

namespace Even

theorem add (even : Even s) {role : Role} {question : Question} {next : question.Reply → Doing Rest} {count : Nat}
    (holds : role.Holds {}) (safe : Safe (books s.observations.capacity role) (Back role) count (.ask question next) {}) :
    Even (s.add role (.ask question next)) where
  ledger := by
    rw [System.add, List.map_append]
    exact even.ledger.joins
  members := by
    intro member there
    obtain there | there := List.mem_append.mp there
    · exact even.members member there
    · obtain rfl := List.mem_singleton.mp there
      exact ⟨⟨question, next, rfl⟩, holds, count, safe⟩

theorem advance (even : Even s) {index : Nat} {actor : Actor} {account : Account} {role : Role} {program : Doing Rest}
    {count : Nat} {input : Input} (here : s.members[index]? = some ⟨actor, account⟩)
    (safe : Safe (books s.observations.capacity role) (Back role) count program account)
    (holds : ∀ question next, program = .ask question next → account.Ready role question → ∀ reply,
      role.Holds (account.after s.observations.capacity question reply))
    (advanced : s.advance index role program account input = some t) : Even t := by
  cases program with
  | done => cases advanced
  | ask question next =>
      obtain ⟨⟨reply, o'⟩, answered, rfl⟩ := Option.map_eq_some_iff.mp advanced
      obtain ⟨ready, goes⟩ := safe.of_ask
      obtain ⟨fewer, -, rest⟩ := goes reply _ rfl
      have mine : (s.members.map Member.account)[index]? = some account := by rw [List.getElem?_map, here]; rfl
      have ledger := even.ledger.step mine ready answered
      obtain ⟨sound, account⟩ := resume_sound (holds question next rfl ready reply) rest
      refine ⟨?_, fun member there => ?_⟩
      · rw [List.map_set]
        obtain same | ⟨last, same, held⟩ := account
        · rw [same]
          exact ledger
        · have inside := (List.getElem?_eq_some_iff.mp mine).1
          have returned := ledger.returns (List.getElem?_set_self inside) last held
          rw [List.set_set] at returned
          rw [same]
          exact returned
      · rw [answer_capacity answered]
        obtain there | rfl := List.mem_or_eq_of_mem_set there
        · exact even.members member there
        · exact sound

/-- One step of any party. -/
theorem step (even : Even s) {label : Label} (stepped : s.step label = some t) : Even t := by
  cases label with
  | record event =>
      cases stepped
      exact even.add ⟨rfl, fun _ => rfl, fun _ => rfl⟩ (recordCall_safe event)
  | takeEvents =>
      cases stepped
      exact even.add ⟨rfl, fun _ => rfl, fun _ => rfl⟩ takeCall_safe
  | create async =>
      cases stepped
      cases async with
      | false => exact even.add ⟨fun _ => rfl, fun _ => rfl⟩ (create_safe false)
      | true => exact even.add ⟨fun _ => rfl, fun _ => rfl⟩ (create_safe true)
  | work index work input =>
      simp only [System.step] at stepped
      split at stepped
      · rename_i wrapper account here
        obtain ⟨program, works, advanced⟩ := Option.bind_eq_some_iff.mp stepped
        have rested : Rested wrapper account := even.members _ (List.mem_of_getElem? here)
        refine even.advance here (work_safe rested works) ?_ advanced
        rintro question next rfl - reply
        exact work_holds rested works reply
      · cases stepped
  | drop index =>
      simp only [System.step] at stepped
      split at stepped
      · rename_i wrapper account here
        cases stepped
        have rested : Rested wrapper account := even.members _ (List.mem_of_getElem? here)
        refine ⟨?_, fun member there => ?_⟩
        · have kept : (s.members.set index ⟨.busy .dropping (wrapper.drop s.observations.capacity), account⟩).map
              Member.account = s.members.map Member.account := by
            have mine : (s.members.map Member.account)[index]? = some account := by rw [List.getElem?_map, here]; rfl
            obtain ⟨inside, same⟩ := List.getElem?_eq_some_iff.mp mine
            rw [List.map_set]
            exact same ▸ List.set_getElem_self inside
          rw [kept]
          exact even.ledger
        · obtain there | rfl := List.mem_or_eq_of_mem_set there
          · exact even.members member there
          · refine ⟨drop_starts wrapper, ⟨rested.begun, fun gone => ?_, rested.owed⟩, 10, drop_safe rested⟩
            cases rested.connected.symm.trans gone
      · cases stepped
  | run index input =>
      simp only [System.step] at stepped
      split at stepped
      · rename_i role program account here
        obtain ⟨-, holds, count, safe⟩ := even.members _ (List.mem_of_getElem? here)
        exact even.advance here safe (fun question next _ ready reply => holds.step ready reply) stepped
      · cases stepped

end Even

/-! ## What the accounts say of the members -/

namespace Member.Sound

variable {capacity : Nat} {member : Member}

theorem connected (sound : member.Sound capacity) : member.account.connected = member.live := by
  obtain ⟨actor, account⟩ := member
  cases actor with
  | busy role program =>
      cases role with
      | calling => exact sound.2.1.1
      | working work => exact sound.2.1.1
      | creating | dropping => rfl
  | resting wrapper => exact Rested.connected sound
  | gone => exact Account.Gone.connected sound

theorem held (sound : member.Sound capacity) (direction : Direction) :
    (member.account.held direction).toNat = (member.blocked direction).toNat + (member.unfinished direction).toNat := by
  obtain ⟨actor, account⟩ := member
  cases actor with
  | busy role program =>
      obtain ⟨⟨question, next, rfl⟩, holds, count, safe⟩ := sound
      cases role with
      | calling =>
          have none : account.held direction = false := holds.2.1 direction
          simp [none, blocked, unfinished]
      | creating =>
          have none : account.held direction = false := holds.1 direction
          simp [none, blocked, unfinished]
      | working work =>
          obtain ⟨-, begun, last⟩ := holds
          simp only [Account.held, begun, blocked, unfinished]
          cases blocking : work.blocking with
          | false => simp
          | true =>
              have released : account.released direction = false := safe.of_ask.1.guarded blocking direction
              have last : account.last direction = false := last blocking direction
              simp [released, last]
      | dropping =>
          have begun : account.begun = none := holds.1
          simp [Account.held, begun, blocked, unfinished]
  | resting wrapper =>
      have rested : Rested wrapper account := sound
      have same := rested.held direction
      cases wrapper with
      | blocking io => simp [same, Wrapper.pending, blocked, unfinished]
      | async io => simp [same, ← rested.last, blocked, unfinished]
  | gone =>
      have none : account.held direction = false := Account.Gone.held sound direction
      simp [none, blocked, unfinished]

theorem idle (sound : member.Sound capacity) (gone : member.live = false) (direction : Direction) :
    member.account.held direction = false := by
  have parted : member.account.connected = false := sound.connected.trans gone
  obtain ⟨actor, account⟩ := member
  cases actor with
  | busy role program =>
      cases role with
      | calling => exact sound.2.1.2.1 direction
      | creating => exact sound.2.1.1 direction
      | working work => cases gone
      | dropping => exact sound.2.1.2.1 parted direction
  | resting wrapper => cases gone
  | gone => exact Account.Gone.held sound direction

theorem closes (sound : member.Sound capacity) : member.account.closes ≤ 1 := by
  obtain ⟨actor, account⟩ := member
  cases actor with
  | busy role program =>
      obtain ⟨⟨question, next, rfl⟩, -, count, safe⟩ := sound
      exact safe.of_ask.1.closes
  | resting wrapper => exact (Rested.quiet sound .dropping).closes
  | gone => exact Account.Gone.closes sound

theorem owed (sound : member.Sound capacity) (idle : member.working = false) (direction : Direction) :
    member.account.owed direction = 0 := by
  obtain ⟨actor, account⟩ := member
  cases actor with
  | busy role program =>
      cases role with
      | calling => exact sound.2.1.2.2 direction
      | creating => exact sound.2.1.2 direction
      | working work => cases idle
      | dropping => exact sound.2.1.2.2 direction
  | resting wrapper => exact Rested.owed sound direction
  | gone => exact Account.Gone.owed sound direction

end Member.Sound

namespace Even

theorem pendings (even : Even s) (direction : Direction) :
    total (fun account => (account.held direction).toNat) (s.members.map Member.account) = s.pendings direction := by
  rw [total_map, System.pendings, ← total_toNat, ← total_toNat, ← total_add]
  exact total_congr fun member there => (even.members member there).held direction

theorem lives (even : Even s) :
    total (fun account => account.connected.toNat) (s.members.map Member.account) = s.members.countP (·.live) := by
  rw [total_map, ← total_toNat]
  exact total_congr fun member there => congrArg Bool.toNat (even.members member there).connected

/-- A party only releases what it holds. -/
theorem release (even : Even s) {label : Label} {direction : Direction}
    (releases : s.operation label = some (.release direction)) : 0 < s.pendings direction := by
  cases label with
  | run index input =>
      simp only [System.operation] at releases
      split at releases
      · rename_i role question next account here
        cases releases
        obtain ⟨-, -, count, safe⟩ := even.members _ (List.mem_of_getElem? here)
        have held : account.held direction = true := safe.of_ask.1.permits
        have mine : (s.members.map Member.account)[index]? = some account := by rw [List.getElem?_map, here]; rfl
        have le := le_total (fun account => (account.held direction).toNat) mine
        rw [even.pendings, held] at le
        exact le
      · cases releases
  | work index work input =>
      simp only [System.operation] at releases
      split at releases
      · rename_i wrapper account here
        split at releases
        · rename_i question next works
          obtain ⟨_, _, same, -, starts⟩ := work_starts works
          cases same
          cases releases
          obtain starts | ⟨-, _, starts⟩ := starts <;> cases starts
        · cases releases
      · cases releases
  | record | takeEvents | create | drop => cases releases

theorem balanced (even : Even s) : Balanced s where
  bounded := even.ledger.queue.bounded
  recorded := by
    intro enabled none
    have calls := even.ledger.records.calls enabled
    have closed : total Account.opens (s.members.map Member.account) = 0 := by
      rw [total_map]
      exact total_eq_zero fun member there => by simp [Account.opens, none member there]
    rw [calls, closed, ← even.ledger.records.order, List.length_append]
    omega
  lost := even.ledger.records.lost
  disabled := by
    intro none
    have disabled := even.ledger.records.disabled none
    exact ⟨List.eq_nil_of_length_eq_zero (by omega), by omega⟩
  order := even.ledger.records.order
  connections := even.lives ▸ even.ledger.counted.connections
  pending direction := even.pendings direction ▸ even.ledger.counted.pending direction
  underflow _ _ releases := even.release releases
  gone := by
    intro gone direction
    rw [← even.pendings, total_map]
    exact total_eq_zero fun member there => by simp [(even.members member there).idle (gone member there) direction]
  bytes := by
    intro direction
    rw [← even.ledger.paid direction, total_map]
  reported member there idle direction := (even.members member there).owed idle direction
  closes member there := (even.members member there).closes

end Even

end

end KunobiDaemon.Observation
