import KunobiDaemon.Generations.Loop

/-! The retirement loop wakes when it must.

Whatever makes a generation vacant or starts its drain clock is heralded: by a newer version of the
watch channel, or by a call that is about to announce one. The loop looks at the generation after
it has looked at the version, so what it did not see is heralded until it looks again.
-/

set_option autoImplicit false

namespace KunobiDaemon.Generations

open Lib.Systems

section
variable {C K : Type} {s t : System C K} {seen : Nat}

/-- Superseded, with no lease held. -/
structure Vacant (s : System C K) : Prop where
  superseded : s.generation.own < s.generation.selected
  free : s.live = ∅

/-- A change is to be seen by a receiver, or about to be announced. -/
def Heralded (s : System C K) (seen : Nat) : Prop :=
  s.generation.version ≠ seen ∨ ∃ caller, s.announcing caller = true

/-- What a step does for a receiver: it keeps what was heralded, and heralds what it brings about. -/
structure Heralds (s t : System C K) (seen : Nat) : Prop where
  version : seen ≤ t.generation.version
  kept : Heralded s seen → Heralded t seen
  brings : Heralded t seen ∨
    (Vacant t → Vacant s) ∧ t.generation.sessions.supersededSince = s.generation.sessions.supersededSince

theorem Heralds.of_newer (known : seen ≤ s.generation.version)
    (newer : t.generation.version = s.generation.version + 1) : Heralds s t seen := by
  have heralded : Heralded t seen := .inl (by omega)
  exact ⟨by omega, fun _ => heralded, .inl heralded⟩

theorem Heralds.of_same (known : seen ≤ s.generation.version) (version : t.generation.version = s.generation.version)
    (announcing : ∀ caller, s.announcing caller = true → t.announcing caller = true)
    (vacant : Vacant t → Vacant s)
    (superseded : t.generation.sessions.supersededSince = s.generation.sessions.supersededSince) :
    Heralds s t seen := by
  refine ⟨version ▸ known, ?_, .inr ⟨vacant, superseded⟩⟩
  rintro (newer | ⟨caller, will⟩)
  · exact .inl (version ▸ newer)
  · exact .inr ⟨caller, announcing caller will⟩

variable [DecidableEq C] [DecidableEq K]

theorem heralds_select {caller : C} {selected : UInt64} {now : Instant} (known : seen ≤ s.generation.version)
    (stepped : s.step (.select caller selected now) = some t) : Heralds s t seen := by
  simp only [System.step] at stepped
  split at stepped
  · cases stepped
  · rename_i timely
    simp only [Bool.or_eq_true, not_or, Bool.not_eq_true] at timely
    cases stepped
    have silent : ∀ other, s.announcing other = true → Function.update s.announcing caller false other = true := by
      intro other will
      have apart : other ≠ caller := by
        rintro rfl
        exact absurd (timely.1.symm.trans will) Bool.false_ne_true
      rw [Function.update_of_ne apart]
      exact will
    rcases s.generation.select_cases selected now with ⟨-, selects⟩ | ⟨-, selects⟩ | ⟨-, selects⟩
    · rw [selects]
      exact .of_same known rfl silent (fun vacant => ⟨vacant.superseded, vacant.free⟩) rfl
    · rw [selects]
      exact .of_same known rfl silent (fun vacant => ⟨vacant.superseded, vacant.free⟩) rfl
    · rw [selects]
      have heralded : ∃ caller', Function.update s.announcing caller true caller' = true :=
        ⟨caller, Function.update_self ..⟩
      exact ⟨known, fun _ => .inr heralded, .inl (.inr heralded)⟩

theorem heralds_step {label : Label C K} (known : seen ≤ s.generation.version) (stepped : s.step label = some t) :
    Heralds s t seen := by
  cases label with
  | select caller selected now => exact heralds_select known stepped
  | announce caller =>
      simp only [System.step, Option.ite_none_right_eq_some, Option.some.injEq] at stepped
      obtain ⟨-, rfl⟩ := stepped
      exact .of_newer known rfl
  | drop lease =>
      simp only [System.step, Option.ite_none_right_eq_some, Option.some.injEq] at stepped
      obtain ⟨-, rfl⟩ := stepped
      exact .of_newer known (by rw [Generation.drop_sessions])
  | admitSession lease =>
      simp only [System.step] at stepped
      split at stepped
      · cases stepped
      · unfold Generation.admitSession at stepped
        split at stepped
        · cases stepped
          exact .of_same known rfl (fun _ => id) id rfl
        · rename_i generation admitted
          simp only [Option.ite_none_left_eq_some, Option.some.injEq] at admitted
          obtain ⟨-, rfl⟩ := admitted
          cases stepped
          -- The new lease is held.
          exact .of_same known rfl (fun _ => id) (fun vacant => absurd vacant.free (Finset.insert_ne_empty _ _)) rfl
  | markLegacy lease =>
      simp only [System.step] at stepped
      split at stepped
      · cases stepped
      · split at stepped
        · split at stepped
          · cases stepped
            exact .of_same known rfl (fun _ => id) id rfl
          · cases stepped
        · cases stepped
          exact .of_same known rfl (fun _ => id) (fun vacant => ⟨vacant.superseded, vacant.free⟩) rfl
  | countLegacy lease =>
      simp only [System.step, Option.ite_none_right_eq_some, Option.some.injEq] at stepped
      obtain ⟨-, rfl⟩ := stepped
      exact .of_same known rfl (fun _ => id) (fun vacant => ⟨vacant.superseded, vacant.free⟩) rfl
  | tryRetire stagingLifetime idle drain aged drained =>
      simp only [System.step, Option.ite_none_right_eq_some, Option.some.injEq] at stepped
      obtain ⟨-, rfl⟩ := stepped
      rcases s.generation.tryRetire_cases stagingLifetime idle drain aged drained with ⟨-, tried⟩ | ⟨-, tried⟩
      · rw [tried]
        exact .of_same known rfl (fun _ => id) (fun vacant => ⟨vacant.superseded, vacant.free⟩) rfl
      · rw [tried]
        exact .of_same known rfl (fun _ => id) (fun vacant => ⟨vacant.superseded, vacant.free⟩) rfl

end

section
variable {C K : Type} {interval stagingLifetime : Duration} {s t : Retiring C K}

namespace Place

/-- Past the check of a round that found the generation in use. -/
def declined : Place → Bool
  | .measuring | .drowsing _ | .parked _ _ _ => true
  | .called | .head | .checking | .refreshing | .retiring | .returned _ | .panicked => false

def nap : Place → Option Nap
  | .drowsing nap | .parked nap _ _ => some nap
  | .called | .head | .checking | .refreshing | .retiring | .measuring | .returned _ | .panicked => none

/-- Refreshing, or returned: what only a check leads to. -/
def acts : Place → Bool
  | .refreshing | .returned _ => true
  | .called | .head | .checking | .retiring | .measuring | .drowsing _ | .parked _ _ _ | .panicked => false

end Place

theorem tick_eq_some {now : Instant} :
    s.tick now = some t ↔ s.system.clock ≤ now ∧ { s with system := { s.system with clock := now } } = t := by
  simp [Retiring.tick]

section
variable [DecidableEq C] [DecidableEq K]

/-- All that one step of the loop can do. -/
inductive Moves (interval stagingLifetime : Duration) (s : Retiring C K) : Turn C K → Retiring C K → Prop where
  | other {label : Label C K} {system : System C K} : s.system.step label = some system →
      Moves interval stagingLifetime s (.other label) { s with system }
  | goes {turn : Turn C K} {place : Place} {seen : Nat} : seen = s.seen ∨ seen = s.system.generation.version →
      place.declined = false → place.nap = none → place.acts = false →
      Moves interval stagingLifetime s turn { s with place, seen }
  | checks {aged drained : Instant} {t : Retiring C K} :
      s.attempt stagingLifetime false aged drained .refreshing = some t →
      Moves interval stagingLifetime s (.checkLimit aged drained) t
  | retires {aged drained : Instant} {t : Retiring C K} :
      s.attempt stagingLifetime true aged drained .measuring = some t →
      Moves interval stagingLifetime s (.retire aged drained) t
  | measures {now : Instant} : s.place = .measuring → s.system.clock ≤ now →
      Moves interval stagingLifetime s (.measure now)
        { s with
          system := { s.system with clock := now }
          place := .drowsing ⟨now, s.system.generation.sessions.supersededSince,
            (s.system.generation.drainRemaining now).elim interval fun remaining => min remaining interval⟩ }
  | sleeps {nap : Nap} {now ends : Instant} : s.place = .drowsing nap → s.system.clock ≤ now →
      sleepEnds now nap.wait = some ends →
      Moves interval stagingLifetime s (.sleep now)
        { s with system := { s.system with clock := now }, place := .parked nap now ends }
  | ticks {turn : Turn C K} {place : Place} {now : Instant} : s.system.clock ≤ now →
      place.declined = false → place.nap = none → place.acts = false →
      Moves interval stagingLifetime s turn { s with system := { s.system with clock := now }, place }

theorem moves_of_step {turn : Turn C K} (stepped : s.step interval stagingLifetime turn = some t) :
    Moves interval stagingLifetime s turn t := by
  cases turn with
  | other label =>
      simp only [Retiring.step, Option.map_eq_some_iff] at stepped
      obtain ⟨system, moved, rfl⟩ := stepped
      exact .other moved
  | subscribe | update =>
      simp only [Retiring.step] at stepped
      split at stepped
      · cases stepped
        exact .goes (.inr rfl) rfl rfl rfl
      · cases stepped
  | checkLimit aged drained =>
      simp only [Retiring.step] at stepped
      split at stepped
      · exact .checks stepped
      · cases stepped
  | refreshed =>
      simp only [Retiring.step] at stepped
      split at stepped
      · cases stepped
        exact .goes (.inl rfl) rfl rfl rfl
      · cases stepped
  | retire aged drained =>
      simp only [Retiring.step] at stepped
      split at stepped
      · exact .retires stepped
      · cases stepped
  | measure now =>
      simp only [Retiring.step] at stepped
      split at stepped
      · rename_i measuring
        simp only [Option.map_eq_some_iff, tick_eq_some] at stepped
        obtain ⟨_, ⟨onward, rfl⟩, rfl⟩ := stepped
        exact .measures measuring onward
      · cases stepped
  | sleep now =>
      simp only [Retiring.step] at stepped
      split at stepped
      · rename_i nap drowsing
        simp only [Option.map_eq_some_iff, tick_eq_some] at stepped
        obtain ⟨_, ⟨onward, rfl⟩, rfl⟩ := stepped
        cases sleeps : sleepEnds now nap.wait with
        | none => exact .ticks onward rfl rfl rfl
        | some ends => exact .sleeps drowsing onward sleeps
      · cases stepped
  | elapse now =>
      simp only [Retiring.step] at stepped
      split at stepped
      · simp only [Option.ite_none_right_eq_some, Option.map_eq_some_iff, tick_eq_some] at stepped
        obtain ⟨-, _, ⟨onward, rfl⟩, rfl⟩ := stepped
        exact .ticks onward rfl rfl rfl
      · cases stepped
  | changed =>
      simp only [Retiring.step] at stepped
      split at stepped
      · simp only [Option.ite_none_left_eq_some, Option.some.injEq] at stepped
        obtain ⟨-, rfl⟩ := stepped
        exact .goes (.inr rfl) rfl rfl rfl
      · cases stepped

end

/-- A wait that ends with the drain limit, as far as that was known. -/
structure Nap.Fits (nap : Nap) (s : System C K) (seen : Nat) : Prop where
  past : nap.measured ≤ s.clock
  bounded : ∀ since limit, nap.known = some since → s.generation.drainLimit = some limit →
    nap.measured + nap.wait ≤ max nap.measured (since + limit)
  known : s.generation.sessions.supersededSince = nap.known ∨ Heralded s seen

/-- What the loop keeps. -/
structure Attentive (s : Retiring C K) : Prop where
  sound : Sound s.system
  seen : s.seen ≤ s.system.generation.version
  vacant : s.place.declined = true → Vacant s.system → Heralded s.system s.seen
  nap : ∀ nap, s.place.nap = some nap → nap.Fits s.system s.seen
  parked : ∀ nap started ends, s.place = .parked nap started ends →
    nap.measured ≤ started ∧ ends ≤ started + nap.wait

theorem attentive_initial (own selected : UInt64) (staged : Bool) (limit : Option Duration) (started : Instant) :
    Attentive (Retiring.initial own selected staged limit started : Retiring C K) where
  sound := sound_initial ..
  seen := Nat.zero_le _
  vacant := nofun
  nap := nofun
  parked := nofun

theorem sleepEnds_le {now ends : Instant} {duration : Duration} (sleeps : sleepEnds now duration = some ends) :
    ends ≤ now + duration := by
  unfold sleepEnds at sleeps
  split at sleeps
  · cases sleeps
    exact Nat.le_refl _
  · rename_i beyond
    split at sleeps
    · rename_i fits
      cases sleeps
      exact Nat.le_of_lt (Nat.lt_of_le_of_lt fits (Nat.lt_of_not_le beyond))
    · cases sleeps

namespace Attentive

/-- Somewhere before the check of a round. -/
theorem elsewhere (attentive : Attentive s) {place : Place} {seen : Nat} (known : seen ≤ s.system.generation.version)
    (undecided : place.declined = false) (awake : place.nap = none) :
    Attentive { s with place, seen } where
  sound := attentive.sound
  seen := known
  vacant declined := absurd (undecided.symm.trans declined) Bool.false_ne_true
  nap nap napping := absurd (awake.symm.trans napping) nofun
  parked nap started ends parked := by
    dsimp only at parked
    rw [parked] at awake
    cases awake

/-- The time that is left, when a wait is computed. -/
theorem measured (attentive : Attentive s) {now : Instant} (onward : s.system.clock ≤ now) :
    Nap.Fits ⟨now, s.system.generation.sessions.supersededSince,
      (s.system.generation.drainRemaining now).elim interval fun remaining => min remaining interval⟩
      { s.system with clock := now } s.seen := by
  refine ⟨Nat.le_refl _, ?_, .inl rfl⟩
  intro since limit known bound
  dsimp only at known bound ⊢
  have past := Nat.le_trans (attentive.sound.past since known) onward
  rw [Generation.drainRemaining, bound, known]
  dsimp only [Option.elim, Instant, Duration] at past ⊢
  omega

variable [DecidableEq K]

/-- Time passes. -/
theorem tick (attentive : Attentive s) {now : Instant} (onward : s.system.clock ≤ now) :
    Attentive { s with system := { s.system with clock := now } } where
  sound :=
    have effect : Effect s.system (.tryRetire 0 true true now now) { s.system with clock := now } := .stays onward
    attentive.sound.effect effect
  seen := attentive.seen
  vacant declined vacant := attentive.vacant declined ⟨vacant.superseded, vacant.free⟩
  nap nap napping :=
    have fits := attentive.nap nap napping
    ⟨Nat.le_trans fits.past onward, fits.bounded, fits.known⟩
  parked := attentive.parked

variable [DecidableEq C]

/-- Another thread's step. -/
theorem other (attentive : Attentive s) {label : Label C K} {system : System C K}
    (stepped : s.system.step label = some system) : Attentive { s with system } := by
  have effect := step_effect stepped
  have heralds := heralds_step attentive.seen stepped
  refine ⟨attentive.sound.effect effect, heralds.version, ?_, ?_, attentive.parked⟩
  · intro declined vacant
    rcases heralds.brings with heralded | ⟨before, -⟩
    · exact heralded
    · exact heralds.kept (attentive.vacant declined (before vacant))
  · intro nap napping
    have fits := attentive.nap nap napping
    refine ⟨Nat.le_trans fits.past effect.onward.clock, ?_, ?_⟩
    · intro since limit known bound
      exact fits.bounded since limit known (effect.onward.drainLimit ▸ bound)
    · rcases heralds.brings with heralded | ⟨-, same⟩
      · exact .inr heralded
      · rcases fits.known with known | heralded
        · exact .inl (same.trans known)
        · exact .inr (heralds.kept heralded)

theorem attempt (attentive : Attentive s) {idle : Bool} {aged drained : Instant} {next : Place}
    (undecided : idle = false → next.declined = false) (awake : next.nap = none)
    (attempts : s.attempt stagingLifetime idle aged drained next = some t) : Attentive t := by
  unfold Retiring.attempt at attempts
  simp only [Option.map_eq_some_iff] at attempts
  obtain ⟨system, stepped, rfl⟩ := attempts
  have after := attentive.other stepped
  cases retires : (s.system.generation.tryRetire stagingLifetime idle true aged drained).2 with
  | some retirement => exact after.elsewhere after.seen rfl rfl
  | none =>
      refine ⟨after.sound, after.seen, ?_, fun nap napping => absurd (awake.symm.trans napping) nofun, ?_⟩
      · -- Nothing was due, so a vacant generation has become so since.
        intro declined vacant
        cases idle with
        | false => exact absurd ((undecided rfl).symm.trans declined) Bool.false_ne_true
        | true =>
            rcases (heralds_step attentive.seen stepped).brings with heralded | ⟨before, -⟩
            · exact heralded
            · obtain ⟨superseded, free⟩ := before vacant
              simp only [System.step, Option.ite_none_right_eq_some] at stepped
              have retired : (s.system.generation.retire stagingLifetime aged drained).2.isSome = true :=
                attentive.sound.retire (Nat.le_trans stepped.1.1 stepped.1.2) superseded (.inl free)
              rw [Generation.retire, retires] at retired
              cases retired
      · intro nap started ends parked
        dsimp only [Option.elim] at parked
        rw [parked] at awake
        cases awake

theorem step (attentive : Attentive s) {turn : Turn C K} (stepped : s.step interval stagingLifetime turn = some t) :
    Attentive t := by
  cases moves_of_step stepped with
  | other moved => exact attentive.other moved
  | goes known undecided awake =>
      refine attentive.elsewhere ?_ undecided awake
      rcases known with rfl | rfl
      · exact attentive.seen
      · exact Nat.le_refl _
  | checks attempts => exact attentive.attempt (fun _ => rfl) rfl attempts
  | retires attempts => exact attentive.attempt (by nofun) rfl attempts
  | measures measuring onward =>
      have later := attentive.tick onward
      refine ⟨later.sound, later.seen, fun _ => later.vacant (by rw [measuring]; rfl), ?_, nofun⟩
      rintro nap ⟨⟩
      exact attentive.measured onward
  | @sleeps nap now ends drowsing onward sleeps =>
      have later := attentive.tick onward
      have fits := attentive.nap nap (by rw [drowsing]; rfl)
      refine ⟨later.sound, later.seen, fun _ => later.vacant (by rw [drowsing]; rfl), ?_, ?_⟩
      · rintro _ ⟨⟩
        exact later.nap nap (by rw [drowsing]; rfl)
      · rintro _ _ _ ⟨⟩
        exact ⟨Nat.le_trans fits.past onward, sleepEnds_le sleeps⟩
  | ticks onward undecided awake => exact (attentive.tick onward).elsewhere attentive.seen undecided awake

end Attentive

variable [DecidableEq C] [DecidableEq K]

/-- A change that no call is still to announce wakes the loop. -/
theorem wakes_of_heralded {nap : Nap} {started ends : Instant} (parked : s.place = .parked nap started ends)
    (announced : ∀ caller, s.system.announcing caller = false) (heralded : Heralded s.system s.seen) :
    ∃ t, s.step interval stagingLifetime .changed = some t := by
  rcases heralded with newer | ⟨caller, will⟩
  · refine ⟨{ s with seen := s.system.generation.version, place := .head }, ?_⟩
    simp only [Retiring.step, parked, if_neg newer]
  · exact absurd ((announced caller).symm.trans will) Bool.false_ne_true

/-- The loop goes on to its next step only if nothing was due. -/
theorem attempt_cases {idle : Bool} {aged drained : Instant} {next : Place}
    (attempts : s.attempt stagingLifetime idle aged drained next = some t) :
    s.system.clock ≤ aged ∧ aged ≤ drained ∧
    ((∃ retirement, (s.system.generation.tryRetire stagingLifetime idle true aged drained).2 = some retirement ∧
        t.place = .returned retirement) ∨
      ((s.system.generation.tryRetire stagingLifetime idle true aged drained).2 = none ∧ t.place = next)) := by
  unfold Retiring.attempt at attempts
  simp only [Option.map_eq_some_iff] at attempts
  obtain ⟨system, stepped, rfl⟩ := attempts
  simp only [System.step, Option.ite_none_right_eq_some] at stepped
  refine ⟨stepped.1.1, stepped.1.2, ?_⟩
  cases (s.system.generation.tryRetire stagingLifetime idle true aged drained).2 with
  | none => exact .inr ⟨rfl, rfl⟩
  | some retirement => exact .inl ⟨retirement, rfl, rfl⟩

/-- What the loop does in a state: it returns only a retirement that is permitted then, is not
parked past what it waits for, and starts no refresh at the drain limit. -/
structure Wakeful (interval stagingLifetime : Duration) (s : Retiring C K) : Prop where
  permitted : ∀ turn t retirement, s.step interval stagingLifetime turn = some t →
    t.place = .returned retirement → s.place ≠ .returned retirement →
    ∃ aged drained, s.system.clock ≤ aged ∧ aged ≤ drained ∧
      Justified s.system stagingLifetime true aged drained retirement
  vacant : ∀ nap started ends, s.place = .parked nap started ends → Vacant s.system →
    (∀ caller, s.system.announcing caller = false) → ∃ t, s.step interval stagingLifetime .changed = some t
  /-- The timer was started at the time given beside it. It ends by the limit, or by the time of the
  reading if that was later, and what passed between the reading and its start. -/
  ends : ∀ nap started ends, s.place = .parked nap started ends → nap.measured ≤ started ∧
    ∀ since limit, nap.known = some since → s.system.generation.drainLimit = some limit →
      ends ≤ max nap.measured (since + limit) + (started - nap.measured)
  superseded : ∀ nap started ends, s.place = .parked nap started ends →
    s.system.generation.sessions.supersededSince ≠ nap.known →
    (∀ caller, s.system.announcing caller = false) → ∃ t, s.step interval stagingLifetime .changed = some t
  refreshes : ∀ turn t, s.step interval stagingLifetime turn = some t → t.place = .refreshing →
    s.place ≠ .refreshing → ∃ aged drained, turn = .checkLimit aged drained ∧ s.system.clock ≤ aged ∧ aged ≤ drained ∧
      ¬ Passed s.system drained

theorem Attentive.permitted (attentive : Attentive s) {turn : Turn C K} {retirement : Retirement}
    (stepped : s.step interval stagingLifetime turn = some t) (returned : t.place = .returned retirement)
    (running : s.place ≠ .returned retirement) :
    ∃ aged drained, s.system.clock ≤ aged ∧ aged ≤ drained ∧
      Justified s.system stagingLifetime true aged drained retirement := by
  cases moves_of_step stepped with
  | other => exact absurd returned running
  | goes _ _ _ idle | ticks _ _ _ idle =>
      dsimp only at returned
      rw [returned] at idle
      cases idle
  | measures | sleeps => cases returned
  | @checks aged drained _ attempts | @retires aged drained _ attempts =>
      obtain ⟨first, second, ⟨told, retires, back⟩ | ⟨-, on⟩⟩ := attempt_cases attempts
      · cases back.symm.trans returned
        exact ⟨aged, drained, first, second, attentive.sound.justified first second retires⟩
      · cases on.symm.trans returned

theorem Attentive.refreshes (attentive : Attentive s) {turn : Turn C K}
    (stepped : s.step interval stagingLifetime turn = some t) (refreshing : t.place = .refreshing)
    (before : s.place ≠ .refreshing) :
    ∃ aged drained, turn = .checkLimit aged drained ∧ s.system.clock ≤ aged ∧ aged ≤ drained ∧
      ¬ Passed s.system drained := by
  cases moves_of_step stepped with
  | other => exact absurd refreshing before
  | goes _ _ _ idle | ticks _ _ _ idle =>
      dsimp only at refreshing
      rw [refreshing] at idle
      cases idle
  | measures | sleeps => cases refreshing
  | retires attempts =>
      obtain ⟨-, -, ⟨_, -, back⟩ | ⟨-, on⟩⟩ := attempt_cases attempts
      · cases back.symm.trans refreshing
      · cases on.symm.trans refreshing
  | @checks aged drained _ attempts =>
      obtain ⟨first, second, ⟨_, -, back⟩ | ⟨declines, -⟩⟩ := attempt_cases attempts
      · cases back.symm.trans refreshing
      · refine ⟨aged, drained, rfl, first, second, fun passed => ?_⟩
        rcases s.system.generation.tryRetire_cases stagingLifetime false true aged drained with
          ⟨-, tried⟩ | ⟨early, -⟩
        · rw [tried] at declines
          cases declines
        · obtain ⟨_, since, -, running, -⟩ := id passed
          have superseded := attentive.sound.superseded.mp (by rw [running]; rfl)
          have expired := (attentive.sound.expired_iff (Nat.le_trans first second)).mpr passed
          exact early ⟨.inl superseded, .inl ⟨rfl, expired⟩⟩

theorem Attentive.wakeful (attentive : Attentive s) : Wakeful interval stagingLifetime s where
  permitted _ _ _ stepped returned running := attentive.permitted stepped returned running
  vacant nap started ends parked vacant announced :=
    wakes_of_heralded parked announced (attentive.vacant (by rw [parked]; rfl) vacant)
  ends nap started ends parked := by
    obtain ⟨later, within⟩ := attentive.parked nap started ends parked
    refine ⟨later, fun since limit known bound => ?_⟩
    have bounded := (attentive.nap nap (by rw [parked]; rfl)).bounded since limit known bound
    dsimp only [Instant, Duration] at *
    omega
  superseded nap started ends parked unknown announced := by
    rcases (attentive.nap nap (by rw [parked]; rfl)).known with known | heralded
    · exact absurd known unknown
    · exact wakes_of_heralded parked announced heralded
  refreshes _ _ stepped refreshing before := attentive.refreshes stepped refreshing before

/-- The retirement loop wakes when it must and refreshes only when it may. -/
theorem retirement_loop_wakes (own selected : UInt64) (staged : Bool) (limit : Option Duration) (started : Instant)
    (reached : Path (Retiring.step interval stagingLifetime) Any
      (Retiring.initial own selected staged limit started) s) :
    Wakeful interval stagingLifetime s := by
  have attentive : Attentive s := reached.invariant
    (fun _ _ _ attentive _ stepped => attentive.step stepped) (attentive_initial own selected staged limit started)
  exact attentive.wakeful

/-- A loop that went to sleep with a lease held, and then lost the lease and its place. -/
theorem retirement_loop_wakes_vacated :
    ∃ s : Retiring Unit Nat,
      Path (Retiring.step 1000 10) Any (Retiring.initial 2 2 false (some 60) 0) s ∧
      s.place = .parked ⟨4, none, 1000⟩ 4 1004 ∧ Vacant s.system ∧ Wakeful 1000 10 s := by
  have reached : Path (Retiring.step 1000 10) Any (Retiring.initial 2 2 false (some 60) 0 : Retiring Unit Nat) _ :=
    path_of_replay
      [.other (.admitSession 0), .subscribe, .update, .checkLimit 1 1, .refreshed, .retire 3 3, .measure 4, .sleep 4,
        .other (.select () 3 7), .other (.announce ()), .other (.drop 0)] rfl
  exact ⟨_, reached, rfl, ⟨by decide, rfl⟩, retirement_loop_wakes 2 2 false (some 60) 0 reached⟩

/-- A sleep of the one nanosecond that was left, started four later: it ends at 71, past 7 + 60. -/
theorem sleep_outlasts_the_drain_limit :
    ∃ s : Retiring Unit Nat,
      Path (Retiring.step 1000 10) Any (Retiring.initial 2 2 false (some 60) 0) s ∧
      s.system.generation.drainLimit = some 60 ∧ s.system.generation.sessions.supersededSince = some 7 ∧
      s.place = .parked ⟨66, some 7, 1⟩ 70 71 := by
  have reached : Path (Retiring.step 1000 10) Any (Retiring.initial 2 2 false (some 60) 0 : Retiring Unit Nat) _ :=
    path_of_replay
      [.other (.admitSession 0), .other (.select () 3 7), .other (.announce ()), .subscribe, .update, .checkLimit 66 66,
        .refreshed, .retire 66 66, .measure 66, .sleep 70] rfl
  exact ⟨_, reached, rfl, rfl, rfl⟩

end

end KunobiDaemon.Generations
