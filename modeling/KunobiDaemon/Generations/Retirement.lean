import KunobiDaemon.Generations.Sessions

/-! A generation retires exactly when it may.

Only a selection above all before it moves the selected epoch (`Effect.selects`), so it can set the
drain clock only once. The counters follow the sets of live and of counted leases (`Sound`).
-/

set_option autoImplicit false

namespace KunobiDaemon.Generations

open Lib.Systems

section
variable {generation : Generation} {stagingLifetime : Duration} {idle drain : Bool} {aged drained : Instant}

/-- A call of `select` below the selected epoch fails, one at it changes nothing, and one above it
starts the drain clock unless that runs already. -/
theorem Generation.select_cases (generation : Generation) (selected : UInt64) (now : Instant) :
    (selected < generation.selected ∧ generation.select selected now =
      (generation, .error ⟨.other, .message "generation selection moved backwards"⟩)) ∨
    (selected = generation.selected ∧ generation.select selected now = (generation, .ok false)) ∨
    (generation.selected < selected ∧ generation.select selected now =
      ({ generation with
          selected
          sessions := { generation.sessions with
            supersededSince :=
              if generation.own < selected then some (generation.sessions.supersededSince.getD now)
              else generation.sessions.supersededSince } }, .ok true)) := by
  unfold select
  dsimp only
  split
  · rename_i onward
    split
    · rename_i different
      refine .inr (.inr ⟨UInt64.lt_of_le_of_ne onward different, ?_⟩)
      split <;> rfl
    · rename_i same
      obtain rfl := not_not.mp same
      exact .inr (.inl ⟨rfl, rfl⟩)
  · rename_i backwards
    exact .inl ⟨UInt64.not_le.mp backwards, rfl⟩

/-- A generation that may retire at some time. -/
def Eligible (generation : Generation) (stagingLifetime : Duration) (now : Instant) : Prop :=
  generation.own < generation.selected ∨
  (generation.staged = true ∧ generation.selected < generation.own ∧ stagingLifetime < now - generation.started)

/-- An attempt that retires. -/
structure Due (generation : Generation) (stagingLifetime : Duration) (idle drain : Bool) (aged drained : Instant) :
    Prop where
  eligible : Eligible generation stagingLifetime aged
  ended : (drain = true ∧ generation.expired drained = true) ∨ (idle = true ∧ generation.sessions.active = 0)

theorem barred_iff :
    (generation.selected ≤ generation.own && !(generation.staged && generation.selected < generation.own &&
      aged - generation.started > stagingLifetime)) = true ↔ ¬ Eligible generation stagingLifetime aged := by
  simp only [Eligible, Bool.and_eq_true, Bool.not_eq_true', Bool.and_eq_false_imp, decide_eq_true_eq, decide_eq_false_iff_not,
    not_or, not_and, and_imp, UInt64.not_lt, gt_iff_lt]

/-- All that an attempt can do. -/
theorem Generation.tryRetire_cases (generation : Generation) (stagingLifetime : Duration) (idle drain : Bool)
    (aged drained : Instant) :
    (Due generation stagingLifetime idle drain aged drained ∧
      generation.tryRetire stagingLifetime idle drain aged drained =
        ({ generation with sessions := { generation.sessions with retired := true } },
          some (if generation.sessions.active = 0 then .idle
            else .drainExpired generation.sessions.active generation.sessions.legacy))) ∨
    (¬ Due generation stagingLifetime idle drain aged drained ∧
      generation.tryRetire stagingLifetime idle drain aged drained = (generation, none)) := by
  unfold tryRetire
  dsimp only
  split
  · rename_i barred
    exact .inr ⟨fun due => barred_iff.mp barred due.eligible, rfl⟩
  · rename_i open_
    have eligible := not_not.mp (mt barred_iff.mpr open_)
    split
    · rename_i early
      refine .inr ⟨fun due => ?_, rfl⟩
      simp only [Bool.not_eq_true', ← Bool.not_eq_true, Bool.or_eq_true, Bool.and_eq_true, decide_eq_true_eq] at early
      exact early due.ended
    · rename_i late
      refine .inl ⟨⟨eligible, ?_⟩, rfl⟩
      simpa only [Bool.not_eq_true', Bool.not_eq_false, Bool.or_eq_true, Bool.and_eq_true, decide_eq_true_eq] using late

/-- A call that returns a retirement closes admission, and another leaves the generation as it was. -/
theorem Generation.tryRetire_generation (generation : Generation) (stagingLifetime : Duration) (idle drain : Bool)
    (aged drained : Instant) :
    (generation.tryRetire stagingLifetime idle drain aged drained).1 =
      if (generation.tryRetire stagingLifetime idle drain aged drained).2.isSome then
        { generation with sessions := { generation.sessions with retired := true } }
      else generation := by
  rcases generation.tryRetire_cases stagingLifetime idle drain aged drained with ⟨-, tried⟩ | ⟨-, tried⟩
  · rw [tried]
    rfl
  · rw [tried]
    rfl

end

section
variable {C K : Type} {s t : System C K}

/-- What holds of a generation at any time. -/
structure Sound (s : System C K) : Prop where
  active : s.generation.sessions.active = s.live.card
  legacy : s.generation.sessions.legacy = s.counted.card
  counted : s.counted ⊆ s.flagged
  flagged : s.flagged ⊆ s.live
  superseded : s.generation.sessions.supersededSince.isSome = true ↔ s.generation.own < s.generation.selected
  started : s.generation.started ≤ s.clock
  past : ∀ since, s.generation.sessions.supersededSince = some since → since ≤ s.clock

/-- How a generation can move, in one step or in many. -/
structure Onward (s t : System C K) : Prop where
  own : t.generation.own = s.generation.own
  staged : t.generation.staged = s.generation.staged
  drainLimit : t.generation.drainLimit = s.generation.drainLimit
  started : t.generation.started = s.generation.started
  selected : s.generation.selected ≤ t.generation.selected
  retired : s.generation.sessions.retired = true → t.generation.sessions.retired = true
  clock : s.clock ≤ t.clock

theorem Onward.refl (s : System C K) : Onward s s := ⟨rfl, rfl, rfl, rfl, UInt64.le_refl _, id, Nat.le_refl _⟩

theorem Onward.trans {u : System C K} (one : Onward s t) (two : Onward t u) : Onward s u :=
  ⟨two.own.trans one.own, two.staged.trans one.staged, two.drainLimit.trans one.drainLimit,
    two.started.trans one.started, UInt64.le_trans one.selected two.selected, two.retired ∘ one.retired,
    Nat.le_trans one.clock two.clock⟩

theorem initial_generation (own selected : UInt64) (staged : Bool) (limit : Option Duration) (started : Instant) :
    (System.initial own selected staged limit started : System C K).generation =
      { Generation.new own selected staged started with drainLimit := limit } := by
  cases limit <;> rfl

theorem sound_initial (own selected : UInt64) (staged : Bool) (limit : Option Duration) (started : Instant) :
    Sound (System.initial own selected staged limit started : System C K) := by
  have generation := initial_generation (C := C) (K := K) own selected staged limit started
  refine ⟨?_, ?_, Finset.Subset.refl _, Finset.Subset.refl _, ?_, ?_, ?_⟩
  all_goals
    rw [generation]
  · rfl
  · rfl
  · simp [Generation.new]
  · exact Nat.le_refl _
  · intro since set
    simp only [Generation.new, Option.ite_none_right_eq_some, Option.some.injEq] at set
    exact Nat.le_of_eq set.2.symm

/-- The counters are exact, and none of them can underflow. -/
structure Counts (s : System C K) : Prop where
  active : s.generation.sessions.active = s.live.card
  legacy : s.generation.sessions.legacy = s.counted.card
  counted : s.counted ⊆ s.live
  fewer : s.generation.sessions.legacy ≤ s.generation.sessions.active
  drop_active : ∀ lease ∈ s.live, 0 < s.generation.sessions.active
  drop_legacy : ∀ lease ∈ s.counted, 0 < s.generation.sessions.legacy

theorem Sound.counts (sound : Sound s) : Counts s where
  active := sound.active
  legacy := sound.legacy
  counted := sound.counted.trans sound.flagged
  fewer := by
    rw [sound.active, sound.legacy]
    exact Finset.card_le_card (sound.counted.trans sound.flagged)
  drop_active lease live := by
    rw [sound.active]
    exact Finset.card_pos.mpr ⟨lease, live⟩
  drop_legacy lease counted := by
    rw [sound.legacy]
    exact Finset.card_pos.mpr ⟨lease, counted⟩

/-- The drain limit has passed since a newer generation was selected. -/
def Passed (s : System C K) (now : Instant) : Prop :=
  ∃ limit since, s.generation.drainLimit = some limit ∧ s.generation.sessions.supersededSince = some since ∧
    since + limit ≤ now

/-- What a retirement rests on, and what it reports. -/
structure Justified (s : System C K) (stagingLifetime : Duration) (drain : Bool) (aged drained : Instant)
    (retirement : Retirement) : Prop where
  ground : s.generation.own < s.generation.selected ∨
    (s.generation.staged = true ∧ s.generation.selected < s.generation.own ∧
      s.generation.started + stagingLifetime < aged)
  held : s.live.Nonempty →
    drain = true ∧ s.generation.own < s.generation.selected ∧ Passed s drained ∧
    retirement = .drainExpired s.live.card s.counted.card
  free : s.live = ∅ → retirement = .idle

section
variable {stagingLifetime : Duration} {idle drain : Bool} {aged drained : Instant}

theorem Sound.expired_iff (sound : Sound s) (timely : s.clock ≤ drained) :
    s.generation.expired drained = true ↔ Passed s drained := by
  unfold Generation.expired Passed
  split
  · rename_i limit since bounded running
    have past : since ≤ drained := Nat.le_trans (sound.past since running) timely
    rw [decide_eq_true_eq]
    constructor
    · intro enough
      refine ⟨limit, since, bounded, running, ?_⟩
      dsimp only [Instant, Duration] at *
      omega
    · rintro ⟨_, _, same, began, enough⟩
      cases bounded.symm.trans same
      cases running.symm.trans began
      dsimp only [Instant, Duration] at *
      omega
  · rename_i never
    refine ⟨nofun, ?_⟩
    rintro ⟨limit, since, bounded, running, -⟩
    exact absurd running (never limit since bounded)

theorem Sound.justified (sound : Sound s) (first : s.clock ≤ aged) (second : aged ≤ drained) {retirement : Retirement}
    (retires : (s.generation.tryRetire stagingLifetime idle drain aged drained).2 = some retirement) :
    Justified s stagingLifetime drain aged drained retirement := by
  rcases s.generation.tryRetire_cases stagingLifetime idle drain aged drained with ⟨due, tried⟩ | ⟨-, tried⟩
  · rw [tried, sound.active, sound.legacy] at retires
    cases retires
    constructor
    · rcases due.eligible with superseded | ⟨staged, below, old⟩
      · exact .inl superseded
      · exact .inr ⟨staged, below, Nat.add_lt_of_lt_sub' old⟩
    · intro held
      have some_ : s.live.card ≠ 0 := Finset.card_ne_zero.mpr held
      -- While leases are held, an attempt that waits for none cannot retire.
      rcases due.ended with ⟨drains, expired⟩ | ⟨-, none_⟩
      · have passed := (sound.expired_iff (Nat.le_trans first second)).mp expired
        obtain ⟨limit, since, -, running, -⟩ := id passed
        refine ⟨drains, sound.superseded.mp (by rw [running]; rfl), passed, ?_⟩
        rw [if_neg some_]
      · exact absurd (sound.active.symm.trans none_) some_
    · rintro none_
      rw [if_pos (Finset.card_eq_zero.mpr none_)]
  · rw [tried] at retires
    cases retires

/-- While leases are held, the drain clock is the only ground. -/
theorem Sound.retireIfIdle (sound : Sound s) (held : s.live.Nonempty) (first : s.clock ≤ aged)
    (second : aged ≤ drained) : (s.generation.retireIfIdle stagingLifetime aged drained).2 = false := by
  unfold Generation.retireIfIdle
  dsimp only
  cases retires : (s.generation.tryRetire stagingLifetime true false aged drained).2 with
  | none => rfl
  | some retirement =>
      have drains := ((sound.justified first second retires).held held).1
      cases drains

theorem Sound.retire (sound : Sound s) (timely : s.clock ≤ drained)
    (superseded : s.generation.own < s.generation.selected) (ended : s.live = ∅ ∨ Passed s drained) :
    (s.generation.retire stagingLifetime aged drained).2.isSome = true := by
  unfold Generation.retire
  rcases s.generation.tryRetire_cases stagingLifetime true true aged drained with ⟨-, tried⟩ | ⟨early, -⟩
  · rw [tried]
    rfl
  · refine absurd ⟨.inl superseded, ?_⟩ early
    rcases ended with none_ | passed
    · refine .inr ⟨rfl, ?_⟩
      rw [sound.active, none_, Finset.card_empty]
    · exact .inl ⟨rfl, (sound.expired_iff timely).mpr passed⟩

end

variable [DecidableEq K]

/-- All that one step can do. -/
inductive Effect (s : System C K) : Label C K → System C K → Prop where
  | stays {label : Label C K} {version : Nat} {announcing : C → Bool} {clock : Instant} : s.clock ≤ clock →
      Effect s label { s with generation := { s.generation with version }, announcing, clock }
  | selects {caller : C} {selected : UInt64} {now : Instant} {announcing : C → Bool} :
      s.clock ≤ now → s.generation.selected < selected →
      Effect s (.select caller selected now)
        { s with
          generation := { s.generation with
            selected
            sessions := { s.generation.sessions with
              supersededSince :=
                if s.generation.own < selected then some (s.generation.sessions.supersededSince.getD now)
                else s.generation.sessions.supersededSince } }
          announcing
          clock := now }
  | admits {lease : K} : lease ∉ s.live →
      Effect s (.admitSession lease)
        { s with
          generation := { s.generation with
            sessions := { s.generation.sessions with active := s.generation.sessions.active + 1 } }
          live := insert lease s.live }
  | flags {lease : K} : lease ∈ s.live →
      Effect s (.markLegacy lease) { s with flagged := insert lease s.flagged }
  | counts {lease : K} : lease ∈ s.flagged → lease ∉ s.counted →
      Effect s (.countLegacy lease)
        { s with generation := s.generation.countLegacy, counted := insert lease s.counted }
  | drops {lease : K} : lease ∈ s.live → (lease ∈ s.flagged → lease ∈ s.counted) →
      Effect s (.drop lease)
        { s with
          generation := s.generation.drop (lease ∈ s.flagged)
          live := s.live.erase lease
          flagged := s.flagged.erase lease
          counted := s.counted.erase lease }
  | retires {stagingLifetime : Duration} {idle drain : Bool} {aged drained : Instant} : s.clock ≤ drained →
      (s.generation.tryRetire stagingLifetime idle drain aged drained).2.isSome = true →
      Effect s (.tryRetire stagingLifetime idle drain aged drained)
        { s with
          generation := { s.generation with sessions := { s.generation.sessions with retired := true } }
          clock := drained }

theorem step_effect [DecidableEq C] {label : Label C K} (stepped : s.step label = some t) : Effect s label t := by
  cases label with
  | select caller selected now =>
      simp only [System.step] at stepped
      split at stepped
      · cases stepped
      · rename_i timely
        simp only [Bool.or_eq_true, decide_eq_true_eq, not_or] at timely
        have later : s.clock ≤ now := Nat.le_of_not_lt timely.2
        cases stepped
        rcases s.generation.select_cases selected now with ⟨-, selects⟩ | ⟨-, selects⟩ | ⟨onward, selects⟩
        · rw [selects]
          exact .stays later
        · rw [selects]
          exact .stays later
        · rw [selects]
          exact .selects later onward
  | announce caller =>
      simp only [System.step] at stepped
      split at stepped
      · cases stepped
        exact .stays (Nat.le_refl _)
      · cases stepped
  | admitSession lease =>
      simp only [System.step] at stepped
      split at stepped
      · cases stepped
      · rename_i fresh
        unfold Generation.admitSession at stepped
        split at stepped
        · cases stepped
          exact .stays (Nat.le_refl _)
        · rename_i generation admitted
          split at admitted
          · cases admitted
          · cases admitted
            cases stepped
            exact .admits fresh
  | markLegacy lease =>
      simp only [System.step] at stepped
      split at stepped
      · cases stepped
      · rename_i live
        split at stepped
        · split at stepped
          · cases stepped
            exact .stays (Nat.le_refl _)
          · cases stepped
        · cases stepped
          exact .flags (not_not.mp live)
  | countLegacy lease =>
      simp only [System.step] at stepped
      split at stepped
      · rename_i marking
        cases stepped
        exact .counts marking.1 marking.2
      · cases stepped
  | drop lease =>
      simp only [System.step] at stepped
      split at stepped
      · rename_i free
        cases stepped
        exact .drops free.1 free.2
      · cases stepped
  | tryRetire stagingLifetime idle drain aged drained =>
      simp only [System.step] at stepped
      split at stepped
      · rename_i timely
        have later : s.clock ≤ drained := Nat.le_trans timely.1 timely.2
        cases stepped
        rcases s.generation.tryRetire_cases stagingLifetime idle drain aged drained with ⟨-, retires⟩ | ⟨-, retires⟩
        · have returned : (s.generation.tryRetire stagingLifetime idle drain aged drained).2.isSome = true := by
            rw [retires]
            rfl
          rw [retires]
          exact .retires later returned
        · rw [retires]
          exact .stays later
      · cases stepped

theorem Generation.drop_sessions (generation : Generation) (legacy : Bool) :
    generation.drop legacy =
      { generation with
        sessions := { generation.sessions with
          active := generation.sessions.active - 1, legacy := generation.sessions.legacy - legacy.toNat }
        version := generation.version + 1 } := by
  cases legacy <;> rfl

theorem Effect.onward {label : Label C K} (effect : Effect s label t) : Onward s t := by
  cases effect with
  | stays later => exact ⟨rfl, rfl, rfl, rfl, UInt64.le_refl _, id, later⟩
  | selects later onward => exact ⟨rfl, rfl, rfl, rfl, UInt64.le_of_lt onward, id, later⟩
  | admits | flags | counts => exact ⟨rfl, rfl, rfl, rfl, UInt64.le_refl _, id, Nat.le_refl _⟩
  | drops =>
      rw [Generation.drop_sessions]
      exact ⟨rfl, rfl, rfl, rfl, UInt64.le_refl _, id, Nat.le_refl _⟩
  | retires later => exact ⟨rfl, rfl, rfl, rfl, UInt64.le_refl _, fun _ => rfl, later⟩

/-- Admission stays as it is, or a call that retires closes it. -/
theorem Effect.retired {label : Label C K} (effect : Effect s label t) :
    t.generation.sessions.retired = s.generation.sessions.retired ∨
    ∃ stagingLifetime idle drain aged drained, label = .tryRetire stagingLifetime idle drain aged drained ∧
      (s.generation.tryRetire stagingLifetime idle drain aged drained).2.isSome = true := by
  cases effect with
  | stays | selects | admits | flags | counts => exact .inl rfl
  | drops =>
      rw [Generation.drop_sessions]
      exact .inl rfl
  | retires later returned => exact .inr ⟨_, _, _, _, _, rfl, returned⟩

/-- The drain clock stays as it is, or a first selection beyond the own epoch starts it. -/
theorem Effect.superseded {label : Label C K} (sound : Sound s) (effect : Effect s label t) :
    t.generation.sessions.supersededSince = s.generation.sessions.supersededSince ∨
    ∃ caller selected now, label = .select caller selected now ∧
      t.generation.sessions.supersededSince = some now ∧ now = t.clock ∧
      s.generation.selected ≤ s.generation.own ∧ t.generation.own < t.generation.selected := by
  cases effect with
  | stays | admits | flags | counts | retires => exact .inl rfl
  | drops =>
      rw [Generation.drop_sessions]
      exact .inl rfl
  | @selects caller selected now announcing later onward =>
      dsimp only
      split
      · rename_i beyond
        cases running : s.generation.sessions.supersededSince with
        | some since => exact .inl rfl
        | none =>
            -- The clock does not run, so no selection has been above the own epoch.
            have within : ¬ s.generation.own < s.generation.selected := by
              rw [← sound.superseded, running]
              exact Bool.false_ne_true
            exact .inr ⟨caller, selected, now, rfl, rfl, rfl, UInt64.not_lt.mp within, beyond⟩
      · exact .inl rfl

theorem Sound.effect {label : Label C K} (sound : Sound s) (effect : Effect s label t) : Sound t := by
  have onward := effect.onward
  have started : t.generation.started ≤ t.clock := by
    rw [onward.started]
    exact Nat.le_trans sound.started onward.clock
  have past : ∀ since, t.generation.sessions.supersededSince = some since → since ≤ t.clock := by
    intro since set
    rcases effect.superseded sound with same | ⟨caller, selected, now, -, first, rfl, -⟩
    · exact Nat.le_trans (sound.past since (same ▸ set)) onward.clock
    · rw [first] at set
      cases set
      exact Nat.le_refl _
  cases effect with
  | stays => exact ⟨sound.active, sound.legacy, sound.counted, sound.flagged, sound.superseded, started, past⟩
  | retires => exact ⟨sound.active, sound.legacy, sound.counted, sound.flagged, sound.superseded, started, past⟩
  | @selects caller selected now announcing later higher =>
      refine ⟨sound.active, sound.legacy, sound.counted, sound.flagged, ?_, started, past⟩
      dsimp only
      split
      · rename_i beyond
        exact ⟨fun _ => beyond, fun _ => rfl⟩
      · rename_i within
        rw [sound.superseded]
        refine ⟨fun before => absurd (UInt64.lt_trans before higher) within, fun beyond => absurd beyond within⟩
  | admits fresh =>
      refine ⟨?_, sound.legacy, sound.counted, sound.flagged.trans (Finset.subset_insert _ _), sound.superseded, started,
        past⟩
      rw [Finset.card_insert_of_notMem fresh, ← sound.active]
  | flags live =>
      refine ⟨sound.active, sound.legacy, sound.counted.trans (Finset.subset_insert _ _), ?_, sound.superseded, started,
        past⟩
      exact Finset.insert_subset live sound.flagged
  | counts flagged fresh =>
      refine ⟨sound.active, ?_, Finset.insert_subset flagged sound.counted, sound.flagged, sound.superseded, started, past⟩
      rw [Finset.card_insert_of_notMem fresh, ← sound.legacy]
      rfl
  | @drops lease live free =>
      rw [Generation.drop_sessions] at started past ⊢
      refine ⟨?_, ?_, Finset.erase_subset_erase _ sound.counted, Finset.erase_subset_erase _ sound.flagged,
        sound.superseded, started, past⟩
      · rw [Finset.card_erase_of_mem live, ← sound.active]
      · -- A lease that is marked has been counted by the time it is dropped.
        by_cases flagged : lease ∈ s.flagged
        · simp only [flagged, decide_true, Bool.toNat_true]
          rw [Finset.card_erase_of_mem (free flagged), ← sound.legacy]
        · simp only [flagged, decide_false, Bool.toNat_false, Nat.sub_zero]
          rw [Finset.erase_eq_of_notMem (fun counted => flagged (sound.counted counted)), ← sound.legacy]

variable [DecidableEq C]

theorem onward_of_path (path : Path System.step Any s t) : Onward s t :=
  path.invariant (fun _ _ _ onward _ stepped => onward.trans (step_effect stepped).onward) (Onward.refl s)

theorem sound_of_path (sound : Sound s) (path : Path System.step Any s t) : Sound t :=
  path.invariant (fun _ _ _ sound _ stepped => sound.effect (step_effect stepped)) sound

/-- The selected epoch first exceeded the own one in a call of `select` that read this time. -/
def Exceeded (initial s : System C K) (since : Instant) : Prop :=
  ∃ before after caller selected, Path System.step Any initial before ∧
    before.generation.selected ≤ before.generation.own ∧ before.step (.select caller selected since) = some after ∧
    after.generation.own < after.generation.selected ∧ Path System.step Any after s

/-- A drain clock that runs was running from the start, or started when the selected epoch first
exceeded the own one. -/
theorem exceeded_of_path {initial : System C K} (sound : Sound initial) (path : Path System.step Any initial s)
    {since : Instant} (set : s.generation.sessions.supersededSince = some since) :
    initial.generation.sessions.supersededSince = some since ∨ Exceeded initial s since := by
  induction path with
  | refl => exact .inl set
  | @tail middle last earlier next ih =>
      -- The last step has started the clock, or it ran before that step.
      obtain ⟨label, -, stepped⟩ := next
      rcases (step_effect stepped).superseded (sound_of_path sound earlier) with
        same | ⟨caller, selected, now, rfl, first, -, within, beyond⟩
      · rcases ih (same ▸ set) with running | ⟨before, after, caller, selected, until_, within, selects, beyond, later⟩
        · exact .inl running
        · exact .inr ⟨before, after, caller, selected, until_, within, selects, beyond,
            later.tail ⟨label, trivial, stepped⟩⟩
      · rw [first] at set
        cases set
        exact .inr ⟨middle, last, caller, selected, earlier, within, stepped, beyond, .refl⟩

/-- Some call before has returned a retirement. -/
def Retired (initial s : System C K) : Prop :=
  ∃ before after stagingLifetime idle drain aged drained, Path System.step Any initial before ∧
    before.step (.tryRetire stagingLifetime idle drain aged drained) = some after ∧
    (before.generation.tryRetire stagingLifetime idle drain aged drained).2.isSome = true ∧
    Path System.step Any after s

theorem retired_of_returned {stagingLifetime : Duration} {idle drain : Bool} {aged drained : Instant}
    (stepped : s.step (.tryRetire stagingLifetime idle drain aged drained) = some t)
    (returned : (s.generation.tryRetire stagingLifetime idle drain aged drained).2.isSome = true) :
    t.generation.sessions.retired = true := by
  simp only [System.step, Option.ite_none_right_eq_some, Option.some.injEq] at stepped
  rw [← stepped.2, Generation.tryRetire_generation, if_pos returned]

/-- Admission that is closed was so from the start, or was closed by a call that returned a retirement. -/
theorem retired_of_path {initial : System C K} (path : Path System.step Any initial s)
    (closed : s.generation.sessions.retired = true) :
    initial.generation.sessions.retired = true ∨ Retired initial s := by
  induction path with
  | refl => exact .inl closed
  | @tail middle last earlier next ih =>
      obtain ⟨label, -, stepped⟩ := next
      rcases (step_effect stepped).retired with same | ⟨stagingLifetime, idle, drain, aged, drained, rfl, returned⟩
      · rcases ih (same ▸ closed) with before | ⟨before, after, _, _, _, _, _, until_, retires, returned, later⟩
        · exact .inl before
        · exact .inr ⟨before, after, _, _, _, _, _, until_, retires, returned, later.tail ⟨label, trivial, stepped⟩⟩
      · exact .inr ⟨middle, last, _, _, _, _, _, earlier, stepped, returned, .refl⟩

/-- What the operations on a generation keep to, in a state that was reached from another. -/
structure Governed (initial s : System C K) : Prop where
  onward : Onward initial s
  counts : Counts s
  backwards : ∀ lower now, lower < s.generation.selected → s.generation.select lower now =
    (s.generation, .error ⟨.other, .message "generation selection moved backwards"⟩)
  superseded : s.generation.sessions.supersededSince.isSome = true ↔ s.generation.own < s.generation.selected
  first : ∀ since, s.generation.sessions.supersededSince = some since →
    (initial.generation.own < initial.generation.selected ∧ since = initial.generation.started) ∨
    Exceeded initial s since
  justified : ∀ stagingLifetime idle drain aged drained retirement, s.clock ≤ aged → aged ≤ drained →
    (s.generation.tryRetire stagingLifetime idle drain aged drained).2 = some retirement →
    Justified s stagingLifetime drain aged drained retirement
  idle : s.live.Nonempty → ∀ stagingLifetime aged drained, s.clock ≤ aged → aged ≤ drained →
    (s.generation.retireIfIdle stagingLifetime aged drained).2 = false
  retires : ∀ stagingLifetime aged drained, s.clock ≤ aged → aged ≤ drained →
    s.generation.own < s.generation.selected → s.live = ∅ ∨ Passed s drained →
    (s.generation.retire stagingLifetime aged drained).2.isSome = true
  closed : s.generation.admitSession = none ↔ s.generation.sessions.retired = true
  /-- A call that returns a retirement closes admission and changes nothing else. -/
  closes : ∀ stagingLifetime idle drain aged drained retirement,
    (s.generation.tryRetire stagingLifetime idle drain aged drained).2 = some retirement →
    (s.generation.tryRetire stagingLifetime idle drain aged drained).1 =
      { s.generation with sessions := { s.generation.sessions with retired := true } }
  /-- A call that returns none leaves the generation as it was. -/
  keeps : ∀ stagingLifetime idle drain aged drained,
    (s.generation.tryRetire stagingLifetime idle drain aged drained).2 = none →
    (s.generation.tryRetire stagingLifetime idle drain aged drained).1 = s.generation
  /-- Nothing but a call that returned a retirement has closed admission. -/
  retired : s.generation.sessions.retired = true ↔ Retired initial s

/-- A generation retires exactly when it may. -/
theorem generation_retires_exactly (own selected : UInt64) (staged : Bool) (limit : Option Duration) (started : Instant)
    (path : Path System.step Any (System.initial own selected staged limit started) s) :
    Governed (System.initial own selected staged limit started) s ∧
    ∀ t, Path System.step Any s t → Onward s t := by
  have initially : Sound (System.initial own selected staged limit started : System C K) := sound_initial ..
  have sound := sound_of_path initially path
  refine ⟨?_, fun t later => onward_of_path later⟩
  constructor
  · exact onward_of_path path
  · exact sound.counts
  · intro lower now below
    rcases s.generation.select_cases lower now with ⟨-, selects⟩ | ⟨rfl, -⟩ | ⟨above, -⟩
    · exact selects
    · exact absurd below (UInt64.lt_irrefl _)
    · exact absurd below (UInt64.lt_asymm above)
  · exact sound.superseded
  · intro since set
    refine (exceeded_of_path initially path set).imp_left fun running => ?_
    rw [initial_generation] at running ⊢
    simp only [Generation.new, Option.ite_none_right_eq_some, Option.some.injEq] at running ⊢
    exact ⟨running.1, running.2.symm⟩
  · intro stagingLifetime idle drain aged drained retirement first second
    exact sound.justified first second
  · intro held stagingLifetime aged drained first second
    exact sound.retireIfIdle held first second
  · intro stagingLifetime aged drained first second superseded ended
    exact sound.retire (Nat.le_trans first second) superseded ended
  · unfold Generation.admitSession
    split <;> simp_all
  · intro stagingLifetime idle drain aged drained retirement returned
    rw [Generation.tryRetire_generation, returned]
    rfl
  · intro stagingLifetime idle drain aged drained returned
    rw [Generation.tryRetire_generation, returned]
    rfl
  · constructor
    · intro closed
      refine (retired_of_path path closed).resolve_left ?_
      rw [initial_generation]
      exact Bool.false_ne_true
    · rintro ⟨before, after, stagingLifetime, idle, drain, aged, drained, -, stepped, returned, later⟩
      exact (onward_of_path later).retired (retired_of_returned stepped returned)

/-- A generation with a legacy session that retires at its drain limit. -/
theorem generation_retires_exactly_expired :
    ∃ s : System Unit Nat, Path System.step Any (System.initial 2 2 false (some 60) 0) s ∧
      s.generation.sessions = ⟨1, 1, true, some 7⟩ ∧ Governed (System.initial 2 2 false (some 60) 0) s := by
  have path : Path System.step Any (System.initial 2 2 false (some 60) 0 : System Unit Nat) _ :=
    path_of_replay
      [.admitSession 0, .markLegacy 0, .countLegacy 0, .select () 3 7, .announce (), .tryRetire 0 true true 66 66,
        .tryRetire 0 true true 67 67] rfl
  exact ⟨_, path, rfl, (generation_retires_exactly 2 2 false (some 60) 0 path).1⟩

end

end KunobiDaemon.Generations
