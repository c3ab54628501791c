import KunobiDaemon.Lib.Words

/-! Persistable replacement attempt budgets.

A campaign reserves before each launch and only when it is allowed to. Its delays double until
they reach the policy's maximum, and neither they nor the clock wrap around.
-/

set_option autoImplicit false

namespace KunobiDaemon.Retry

open Lib

/-- Consumer policy for candidate retries. -/
structure Policy where
  limit : UInt64
  delay : UInt64
  maximumDelay : UInt64
  deriving DecidableEq, Repr

/-- State stored alongside the consumer's candidate fingerprint. -/
structure State where
  attempts : UInt64 := 0
  nextAttempt : UInt64 := 0
  deriving DecidableEq, Repr

namespace State

/-- Whether this campaign may attempt a candidate now. -/
def allowed (state : State) (policy : Policy) (now : UInt64) : Bool :=
  state.attempts < policy.limit && now ≥ state.nextAttempt

/-- Reserve before launching. The shift would panic if its amount could reach the width. -/
def reserve (state : State) (policy : Policy) (now : UInt64) : Option State :=
  let attempts := Words.saturatingAdd state.attempts 1
  (Words.bit (min attempts 63)).map fun multiplier =>
    { attempts
      nextAttempt := Words.saturatingAdd now (min (Words.saturatingMul policy.delay multiplier) policy.maximumDelay) }

/-- A permanent candidate failure exhausts the campaign. -/
def exhaust (state : State) (policy : Policy) : State := { state with attempts := policy.limit }

/-- Next retry time, or none once a new candidate selection is required. -/
def next (state : State) (policy : Policy) : Option UInt64 :=
  if state.attempts < policy.limit then some state.nextAttempt else none

end State

/-- A campaign, with the reservations it has made. -/
structure Campaign where
  state : State := {}
  reserved : Nat := 0
  deriving DecidableEq, Repr

/-- A try at this time. -/
def Campaign.attempt (policy : Policy) (campaign : Campaign) (now : UInt64) : Option Campaign :=
  if campaign.state.allowed policy now then
    (campaign.state.reserve policy now).map fun state => ⟨state, campaign.reserved + 1⟩
  else some campaign

/-- A campaign that tries at these times, in this order. -/
def campaign (policy : Policy) (times : List UInt64) : Option Campaign :=
  times.foldlM (Campaign.attempt policy) {}

section
variable (policy : Policy) (state : State) (now : UInt64)

theorem allowed_eq_true : state.allowed policy now = true ↔ state.attempts < policy.limit ∧ state.nextAttempt ≤ now := by
  simp [State.allowed]

/-- Both readings a consumer may act on give the same answer. -/
theorem allowed_iff_next :
    state.allowed policy now = true ↔ ∃ time, state.next policy = some time ∧ time ≤ now := by
  rw [allowed_eq_true, State.next]
  split
  · rename_i left
    simp [left]
  · rename_i spent
    simp [spent]

theorem spent_of_limit (spent : policy.limit ≤ state.attempts) :
    state.allowed policy now = false ∧ state.next policy = none := by
  have none_left : ¬ state.attempts < policy.limit := UInt64.not_lt.mpr spent
  exact ⟨by simp [State.allowed, none_left], if_neg none_left⟩

/-- A reservation never panics. -/
theorem reserve_eq : ∃ multiplier : UInt64,
    multiplier.toNat = 2 ^ min (state.attempts.toNat + 1) 63 ∧
    state.reserve policy now = some
      { attempts := Words.saturatingAdd state.attempts 1
        nextAttempt := Words.saturatingAdd now (min (Words.saturatingMul policy.delay multiplier) policy.maximumDelay) } := by
  have amount : (min (Words.saturatingAdd state.attempts 1) 63).toNat = min (state.attempts.toNat + 1) 63 := by
    rw [Words.toNat_min, Words.toNat_saturatingAdd]
    simp only [UInt64.toNat_one, UInt64.reduceToNat]
    omega
  have below : (min (Words.saturatingAdd state.attempts 1) 63).toNat < 64 := by
    rw [amount]
    exact Nat.lt_of_le_of_lt (Nat.min_le_right _ _) (by decide)
  obtain ⟨multiplier, shifted, power⟩ := Words.bit_eq below
  refine ⟨multiplier, power.trans (by rw [amount]), ?_⟩
  rw [State.reserve, shifted]
  rfl

/-- A reservation waits at least the initial delay and at most the maximum one, or the maximum alone if it is lower. -/
theorem reserve_waits {state next : State} (reserved : state.reserve policy now = some next) :
    Words.saturatingAdd now (min policy.delay policy.maximumDelay) ≤ next.nextAttempt ∧
    next.nextAttempt ≤ Words.saturatingAdd now policy.maximumDelay := by
  obtain ⟨multiplier, power, made⟩ := reserve_eq policy state now
  cases made.symm.trans reserved
  have doubled : 1 ≤ multiplier.toNat := power ▸ Nat.one_le_two_pow
  refine ⟨Words.saturatingAdd_mono (UInt64.le_refl _) ?_, Words.saturatingAdd_mono (UInt64.le_refl _) ?_⟩
  · have longer : policy.delay.toNat * 1 ≤ policy.delay.toNat * multiplier.toNat := Nat.mul_le_mul_left _ doubled
    have delay := policy.delay.toNat_lt
    rw [UInt64.le_iff_toNat_le, Words.toNat_min, Words.toNat_min, Words.toNat_saturatingMul]
    omega
  · rw [UInt64.le_iff_toNat_le, Words.toNat_min]
    exact Nat.min_le_right _ _

/-- At one clock reading, a campaign with more attempts behind it waits no shorter. -/
theorem reserve_mono {earlier later next after : State} (fewer : earlier.attempts ≤ later.attempts)
    (reserved : earlier.reserve policy now = some next) (also : later.reserve policy now = some after) :
    next.nextAttempt ≤ after.nextAttempt := by
  obtain ⟨multiplier, power, made⟩ := reserve_eq policy earlier now
  obtain ⟨larger, power', made'⟩ := reserve_eq policy later now
  cases made.symm.trans reserved
  cases made'.symm.trans also
  have grows : multiplier ≤ larger := by
    rw [UInt64.le_iff_toNat_le] at fewer ⊢
    rw [power, power']
    exact Nat.pow_le_pow_right (by decide) (by omega)
  have product := Words.saturatingMul_mono (UInt64.le_refl policy.delay) grows
  refine Words.saturatingAdd_mono (UInt64.le_refl _) ?_
  rw [UInt64.le_iff_toNat_le] at product ⊢
  rw [Words.toNat_min, Words.toNat_min]
  omega

/-- A campaign has spent one attempt for each reservation, and no more than its limit. -/
structure Counted (campaign : Campaign) : Prop where
  counted : campaign.state.attempts.toNat = campaign.reserved
  limited : campaign.reserved ≤ policy.limit.toNat

theorem Counted.attempt {campaign : Campaign} (counted : Counted policy campaign) :
    ∃ next, campaign.attempt policy now = some next ∧ Counted policy next ∧
      (campaign.state.allowed policy now = true → next.reserved = campaign.reserved + 1) := by
  unfold Campaign.attempt
  by_cases allowed : campaign.state.allowed policy now = true
  · obtain ⟨multiplier, -, made⟩ := reserve_eq policy campaign.state now
    have left : campaign.state.attempts.toNat < policy.limit.toNat :=
      UInt64.lt_iff_toNat_lt.mp ((allowed_eq_true policy campaign.state now).mp allowed).1
    have spent := policy.limit.toNat_lt
    rw [if_pos allowed, made]
    refine ⟨_, rfl, ⟨?_, ?_⟩, fun _ => rfl⟩
    · rw [Words.toNat_saturatingAdd, UInt64.toNat_one, Nat.min_eq_left (by omega), counted.counted]
    · rw [← counted.counted]
      exact left
  · rw [if_neg allowed]
    exact ⟨campaign, rfl, counted, fun permitted => absurd permitted allowed⟩

theorem counted_campaign (times : List UInt64) : ∃ done, campaign policy times = some done ∧ Counted policy done := by
  have run : ∀ begun : Campaign, Counted policy begun →
      ∃ done, times.foldlM (Campaign.attempt policy) begun = some done ∧ Counted policy done := by
    induction times with
    | nil => exact fun begun counted => ⟨begun, rfl, counted⟩
    | cons time times ih =>
        intro begun counted
        obtain ⟨next, tried, counted, -⟩ := counted.attempt policy time
        obtain ⟨done, ran, counted⟩ := ih next counted
        exact ⟨done, by rw [List.foldlM_cons, tried]; exact ran, counted⟩
  exact run {} ⟨rfl, Nat.zero_le _⟩

end

/-- What a campaign has spent, and can still spend. -/
structure Budgeted (policy : Policy) (campaign : Campaign) : Prop extends Counted policy campaign where
  /-- Until the limit, every try at a permitted time reserves. -/
  spends : campaign.reserved < policy.limit.toNat → ∀ now, campaign.state.nextAttempt ≤ now →
    ∃ next, campaign.attempt policy now = some next ∧ next.reserved = campaign.reserved + 1
  spent : campaign.reserved = policy.limit.toNat →
    campaign.state.next policy = none ∧ ∀ now, campaign.state.allowed policy now = false

/-- What a consumer can rely on in any state, a stale or hand-edited one included. -/
structure Scheduled (policy : Policy) (state : State) : Prop where
  permitted : ∀ now, state.allowed policy now = true ↔ ∃ time, state.next policy = some time ∧ time ≤ now
  /-- A reservation never panics. -/
  reserves : ∀ now, ∃ next, state.reserve policy now = some next ∧
    Words.saturatingAdd now (min policy.delay policy.maximumDelay) ≤ next.nextAttempt ∧
    next.nextAttempt ≤ Words.saturatingAdd now policy.maximumDelay
  grows : ∀ (later next after : State) now, state.attempts ≤ later.attempts →
    state.reserve policy now = some next → later.reserve policy now = some after → next.nextAttempt ≤ after.nextAttempt
  exhausted : (state.exhaust policy).next policy = none ∧ ∀ now, (state.exhaust policy).allowed policy now = false

theorem scheduled (policy : Policy) (state : State) : Scheduled policy state := by
  refine ⟨allowed_iff_next policy state, fun now => ?_, fun later next after now => reserve_mono policy now, ?_⟩
  · obtain ⟨_, -, made⟩ := reserve_eq policy state now
    exact ⟨_, made, reserve_waits policy now made⟩
  · have spent := spent_of_limit policy (state.exhaust policy)
    exact ⟨(spent 0 (UInt64.le_refl _)).2, fun now => (spent now (UInt64.le_refl _)).1⟩

theorem Counted.budgeted {policy : Policy} {campaign : Campaign} (counted : Counted policy campaign) :
    Budgeted policy campaign := by
  refine ⟨counted, fun left now permitted => ?_, fun spent => ?_⟩
  · have allowed : campaign.state.allowed policy now = true := by
      rw [allowed_eq_true, UInt64.lt_iff_toNat_lt, counted.counted]
      exact ⟨left, permitted⟩
    obtain ⟨next, tried, -, reserved⟩ := counted.attempt policy now
    exact ⟨next, tried, reserved allowed⟩
  · have limit : policy.limit ≤ campaign.state.attempts := by
      rw [UInt64.le_iff_toNat_le, counted.counted]
      exact Nat.le_of_eq spent.symm
    have none_left := spent_of_limit policy campaign.state
    exact ⟨(none_left 0 limit).2, fun now => (none_left now limit).1⟩

theorem campaign_spends_its_limit (policy : Policy) :
    (∀ times, ∃ done, campaign policy times = some done ∧ Budgeted policy done) ∧
    ∀ state, Scheduled policy state := by
  refine ⟨fun times => ?_, scheduled policy⟩
  obtain ⟨done, ran, counted⟩ := counted_campaign policy times
  exact ⟨done, ran, counted.budgeted⟩

end KunobiDaemon.Retry
