import WormVerify.Foundation.Checked
import Mathlib.Tactic.NormNum

/-! # Capped exponential backoff -/

namespace WormVerify.Resilience.Retry

open Checked

/-- A span of whole seconds and the nanoseconds of a further one. -/
structure Duration where
  secs : UInt64
  nanos : UInt32
  subsecond : nanos.toNat < 10 ^ 9
  deriving DecidableEq

namespace Duration

/-- `as_millis`, a `u128`. -/
def asMillis (duration : Duration) : Nat :=
  duration.secs.toNat * 1000 + duration.nanos.toNat / 10 ^ 6

def asNanos (duration : Duration) : Nat :=
  duration.secs.toNat * 10 ^ 9 + duration.nanos.toNat

theorem toNat_subsecond (millis : UInt64) :
    ((millis % 1000).toUInt32 * 1000000).toNat = millis.toNat % 1000 * 10 ^ 6 := by
  have remainder : millis.toNat % 1000 < 1000 := Nat.mod_lt _ (by decide)
  rw [UInt32.toNat_mul, UInt64.toNat_toUInt32, UInt64.toNat_mod]
  have literal : (1000 : UInt64).toNat = 1000 := rfl
  have factor : (1000000 : UInt32).toNat = 10 ^ 6 := rfl
  rw [literal, factor]
  omega

def fromMillis (millis : UInt64) : Duration where
  secs := millis / 1000
  nanos := (millis % 1000).toUInt32 * 1000000
  subsecond := by
    rw [toNat_subsecond]
    omega

@[simp] theorem asNanos_fromMillis (millis : UInt64) :
    (fromMillis millis).asNanos = millis.toNat * 10 ^ 6 := by
  simp only [asNanos, fromMillis, toNat_subsecond, UInt64.toNat_div]
  have literal : (1000 : UInt64).toNat = 1000 := rfl
  rw [literal]
  omega

theorem asMillis_lt (duration : Duration) : duration.asMillis < 2 ^ 74 := by
  have whole := duration.secs.toNat_lt
  have part := duration.subsecond
  unfold asMillis
  omega

end Duration

structure RetryPolicy where
  /-- Maximum number of attempts. -/
  maxAttempts : UInt32
  initialBackoff : Duration
  /-- Multiplier applied to the delay after each failed attempt. -/
  multiplier : UInt32
  /-- Upper bound on any single backoff delay. -/
  maxBackoff : Duration
  deriving DecidableEq

def RetryPolicy.backoffFor (policy : RetryPolicy) (attempt : UInt32) : Duration :=
  let factor := saturatingPowU32 policy.multiplier attempt
  let millis := saturatingMulU128 policy.initialBackoff.asMillis factor.toNat
  let capped := min millis policy.maxBackoff.asMillis
  .fromMillis (UInt64.ofNat capped)

/-! ## Saturation and truncation -/

/-- A factor that saturates changes the capped product unless the cap hides it. -/
theorem min_saturated_eq_iff (initial power limit cap : Nat) :
    min (initial * min power limit) cap = min (initial * power) cap ↔
      power ≤ limit ∨ initial = 0 ∨ cap ≤ initial * limit := by
  rcases Nat.le_total power limit with within | beyond
  · simp [within]
  · rw [Nat.min_eq_right beyond]
    have ordered : initial * limit ≤ initial * power := Nat.mul_le_mul_left initial beyond
    constructor
    · intro equal
      by_cases reached : cap ≤ initial * limit
      · exact .inr (.inr reached)
      · have same : initial * limit = initial * power := by omega
        rcases Nat.eq_zero_or_pos initial with zero | positive
        · exact .inr (.inl zero)
        · exact .inl (Nat.eq_of_mul_eq_mul_left positive same).ge
    · intro hidden
      rcases hidden with within | zero | reached
      · rw [Nat.le_antisymm within beyond]
      · simp [zero]
      · rw [Nat.min_eq_right reached, Nat.min_eq_right (Nat.le_trans reached ordered)]

theorem mod_eq_iff_of_le {value bound size : Nat} (ordered : value ≤ bound) :
    value % size = bound ↔ value = bound ∧ value % size = value := by
  have lower := Nat.mod_le value size
  omega

namespace RetryPolicy

variable (policy : RetryPolicy)

/-- The capped exponential in milliseconds, over the unbounded integers. -/
def exactMillis (attempt : UInt32) : Nat :=
  min (policy.initialBackoff.asMillis * policy.multiplier.toNat ^ attempt.toNat)
    policy.maxBackoff.asMillis

theorem asNanos_backoffFor (attempt : UInt32) :
    (policy.backoffFor attempt).asNanos =
      min (policy.initialBackoff.asMillis *
          min (policy.multiplier.toNat ^ attempt.toNat) (2 ^ 32 - 1))
        policy.maxBackoff.asMillis % 2 ^ 64 * 10 ^ 6 := by
  have unsaturated : policy.initialBackoff.asMillis *
      min (policy.multiplier.toNat ^ attempt.toNat) (2 ^ 32 - 1) ≤ 2 ^ 128 - 1 :=
    calc
      _ ≤ 2 ^ 74 * (2 ^ 32 - 1) :=
        Nat.mul_le_mul policy.initialBackoff.asMillis_lt.le (Nat.min_le_right _ _)
      _ ≤ 2 ^ 128 - 1 := by norm_num
  simp only [backoffFor, Duration.asNanos_fromMillis, toNat_saturatingPowU32,
    saturatingMulU128, Nat.min_eq_left unsaturated, UInt64.toNat_ofNat']

def ExactAt (attempt : UInt32) : Prop :=
  (policy.backoffFor attempt).asNanos = policy.exactMillis attempt * 10 ^ 6

/-- The result fits its type, and the power fits its own unless the cap makes
up for what is lost. -/
def FitsAt (attempt : UInt32) : Prop :=
  policy.exactMillis attempt < 2 ^ 64 ∧
    (policy.multiplier.toNat ^ attempt.toNat < 2 ^ 32 ∨
      policy.initialBackoff.asMillis = 0 ∨
      policy.maxBackoff.asMillis ≤ policy.initialBackoff.asMillis * (2 ^ 32 - 1))

theorem saturated_le (attempt : UInt32) :
    min (policy.initialBackoff.asMillis *
        min (policy.multiplier.toNat ^ attempt.toNat) (2 ^ 32 - 1))
      policy.maxBackoff.asMillis ≤ policy.exactMillis attempt :=
  min_le_min_right _ (Nat.mul_le_mul_left _ (Nat.min_le_left _ _))

theorem asNanos_backoffFor_le (attempt : UInt32) :
    (policy.backoffFor attempt).asNanos ≤ policy.exactMillis attempt * 10 ^ 6 := by
  rw [asNanos_backoffFor]
  exact Nat.mul_le_mul_right _ (Nat.le_trans (Nat.mod_le _ _) (policy.saturated_le attempt))

theorem exactAt_iff (attempt : UInt32) :
    policy.ExactAt attempt ↔ policy.FitsAt attempt := by
  have power : policy.multiplier.toNat ^ attempt.toNat < 2 ^ 32 ↔
      policy.multiplier.toNat ^ attempt.toNat ≤ 2 ^ 32 - 1 := by omega
  rw [ExactAt, asNanos_backoffFor, Nat.mul_left_inj (by decide),
    mod_eq_iff_of_le (policy.saturated_le attempt), Nat.mod_eq_iff_lt (by decide), FitsAt, power]
  constructor
  · intro exactly
    rcases exactly with ⟨same, fits⟩
    exact ⟨same ▸ fits, (min_saturated_eq_iff _ _ _ _).mp same⟩
  · intro fits
    rcases fits with ⟨fits, hidden⟩
    have same := (min_saturated_eq_iff _ _ _ _).mpr hidden
    exact ⟨same, same.symm ▸ fits⟩

/-! ## Whole policies -/

structure CappedExponential : Prop where
  exactly : ∀ attempt, policy.ExactAt attempt
  capped : ∀ attempt,
    (policy.backoffFor attempt).asNanos ≤ policy.maxBackoff.asMillis * 10 ^ 6
  grows : 1 ≤ policy.multiplier.toNat → ∀ earlier later : UInt32, earlier ≤ later →
    (policy.backoffFor earlier).asNanos ≤ (policy.backoffFor later).asNanos
  reaches : ∀ attempt : UInt32,
    policy.maxBackoff.asMillis ≤
        policy.initialBackoff.asMillis * policy.multiplier.toNat ^ attempt.toNat →
      (policy.backoffFor attempt).asNanos = policy.maxBackoff.asMillis * 10 ^ 6

theorem cappedExponential_iff_exact :
    policy.CappedExponential ↔ ∀ attempt, policy.ExactAt attempt := by
  constructor
  · exact CappedExponential.exactly
  · intro exactly
    refine ⟨exactly, ?_, ?_, ?_⟩
    · intro attempt
      exact (policy.asNanos_backoffFor_le attempt).trans
        (Nat.mul_le_mul_right _ (Nat.min_le_right _ _))
    · intro positive earlier later ordered
      rw [exactly earlier, exactly later]
      refine Nat.mul_le_mul_right _ (min_le_min_right _ (Nat.mul_le_mul_left _ ?_))
      exact Nat.pow_le_pow_right positive (UInt32.le_iff_toNat_le.mp ordered)
    · intro attempt reached
      rw [exactly attempt, exactMillis, Nat.min_eq_right reached]

/-- No delay is lost to a type that is too small: the cap hides the largest
factor and fits, or the delay never grows and fits. -/
def Fits : Prop :=
  policy.initialBackoff.asMillis = 0 ∨
    (policy.maxBackoff.asMillis < 2 ^ 64 ∧
      policy.maxBackoff.asMillis ≤ policy.initialBackoff.asMillis * (2 ^ 32 - 1)) ∨
    (policy.multiplier.toNat ≤ 1 ∧
      min policy.initialBackoff.asMillis policy.maxBackoff.asMillis < 2 ^ 64)

theorem fits_iff_fitsAt : policy.Fits ↔ ∀ attempt, policy.FitsAt attempt := by
  constructor
  · intro fits attempt
    rcases fits with zero | cap | constant
    · simp [FitsAt, exactMillis, zero]
    · exact ⟨Nat.lt_of_le_of_lt (Nat.min_le_right _ _) cap.1, .inr (.inr cap.2)⟩
    · have power : policy.multiplier.toNat ^ attempt.toNat ≤ 1 :=
        Nat.le_trans (Nat.pow_le_pow_left constant.1 _) (by rw [Nat.one_pow])
      refine ⟨Nat.lt_of_le_of_lt ?_ constant.2, .inl (Nat.lt_of_le_of_lt power (by decide))⟩
      exact min_le_min_right _ ((Nat.mul_le_mul_left _ power).trans_eq (Nat.mul_one _))
  · intro fits
    rcases Nat.lt_or_ge 1 policy.multiplier.toNat with growing | constant
    · have overflows : 2 ^ 32 ≤ policy.multiplier.toNat ^ (32 : UInt32).toNat :=
        Nat.pow_le_pow_left growing 32
      rcases fits 32 with ⟨bounded, below | zero | reached⟩
      · exact absurd below (Nat.not_lt.mpr overflows)
      · exact .inl zero
      · have beyond : policy.maxBackoff.asMillis ≤
            policy.initialBackoff.asMillis * policy.multiplier.toNat ^ (32 : UInt32).toNat :=
          Nat.le_trans reached
            (Nat.mul_le_mul_left _ (Nat.le_trans (Nat.sub_le _ 1) overflows))
        rw [exactMillis, Nat.min_eq_right beyond] at bounded
        exact .inr (.inl ⟨bounded, reached⟩)
    · have bounded := (fits 0).1
      simp only [exactMillis, UInt32.toNat_zero, Nat.pow_zero, Nat.mul_one] at bounded
      exact .inr (.inr ⟨constant, bounded⟩)

/-- Each delay is the capped exponential exactly when it and its factor fit,
and the delays of a policy follow it throughout exactly when all of them do. -/
theorem backoffFor_exact_iff :
    (∀ attempt, policy.ExactAt attempt ↔ policy.FitsAt attempt) ∧
      (policy.CappedExponential ↔ policy.Fits) := by
  refine ⟨policy.exactAt_iff, ?_⟩
  rw [cappedExponential_iff_exact, fits_iff_fitsAt]
  exact forall_congr' policy.exactAt_iff

def Sample.doubling : RetryPolicy where
  maxAttempts := 40
  initialBackoff := .fromMillis 1
  multiplier := 2
  maxBackoff := .fromMillis 8589934592

/-- The factor stops growing before the cap is reached. -/
theorem doubling_not_exact :
    ¬∀ policy : RetryPolicy, policy.CappedExponential := by
  intro always
  have exactly := (always Sample.doubling).exactly 33
  unfold ExactAt at exactly
  revert exactly
  decide +kernel

end RetryPolicy

end WormVerify.Resilience.Retry
