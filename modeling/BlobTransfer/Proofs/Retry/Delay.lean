import BlobTransfer.Proofs.Time.Rounding
import BlobTransfer.Retry.Options

/-!
The delay before a try. It keeps under its ceiling; cutting the delay off before it is stretched
changes nothing but whether the product is too long for a duration; and it grows from try to try.
-/

namespace BlobTransfer

namespace RetryOptions

variable {options : RetryOptions} {jitter : ℚ} {tryNumber later product stretched : Nat}

theorem delay_le_ceiling {scale : Duration → Option Duration} {delay : Duration}
    (found : options.delay scale tryNumber = some delay) : delay ≤ options.maxRetryDelay := by
  obtain ⟨scaled, _, rfl⟩ := Option.map_eq_some_iff.mp found
  change (min scaled options.maxRetryDelay).nanos ≤ options.maxRetryDelay.nanos
  rw [Duration.nanos_min]
  exact Nat.min_le_right _ _

/-- What is stretched in the end: the delay, cut off at twice the ceiling. -/
def cutDelay (options : RetryOptions) (tryNumber : Nat) : Duration :=
  min (options.baseDelay tryNumber) (options.maxRetryDelay.times 2)

theorem cutDelay_nanos (options : RetryOptions) (tryNumber : Nat) :
    (options.cutDelay tryNumber).nanos =
      min (options.baseDelay tryNumber).nanos (2 * options.maxRetryDelay.nanos) := by
  have bounded := (options.baseDelay tryNumber).inRange
  rw [cutDelay, Duration.nanos_min]
  change min _ (min (options.maxRetryDelay.nanos * 2) largestNanos) = _
  omega

theorem delay_of_nearest (nonnegative : 0 ≤ jitter)
    (nearest : Binary64.Nearest (jitter * (options.cutDelay tryNumber).nanos) stretched) :
    (largestNanos < stretched ∧
      options.delay (Duration.scaleExact jitter) tryNumber = none) ∨
    (stretched ≤ largestNanos ∧ ∃ delay,
      options.delay (Duration.scaleExact jitter) tryNumber = some delay ∧
        delay.nanos = min stretched options.maxRetryDelay.nanos) := by
  obtain ⟨rounded, nearest', scaled⟩ :=
    Duration.scaleExact_eq nonnegative (options.cutDelay tryNumber)
  obtain rfl := nearest.unique nearest'
  change _ ∧ (Duration.scaleExact jitter (options.cutDelay tryNumber)).map _ = none ∨
    _ ∧ ∃ delay, (Duration.scaleExact jitter (options.cutDelay tryNumber)).map _ = some delay ∧ _
  rw [scaled, Duration.ofNanos?]
  split
  · rename_i fits
    exact .inr ⟨fits, _, rfl, Duration.nanos_min _ _⟩
  · rename_i long
    exact .inl ⟨Nat.not_le.mp long, rfl⟩

theorem exists_nearest (nonnegative : 0 ≤ jitter) (duration : Duration) :
    ∃ product, Binary64.Nearest (jitter * duration.nanos) product := by
  obtain ⟨product, nearest, _⟩ := Duration.scaleExact_eq nonnegative duration
  exact ⟨product, nearest⟩

theorem delay_eq_none_iff (nonnegative : 0 ≤ jitter) :
    options.delay (Duration.scaleExact jitter) tryNumber = none ↔
      (largestNanos : ℚ) + 1 / 2 ≤ jitter * (options.cutDelay tryNumber).nanos := by
  obtain ⟨stretched, nearest⟩ := exists_nearest nonnegative (options.cutDelay tryNumber)
  have odd : largestNanos % 2 = 1 := by decide
  rw [← nearest.passes odd]
  obtain ⟨long, nothing⟩ | ⟨fits, delay, found, _⟩ := delay_of_nearest nonnegative nearest
  · exact iff_of_true nothing long
  · exact iff_of_false (by simp [found]) (Nat.not_lt.mpr fits)

/-- A delay keeps under the ceiling. There is none just when the product that is taken comes to
half a nanosecond more than the longest duration, which only happens under ceilings of which the
longest duration is not 2.6 times as long. -/
theorem delay_keeps_under_ceiling (options : RetryOptions) (least : 8 / 10 ≤ jitter)
    (most : jitter < 13 / 10) (tryNumber : Nat) :
    (∀ delay, options.delay (Duration.scaleExact jitter) tryNumber = some delay →
      delay ≤ options.maxRetryDelay) ∧
    (options.delay (Duration.scaleExact jitter) tryNumber = none ↔ (largestNanos : ℚ) + 1 / 2 ≤
      jitter * (min (options.baseDelay tryNumber) (options.maxRetryDelay.times 2)).nanos) ∧
    (26 * options.maxRetryDelay.nanos ≤ 10 * largestNanos →
      ∃ delay, options.delay (Duration.scaleExact jitter) tryNumber = some delay) := by
  have nonnegative : 0 ≤ jitter := by linarith
  have overflow : options.delay (Duration.scaleExact jitter) tryNumber = none ↔
      (largestNanos : ℚ) + 1 / 2 ≤ jitter * (options.cutDelay tryNumber).nanos :=
    delay_eq_none_iff nonnegative
  refine ⟨fun delay found => delay_le_ceiling found, overflow, fun moderate => ?_⟩
  rw [← Option.ne_none_iff_exists']
  intro nothing
  have long := overflow.mp nothing
  have cut : ((options.cutDelay tryNumber).nanos : ℚ) ≤ 2 * options.maxRetryDelay.nanos := by
    rw [cutDelay_nanos]
    exact_mod_cast Nat.min_le_right _ _
  have moderate' : (26 * options.maxRetryDelay.nanos : ℚ) ≤ 10 * largestNanos := by
    exact_mod_cast moderate
  have product : jitter * (options.cutDelay tryNumber).nanos ≤
      13 / 10 * (2 * options.maxRetryDelay.nanos) := by gcongr
  linarith

/-- A delay of ten thousand million seconds has grown to the longest duration by try 40, and the
ceiling is as long: there is no stretching that any more. -/
theorem stretched_delay_overflows :
    ∃ (given options : RetryOptions) (tryNumber : Nat) (jitter : ℚ),
      given.validated = .ok options ∧ 1 ≤ tryNumber ∧ 8 / 10 ≤ jitter ∧ jitter < 13 / 10 ∧
        options.delay (Duration.scaleExact jitter) tryNumber = none := by
  let given : RetryOptions := {
    retryDelay := .ofSeconds 10000000000, maxRetryDelay := .largest }
  let options : RetryOptions := {
    given with maxTries := defaultMaxTries, tryTimeout := defaultTryTimeout }
  refine ⟨given, options, 40, 12 / 10, rfl, by decide, by norm_num, by norm_num, ?_⟩
  decide +kernel

theorem long_default_delay_is_kept_under :
    let options : RetryOptions := { retryDelay := .ofSeconds 4, maxRetryDelay := .ofSeconds 120 }
    (8 / 10 : ℚ) ≤ 129 / 100 ∧ (129 / 100 : ℚ) < 13 / 10 ∧
      ∃ delay, options.delay (Duration.scaleExact (129 / 100)) 40 = some delay ∧
        delay ≤ options.maxRetryDelay := by
  intro options
  have least : (8 / 10 : ℚ) ≤ 129 / 100 := by norm_num
  have most : (129 / 100 : ℚ) < 13 / 10 := by norm_num
  obtain ⟨under, _, exists_delay⟩ := delay_keeps_under_ceiling options least most 40
  obtain ⟨delay, found⟩ := exists_delay (by decide)
  exact ⟨least, most, delay, found, under delay found⟩

theorem exponentialFactor_eq (counted : 1 ≤ tryNumber) (early : tryNumber ≤ 33) :
    exponentialFactor tryNumber = 2 ^ (tryNumber - 1) - 1 := by
  unfold exponentialFactor
  split
  · rfl
  · obtain rfl : tryNumber = 33 := by omega
    rfl

theorem exponentialFactor_late (late : 33 ≤ tryNumber) :
    exponentialFactor tryNumber = 2 ^ 32 - 1 := by
  unfold exponentialFactor
  rw [if_neg (by omega)]
  rfl

theorem exponentialFactor_mono (counted : 1 ≤ tryNumber) (ordered : tryNumber ≤ later) :
    exponentialFactor tryNumber ≤ exponentialFactor later := by
  have early : ∀ {first second : Nat}, 1 ≤ first → first ≤ second → second ≤ 33 →
      exponentialFactor first ≤ exponentialFactor second := by
    intro first second counted ordered early
    rw [exponentialFactor_eq counted (by omega), exponentialFactor_eq (by omega) early]
    exact Nat.sub_le_sub_right (Nat.pow_le_pow_right (by decide) (by omega)) 1
  by_cases late : 33 ≤ later
  · rw [exponentialFactor_late late, ← exponentialFactor_late (Nat.le_refl 33)]
    by_cases late' : 33 ≤ tryNumber
    · rw [exponentialFactor_late late', exponentialFactor_late (Nat.le_refl 33)]
    · exact early counted (by omega) (Nat.le_refl 33)
  · exact early counted ordered (by omega)

theorem baseDelay_exponential (grows : options.policy = .exponential) :
    (options.baseDelay tryNumber).nanos =
      min (options.retryDelay.nanos * exponentialFactor tryNumber) largestNanos := by
  simp only [baseDelay, grows]
  rfl

theorem baseDelay_fixed (steady : options.policy = .fixed) :
    options.baseDelay tryNumber = if 1 < tryNumber then options.retryDelay else .zero := by
  simp only [baseDelay, steady]

theorem baseDelay_mono (counted : 1 ≤ tryNumber) (ordered : tryNumber ≤ later) :
    (options.baseDelay tryNumber).nanos ≤ (options.baseDelay later).nanos := by
  cases policy : options.policy with
  | exponential =>
      rw [baseDelay_exponential policy, baseDelay_exponential policy]
      have factor := exponentialFactor_mono counted ordered
      have grown := Nat.mul_le_mul_left options.retryDelay.nanos factor
      omega
  | fixed =>
      rw [baseDelay_fixed policy, baseDelay_fixed policy]
      split
      · rw [if_pos (by omega)]
      · exact Nat.zero_le _

theorem cutDelay_mono (counted : 1 ≤ tryNumber) (ordered : tryNumber ≤ later) :
    (options.cutDelay tryNumber).nanos ≤ (options.cutDelay later).nanos := by
  have grown : (options.baseDelay tryNumber).nanos ≤ (options.baseDelay later).nanos :=
    baseDelay_mono counted ordered
  rw [cutDelay_nanos, cutDelay_nanos]
  omega

theorem min_stretched_eq (half : 1 / 2 ≤ jitter)
    (nearest : Binary64.Nearest (jitter * (options.baseDelay tryNumber).nanos) product)
    (nearest' : Binary64.Nearest (jitter * (options.cutDelay tryNumber).nanos) stretched) :
    min stretched options.maxRetryDelay.nanos = min product options.maxRetryDelay.nanos := by
  have cut := cutDelay_nanos options tryNumber
  by_cases short : (options.baseDelay tryNumber).nanos ≤ 2 * options.maxRetryDelay.nanos
  · rw [Nat.min_eq_left short] at cut
    rw [cut] at nearest'
    rw [nearest.unique nearest']
  · have long := Nat.le_of_not_le short
    rw [Nat.min_eq_right long] at cut
    have long' : (2 * options.maxRetryDelay.nanos : ℚ) ≤ (options.baseDelay tryNumber).nanos := by
      exact_mod_cast long
    have ceiling : (options.maxRetryDelay.nanos : ℚ) ≤
        jitter * (options.cutDelay tryNumber).nanos := by
      rw [cut]
      push_cast
      have nonnegative : (0 : ℚ) ≤ options.maxRetryDelay.nanos := by positivity
      nlinarith
    have reached : options.maxRetryDelay.nanos ≤ stretched :=
      (Binary64.nearest_natCast _).mono nearest' ceiling
    have further : stretched ≤ product := by
      refine nearest'.mono nearest ?_
      rw [cut]
      push_cast
      gcongr
    omega

theorem delay_mono (nonnegative : 0 ≤ jitter) (counted : 1 ≤ tryNumber)
    (ordered : tryNumber ≤ later) {longer : Duration}
    (found : options.delay (Duration.scaleExact jitter) later = some longer) :
    ∃ delay, options.delay (Duration.scaleExact jitter) tryNumber = some delay ∧
      delay ≤ longer := by
  obtain ⟨less, nearest⟩ := exists_nearest nonnegative (options.cutDelay tryNumber)
  obtain ⟨more, nearest'⟩ := exists_nearest nonnegative (options.cutDelay later)
  have grown : ((options.cutDelay tryNumber).nanos : ℚ) ≤ (options.cutDelay later).nanos := by
    exact_mod_cast cutDelay_mono counted ordered
  have rounded : less ≤ more := nearest.mono nearest' (by gcongr)
  obtain ⟨_, nothing⟩ | ⟨fits, _, found', exact⟩ := delay_of_nearest nonnegative nearest'
  · rw [nothing] at found
    contradiction
  · obtain rfl := Option.some.inj (found.symm.trans found')
    obtain ⟨long, _⟩ | ⟨_, delay, found'', exact'⟩ := delay_of_nearest nonnegative nearest
    · omega
    · refine ⟨delay, found'', ?_⟩
      change delay.nanos ≤ longer.nanos
      omega

theorem delay_of_plain (half : 1 / 2 ≤ jitter)
    (nearest : Binary64.Nearest (jitter * (options.baseDelay tryNumber).nanos) product) :
    (∀ delay, options.delay (Duration.scaleExact jitter) tryNumber = some delay →
      delay.nanos = min product options.maxRetryDelay.nanos) ∧
    (product ≤ largestNanos →
      ∃ delay, options.delay (Duration.scaleExact jitter) tryNumber = some delay) := by
  have nonnegative : 0 ≤ jitter := by linarith
  obtain ⟨stretched, nearest'⟩ := exists_nearest nonnegative (options.cutDelay tryNumber)
  have least := min_stretched_eq half nearest nearest'
  have cut : ((options.cutDelay tryNumber).nanos : ℚ) ≤ (options.baseDelay tryNumber).nanos := by
    rw [cutDelay_nanos]
    exact_mod_cast Nat.min_le_left _ _
  have shorter : stretched ≤ product := nearest'.mono nearest (by gcongr)
  obtain ⟨long, nothing⟩ | ⟨_, delay, found, exact⟩ := delay_of_nearest nonnegative nearest'
  · exact ⟨fun delay found => by simp [nothing] at found, fun fits => by omega⟩
  · refine ⟨fun delay' found' => ?_, fun _ => ⟨delay, found⟩⟩
    obtain rfl := Option.some.inj (found.symm.trans found')
    exact exact.trans least

/-- Under a factor of a half or more, the delay before a try is the product of the factor with the
delay of the policy, rounded to the nearest nanosecond and held under the ceiling. The delay of the
policy is that of its curve, and with the number of the try the delay does not get shorter. -/
theorem delay_is_plain_product (options : RetryOptions) (half : 1 / 2 ≤ jitter) :
    (∀ tryNumber, ∃ product,
      Binary64.Nearest (jitter * (options.baseDelay tryNumber).nanos) product ∧
      (∀ delay, options.delay (Duration.scaleExact jitter) tryNumber = some delay →
        delay.nanos = min product options.maxRetryDelay.nanos) ∧
      (product ≤ largestNanos →
        ∃ delay, options.delay (Duration.scaleExact jitter) tryNumber = some delay)) ∧
    (options.policy = .exponential → ∀ tryNumber,
      (1 ≤ tryNumber → tryNumber ≤ 33 → (options.baseDelay tryNumber).nanos =
        min (options.retryDelay.nanos * (2 ^ (tryNumber - 1) - 1)) largestNanos) ∧
      (33 ≤ tryNumber → (options.baseDelay tryNumber).nanos =
        min (options.retryDelay.nanos * (2 ^ 32 - 1)) largestNanos)) ∧
    (options.policy = .fixed → options.baseDelay 1 = .zero ∧
      ∀ tryNumber, 1 < tryNumber → options.baseDelay tryNumber = options.retryDelay) ∧
    ∀ tryNumber later longer, 1 ≤ tryNumber → tryNumber ≤ later →
      options.delay (Duration.scaleExact jitter) later = some longer →
      ∃ delay, options.delay (Duration.scaleExact jitter) tryNumber = some delay ∧
        delay ≤ longer := by
  have nonnegative : 0 ≤ jitter := by linarith
  refine ⟨fun tryNumber => ?_, fun grows tryNumber => ⟨fun counted early => ?_, fun late => ?_⟩,
    fun steady => ⟨?_, fun tryNumber again => ?_⟩, ?_⟩
  · obtain ⟨product, nearest⟩ := exists_nearest nonnegative (options.baseDelay tryNumber)
    exact ⟨product, nearest, delay_of_plain half nearest⟩
  · rw [baseDelay_exponential grows, exponentialFactor_eq counted early]
  · rw [baseDelay_exponential grows, exponentialFactor_late late]
  · rw [baseDelay_fixed steady, if_neg (by decide)]
  · rw [baseDelay_fixed steady, if_pos again]
  · intro tryNumber later longer counted ordered found
    exact delay_mono nonnegative counted ordered found

theorem late_try_waits_for_ceiling :
    let options : RetryOptions := { retryDelay := .ofMillis 300, maxRetryDelay := .ofSeconds 5 }
    (1 / 2 : ℚ) ≤ 4 / 5 ∧ ∃ product,
      Binary64.Nearest (4 / 5 * (options.baseDelay 33).nanos) product ∧
      ∃ delay, options.delay (Duration.scaleExact (4 / 5)) 33 = some delay ∧
        delay.nanos = min product options.maxRetryDelay.nanos := by
  intro options
  have half : (1 / 2 : ℚ) ≤ 4 / 5 := by norm_num
  obtain ⟨product, nearest, plain, _⟩ := (delay_is_plain_product options half).1 33
  have found : options.delay (Duration.scaleExact (4 / 5)) 33 = some (.ofSeconds 5) := by
    decide +kernel
  exact ⟨half, product, nearest, _, found, plain _ found⟩

end RetryOptions

end BlobTransfer
