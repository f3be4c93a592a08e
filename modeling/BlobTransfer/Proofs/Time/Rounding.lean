import BlobTransfer.Time.Scaling
import Mathlib.Algebra.Order.Field.Basic
import Mathlib.Algebra.Order.Ring.Abs
import Mathlib.Data.Rat.Cast.Order
import Mathlib.Tactic.FieldSimp
import Mathlib.Tactic.Linarith

/-!
Rounding to whole numbers: what comes of it is nearest, grows with the value, and passes a bound
just when the value comes to a half more than that. A duration is stretched in this way.
-/

namespace BlobTransfer

namespace Binary64

/-- A whole number that is as near to a value as can be; of two such numbers, the even one. -/
structure Nearest (value : ℚ) (whole : Nat) : Prop where
  near : |value - whole| ≤ 1 / 2
  even : |value - whole| = 1 / 2 → whole % 2 = 0

theorem nearest_of_gap {value : ℚ} {whole : Nat} (low : (whole : ℚ) - 1 / 2 < value)
    (high : value < whole + 1 / 2) : Nearest value whole := by
  have gap : |value - whole| < 1 / 2 := abs_lt.mpr ⟨by linarith, by linarith⟩
  exact ⟨gap.le, fun tie => absurd tie gap.ne⟩

theorem nearest_half (whole : Nat) : Nearest (whole + 1 / 2) (whole + whole % 2 : Nat) where
  near := by
    rw [abs_le]
    obtain even | odd := Nat.mod_two_eq_zero_or_one whole
    · rw [even]
      push_cast
      constructor <;> linarith
    · rw [odd]
      push_cast
      constructor <;> linarith
  even := fun _ => by omega

theorem nearest_roundHalfEven (numerator : Nat) {denominator : Nat} (positive : 0 < denominator) :
    Nearest (numerator / denominator) (roundHalfEven numerator denominator) := by
  have divided := Nat.div_add_mod numerator denominator
  have below := Nat.mod_lt numerator positive
  unfold roundHalfEven
  dsimp only
  generalize numerator / denominator = quotient at divided ⊢
  generalize numerator % denominator = rest at divided below ⊢
  have unit : (0 : ℚ) < denominator := by exact_mod_cast positive
  have parts : (numerator : ℚ) / denominator = quotient + rest / denominator := by
    rw [← divided]
    push_cast
    field_simp
  have least : (0 : ℚ) ≤ rest / denominator := by positivity
  have most : (rest : ℚ) / denominator < 1 := by
    rw [div_lt_one unit]
    exact_mod_cast below
  rw [parts]
  split
  · rename_i small
    have low : (rest : ℚ) / denominator < 1 / 2 := by
      rw [div_lt_iff₀ unit]
      have : (2 * rest : ℚ) < denominator := by exact_mod_cast small
      linarith
    exact nearest_of_gap (by linarith) (by linarith)
  · rename_i not_small
    split
    · rename_i large
      have high : 1 / 2 < (rest : ℚ) / denominator := by
        rw [lt_div_iff₀ unit]
        have : (denominator : ℚ) < 2 * rest := by exact_mod_cast large
        linarith
      exact nearest_of_gap (by push_cast; linarith) (by push_cast; linarith)
    · rename_i not_large
      have half : (rest : ℚ) / denominator = 1 / 2 := by
        rw [div_eq_iff unit.ne']
        have : (2 * rest : ℚ) = denominator := by exact_mod_cast (by omega : 2 * rest = denominator)
        linarith
      rw [half]
      exact nearest_half quotient

theorem nearest_natCast (whole : Nat) : Nearest whole whole where
  near := by simp
  even := by simp

variable {value greater : ℚ} {whole other : Nat}

theorem Nearest.mono (nearest : Nearest value whole) (nearest' : Nearest greater other)
    (ordered : value ≤ greater) : whole ≤ other := by
  by_contra above
  have next : (other : ℚ) + 1 ≤ whole := by exact_mod_cast Nat.not_le.mp above
  have low := (abs_le.mp nearest.near).1
  have high := (abs_le.mp nearest'.near).2
  have tie : value - whole = -(1 / 2) := by linarith
  have tie' : greater - other = 1 / 2 := by linarith
  have even := nearest.even (by rw [tie, abs_neg, abs_of_pos (by norm_num)])
  have even' := nearest'.even (by rw [tie', abs_of_pos (by norm_num)])
  have adjacent : whole = other + 1 := by
    have : (whole : ℚ) = other + 1 := by linarith
    exact_mod_cast this
  omega

theorem Nearest.unique (nearest : Nearest value whole) (nearest' : Nearest value other) :
    whole = other :=
  Nat.le_antisymm (nearest.mono nearest' le_rfl) (nearest'.mono nearest le_rfl)

theorem Nearest.passes (nearest : Nearest value whole) (odd : other % 2 = 1) :
    other < whole ↔ (other : ℚ) + 1 / 2 ≤ value := by
  obtain ⟨low, high⟩ := abs_le.mp nearest.near
  constructor
  · intro passed
    have next : (other : ℚ) + 1 ≤ whole := by exact_mod_cast passed
    linarith
  · intro reached
    by_contra below
    have most : (whole : ℚ) ≤ other := by exact_mod_cast Nat.not_lt.mp below
    have tie : value - whole = 1 / 2 := by linarith
    have same : whole = other := by
      have : (whole : ℚ) = other := by linarith
      exact_mod_cast this
    have even := nearest.even (by rw [tie, abs_of_pos (by norm_num)])
    omega

end Binary64

namespace Duration

/-- The exact product, rounded to the nearest nanosecond, is the stretched duration if it is one. -/
theorem scaleExact_eq {factor : ℚ} (nonnegative : 0 ≤ factor) (duration : Duration) :
    ∃ product, Binary64.Nearest (factor * duration.nanos) product ∧
      scaleExact factor duration = ofNanos? product := by
  let seconds : ℚ := factor * (duration.nanos / nanosPerSecond)
  have nonnegative' : 0 ≤ seconds := by positivity
  have exact : ((seconds.num.natAbs * nanosPerSecond : Nat) : ℚ) / seconds.den =
      factor * duration.nanos := by
    have whole : ((seconds.num.natAbs : Nat) : ℚ) = seconds.num := by
      rw [Nat.cast_natAbs, abs_of_nonneg (Rat.num_nonneg.mpr nonnegative')]
    rw [Nat.cast_mul, whole, mul_div_right_comm, Rat.num_div_den]
    have unit : (nanosPerSecond : ℚ) ≠ 0 := by
      exact_mod_cast (by decide : nanosPerSecond ≠ 0)
    simp only [seconds]
    field_simp
  refine ⟨_, exact ▸ Binary64.nearest_roundHalfEven _ seconds.den_pos, ?_⟩
  exact if_neg (not_lt.mpr nonnegative')

end Duration

end BlobTransfer
