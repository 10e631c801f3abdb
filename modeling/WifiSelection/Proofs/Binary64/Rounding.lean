import Mathlib.Algebra.Order.Field.Rat
import Mathlib.Algebra.Order.Group.Abs
import Mathlib.Tactic.LinearCombination
import Mathlib.Tactic.Ring
import WifiSelection.Proofs.Binary64.Whole

/-!
Rounding keeps the order, and how far it goes. Between two doubles whose spacings differ lies a power
of two, which is a double itself, so that neither of them is rounded past it. The double nearest to a
quotient is off by half the spacing of doubles around it at most, so sums and quotients of small
numbers stay close to their exact results.
-/

namespace WifiSelection

namespace Binary64

theorem nearestQuotient_mono {left right : Nat} (denominator : Nat) (ordered : left ≤ right) :
    nearestQuotient left denominator ≤ nearestQuotient right denominator := by
  have below := nearestQuotient_le left denominator
  have above := le_nearestQuotient right denominator
  rcases Nat.lt_or_eq_of_le (Nat.div_le_div_right (c := denominator) ordered) with less | same
  · exact below.trans (Nat.le_trans less above)
  · have leftWhole := Nat.div_add_mod left denominator
    have rightWhole := Nat.div_add_mod right denominator
    rw [same] at leftWhole
    have rests : left % denominator ≤ right % denominator := by omega
    simp only [nearestQuotient, same]
    split <;> split <;> omega

theorem log2_mono {left right : Nat} (ordered : left ≤ right) :
    Nat.log2 left ≤ Nat.log2 right := by
  by_cases empty : left = 0
  · subst empty
    exact Nat.zero_le _
  · rw [Nat.le_log2 (by omega)]
    exact (Nat.log2_self_le empty).trans ordered

theorem nearestUnits_mono {left right denominator : Nat} (positive : 0 < denominator)
    (ordered : left ≤ right) : nearestUnits left denominator ≤ nearestUnits right denominator := by
  have quotients := log2_mono (Nat.div_le_div_right (c := denominator) ordered)
  by_cases same : spacing (left / denominator) = spacing (right / denominator)
  · rw [nearestUnits, nearestUnits, same]
    exact Nat.mul_le_mul_right _ (nearestQuotient_mono _ ordered)
  · have apart : Nat.log2 (left / denominator) - 52 ≠ Nat.log2 (right / denominator) - 52 :=
      fun equal => same (congrArg powerOfTwo equal)
    have nonzero : right / denominator ≠ 0 := by
      intro empty
      rw [empty, Nat.log2_zero] at apart quotients
      omega
    have beyond : left / denominator < powerOfTwo (Nat.log2 (right / denominator)) :=
      Nat.lt_log2_self.trans_le (powerOfTwo_le (by omega))
    have between : powerOfTwo (Nat.log2 (right / denominator)) * denominator ≤ right :=
      (Nat.le_div_iff_mul_le positive).mp (Nat.log2_self_le nonzero)
    calc nearestUnits left denominator
      _ ≤ powerOfTwo (Nat.log2 (right / denominator)) :=
        nearestUnits_le_of_dvd positive (powerOfTwo_dvd (by omega))
          ((Nat.div_lt_iff_lt_mul positive).mp beyond).le
      _ ≤ nearestUnits right denominator :=
        le_nearestUnits_of_dvd positive (powerOfTwo_dvd (by omega)) between

theorem one_le_nearestUnits {numerator denominator : Nat} (positive : 0 < denominator)
    (above : unitsPerOne * denominator ≤ numerator) :
    unitsPerOne ≤ nearestUnits numerator denominator := by
  have exact := nearestUnits_mul_whole positive one_lt_powerOfTwo
  rw [Nat.one_mul] at exact
  exact exact.ge.trans (nearestUnits_mono positive above)

theorem nearestQuotient_error (numerator : Nat) {denominator : Nat} (positive : 0 < denominator) :
    2 * (nearestQuotient numerator denominator * denominator) ≤ 2 * numerator + denominator ∧
      2 * numerator ≤
        2 * (nearestQuotient numerator denominator * denominator) + denominator := by
  have whole := Nat.div_add_mod numerator denominator
  have rest := Nat.mod_lt numerator positive
  rw [Nat.mul_comm] at whole
  simp only [nearestQuotient]
  split
  · rw [Nat.add_mul, Nat.one_mul]
    omega
  · omega

theorem nearestUnits_error (numerator : Nat) {denominator : Nat} (positive : 0 < denominator) :
    2 * (nearestUnits numerator denominator * denominator) ≤
        2 * numerator + spacing (numerator / denominator) * denominator ∧
      2 * numerator ≤ 2 * (nearestUnits numerator denominator * denominator) +
        spacing (numerator / denominator) * denominator := by
  have error := nearestQuotient_error numerator
    (Nat.mul_pos positive (spacing_pos (numerator / denominator)))
  have scaled : nearestUnits numerator denominator * denominator =
      nearestQuotient numerator (denominator * spacing (numerator / denominator)) *
        (denominator * spacing (numerator / denominator)) := by
    rw [nearestUnits]
    ring
  rw [scaled, Nat.mul_comm (spacing _) denominator]
  exact error

theorem spacing_le_powerOfTwo {units exponent : Nat} (small : units < powerOfTwo exponent) :
    spacing units ≤ powerOfTwo (exponent - 53) := by
  apply powerOfTwo_le
  by_cases empty : units = 0
  · subst empty
    exact Nat.zero_le _
  · have log := log2_lt_of_lt_powerOfTwo empty small
    omega

theorem spacing_mul_le {units : Nat} (normal : powerOfTwo 52 ≤ units) :
    spacing units * powerOfTwo 52 ≤ units := by
  have nonzero : units ≠ 0 := ((powerOfTwo_pos 52).trans_le normal).ne'
  have exponent : 52 ≤ Nat.log2 units := (Nat.le_log2 nonzero).mpr normal
  rw [spacing, ← powerOfTwo_add, Nat.sub_add_cancel exponent]
  exact Nat.log2_self_le nonzero

/-- But for the least doubles, what is rounded is off by a part in `2⁵³` at most. -/
theorem nearestUnits_relative_error {numerator denominator : Nat} (positive : 0 < denominator)
    (normal : numerator = 0 ∨ powerOfTwo 52 * denominator ≤ numerator) :
    2 ^ 53 * (nearestUnits numerator denominator * denominator) ≤ (2 ^ 53 + 1) * numerator ∧
      (2 ^ 53 - 1) * numerator ≤ 2 ^ 53 * (nearestUnits numerator denominator * denominator) := by
  rcases normal with rfl | normal
  · simp [nearestUnits_zero]
  · have error := nearestUnits_error numerator positive
    have step := spacing_mul_le ((Nat.le_div_iff_mul_le positive).mpr normal)
    have scaled := (Nat.mul_le_mul_right denominator step).trans (Nat.div_mul_le_self _ _)
    have unit : powerOfTwo 52 = 2 ^ 52 := rfl
    rw [unit, Nat.mul_right_comm] at scaled
    omega

/-- A finite number that is off from a quotient of units by half the margin at most. -/
structure Approximates (value : Binary64) (numerator : Int) (denominator margin : Nat) : Prop where
  isFinite : ∃ negative units, value = finite negative units
  low : 2 * numerator ≤ 2 * (value.toUnits * denominator) + margin * denominator
  high : 2 * (value.toUnits * denominator) ≤ 2 * numerator + margin * denominator

namespace Approximates

variable {value left right fraction : Binary64} {numerator leftNumerator rightNumerator : Int}
  {denominator margin inner outer : Nat}

theorem add {whole : Int} (rounded : value.Approximates (whole + fraction.toUnits) 1 outer)
    (approximate : fraction.Approximates numerator denominator inner) :
    value.Approximates (whole * denominator + numerator) denominator (outer + inner) := by
  obtain ⟨isFinite, low, high⟩ := rounded
  have scaledLow := Int.mul_le_mul_of_nonneg_right low (Int.natCast_nonneg denominator)
  have scaledHigh := Int.mul_le_mul_of_nonneg_right high (Int.natCast_nonneg denominator)
  refine ⟨isFinite, ?_, ?_⟩
  · push_cast
    linear_combination scaledLow + approximate.low
  · push_cast
    linear_combination scaledHigh + approximate.high

/-- Numbers that are further apart than the margin stay in order when they are rounded. -/
theorem toUnits_lt (first : left.Approximates leftNumerator denominator margin)
    (second : right.Approximates rightNumerator denominator margin)
    (apart : leftNumerator + margin * denominator < rightNumerator) :
    left.toUnits < right.toUnits := by
  have high := first.high
  have low := second.low
  by_contra reversed
  have scaled := Int.mul_le_mul_of_nonneg_right (Int.not_lt.mp reversed)
    (Int.natCast_nonneg denominator)
  omega

theorem natAbs_toUnits_lt {bound : Nat}
    (approximate : value.Approximates numerator denominator margin)
    (small : 2 * numerator.natAbs + margin * denominator < 2 * (bound * denominator)) :
    value.toUnits.natAbs < bound := by
  obtain ⟨-, low, high⟩ := approximate
  by_contra large
  have scaled := Nat.mul_le_mul_right denominator (Nat.not_lt.mp large)
  rw [← Int.natAbs_natCast denominator, ← Int.natAbs_mul, Int.natAbs_natCast] at scaled
  omega

theorem cancel {scale : Nat} (positive : 0 < scale)
    (scaled : value.Approximates (numerator * scale) (denominator * scale) margin) :
    value.Approximates numerator denominator margin := by
  have unit : (0 : Int) < scale := Int.natCast_pos.mpr positive
  obtain ⟨isFinite, low, high⟩ := scaled
  push_cast at low high
  refine ⟨isFinite, Int.le_of_mul_le_mul_right ?_ unit, Int.le_of_mul_le_mul_right ?_ unit⟩
  · linear_combination low
  · linear_combination high

end Approximates

def toRational (value : Binary64) : ℚ :=
  value.toUnits / unitsPerOne

theorem Approximates.abs_sub_le {value : Binary64} {numerator : Int} {denominator margin : Nat}
    (positive : 0 < denominator)
    (approximate : value.Approximates (numerator * unitsPerOne) denominator margin) :
    |value.toRational - numerator / denominator| ≤ margin / (2 * unitsPerOne) := by
  have one : (0 : ℚ) < unitsPerOne := Nat.cast_pos.mpr unitsPerOne_pos
  have scale : (0 : ℚ) < denominator := Nat.cast_pos.mpr positive
  have low : (2 * (numerator * unitsPerOne) : ℚ) ≤
      2 * (value.toUnits * denominator) + margin * denominator := by
    exact_mod_cast approximate.low
  have high : (2 * (value.toUnits * denominator) : ℚ) ≤
      2 * (numerator * unitsPerOne) + margin * denominator := by
    exact_mod_cast approximate.high
  have scaledLow := mul_le_mul_of_nonneg_left low one.le
  have scaledHigh := mul_le_mul_of_nonneg_left high one.le
  rw [toRational, abs_sub_le_iff, div_sub_div _ _ one.ne' scale.ne',
    div_sub_div _ _ scale.ne' one.ne', div_le_div_iff₀ (mul_pos one scale) (mul_pos two_pos one),
    div_le_div_iff₀ (mul_pos scale one) (mul_pos two_pos one)]
  constructor
  · linear_combination scaledHigh
  · linear_combination scaledLow

theorem ofQuotient_approximates (negative : Bool) {numerator denominator exponent : Nat}
    (positive : 0 < denominator) (small : numerator / denominator < powerOfTwo exponent)
    (fits : exponent < 2097) :
    (ofQuotient negative numerator denominator).Approximates (signedUnits negative numerator)
      denominator (powerOfTwo (exponent - 53)) := by
  have bound := nearestUnits_le numerator denominator
  have room : powerOfTwo (exponent + 1) ≤ unitsLimit := powerOfTwo_le (by omega)
  have double : powerOfTwo (exponent + 1) = powerOfTwo exponent * 2 := powerOfTwo_add exponent 1
  have rounded : ofQuotient negative numerator denominator =
      finite negative (nearestUnits numerator denominator) := by
    rw [ofQuotient, ofUnits_eq_finite (by omega)]
  have margin := Nat.mul_le_mul_right denominator (spacing_le_powerOfTwo small)
  obtain ⟨above, below⟩ := nearestUnits_error numerator positive
  have high : 2 * (nearestUnits numerator denominator * denominator : Int) ≤
      2 * numerator + powerOfTwo (exponent - 53) * denominator := by
    exact_mod_cast above.trans (Nat.add_le_add_left margin _)
  have low : 2 * (numerator : Int) ≤ 2 * (nearestUnits numerator denominator * denominator) +
      powerOfTwo (exponent - 53) * denominator := by
    exact_mod_cast below.trans (Nat.add_le_add_left margin _)
  rw [rounded]
  cases negative with
  | false => exact ⟨⟨false, _, rfl⟩, low, high⟩
  | true =>
      simp only [signedUnits, if_true]
      refine ⟨⟨true, _, rfl⟩, ?_, ?_⟩
      · simp only [toUnits, signedUnits, if_true, Int.neg_mul]
        omega
      · simp only [toUnits, signedUnits, if_true, Int.neg_mul]
        omega

theorem div_approximates (leftSign rightSign : Bool) {leftUnits rightUnits exponent : Nat}
    (positive : 0 < rightUnits)
    (small : leftUnits * unitsPerOne / rightUnits < powerOfTwo exponent)
    (fits : exponent < 2097) :
    (finite leftSign leftUnits / finite rightSign rightUnits).Approximates
      (signedUnits (leftSign != rightSign) leftUnits * unitsPerOne) rightUnits
      (powerOfTwo (exponent - 53)) := by
  change (div _ _).Approximates _ _ _
  rw [div, if_neg positive.ne', ← signedUnits_mul]
  exact ofQuotient_approximates _ positive small fits

theorem ofInt_div_ofInt_approximates {value divisor : Int} {exponent : Nat}
    (valueSmall : value.natAbs < powerOfTwo 53) (divisorSmall : divisor.natAbs < powerOfTwo 53)
    (positive : 0 < divisor)
    (small : value.natAbs * unitsPerOne / divisor.natAbs < powerOfTwo exponent)
    (fits : exponent < 2097) :
    (ofInt value / ofInt divisor).Approximates (value * unitsPerOne) divisor.natAbs
      (powerOfTwo (exponent - 53)) := by
  have divisorUnits : 0 < divisor.natAbs * unitsPerOne := Nat.mul_pos (by omega) unitsPerOne_pos
  rw [← Nat.mul_div_mul_right _ _ unitsPerOne_pos] at small
  have rounded := div_approximates (value < 0) (divisor < 0) divisorUnits small fits
  have unsigned : decide (divisor < 0) = false := decide_eq_false (by omega)
  rw [unsigned, Bool.bne_false, signedUnits_natAbs, ← unsigned, ← ofInt_eq valueSmall,
    ← ofInt_eq divisorSmall] at rounded
  exact rounded.cancel unitsPerOne_pos

theorem add_approximates {leftSign rightSign : Bool} {leftUnits rightUnits exponent : Nat}
    {total : Int} (sum : signedUnits leftSign leftUnits + signedUnits rightSign rightUnits = total)
    (small : total.natAbs < powerOfTwo exponent) (fits : exponent < 2097) :
    (finite leftSign leftUnits + finite rightSign rightUnits).Approximates total 1
      (powerOfTwo (exponent - 53)) := by
  change (add _ _).Approximates _ _ _
  simp only [add, sum]
  split
  next zero =>
    have exact : toUnits (finite (leftSign && rightSign) 0) = 0 := by
      cases leftSign && rightSign <;> rfl
    exact ⟨⟨_, _, rfl⟩, by omega, by omega⟩
  next =>
    have rounded := ofQuotient_approximates (decide (total < 0)) Nat.one_pos
      (by rwa [Nat.div_one]) fits
    rwa [signedUnits_magnitude] at rounded

end Binary64

end WifiSelection
