import Mathlib.Tactic.Ring
import WifiSelection.Proofs.Binary64.Order

/-!
Whole numbers and shares as doubles. An integer below `2⁵³` in magnitude is a double itself, so that
integers are compared by their doubles, and a number that lies between two integers keeps to them
when it is rounded or loses its fraction. What a magnitude leaves of one, moved between zero and one,
is a share, however large the magnitude is.
-/

namespace WifiSelection

namespace Binary64

theorem nearestQuotient_le_of_le {numerator denominator bound : Nat} (positive : 0 < denominator)
    (below : numerator ≤ bound * denominator) :
    nearestQuotient numerator denominator ≤ bound := by
  have quotient : numerator / denominator ≤ bound := by
    apply Nat.div_le_of_le_mul
    rwa [Nat.mul_comm]
  rcases Nat.lt_or_eq_of_le quotient with smaller | same
  · exact (nearestQuotient_le numerator denominator).trans smaller
  · have whole := Nat.div_add_mod numerator denominator
    rw [same, Nat.mul_comm] at whole
    have exact : numerator % denominator = 0 := by omega
    simp only [nearestQuotient, exact, same]
    split <;> omega

theorem log2_lt_of_lt_powerOfTwo {units exponent : Nat} (nonzero : units ≠ 0)
    (small : units < powerOfTwo exponent) : Nat.log2 units < exponent :=
  (Nat.log2_lt nonzero).mpr small

theorem powerOfTwo_dvd {left right : Nat} (ordered : left ≤ right) :
    powerOfTwo left ∣ powerOfTwo right :=
  Nat.pow_dvd_pow 2 ordered

theorem spacing_dvd_unitsPerOne {units : Nat} (small : units < powerOfTwo 53 * unitsPerOne) :
    spacing units ∣ unitsPerOne := by
  have exponent : Nat.log2 units - 52 ≤ 1074 := by
    by_cases empty : units = 0
    · subst units
      decide
    · rw [unitsPerOne, ← powerOfTwo_add] at small
      have log := log2_lt_of_lt_powerOfTwo empty small
      omega
  exact powerOfTwo_dvd exponent

theorem nearestUnits_le_of_dvd {numerator denominator bound : Nat} (positive : 0 < denominator)
    (divides : spacing (numerator / denominator) ∣ bound)
    (below : numerator ≤ bound * denominator) : nearestUnits numerator denominator ≤ bound := by
  obtain ⟨steps, unit⟩ := divides
  have scaled : numerator ≤ steps * (denominator * spacing (numerator / denominator)) := by
    refine below.trans (Nat.le_of_eq ?_)
    rw [unit]
    ring
  have rounded := nearestQuotient_le_of_le (Nat.mul_pos positive (spacing_pos _)) scaled
  have product := Nat.mul_le_mul_right (spacing (numerator / denominator)) rounded
  rwa [Nat.mul_comm steps, ← unit] at product

theorem le_nearestUnits_of_dvd {numerator denominator bound : Nat} (positive : 0 < denominator)
    (divides : spacing (numerator / denominator) ∣ bound)
    (above : bound * denominator ≤ numerator) : bound ≤ nearestUnits numerator denominator := by
  obtain ⟨steps, unit⟩ := divides
  have whole : bound ≤ numerator / denominator := (Nat.le_div_iff_mul_le positive).mpr above
  have quotient := le_nearestQuotient numerator (denominator * spacing (numerator / denominator))
  rw [← Nat.div_div_eq_div_mul] at quotient
  have counted : steps ≤ numerator / denominator / spacing (numerator / denominator) := by
    rw [Nat.le_div_iff_mul_le (spacing_pos _), Nat.mul_comm, ← unit]
    exact whole
  have product := Nat.mul_le_mul_right (spacing (numerator / denominator))
    (counted.trans quotient)
  rwa [Nat.mul_comm steps, ← unit] at product

theorem nearestUnits_le_of_le {numerator denominator whole : Nat} (positive : 0 < denominator)
    (small : whole < powerOfTwo 53) (below : numerator ≤ whole * unitsPerOne * denominator) :
    nearestUnits numerator denominator ≤ whole * unitsPerOne := by
  have quotient : numerator / denominator ≤ whole * unitsPerOne := by
    apply Nat.div_le_of_le_mul
    rwa [Nat.mul_comm]
  have smallUnits := Nat.mul_lt_mul_of_pos_right small unitsPerOne_pos
  exact nearestUnits_le_of_dvd positive
    ((spacing_dvd_unitsPerOne (quotient.trans_lt smallUnits)).mul_left whole) below

theorem nearestUnits_mul_whole {whole denominator : Nat} (positive : 0 < denominator)
    (small : whole < powerOfTwo 53) :
    nearestUnits (whole * unitsPerOne * denominator) denominator = whole * unitsPerOne := by
  apply Nat.le_antisymm (nearestUnits_le_of_le positive small le_rfl)
  apply le_nearestUnits_of_dvd positive _ le_rfl
  rw [Nat.mul_div_cancel _ positive]
  exact (spacing_dvd_unitsPerOne (Nat.mul_lt_mul_of_pos_right small unitsPerOne_pos)).mul_left whole

theorem nearestUnits_whole {whole : Nat} (small : whole < powerOfTwo 53) :
    nearestUnits (whole * unitsPerOne) 1 = whole * unitsPerOne := by
  have exact := nearestUnits_mul_whole Nat.one_pos small
  rwa [Nat.mul_one] at exact

theorem wholeUnits_lt_unitsLimit {whole : Nat} (small : whole < powerOfTwo 53) :
    whole * unitsPerOne < unitsLimit := by
  rw [unitsLimit_eq]
  exact Nat.mul_lt_mul_of_pos_right (small.trans_le (powerOfTwo_le (by decide))) unitsPerOne_pos

theorem one_lt_powerOfTwo : 1 < powerOfTwo 53 := by decide

theorem unitsPerOne_lt_unitsLimit : unitsPerOne < unitsLimit := by
  have small := wholeUnits_lt_unitsLimit one_lt_powerOfTwo
  rwa [Nat.one_mul] at small

theorem nearestUnits_le_one {numerator denominator : Nat} (positive : 0 < denominator)
    (below : numerator ≤ unitsPerOne * denominator) :
    nearestUnits numerator denominator ≤ unitsPerOne := by
  have scaled : numerator ≤ 1 * unitsPerOne * denominator := by rwa [Nat.one_mul]
  have bound := nearestUnits_le_of_le positive one_lt_powerOfTwo scaled
  rwa [Nat.one_mul] at bound

theorem nearestUnits_one : nearestUnits unitsPerOne 1 = unitsPerOne := by
  have exact := nearestUnits_whole one_lt_powerOfTwo
  rwa [Nat.one_mul] at exact

theorem one_eq : one = finite false unitsPerOne := by decide +kernel

theorem ofInt_natCast (value : Nat) :
    ofInt value = ofUnits false (nearestUnits (value * unitsPerOne) 1) := by
  rw [ofInt, ofQuotient, Int.natAbs_natCast,
    decide_eq_false (Int.not_lt.mpr (Int.natCast_nonneg value))]

theorem ofInt_eq {value : Int} (small : value.natAbs < powerOfTwo 53) :
    ofInt value = finite (value < 0) (value.natAbs * unitsPerOne) := by
  rw [ofInt, ofQuotient, nearestUnits_whole small,
    ofUnits_eq_finite (wholeUnits_lt_unitsLimit small)]

theorem signedUnits_mul (negative : Bool) (units scale : Nat) :
    signedUnits negative (units * scale) = signedUnits negative units * scale := by
  cases negative with
  | false => exact Int.natCast_mul units scale
  | true =>
      simp only [signedUnits, if_true]
      rw [Int.natCast_mul, Int.neg_mul]

theorem signedUnits_magnitude (total : Int) : signedUnits (total < 0) total.natAbs = total := by
  by_cases negative : total < 0
  · simp only [signedUnits, negative, decide_true, if_true]
    omega
  · simp only [signedUnits, negative, decide_false, Bool.false_eq_true, if_false]
    omega

theorem signedUnits_natAbs (value : Int) :
    signedUnits (value < 0) (value.natAbs * unitsPerOne) = value * unitsPerOne := by
  rw [signedUnits_mul, signedUnits_magnitude]

theorem toUnits_ofInt {value : Int} (small : value.natAbs < powerOfTwo 53) :
    (ofInt value).toUnits = value * unitsPerOne := by
  rw [ofInt_eq small, toUnits, signedUnits_natAbs]

theorem less_ofInt_iff {left right : Int} (leftSmall : left.natAbs < powerOfTwo 53)
    (rightSmall : right.natAbs < powerOfTwo 53) :
    less (ofInt left) (ofInt right) = true ↔ left < right := by
  have positive : (0 : Int) < unitsPerOne := Int.natCast_pos.mpr unitsPerOne_pos
  rw [ofInt_eq leftSmall, ofInt_eq rightSmall, less, decide_eq_true_eq, signedUnits_natAbs,
    signedUnits_natAbs]
  exact Int.mul_lt_mul_right positive

theorem ofInt_inj {left right : Int} (leftSmall : left.natAbs < powerOfTwo 53)
    (rightSmall : right.natAbs < powerOfTwo 53) : ofInt left = ofInt right ↔ left = right := by
  constructor
  · intro same
    have units := congrArg toUnits same
    have positive : (0 : Int) < unitsPerOne := Int.natCast_pos.mpr unitsPerOne_pos
    rw [toUnits_ofInt leftSmall, toUnits_ofInt rightSmall] at units
    exact Int.eq_of_mul_eq_mul_right positive.ne' units
  · rintro rfl
    rfl

theorem ofInt_ne_nan {value : Int} (small : value.natAbs < powerOfTwo 53) : ofInt value ≠ nan := by
  rw [ofInt_eq small]
  nofun

theorem not_less_ofInt {left right : Int} (leftSmall : left.natAbs < powerOfTwo 53)
    (rightSmall : right.natAbs < powerOfTwo 53) (ordered : right ≤ left) :
    less (ofInt left) (ofInt right) = false := by
  rw [← Bool.not_eq_true, less_ofInt_iff leftSmall rightSmall]
  omega

theorem whole_le {units : Nat} {bound : Int} (below : (units : Int) ≤ bound * unitsPerOne) :
    ((units / unitsPerOne : Nat) : Int) ≤ bound := by
  have positive : (0 : Int) < unitsPerOne := Int.natCast_pos.mpr unitsPerOne_pos
  rw [Int.natCast_ediv]
  exact Int.ediv_le_of_le_mul positive below

theorem le_whole {units : Nat} {bound : Int} (above : bound * unitsPerOne ≤ units) :
    bound ≤ (units / unitsPerOne : Nat) := by
  have positive : (0 : Int) < unitsPerOne := Int.natCast_pos.mpr unitsPerOne_pos
  rw [Int.natCast_ediv]
  exact (Int.le_ediv_iff_mul_le positive).mpr above

/-- Neither below one integer nor above another; so no NaN. -/
def IsWithin (value : Binary64) (low high : Int) : Prop :=
  value ≠ nan ∧ less value (ofInt low) = false ∧ less (ofInt high) value = false

theorem finite_isWithin_iff {negative : Bool} {units : Nat} {low high : Int}
    (lowSmall : low.natAbs < powerOfTwo 53) (highSmall : high.natAbs < powerOfTwo 53) :
    (finite negative units).IsWithin low high ↔
      low * unitsPerOne ≤ signedUnits negative units ∧
        signedUnits negative units ≤ high * unitsPerOne := by
  have number : finite negative units ≠ nan := by
    intro impossible
    cases impossible
  rw [IsWithin, and_iff_right number, ofInt_eq lowSmall, ofInt_eq highSmall, less, less,
    signedUnits_natAbs, signedUnits_natAbs, decide_eq_false_iff_not, decide_eq_false_iff_not,
    Int.not_lt, Int.not_lt]

theorem IsWithin.truncate {value : Binary64} {low high : Int} (within : value.IsWithin low high)
    (lowSmall : low.natAbs < powerOfTwo 53) (highSmall : high.natAbs < powerOfTwo 53) :
    low ≤ value.truncate ∧ value.truncate ≤ high := by
  cases value with
  | nan => exact (within.1 rfl).elim
  | infinite negative =>
      obtain ⟨-, notBelow, notAbove⟩ := within
      rw [ofInt_eq lowSmall] at notBelow
      rw [ofInt_eq highSmall] at notAbove
      cases negative <;> simp [less] at notBelow notAbove
  | finite negative units =>
      obtain ⟨lower, upper⟩ := (finite_isWithin_iff lowSmall highSmall).mp within
      have range : powerOfTwo 53 < Width.maxSigned64 := by decide
      simp only [Binary64.truncate]
      cases negative with
      | false =>
          simp only [signedUnits, Bool.false_eq_true, if_false] at lower upper ⊢
          have above := le_whole lower
          have below := whole_le upper
          omega
      | true =>
          simp only [signedUnits, if_true] at lower upper ⊢
          have above : -high ≤ (units / unitsPerOne : Nat) :=
            le_whole (by rw [Int.neg_mul]; omega)
          have below : ((units / unitsPerOne : Nat) : Int) ≤ -low :=
            whole_le (by rw [Int.neg_mul]; omega)
          omega

/-- Neither below zero nor above one: a share of a whole, or a NaN. -/
def IsShare (value : Binary64) : Prop :=
  less value zero = false ∧ less one value = false

instance (value : Binary64) : Decidable value.IsShare :=
  inferInstanceAs (Decidable (less value zero = false ∧ less one value = false))

theorem clamp_isShare (value : Binary64) : (value.clamp zero one).IsShare := by
  have zeroShare : zero.IsShare := by decide +kernel
  have oneShare : one.IsShare := by decide +kernel
  rw [clamp]
  split
  · exact zeroShare
  · split
    · exact oneShare
    · next notBelow notAbove => exact ⟨Bool.not_eq_true _ ▸ notBelow, Bool.not_eq_true _ ▸ notAbove⟩

theorem signedUnits_between {units : Nat} {whole : Int}
    (bound : units ≤ whole.natAbs * unitsPerOne) :
    min 0 whole * unitsPerOne ≤ signedUnits (whole < 0) units ∧
      signedUnits (whole < 0) units ≤ max 0 whole * unitsPerOne := by
  have range : (units : Int) ≤ whole.natAbs * unitsPerOne := by exact_mod_cast bound
  by_cases negative : whole < 0
  · have magnitude : (whole.natAbs : Int) = -whole := by omega
    rw [magnitude, Int.neg_mul] at range
    rw [Int.min_eq_right (by omega), Int.max_eq_left (by omega), Int.zero_mul]
    simp only [signedUnits, negative, decide_true, if_true]
    omega
  · have magnitude : (whole.natAbs : Int) = whole := by omega
    rw [magnitude] at range
    rw [Int.min_eq_left (by omega), Int.max_eq_right (by omega), Int.zero_mul]
    simp only [signedUnits, negative, decide_false, Bool.false_eq_true, if_false]
    omega

theorem not_isShare_infinite (negative : Bool) : ¬(infinite negative).IsShare := by
  cases negative <;> decide +kernel

theorem IsShare.units_le {negative : Bool} {units : Nat}
    (isShare : (finite negative units).IsShare) :
    units ≤ unitsPerOne ∧ (negative = true → units = 0) := by
  obtain ⟨notBelow, notAbove⟩ := isShare
  rw [one_eq] at notAbove
  simp only [less, zero, decide_eq_false_iff_not, Int.not_lt] at notBelow notAbove
  cases negative with
  | false =>
      simp only [signedUnits, Bool.false_eq_true, if_false] at notAbove
      exact ⟨Int.ofNat_le.mp notAbove, fun signed => absurd signed Bool.false_ne_true⟩
  | true =>
      simp only [signedUnits, Bool.false_eq_true, if_false, if_true] at notBelow
      have nothing : units = 0 := by omega
      exact ⟨nothing ▸ Nat.zero_le _, fun _ => nothing⟩

theorem nearestUnits_zero (denominator : Nat) : nearestUnits 0 denominator = 0 := by
  simp [nearestUnits, nearestQuotient]

theorem zero_mul_ofInt (negative : Bool) {whole : Int} (small : whole.natAbs < powerOfTwo 53) :
    ∃ sign, finite negative 0 * ofInt whole = finite sign 0 := by
  refine ⟨negative != decide (whole < 0), ?_⟩
  change mul _ _ = _
  rw [ofInt_eq small, mul, Nat.zero_mul, ofQuotient, nearestUnits_zero,
    ofUnits_eq_finite (powerOfTwo_pos 2098)]

theorem truncate_zero (negative : Bool) : (finite negative 0).truncate = 0 := by
  cases negative <;> decide +kernel

theorem IsShare.mul_ofInt {share : Binary64} (isShare : share.IsShare) (number : share ≠ nan)
    {whole : Int} (small : whole.natAbs < powerOfTwo 53) :
    (share * ofInt whole).IsWithin (min 0 whole) (max 0 whole) := by
  cases share with
  | nan => exact (number rfl).elim
  | infinite negative => exact (not_isShare_infinite negative isShare).elim
  | finite negative units =>
      obtain ⟨atMostOne, unsigned⟩ := isShare.units_le
      have product : units * (whole.natAbs * unitsPerOne) ≤
          whole.natAbs * unitsPerOne * unitsPerOne := by
        rw [Nat.mul_comm]
        exact Nat.mul_le_mul_left _ atMostOne
      have rounded := nearestUnits_le_of_le unitsPerOne_pos small product
      have fits := rounded.trans_lt (wholeUnits_lt_unitsLimit small)
      -- What a negative zero leaves of the integer is a zero again, so its sign does not matter.
      have sign : signedUnits (negative != decide (whole < 0))
            (nearestUnits (units * (whole.natAbs * unitsPerOne)) unitsPerOne) =
          signedUnits (whole < 0)
            (nearestUnits (units * (whole.natAbs * unitsPerOne)) unitsPerOne) := by
        cases negative with
        | false => rw [Bool.false_bne]
        | true =>
            rw [unsigned rfl, Nat.zero_mul, nearestUnits_zero]
            simp [signedUnits]
      change (mul _ _).IsWithin _ _
      rw [ofInt_eq small, mul, ofQuotient, ofUnits_eq_finite fits,
        finite_isWithin_iff (by omega) (by omega), sign]
      exact signedUnits_between rounded

/-- A number moved between two integers lies between them, and at the upper one if they are
crossed. A NaN gives way to the lower one. -/
theorem isWithin_minimum_maximum (value : Binary64) {low high : Int}
    (lowSmall : low.natAbs < powerOfTwo 53) (highSmall : high.natAbs < powerOfTwo 53) :
    (minimum (maximum value (ofInt low)) (ofInt high)).IsWithin (min low high) high := by
  have leastSmall : (min low high).natAbs < powerOfTwo 53 := by omega
  have raised : maximum value (ofInt low) ≠ nan ∧
      less (maximum value (ofInt low)) (ofInt low) = false := by
    rw [maximum, isNaN_eq_false (ofInt_ne_nan lowSmall), Bool.false_or]
    split
    next above => exact ⟨ne_nan_of_less above, less_asymm above⟩
    next => exact ⟨ofInt_ne_nan lowSmall, not_less_ofInt lowSmall lowSmall le_rfl⟩
  rw [minimum, isNaN_eq_false (ofInt_ne_nan highSmall), Bool.false_or]
  split
  next below =>
    have ordered := not_less_ofInt lowSmall leastSmall (Int.min_le_left low high)
    exact ⟨raised.1, not_less_trans (ofInt_ne_nan lowSmall) raised.2 ordered, less_asymm below⟩
  next =>
    exact ⟨ofInt_ne_nan highSmall, not_less_ofInt highSmall leastSmall (Int.min_le_right low high),
      not_less_ofInt highSmall highSmall le_rfl⟩

theorem finite_sub_finite (left right : Nat) : finite false left - finite false right =
    if left = right then zero
    else if right < left then ofUnits false (nearestUnits (left - right) 1)
    else ofUnits true (nearestUnits (right - left) 1) := by
  change sub _ _ = _
  simp only [sub, neg, add, signedUnits, Bool.not_false, if_true, Bool.false_eq_true, if_false,
    Bool.false_and, ofQuotient]
  by_cases same : left = right
  · rw [if_pos (by omega), if_pos same]
    rfl
  · rw [if_neg (by omega), if_neg same]
    by_cases below : right < left
    · have magnitude : ((left : Int) + -right).natAbs = left - right := by omega
      rw [if_pos below, magnitude, decide_eq_false (by omega)]
    · have magnitude : ((left : Int) + -right).natAbs = right - left := by omega
      rw [if_neg below, magnitude, decide_eq_true (by omega)]

theorem clamp_of_share {units : Nat} (share : units ≤ unitsPerOne) :
    (finite false units).clamp zero one = finite false units := by
  have plain : (finite false units).IsPlain := .finite nofun
  have zeroPlain : zero.IsPlain := .finite nofun
  have onePlain : (finite false unitsPerOne).IsPlain := .finite nofun
  have notBelow : less (finite false units) zero = false :=
    (less_eq_false_iff plain zeroPlain).mpr (Int.natCast_nonneg units)
  have notAbove : less one (finite false units) = false := by
    rw [one_eq]
    exact (less_eq_false_iff onePlain plain).mpr (Int.ofNat_le.mpr share)
  rw [clamp, notBelow, notAbove]
  rfl

theorem clamp_of_negative {units : Nat} (positive : 0 < units) :
    (ofUnits true units).clamp zero one = zero := by
  rw [ofUnits]
  split
  · rw [clamp, if_pos]
    simp only [less, zero, signedUnits, if_true, decide_eq_true_eq]
    exact Int.neg_neg_of_pos (Int.natCast_pos.mpr positive)
  · rfl

theorem clamp_one_sub_infinite : (one - infinite false).clamp zero one = zero := by
  decide +kernel

theorem nearestUnits_share_le (units : Nat) :
    nearestUnits (unitsPerOne - units) 1 ≤ unitsPerOne :=
  nearestUnits_le_one Nat.one_pos (by omega)

theorem clamp_one_sub (units : Nat) :
    (one - ofUnits false units).clamp zero one =
      finite false (nearestUnits (unitsPerOne - units) 1) := by
  have limit := unitsPerOne_lt_unitsLimit
  have share := nearestUnits_share_le units
  by_cases small : units < unitsLimit
  · rw [ofUnits_eq_finite small, one_eq, finite_sub_finite, ← one_eq]
    split
    next same =>
      rw [same, Nat.sub_self, nearestUnits_zero]
      exact clamp_of_share (Nat.zero_le _)
    next =>
      split
      next => rw [ofUnits_eq_finite (share.trans_lt limit), clamp_of_share share]
      next above =>
        rw [Nat.sub_eq_zero_of_le (Nat.not_lt.mp above), nearestUnits_zero]
        refine clamp_of_negative (nearestUnits_pos ?_)
        rw [Nat.div_one]
        omega
  · rw [Nat.sub_eq_zero_of_le (by omega), nearestUnits_zero, ofUnits, if_neg small]
    exact clamp_one_sub_infinite

end Binary64

end WifiSelection
