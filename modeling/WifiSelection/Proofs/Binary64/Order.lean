import Mathlib.Algebra.Order.Ring.Nat
import WifiSelection.Numbers

/-!
How doubles are ordered, and which ones a sum or an integer can round to. The strict order is
transitive, and not being above is so through every number but a NaN. A plain double is finite and
no negative zero; on plain doubles the strict order is that of the signed units, and equal units
mean equal doubles.
-/

namespace WifiSelection

namespace Binary64

theorem less_trans {left middle right : Binary64} (first : less left middle = true)
    (second : less middle right = true) : less left right = true := by
  cases left <;> cases middle <;> cases right <;> simp_all [less]
  omega

theorem less_asymm {left right : Binary64} (below : less left right = true) :
    less right left = false := by
  cases left <;> cases right <;> simp_all [less]
  omega

theorem not_less_trans {left middle right : Binary64} (number : middle ≠ nan)
    (first : less left middle = false) (second : less middle right = false) :
    less left right = false := by
  cases left <;> cases middle <;> cases right <;> simp_all [less]
  omega

theorem ne_nan_of_less {left right : Binary64} (below : less left right = true) : right ≠ nan := by
  rintro rfl
  cases left <;> cases below

theorem isNaN_eq_false {value : Binary64} (number : value ≠ nan) : value.isNaN = false := by
  cases value with
  | nan => exact (number rfl).elim
  | infinite => rfl
  | finite => rfl

theorem less_negativeInfinity (value : Binary64) : less value negativeInfinity = false := by
  cases value <;> simp [less, negativeInfinity]

theorem negativeInfinity_less_of_less {left right : Binary64} (below : less left right = true) :
    less negativeInfinity right = true := by
  cases left <;> cases right <;> simp_all [less, negativeInfinity]

/-- At most another as a number. A NaN is at most nothing, and nothing is at most a NaN. -/
def AtMost (left right : Binary64) : Prop :=
  less left right = true ∨ numericallyEqual left right = true

/-- A finite number other than the negative zero. -/
inductive IsPlain : Binary64 → Prop
  | finite {negative units} (signed : negative = true → 0 < units) :
      IsPlain (finite negative units)

def toUnits : Binary64 → Int
  | finite negative units => signedUnits negative units
  | _ => 0

theorem less_iff_toUnits_lt {left right : Binary64} (leftPlain : left.IsPlain)
    (rightPlain : right.IsPlain) :
    less left right = true ↔ left.toUnits < right.toUnits := by
  cases leftPlain
  cases rightPlain
  simp only [less, toUnits, decide_eq_true_eq]

theorem less_eq_false_iff {left right : Binary64} (leftPlain : left.IsPlain)
    (rightPlain : right.IsPlain) :
    less left right = false ↔ right.toUnits ≤ left.toUnits := by
  rw [← Bool.not_eq_true, less_iff_toUnits_lt leftPlain rightPlain, Int.not_lt]

theorem IsPlain.atMost_iff {left right : Binary64} (leftPlain : left.IsPlain)
    (rightPlain : right.IsPlain) : left.AtMost right ↔ left.toUnits ≤ right.toUnits := by
  rw [AtMost, less_iff_toUnits_lt leftPlain rightPlain, Int.le_iff_lt_or_eq]
  cases leftPlain
  cases rightPlain
  simp only [numericallyEqual, toUnits, beq_iff_eq]

theorem negativeInfinity_less {value : Binary64} (plain : value.IsPlain) :
    less negativeInfinity value = true := by
  cases plain
  rfl

theorem eq_of_toUnits_eq {left right : Binary64} (leftPlain : left.IsPlain)
    (rightPlain : right.IsPlain) (same : left.toUnits = right.toUnits) : left = right := by
  cases leftPlain with
  | @finite leftSign leftUnits leftSigned =>
      cases rightPlain with
      | @finite rightSign rightUnits rightSigned =>
          cases leftSign <;> cases rightSign <;>
            simp [toUnits, signedUnits] at same leftSigned rightSigned ⊢ <;> omega

theorem powerOfTwo_pos (exponent : Nat) : 0 < powerOfTwo exponent :=
  Nat.pow_pos (by decide)

theorem powerOfTwo_add (left right : Nat) :
    powerOfTwo (left + right) = powerOfTwo left * powerOfTwo right :=
  Nat.pow_add 2 left right

theorem powerOfTwo_le {left right : Nat} (ordered : left ≤ right) :
    powerOfTwo left ≤ powerOfTwo right :=
  Nat.pow_le_pow_right (by decide) ordered

theorem spacing_pos (units : Nat) : 0 < spacing units :=
  powerOfTwo_pos _

theorem spacing_le (units : Nat) : spacing units ≤ units + 1 := by
  by_cases empty : units = 0
  · subst units
    decide
  · have power : 2 ^ (Nat.log2 units - 52) ≤ 2 ^ Nat.log2 units :=
      Nat.pow_le_pow_right (by decide) (Nat.sub_le _ _)
    have log := Nat.log2_self_le empty
    change 2 ^ (Nat.log2 units - 52) ≤ units + 1
    omega

theorem spacing_le_self {units : Nat} (positive : 0 < units) : spacing units ≤ units := by
  have power : 2 ^ (Nat.log2 units - 52) ≤ 2 ^ Nat.log2 units :=
    Nat.pow_le_pow_right (by decide) (Nat.sub_le _ _)
  exact power.trans (Nat.log2_self_le (by omega))

theorem nearestQuotient_le (numerator denominator : Nat) :
    nearestQuotient numerator denominator ≤ numerator / denominator + 1 := by
  simp only [nearestQuotient]
  split <;> omega

theorem le_nearestQuotient (numerator denominator : Nat) :
    numerator / denominator ≤ nearestQuotient numerator denominator := by
  simp only [nearestQuotient]
  split <;> omega

theorem nearestUnits_le (numerator denominator : Nat) :
    nearestUnits numerator denominator ≤ 2 * (numerator / denominator) + 1 := by
  have quotient := nearestQuotient_le numerator
    (denominator * spacing (numerator / denominator))
  rw [← Nat.div_div_eq_div_mul] at quotient
  have scaled := Nat.mul_le_mul_right (spacing (numerator / denominator)) quotient
  rw [Nat.add_mul, Nat.one_mul] at scaled
  have whole := Nat.div_mul_le_self (numerator / denominator) (spacing (numerator / denominator))
  have step := spacing_le (numerator / denominator)
  change nearestQuotient numerator _ * spacing (numerator / denominator) ≤ _
  omega

theorem nearestUnits_pos {numerator denominator : Nat} (whole : 0 < numerator / denominator) :
    0 < nearestUnits numerator denominator := by
  have quotient := le_nearestQuotient numerator (denominator * spacing (numerator / denominator))
  rw [← Nat.div_div_eq_div_mul] at quotient
  have one : 0 < numerator / denominator / spacing (numerator / denominator) :=
    Nat.div_pos (spacing_le_self whole) (spacing_pos _)
  exact Nat.mul_pos (by omega) (spacing_pos _)

theorem unitsPerOne_pos : 0 < unitsPerOne :=
  powerOfTwo_pos 1074

theorem unitsLimit_eq : unitsLimit = powerOfTwo 1024 * unitsPerOne := by
  rw [unitsLimit, unitsPerOne, ← powerOfTwo_add]

theorem ofUnits_eq_finite {negative : Bool} {units : Nat} (small : units < unitsLimit) :
    ofUnits negative units = finite negative units := by
  simp only [ofUnits, small, if_true]

theorem nearestUnits_lt_unitsLimit {whole : Nat} (small : whole < powerOfTwo 100) :
    nearestUnits (whole * unitsPerOne) 1 < unitsLimit := by
  have bound := nearestUnits_le (whole * unitsPerOne) 1
  rw [Nat.div_one] at bound
  have magnitude : whole * unitsPerOne < powerOfTwo 100 * unitsPerOne :=
    Nat.mul_lt_mul_of_pos_right small unitsPerOne_pos
  have room : powerOfTwo 2 * (powerOfTwo 100 * unitsPerOne) ≤ unitsLimit := by
    rw [unitsLimit_eq, ← Nat.mul_assoc, ← powerOfTwo_add]
    exact Nat.mul_le_mul_right _ (powerOfTwo_le (by decide))
  have four : powerOfTwo 2 = 4 := rfl
  rw [four] at room
  omega

theorem ofInt_eq_finite {value : Int} (small : value.natAbs < powerOfTwo 100) :
    ∃ units, ofInt value = finite (value < 0) units ∧
      units ≤ 2 * (value.natAbs * unitsPerOne) + 1 ∧ (value < 0 → 0 < units) := by
  have bound := nearestUnits_le (value.natAbs * unitsPerOne) 1
  rw [Nat.div_one] at bound
  refine ⟨nearestUnits (value.natAbs * unitsPerOne) 1, ?_, bound, ?_⟩
  · rw [ofInt, ofQuotient, ofUnits_eq_finite (nearestUnits_lt_unitsLimit small)]
  · intro negative
    apply nearestUnits_pos
    rw [Nat.div_one]
    exact Nat.mul_pos (by omega) unitsPerOne_pos

theorem ofInt_isPlain {value : Int} (small : value.natAbs < powerOfTwo 100) :
    (ofInt value).IsPlain := by
  have ⟨units, rounded, bound, signed⟩ := ofInt_eq_finite small
  rw [rounded]
  exact .finite fun negative => signed (of_decide_eq_true negative)

theorem add_isPlain {leftSign rightSign : Bool} {leftUnits rightUnits : Nat}
    (plain : leftSign = true → 0 < leftUnits)
    (small : 2 * (leftUnits + rightUnits) + 1 < unitsLimit) :
    (finite leftSign leftUnits + finite rightSign rightUnits).IsPlain := by
  change IsPlain (add _ _)
  simp only [add]
  split
  next zero =>
    refine .finite fun both => ?_
    rw [Bool.and_eq_true] at both
    have positive := plain both.1
    simp only [signedUnits, both, if_true] at zero
    omega
  next nonzero =>
    have bound := nearestUnits_le
      (signedUnits leftSign leftUnits + signedUnits rightSign rightUnits).natAbs 1
    rw [Nat.div_one] at bound
    have magnitude : (signedUnits leftSign leftUnits + signedUnits rightSign rightUnits).natAbs ≤
        leftUnits + rightUnits := by
      cases leftSign <;> cases rightSign <;> simp [signedUnits] <;> omega
    rw [ofQuotient, ofUnits_eq_finite (by omega)]
    refine .finite fun _ => nearestUnits_pos ?_
    rw [Nat.div_one]
    omega

theorem div_eq_finite (leftSign rightSign : Bool) {leftUnits rightUnits : Nat}
    (large : unitsPerOne ≤ rightUnits) (small : 2 * leftUnits + 1 < unitsLimit) :
    ∃ units, finite leftSign leftUnits / finite rightSign rightUnits =
      finite (leftSign != rightSign) units ∧ units ≤ 2 * leftUnits + 1 := by
  have positive := unitsPerOne_pos
  have nonzero : rightUnits ≠ 0 := by omega
  have bound := nearestUnits_le (leftUnits * unitsPerOne) rightUnits
  have whole : leftUnits * unitsPerOne / rightUnits ≤ leftUnits := by
    apply Nat.div_le_of_le_mul
    rw [Nat.mul_comm]
    exact Nat.mul_le_mul_right leftUnits large
  refine ⟨nearestUnits (leftUnits * unitsPerOne) rightUnits, ?_, by omega⟩
  change div _ _ = _
  simp only [div, nonzero, if_false]
  rw [ofQuotient, ofUnits_eq_finite (by omega)]

theorem truncate_bounds (value : Binary64) :
    -(Width.maxSigned64 : Int) - 1 ≤ value.truncate ∧ value.truncate ≤ Width.maxSigned64 := by
  cases value with
  | nan => decide
  | infinite negative => cases negative <;> decide
  | finite negative units =>
      simp only [truncate]
      split
      · have whole := Int.natCast_nonneg (units / unitsPerOne)
        constructor <;> omega
      · have whole := Int.natCast_nonneg (units / unitsPerOne)
        constructor <;> omega

end Binary64

end WifiSelection
