import WifiSelection.Proofs.Binary64.Rounding
import WifiSelection.Proofs.Binary64.Whole
import WifiSelection.Proofs.Durations

/-!
The weight of the last selection in units of a double. Whole milliseconds are converted, divided and
taken from one, and each of the steps is rounded. Rounding keeps the order, so the units fall from
those of one to none; and it is off by little, so they stay close to the exact share that is left.
-/

namespace WifiSelection

namespace LastSelection

open Binary64

def convertedUnits (milliseconds : Nat) : Nat :=
  nearestUnits (milliseconds * unitsPerOne) 1

def spentUnits (passed decay : Nat) : Nat :=
  nearestUnits (convertedUnits passed * unitsPerOne) (convertedUnits decay)

def leftUnits (passed decay : Nat) : Nat :=
  nearestUnits (unitsPerOne - spentUnits passed decay) 1

variable {passed later decay : Nat}

section Order

theorem convertedUnits_zero : convertedUnits 0 = 0 := by
  rw [convertedUnits, Nat.zero_mul, nearestUnits_zero]

theorem convertedUnits_pos (positive : 0 < decay) : 0 < convertedUnits decay := by
  apply nearestUnits_pos
  rw [Nat.div_one]
  exact Nat.mul_pos positive unitsPerOne_pos

theorem convertedUnits_lt_unitsLimit (small : decay < powerOfTwo 100) :
    convertedUnits decay < unitsLimit :=
  nearestUnits_lt_unitsLimit small

theorem ofInt_eq_convertedUnits (milliseconds : Nat) :
    ofInt milliseconds = ofUnits false (convertedUnits milliseconds) :=
  ofInt_natCast milliseconds

theorem convertedUnits_mono (ordered : passed ≤ later) :
    convertedUnits passed ≤ convertedUnits later :=
  nearestUnits_mono Nat.one_pos (Nat.mul_le_mul_right unitsPerOne ordered)

theorem spentUnits_zero (decay : Nat) : spentUnits 0 decay = 0 := by
  rw [spentUnits, convertedUnits_zero, Nat.zero_mul, nearestUnits_zero]

theorem spentUnits_mono (positive : 0 < decay) (ordered : passed ≤ later) :
    spentUnits passed decay ≤ spentUnits later decay :=
  nearestUnits_mono (convertedUnits_pos positive)
    (Nat.mul_le_mul_right unitsPerOne (convertedUnits_mono ordered))

theorem unitsPerOne_le_spentUnits (positive : 0 < decay)
    (ended : convertedUnits decay ≤ convertedUnits passed) :
    unitsPerOne ≤ spentUnits passed decay := by
  apply one_le_nearestUnits (convertedUnits_pos positive)
  rw [Nat.mul_comm]
  exact Nat.mul_le_mul_right unitsPerOne ended

theorem leftUnits_zero (decay : Nat) : leftUnits 0 decay = unitsPerOne := by
  rw [leftUnits, spentUnits_zero, Nat.sub_zero, nearestUnits_one]

theorem leftUnits_antitone (positive : 0 < decay) (ordered : passed ≤ later) :
    leftUnits later decay ≤ leftUnits passed decay :=
  nearestUnits_mono Nat.one_pos (Nat.sub_le_sub_left (spentUnits_mono positive ordered) _)

theorem leftUnits_of_spent (all : unitsPerOne ≤ spentUnits passed decay) :
    leftUnits passed decay = 0 := by
  rw [leftUnits, Nat.sub_eq_zero_of_le all, nearestUnits_zero]

theorem leftUnits_of_ended (positive : 0 < decay) (ended : decay ≤ passed) :
    leftUnits passed decay = 0 :=
  leftUnits_of_spent (unitsPerOne_le_spentUnits positive (convertedUnits_mono ended))

end Order

section Error

theorem convertedUnits_error (milliseconds : Nat) :
    2 ^ 53 * convertedUnits milliseconds ≤ (2 ^ 53 + 1) * (milliseconds * unitsPerOne) ∧
      (2 ^ 53 - 1) * (milliseconds * unitsPerOne) ≤ 2 ^ 53 * convertedUnits milliseconds := by
  have normal : milliseconds * unitsPerOne = 0 ∨
      powerOfTwo 52 * 1 ≤ milliseconds * unitsPerOne := by
    rcases Nat.eq_zero_or_pos milliseconds with rfl | positive
    · exact .inl (Nat.zero_mul _)
    · have large : powerOfTwo 52 ≤ unitsPerOne := powerOfTwo_le (by decide)
      exact .inr ((Nat.mul_one _).le.trans (large.trans (Nat.le_mul_of_pos_left _ positive)))
  have error := nearestUnits_relative_error Nat.one_pos normal
  rwa [Nat.mul_one] at error

theorem spentUnits_relative_error (passed : Nat) (positive : 0 < decay)
    (small : decay < powerOfTwo 100) :
    2 ^ 53 * (spentUnits passed decay * convertedUnits decay) ≤
        (2 ^ 53 + 1) * (convertedUnits passed * unitsPerOne) ∧
      (2 ^ 53 - 1) * (convertedUnits passed * unitsPerOne) ≤
        2 ^ 53 * (spentUnits passed decay * convertedUnits decay) := by
  apply nearestUnits_relative_error (convertedUnits_pos positive)
  rcases Nat.eq_zero_or_pos passed with rfl | started
  · left
    rw [convertedUnits_zero, Nat.zero_mul]
  · right
    have dividend : unitsPerOne ≤ convertedUnits passed := by
      apply one_le_nearestUnits Nat.one_pos
      rw [Nat.mul_one]
      exact Nat.le_mul_of_pos_left _ started
    have divisor : convertedUnits decay ≤ 2 * (decay * unitsPerOne) := by
      have error := (convertedUnits_error decay).1
      omega
    have limit := Nat.mul_le_mul_right unitsPerOne small.le
    have scale : powerOfTwo 52 * 2 * powerOfTwo 100 = powerOfTwo 153 := rfl
    have room : powerOfTwo 153 ≤ unitsPerOne := powerOfTwo_le (by decide)
    calc powerOfTwo 52 * convertedUnits decay
      _ ≤ powerOfTwo 52 * (2 * (powerOfTwo 100 * unitsPerOne)) :=
        Nat.mul_le_mul_left _ (divisor.trans (Nat.mul_le_mul_left 2 limit))
      _ = powerOfTwo 153 * unitsPerOne := by rw [← Nat.mul_assoc, ← Nat.mul_assoc, scale]
      _ ≤ unitsPerOne * unitsPerOne := Nat.mul_le_mul_right _ room
      _ ≤ convertedUnits passed * unitsPerOne := Nat.mul_le_mul_right _ dividend

/-- What has passed of the decay time is off by four parts in `2⁵³` of it at most. -/
theorem spentUnits_error (positive : 0 < decay) (small : decay < powerOfTwo 100)
    (within : passed ≤ decay) :
    2 ^ 53 * (spentUnits passed decay * decay) ≤
        2 ^ 53 * (passed * unitsPerOne) + 4 * (decay * unitsPerOne) ∧
      2 ^ 53 * (passed * unitsPerOne) ≤
        2 ^ 53 * (spentUnits passed decay * decay) + 4 * (decay * unitsPerOne) := by
  obtain ⟨passedHigh, passedLow⟩ := convertedUnits_error passed
  obtain ⟨decayHigh, decayLow⟩ := convertedUnits_error decay
  obtain ⟨high, low⟩ := spentUnits_relative_error passed positive small
  have part := Nat.mul_le_mul_right unitsPerOne within
  generalize convertedUnits passed = dividend at *
  generalize convertedUnits decay = divisor at *
  generalize spentUnits passed decay = spent at *
  -- The divisor is replaced by the decay time, and the unit of both cancels.
  have above : (2 ^ 53 - 1) * (spent * decay) ≤ (2 ^ 53 + 1) * dividend := by
    apply Nat.le_of_mul_le_mul_right _ unitsPerOne_pos
    calc (2 ^ 53 - 1) * (spent * decay) * unitsPerOne
      _ = spent * ((2 ^ 53 - 1) * (decay * unitsPerOne)) := by ring
      _ ≤ spent * (2 ^ 53 * divisor) := Nat.mul_le_mul_left spent decayLow
      _ = 2 ^ 53 * (spent * divisor) := by ring
      _ ≤ (2 ^ 53 + 1) * (dividend * unitsPerOne) := high
      _ = (2 ^ 53 + 1) * dividend * unitsPerOne := by ring
  have below : (2 ^ 53 - 1) * dividend ≤ (2 ^ 53 + 1) * (spent * decay) := by
    apply Nat.le_of_mul_le_mul_right _ unitsPerOne_pos
    calc (2 ^ 53 - 1) * dividend * unitsPerOne
      _ = (2 ^ 53 - 1) * (dividend * unitsPerOne) := by ring
      _ ≤ 2 ^ 53 * (spent * divisor) := low
      _ = spent * (2 ^ 53 * divisor) := by ring
      _ ≤ spent * ((2 ^ 53 + 1) * (decay * unitsPerOne)) := Nat.mul_le_mul_left spent decayHigh
      _ = (2 ^ 53 + 1) * (spent * decay) * unitsPerOne := by ring
  omega

theorem leftUnits_error (passed decay : Nat) :
    2 ^ 53 * leftUnits passed decay ≤
        2 ^ 53 * (unitsPerOne - spentUnits passed decay) + unitsPerOne ∧
      2 ^ 53 * (unitsPerOne - spentUnits passed decay) ≤
        2 ^ 53 * leftUnits passed decay + unitsPerOne := by
  obtain ⟨high, low⟩ := nearestUnits_error (unitsPerOne - spentUnits passed decay) Nat.one_pos
  have positive := unitsPerOne_pos
  have two : powerOfTwo 1 = 2 := rfl
  have twice : powerOfTwo 1075 = 2 * unitsPerOne := by
    rw [← two, unitsPerOne, ← powerOfTwo_add]
  have small : unitsPerOne - spentUnits passed decay < powerOfTwo 1075 := by omega
  have step := spacing_le_powerOfTwo small
  have exponent : 1075 - 53 = 1022 := rfl
  rw [exponent] at step
  have parts : powerOfTwo 53 = 2 ^ 53 := rfl
  have steps : 2 ^ 53 * powerOfTwo 1022 = 2 * unitsPerOne := by
    rw [← parts, ← twice, ← powerOfTwo_add]
  rw [Nat.div_one] at high low
  rw [leftUnits]
  generalize powerOfTwo 1022 = coarsest at *
  omega

/-- Twice the farthest that a weight is off, in units. -/
def weightMargin : Nat :=
  powerOfTwo 1025

theorem weightMargin_eq : 2 ^ 53 * weightMargin = 16 * unitsPerOne := by
  have parts : powerOfTwo 53 = 2 ^ 53 := rfl
  have sixteen : powerOfTwo 4 = 16 := rfl
  rw [weightMargin, ← parts, ← sixteen, unitsPerOne, ← powerOfTwo_add, ← powerOfTwo_add]

theorem leftUnits_approximates (positive : 0 < decay) (small : decay < powerOfTwo 100)
    (within : passed ≤ decay) :
    (finite false (leftUnits passed decay)).Approximates ((decay - passed : Int) * unitsPerOne)
      decay weightMargin := by
  obtain ⟨spentHigh, spentLow⟩ := spentUnits_error positive small within
  obtain ⟨leftHigh, leftLow⟩ := leftUnits_error passed decay
  have scaledHigh := Nat.mul_le_mul_right decay leftHigh
  have scaledLow := Nat.mul_le_mul_right decay leftLow
  have scaledMargin := congrArg (· * decay) weightMargin_eq
  have part := Nat.mul_le_mul_right unitsPerOne within
  simp only [Nat.add_mul, Nat.mul_assoc, Nat.sub_mul] at scaledHigh scaledLow scaledMargin
  rw [Nat.mul_comm unitsPerOne decay] at scaledHigh scaledLow scaledMargin
  have left : (finite false (leftUnits passed decay)).toUnits = (leftUnits passed decay : Int) :=
    rfl
  generalize weightMargin = margin at *
  generalize unitsPerOne = unit at *
  refine ⟨⟨false, _, rfl⟩, ?_, ?_⟩
  · rw [left, Int.sub_mul]
    push_cast at *
    omega
  · rw [left, Int.sub_mul]
    push_cast at *
    omega

end Error

theorem decayedWeight_eq {elapsed decay : Duration} {milliseconds : Nat}
    (whole : decay.milliseconds = milliseconds) (positive : 0 < milliseconds)
    (small : milliseconds < powerOfTwo 100) :
    decayedWeight elapsed decay =
      finite false (leftUnits elapsed.milliseconds.toNat milliseconds) := by
  have lasting : ¬decay.nanoseconds ≤ 0 := by
    have long := Duration.milliseconds_pos_iff.mp (whole ▸ Int.natCast_pos.mpr positive)
    omega
  have divisor := convertedUnits_pos positive
  rw [decayedWeight, if_neg lasting, ← Int.ofNat_toNat, whole, ofInt_eq_convertedUnits,
    ofInt_eq_convertedUnits, ofUnits_eq_finite (convertedUnits_lt_unitsLimit small)]
  change (one - div _ _).clamp zero one = _
  by_cases fits : convertedUnits elapsed.milliseconds.toNat < unitsLimit
  · rw [ofUnits_eq_finite fits, div, if_neg divisor.ne']
    exact clamp_one_sub _
  · -- More time has passed than a double can hold, so the whole decay time has.
    have limit := convertedUnits_lt_unitsLimit small
    rw [ofUnits, if_neg fits, leftUnits_of_spent (unitsPerOne_le_spentUnits positive (by omega))]
    exact clamp_one_sub_infinite

end LastSelection

end WifiSelection
