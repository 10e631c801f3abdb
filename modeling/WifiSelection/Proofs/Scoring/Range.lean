import WifiSelection.Proofs.Binary64.Whole
import WifiSelection.Scoring

/-!
Every scorer gives every candidate a plain value: whatever the settings, the selection weight and
the history are, the score stays far inside the range of doubles, so no value is a NaN, an infinity
or a negative zero.
-/

namespace WifiSelection

namespace Scoring

theorem maxSigned64_lt : Width.maxSigned64 < 2 ^ 63 := by decide

theorem cappedRssi_bounds (settings : ScoringSettings) (candidate : Candidate) :
    -2 ^ 31 ≤ cappedRssi settings candidate ∧ cappedRssi settings candidate < 2 ^ 31 := by
  have rssiLow := candidate.rssi.le_toInt
  have rssiHigh := candidate.rssi.toInt_lt
  have goodLow := (settings.goodRssi candidate.frequency).le_toInt
  simp only [cappedRssi]
  omega

theorem linkAward_bounds (settings : ScoringSettings) (candidate : Candidate) :
    -2 ^ 32 ≤ linkAward settings candidate ∧ linkAward settings candidate < 2 ^ 32 := by
  have bandLow := settings.band5GhzAward.le_toInt
  have bandHigh := settings.band5GhzAward.toInt_lt
  have securityLow := settings.securityAward.le_toInt
  have securityHigh := settings.securityAward.toInt_lt
  simp only [linkAward]
  split <;> split <;> omega

theorem selectionBonus_bounds (settings : ScoringSettings) (candidate : Candidate) :
    -2 ^ 63 ≤ selectionBonus settings candidate ∧ selectionBonus settings candidate < 2 ^ 63 := by
  have bounds := Binary64.truncate_bounds
    (candidate.lastSelectionWeight * Binary64.ofInt settings.lastSelectionAward.toInt)
  have limit := maxSigned64_lt
  simp only [selectionBonus]
  omega

theorem rankPenalty_bounds (candidate : Candidate) :
    0 ≤ rankPenalty candidate ∧ rankPenalty candidate < 1000 * 2 ^ 32 := by
  have high := candidate.evaluatorPriority.toNat_lt
  simp only [rankPenalty, rankPenaltyUnit]
  omega

theorem toInt_natAbs_small (value : Int32) : value.toInt.natAbs < Binary64.powerOfTwo 53 := by
  have small : 2 ^ 31 < Binary64.powerOfTwo 53 := by decide
  have low := value.le_toInt
  have high := value.toInt_lt
  omega

theorem selectionBonus_between (settings : ScoringSettings) {candidate : Candidate}
    (share : candidate.lastSelectionWeight.IsShare) :
    min 0 settings.lastSelectionAward.toInt ≤ selectionBonus settings candidate ∧
      selectionBonus settings candidate ≤ max 0 settings.lastSelectionAward.toInt := by
  have small := toInt_natAbs_small settings.lastSelectionAward
  by_cases number : candidate.lastSelectionWeight = Binary64.nan
  · have nothing : selectionBonus settings candidate = 0 := by
      rw [selectionBonus, number]
      rfl
    omega
  · exact (share.mul_ofInt number small).truncate (by omega) (by omega)

theorem shared_bounds (settings : ScoringSettings) {candidate : Candidate}
    (share : candidate.lastSelectionWeight.IsShare) :
    -2 ^ 31 ≤ selectionBonus settings candidate ∧ selectionBonus settings candidate < 2 ^ 31 := by
  have between := selectionBonus_between settings share
  have awardLow := settings.lastSelectionAward.le_toInt
  have awardHigh := settings.lastSelectionAward.toInt_lt
  omega

theorem suggestedCutoff?_isSome {history : SignalHistory} (many : 30 ≤ history.count) :
    (ScoreCard.suggestedCutoff? history).isSome := by
  have polled : history.count ≠ 0 := by
    intro unpolled
    rw [unpolled] at many
    exact absurd many (by decide)
  have significant : ¬history.count < ScoreCard.significantPolls := UInt32.not_lt.mpr many
  simp [ScoreCard.suggestedCutoff?, significant, SignalHistory.deviation?, SignalHistory.variance?,
    SignalHistory.mean?, polled]

/-- A cutoff from history keeps to the configured limits, to the upper one if they are crossed. -/
theorem cutoff_between (settings : ScoringSettings) {history : Option SignalHistory}
    {suggested : Binary64} (found : history.bind ScoreCard.suggestedCutoff? = some suggested) :
    min settings.cutoffRssiMin.toInt settings.cutoffRssiMax.toInt ≤
        ScoreCard.cutoff settings history ∧
      ScoreCard.cutoff settings history ≤ settings.cutoffRssiMax.toInt := by
  have low := toInt_natAbs_small settings.cutoffRssiMin
  have high := toInt_natAbs_small settings.cutoffRssiMax
  rw [ScoreCard.cutoff, found]
  exact (Binary64.isWithin_minimum_maximum suggested low high).truncate (by omega) high

theorem cutoff_bounds (settings : ScoringSettings) (history : Option SignalHistory) :
    -2 ^ 31 ≤ ScoreCard.cutoff settings history ∧ ScoreCard.cutoff settings history < 2 ^ 31 := by
  cases found : history.bind ScoreCard.suggestedCutoff? with
  | none =>
      rw [ScoreCard.cutoff, found]
      simp [rssiOffset]
  | some suggested =>
      have between := cutoff_between settings found
      have minLow := settings.cutoffRssiMin.le_toInt
      have maxLow := settings.cutoffRssiMax.le_toInt
      have maxHigh := settings.cutoffRssiMax.toInt_lt
      omega

theorem scaled_bounds (left right : Int32) :
    -2 ^ 62 ≤ left.toInt * right.toInt ∧ left.toInt * right.toInt ≤ 2 ^ 62 := by
  have magnitude : left.toInt.natAbs ≤ 2 ^ 31 := by
    have low := left.le_toInt
    have high := left.toInt_lt
    omega
  have scale : right.toInt.natAbs ≤ 2 ^ 31 := by
    have low := right.le_toInt
    have high := right.toInt_lt
    omega
  have product := Nat.mul_le_mul magnitude scale
  rw [← Int.natAbs_mul] at product
  omega

theorem throughputBonus_bounds (settings : ScoringSettings) (throughput : Int32) :
    -2 ^ 62 ≤ Throughput.bonus settings throughput ∧
      Throughput.bonus settings throughput < 2 ^ 31 := by
  have limitLow := settings.throughputLimit.le_toInt
  have limitHigh := settings.throughputLimit.toInt_lt
  have scaled := scaled_bounds throughput settings.throughputNumerator
  have quotient := Int.natAbs_tdiv_le_natAbs
    (throughput.toInt * settings.throughputNumerator.toInt) settings.throughputDenominator.toInt
  simp only [Throughput.bonus]
  split <;> omega

theorem compatibility_natAbs_lt (settings : ScoringSettings) (candidate : Candidate) :
    (Compatibility.score settings candidate).natAbs < 2 ^ 53 := by
  have rssi := cappedRssi_bounds settings candidate
  have link := linkAward_bounds settings candidate
  have penalty := rankPenalty_bounds candidate
  have nominatedLow := candidate.evaluatorScore.le_toInt
  have nominatedHigh := candidate.evaluatorScore.toInt_lt
  simp only [Compatibility.score, rssiOffset, rssiSlope]
  split <;> omega

theorem scoreCard_natAbs_le (settings : ScoringSettings) (candidate : Candidate) :
    (ScoreCard.score settings candidate).natAbs ≤
      2 ^ 43 + (selectionBonus settings candidate).natAbs := by
  have rssi := cappedRssi_bounds settings candidate
  have link := linkAward_bounds settings candidate
  have penalty := rankPenalty_bounds candidate
  have cutoff := cutoff_bounds settings candidate.history
  simp only [ScoreCard.score, rssiSlope]
  omega

theorem throughput_natAbs_le (settings : ScoringSettings) (candidate : Candidate) :
    (Throughput.score settings candidate).natAbs ≤
      2 ^ 35 + (Throughput.bonus settings candidate.predictedThroughput).natAbs +
        (selectionBonus settings candidate).natAbs := by
  have rssi := cappedRssi_bounds settings candidate
  have currentLow := settings.currentNetworkBonus.le_toInt
  have currentHigh := settings.currentNetworkBonus.toInt_lt
  have secureLow := settings.secureNetworkBonus.le_toInt
  have secureHigh := settings.secureNetworkBonus.toInt_lt
  have unmeteredLow := settings.unmeteredNetworkBonus.le_toInt
  have unmeteredHigh := settings.unmeteredNetworkBonus.toInt_lt
  have savedLow := settings.savedNetworkBonus.le_toInt
  have savedHigh := settings.savedNetworkBonus.toInt_lt
  simp only [Throughput.score, rssiOffset, rssiSlope]
  split <;> split <;> split <;> split <;> omega

theorem throughput_natAbs_lt (settings : ScoringSettings) (candidate : Candidate) :
    (Throughput.score settings candidate).natAbs < 2 ^ 70 := by
  have score := throughput_natAbs_le settings candidate
  have selection := selectionBonus_bounds settings candidate
  have throughput := throughputBonus_bounds settings candidate.predictedThroughput
  omega

end Scoring

namespace Scorer

open Scoring Binary64

theorem powerOfTwo_seventy_le : 2 ^ 70 ≤ powerOfTwo 100 :=
  powerOfTwo_le (by decide : 70 ≤ 100)

theorem units_le_of_natAbs_lt {magnitude : Nat} (small : magnitude < 2 ^ 70) :
    2 * (magnitude * unitsPerOne) + 1 < powerOfTwo 72 * unitsPerOne := by
  have scaled := Nat.mul_le_mul_right unitsPerOne (Nat.succ_le_of_lt small)
  have positive := unitsPerOne_pos
  have four : powerOfTwo 72 = 4 * 2 ^ 70 := powerOfTwo_add 2 70
  rw [four, Nat.mul_assoc]
  rw [Nat.succ_eq_add_one, Nat.add_mul] at scaled
  omega

theorem throughputValue_isPlain (settings : ScoringSettings) (candidate : Candidate) :
    (Throughput.value settings candidate).IsPlain := by
  have score := throughput_natAbs_lt settings candidate
  have rssi : candidate.rssi.toInt.natAbs < 2 ^ 70 := by
    have low := candidate.rssi.le_toInt
    have high := candidate.rssi.toInt_lt
    omega
  have ⟨scoreUnits, scoreEq, scoreBound, scoreSigned⟩ := ofInt_eq_finite
    (score.trans_le powerOfTwo_seventy_le)
  have ⟨rssiUnits, rssiEq, rssiBound, _⟩ := ofInt_eq_finite (rssi.trans_le powerOfTwo_seventy_le)
  have thousand : ofInt 1000 = finite false (1000 * unitsPerOne) := by decide +kernel
  have scoreSmall := units_le_of_natAbs_lt score
  have rssiSmall := units_le_of_natAbs_lt rssi
  have room : powerOfTwo 4 * (powerOfTwo 72 * unitsPerOne) ≤ unitsLimit := by
    rw [unitsLimit_eq, ← Nat.mul_assoc, ← powerOfTwo_add]
    exact Nat.mul_le_mul_right _ (powerOfTwo_le (by decide))
  have sixteen : powerOfTwo 4 = 16 := rfl
  rw [sixteen] at room
  have positive := unitsPerOne_pos
  have large : unitsPerOne ≤ 1000 * unitsPerOne := by omega
  have small : 2 * rssiUnits + 1 < unitsLimit := by omega
  have ⟨shareUnits, shareEq, shareBound⟩ :=
    div_eq_finite (candidate.rssi.toInt < 0) false large small
  rw [Throughput.value, scoreEq, rssiEq, thousand, shareEq]
  exact add_isPlain (fun negative => scoreSigned (of_decide_eq_true negative)) (by omega)

/-- Whatever the settings and the candidate, the value is finite and no negative zero. -/
theorem value_isPlain (scorer : Scorer) (settings : ScoringSettings) (candidate : Candidate) :
    (scorer.value settings candidate).IsPlain := by
  have seventy := powerOfTwo_seventy_le
  cases scorer with
  | compatibility =>
      have score := compatibility_natAbs_lt settings candidate
      rw [value]
      exact ofInt_isPlain (by omega)
  | scoreCardBased =>
      have score := scoreCard_natAbs_le settings candidate
      have bonus := selectionBonus_bounds settings candidate
      rw [value]
      exact ofInt_isPlain (by omega)
  | throughput =>
      rw [value]
      exact throughputValue_isPlain settings candidate

end Scorer

end WifiSelection
