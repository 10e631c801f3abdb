import WifiSelection.Proofs.Scoring.Exact

/-!
How scores follow the conditions at an access point. Other conditions change a score by what the
capped signal strength and the throughput bonus gain, and by nothing else; so better conditions
never lower a score, and signals count up to the strength that is good for the band.
-/

namespace WifiSelection

def Candidate.withConditions (candidate : Candidate) (rssi throughput : Int32) : Candidate :=
  { candidate with rssi := rssi, predictedThroughput := throughput }

namespace Scoring

variable (settings : ScoringSettings) {candidate : Candidate} {rssi : Int32}

theorem cappedRssi_le_withConditions (stronger : candidate.rssi ≤ rssi) (fast : Int32) :
    cappedRssi settings candidate ≤
      cappedRssi settings (candidate.withConditions rssi fast) := by
  rw [Int32.le_iff_toInt_le] at stronger
  simp only [cappedRssi, Candidate.withConditions]
  omega

theorem cappedRssi_of_good (good : settings.goodRssi candidate.frequency ≤ candidate.rssi) :
    cappedRssi settings candidate = (settings.goodRssi candidate.frequency).toInt := by
  rw [Int32.le_iff_toInt_le] at good
  exact Int.min_eq_right good

theorem Throughput.bonus_le_bonus {slow fast : Int32}
    (unsigned : 0 ≤ settings.throughputNumerator) (faster : slow ≤ fast) :
    Throughput.bonus settings slow ≤ Throughput.bonus settings fast := by
  rw [Int32.le_iff_toInt_le] at unsigned faster
  have scaled := Int.mul_le_mul_of_nonneg_right faster unsigned
  simp only [bonus]
  split
  next => exact Int.le_refl 0
  next positive =>
    have quotient := Int.tdiv_le_tdiv (Int.not_le.mp positive) scaled
    omega

theorem Throughput.bonus_le_limit (positive : 0 < settings.throughputDenominator)
    (throughput : Int32) :
    Throughput.bonus settings throughput ≤ settings.throughputLimit.toInt := by
  rw [Int32.lt_iff_toInt_lt, Int32.toInt_zero] at positive
  rw [bonus, if_neg (Int.not_le.mpr positive)]
  exact Int.min_le_right _ _

end Scoring

namespace Scorer

open Scoring

section Gains

variable {scorer : Scorer} (settings : ScoringSettings) {candidate : Candidate}
  {rssi fast : Int32}

def gain (scorer : Scorer) (settings : ScoringSettings) (candidate : Candidate)
    (rssi fast : Int32) : Int :=
  let signal := (cappedRssi settings (candidate.withConditions rssi fast) -
    cappedRssi settings candidate) * rssiSlope
  match scorer with
  | compatibility => if candidate.evaluatorScore != 0 then 0 else signal
  | scoreCardBased => signal
  | throughput => signal + (Throughput.bonus settings fast -
      Throughput.bonus settings candidate.predictedThroughput)

theorem score_withConditions :
    scorer.score settings (candidate.withConditions rssi fast) =
      scorer.score settings candidate + scorer.gain settings candidate rssi fast := by
  have award : linkAward settings (candidate.withConditions rssi fast) =
      linkAward settings candidate := rfl
  have penalty : rankPenalty (candidate.withConditions rssi fast) = rankPenalty candidate := rfl
  have selection : selectionBonus settings (candidate.withConditions rssi fast) =
      selectionBonus settings candidate := rfl
  cases scorer with
  | compatibility =>
      have nominated : (candidate.withConditions rssi fast).evaluatorScore =
          candidate.evaluatorScore := rfl
      simp only [score, gain, Compatibility.score, nominated, award, penalty, rssiSlope]
      split <;> omega
  | scoreCardBased =>
      have history : (candidate.withConditions rssi fast).history = candidate.history := rfl
      simp only [score, gain, ScoreCard.score, history, award, penalty, selection, rssiSlope]
      omega
  | throughput =>
      have predicted : (candidate.withConditions rssi fast).predictedThroughput = fast := rfl
      have flags : (candidate.withConditions rssi fast).isCurrentNetwork =
            candidate.isCurrentNetwork ∧
          (candidate.withConditions rssi fast).isOpenNetwork = candidate.isOpenNetwork ∧
          (candidate.withConditions rssi fast).isMetered = candidate.isMetered ∧
          (candidate.withConditions rssi fast).isEphemeral = candidate.isEphemeral :=
        ⟨rfl, rfl, rfl, rfl⟩
      simp only [score, gain, Throughput.score, predicted, flags, selection, rssiSlope]
      omega

theorem gain_nonneg (unsigned : 0 ≤ settings.throughputNumerator)
    (stronger : candidate.rssi ≤ rssi) (faster : candidate.predictedThroughput ≤ fast) :
    0 ≤ scorer.gain settings candidate rssi fast := by
  have signal := cappedRssi_le_withConditions settings stronger fast
  have bonus := Throughput.bonus_le_bonus settings unsigned faster
  cases scorer with
  | compatibility =>
      simp only [gain, rssiSlope]
      split <;> omega
  | scoreCardBased =>
      simp only [gain, rssiSlope]
      omega
  | throughput =>
      simp only [gain, rssiSlope]
      omega

theorem gain_eq_zero (good : settings.goodRssi candidate.frequency ≤ candidate.rssi)
    (stillGood : settings.goodRssi candidate.frequency ≤ rssi) :
    scorer.gain settings candidate rssi candidate.predictedThroughput = 0 := by
  have signal : cappedRssi settings
      (candidate.withConditions rssi candidate.predictedThroughput) =
        cappedRssi settings candidate := by
    rw [cappedRssi_of_good settings good]
    exact cappedRssi_of_good settings stillGood
  cases scorer <;> simp [gain, signal]

theorem score64?_le_score64? {left right : Candidate}
    (leftShare : left.lastSelectionWeight.IsShare)
    (rightShare : right.lastSelectionWeight.IsShare)
    (ordered : scorer.score settings left ≤ scorer.score settings right) :
    ∃ lower upper, scorer.score64? settings left = some lower ∧
      scorer.score64? settings right = some upper ∧ lower ≤ upper := by
  obtain ⟨lower, leftEq, lowerEq⟩ :=
    Option.map_eq_some_iff.mp (score64?_gives settings scorer leftShare)
  obtain ⟨upper, rightEq, upperEq⟩ :=
    Option.map_eq_some_iff.mp (score64?_gives settings scorer rightShare)
  refine ⟨lower, upper, leftEq, rightEq, ?_⟩
  rwa [Int64.le_iff_toInt_le, lowerEq, upperEq]

end Gains

/-- As long as throughput does not count against a network, better conditions never lower a score,
whatever the formula and the other settings are. Signals that are good for the band score alike.
And no throughput bonus with a positive denominator exceeds the limit. -/
theorem scores_follow_conditions (settings : ScoringSettings) :
    (0 ≤ settings.throughputNumerator →
      ∀ (scorer : Scorer) (candidate : Candidate) (rssi fast : Int32),
        candidate.rssi ≤ rssi → candidate.predictedThroughput ≤ fast →
        scorer.score settings candidate ≤
            scorer.score settings (candidate.withConditions rssi fast) ∧
          (candidate.lastSelectionWeight.IsShare →
            ∃ lower upper, scorer.score64? settings candidate = some lower ∧
              scorer.score64? settings (candidate.withConditions rssi fast) = some upper ∧
              lower ≤ upper)) ∧
    (∀ (scorer : Scorer) (candidate : Candidate) (rssi : Int32),
      settings.goodRssi candidate.frequency ≤ candidate.rssi →
      settings.goodRssi candidate.frequency ≤ rssi →
      scorer.score settings (candidate.withConditions rssi candidate.predictedThroughput) =
        scorer.score settings candidate) ∧
    (0 < settings.throughputDenominator → ∀ throughput : Int32,
      Throughput.bonus settings throughput ≤ settings.throughputLimit.toInt) := by
  refine ⟨?_, ?_, Throughput.bonus_le_limit settings⟩
  · intro unsigned scorer candidate rssi fast stronger faster
    have gained : 0 ≤ scorer.gain settings candidate rssi fast :=
      gain_nonneg settings unsigned stronger faster
    have ordered : scorer.score settings candidate ≤
        scorer.score settings (candidate.withConditions rssi fast) := by
      rw [score_withConditions]
      omega
    exact ⟨ordered, fun share => score64?_le_score64? settings share share ordered⟩
  · intro scorer candidate rssi good stillGood
    rw [score_withConditions, gain_eq_zero settings good stillGood, Int.add_zero]

theorem scores_follow_conditions_sample :
    let settings := { ScoringSettings.standard with throughputLimit := -7 }
    let weak := { Samples.candidate "cafe" 1 3 with rssi := -70, predictedThroughput := -433 }
    let good := weak.withConditions (-60) 866
    (0 ≤ settings.throughputNumerator ∧ weak.rssi ≤ -60 ∧ weak.predictedThroughput ≤ 866 ∧
      weak.lastSelectionWeight.IsShare ∧
      score throughput settings weak ≤ score throughput settings good ∧
      ∃ lower upper, score64? throughput settings weak = some lower ∧
        score64? throughput settings good = some upper ∧ lower ≤ upper) ∧
    (settings.goodRssi good.frequency ≤ good.rssi ∧ settings.goodRssi good.frequency ≤ -30 ∧
      score throughput settings (good.withConditions (-30) good.predictedThroughput) =
        score throughput settings good) ∧
    0 < settings.throughputDenominator ∧ Throughput.bonus settings 866 ≤ -7 := by
  intro settings weak good
  obtain ⟨improved, saturated, limited⟩ := scores_follow_conditions settings
  have unsigned : 0 ≤ settings.throughputNumerator := by decide
  have stronger : weak.rssi ≤ -60 := by decide
  have faster : weak.predictedThroughput ≤ 866 := by decide
  have share : weak.lastSelectionWeight.IsShare := by decide +kernel
  have positive : 0 < settings.throughputDenominator := by decide
  obtain ⟨ordered, inWidth⟩ := improved unsigned throughput weak (-60) 866 stronger faster
  refine ⟨⟨unsigned, stronger, faster, share, ordered, inWidth share⟩, ?_, positive,
    limited positive 866⟩
  exact ⟨by decide, by decide, saturated throughput good (-30) (by decide) (by decide)⟩

end Scorer

end WifiSelection
