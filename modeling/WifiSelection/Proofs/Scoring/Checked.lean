import WifiSelection.Proofs.Integers
import WifiSelection.Proofs.Scoring.Range

/-!
The formulas in 64-bit arithmetic, one operation after the other. With a selection weight between
zero and one, or none, every operation has its result, and the last one is the score.
-/

namespace WifiSelection

namespace Scoring

open Width (Gives gives_some gives_int64? gives_sum? gives_difference? gives_product?
  gives_quotient?)

section Formulas

variable (settings : ScoringSettings) (candidate : Candidate)

def cappedRssi64 : Int64 :=
  (min candidate.rssi (settings.goodRssi candidate.frequency)).toInt64

def rssiScore64? : Option Int64 := do
  let raised ← Width.sum? (cappedRssi64 settings candidate) (.ofInt rssiOffset)
  Width.product? raised (.ofInt rssiSlope)

def withBonus? (due : Bool) (bonus : Int32) (score : Int64) : Option Int64 :=
  if due then Width.sum? score bonus.toInt64 else some score

def linkAward64? : Option Int64 := do
  let award ← withBonus? (Band.start5Ghz ≤ candidate.frequency) settings.band5GhzAward 0
  withBonus? (!candidate.isOpenNetwork) settings.securityAward award

def rankPenalty64? : Option Int64 :=
  Width.product? (.ofInt rankPenaltyUnit) (.ofNat candidate.evaluatorPriority.toNat)

namespace Compatibility

def base64? : Option Int64 :=
  if candidate.evaluatorScore != 0 then
    some candidate.evaluatorScore.toInt64
  else do
    let rssi ← rssiScore64? settings candidate
    let award ← linkAward64? settings candidate
    Width.sum? rssi award

def score64? : Option Int64 := do
  let base ← base64? settings candidate
  let penalty ← rankPenalty64? candidate
  Width.difference? base penalty

end Compatibility

namespace ScoreCard

def score64? : Option Int64 := do
  let cutoff ← Width.int64? (cutoff settings candidate.history)
  let above ← Width.difference? (cappedRssi64 settings candidate) cutoff
  let scaled ← Width.product? above (.ofInt rssiSlope)
  let award ← linkAward64? settings candidate
  let linked ← Width.sum? scaled award
  let selection ← Width.int64? (selectionBonus settings candidate)
  let picked ← Width.sum? linked selection
  let penalty ← rankPenalty64? candidate
  Width.difference? picked penalty

end ScoreCard

namespace Throughput

/-- The product is formed whatever the denominator is. -/
def bonus64? (throughput : Int32) : Option Int64 := do
  let scaled ← Width.product? throughput.toInt64 settings.throughputNumerator.toInt64
  let denominator := settings.throughputDenominator.toInt64
  if denominator ≤ 0 then
    return 0
  else
    let quotient ← Width.quotient? scaled denominator
    return min quotient settings.throughputLimit.toInt64

def score64? : Option Int64 := do
  let rssi ← rssiScore64? settings candidate
  let bonus ← bonus64? settings candidate.predictedThroughput
  let carried ← Width.sum? rssi bonus
  let selection ← Width.int64? (selectionBonus settings candidate)
  let picked ← Width.sum? carried selection
  let current ← withBonus? candidate.isCurrentNetwork settings.currentNetworkBonus picked
  let secure ← withBonus? (!candidate.isOpenNetwork) settings.secureNetworkBonus current
  let unmetered ← withBonus? (!candidate.isMetered) settings.unmeteredNetworkBonus secure
  withBonus? (!candidate.isEphemeral) settings.savedNetworkBonus unmetered

end Throughput

end Formulas

section Terms

variable (settings : ScoringSettings) (candidate : Candidate)

theorem toInt_cappedRssi64 :
    (cappedRssi64 settings candidate).toInt = cappedRssi settings candidate := by
  rw [cappedRssi64, Int32.toInt_toInt64, toInt_min, cappedRssi]

theorem toInt_rssiOffset : (Int64.ofInt rssiOffset).toInt = rssiOffset := rfl

theorem toInt_rssiSlope : (Int64.ofInt rssiSlope).toInt = rssiSlope := rfl

theorem rssiScore64?_gives : Gives (rssiScore64? settings candidate)
    ((cappedRssi settings candidate + rssiOffset) * rssiSlope) := by
  have rssi := cappedRssi_bounds settings candidate
  refine (gives_sum? (toInt_cappedRssi64 settings candidate) toInt_rssiOffset ?_ ?_).bind
    fun raised raisedEq => gives_product? raisedEq toInt_rssiSlope ?_ ?_
  all_goals simp only [rssiOffset, rssiSlope]; omega

theorem scaledRssi_bounds :
    -2 ^ 34 ≤ (cappedRssi settings candidate + rssiOffset) * rssiSlope ∧
      (cappedRssi settings candidate + rssiOffset) * rssiSlope < 2 ^ 34 := by
  have rssi := cappedRssi_bounds settings candidate
  simp only [rssiOffset, rssiSlope]
  omega

theorem ScoreCard.scaledRssi_bounds :
    -2 ^ 34 ≤ (cappedRssi settings candidate - cutoff settings candidate.history) * rssiSlope ∧
      (cappedRssi settings candidate - cutoff settings candidate.history) * rssiSlope < 2 ^ 34 := by
  have rssi := cappedRssi_bounds settings candidate
  have limits := cutoff_bounds settings candidate.history
  simp only [rssiSlope]
  omega

theorem withBonus?_gives {due : Bool} {bonus : Int32} {score : Int64} {value : Int}
    (same : score.toInt = value) (low : -2 ^ 62 - 2 ^ 60 ≤ value) (high : value < 2 ^ 62) :
    Gives (withBonus? due bonus score) (value + if due then bonus.toInt else 0) := by
  have bonusLow := bonus.le_toInt
  have bonusHigh := bonus.toInt_lt
  rw [withBonus?]
  cases due with
  | false =>
      rw [if_neg Bool.false_ne_true, if_neg Bool.false_ne_true, Int.add_zero]
      exact gives_some same
  | true => exact gives_sum? same (Int32.toInt_toInt64 bonus) (by omega) (by omega)

theorem due_bounds (due : Bool) (bonus : Int32) :
    -2 ^ 31 ≤ (if due then bonus.toInt else 0) ∧ (if due then bonus.toInt else 0) < 2 ^ 31 := by
  have low := bonus.le_toInt
  have high := bonus.toInt_lt
  split <;> omega

theorem linkAward64?_gives :
    Gives (linkAward64? settings candidate) (linkAward settings candidate) := by
  have band := due_bounds (Band.start5Ghz ≤ candidate.frequency) settings.band5GhzAward
  have award : linkAward settings candidate =
      (0 + if decide (Band.start5Ghz ≤ candidate.frequency) then
        settings.band5GhzAward.toInt else 0) +
      if !candidate.isOpenNetwork then settings.securityAward.toInt else 0 := by
    rw [linkAward, Int.zero_add]
    simp only [decide_eq_true_eq, Bool.not_eq_true', ← Bool.not_eq_true, ite_not]
  rw [award, linkAward64?]
  refine (withBonus?_gives rfl (by decide) (by decide)).bind fun found same =>
    withBonus?_gives same ?_ ?_
  all_goals omega

theorem rankPenalty64?_gives : Gives (rankPenalty64? candidate) (rankPenalty candidate) := by
  have bounds := rankPenalty_bounds candidate
  have high := candidate.evaluatorPriority.toNat_lt
  rw [rankPenalty] at bounds
  exact gives_product? rfl (Int64.toInt_ofNat_of_lt (by omega)) (by omega) (by omega)

theorem Throughput.bonus64?_gives (throughput : Int32) :
    Gives (Throughput.bonus64? settings throughput) (Throughput.bonus settings throughput) := by
  have product := scaled_bounds throughput settings.throughputNumerator
  have sign : settings.throughputDenominator.toInt64 ≤ 0 ↔
      settings.throughputDenominator.toInt ≤ 0 := by
    rw [Int64.le_iff_toInt_le, Int32.toInt_toInt64]
    rfl
  rw [bonus64?, bonus]
  refine (gives_product? (Int32.toInt_toInt64 _) (Int32.toInt_toInt64 _) ?_ ?_).bind
    fun scaled scaledEq => ?_
  · omega
  · omega
  · simp only [sign]
    split
    next => exact gives_some rfl
    next positive =>
      have quotient := Int.natAbs_tdiv_le_natAbs
        (throughput.toInt * settings.throughputNumerator.toInt)
        settings.throughputDenominator.toInt
      refine (gives_quotient? scaledEq (Int32.toInt_toInt64 _) ?_ ?_ ?_).bind
        fun found foundEq => gives_some ?_
      · omega
      · omega
      · omega
      · rw [Width.toInt_min, foundEq, Int32.toInt_toInt64]

end Terms

section Scores

variable (settings : ScoringSettings) {candidate : Candidate}

theorem Compatibility.base64?_gives : Gives (Compatibility.base64? settings candidate)
    (if candidate.evaluatorScore != 0 then
      candidate.evaluatorScore.toInt
    else
      (cappedRssi settings candidate + rssiOffset) * rssiSlope +
        linkAward settings candidate) := by
  have rssi := scaledRssi_bounds settings candidate
  have link := linkAward_bounds settings candidate
  rw [base64?]
  split
  next => exact gives_some (Int32.toInt_toInt64 candidate.evaluatorScore)
  next =>
    refine (rssiScore64?_gives settings candidate).bind
      fun scaled scaledEq => (linkAward64?_gives settings candidate).bind
      fun award awardEq => gives_sum? scaledEq awardEq ?_ ?_
    all_goals omega

theorem Compatibility.score64?_gives :
    Gives (Compatibility.score64? settings candidate) (Compatibility.score settings candidate) := by
  have bound := compatibility_natAbs_lt settings candidate
  rw [score] at bound ⊢
  rw [score64?]
  refine (base64?_gives settings).bind
    fun base baseEq => (rankPenalty64?_gives candidate).bind
    fun taken takenEq => gives_difference? baseEq takenEq ?_ ?_
  all_goals omega

theorem ScoreCard.score64?_gives (share : candidate.lastSelectionWeight.IsShare) :
    Gives (ScoreCard.score64? settings candidate) (ScoreCard.score settings candidate) := by
  have rssi := cappedRssi_bounds settings candidate
  have link := linkAward_bounds settings candidate
  have penalty := rankPenalty_bounds candidate
  have cutoff := cutoff_bounds settings candidate.history
  have above := ScoreCard.scaledRssi_bounds settings candidate
  have selection := shared_bounds settings share
  rw [score64?, score]
  -- One operation after the other; what is left of each is that its result is within 64 bits.
  refine (gives_int64? ?_ ?_).bind
    fun cutoff cutoffEq =>
      (gives_difference? (toInt_cappedRssi64 settings candidate) cutoffEq ?_ ?_).bind
    fun above aboveEq => (gives_product? aboveEq toInt_rssiSlope ?_ ?_).bind
    fun scaled scaledEq => (linkAward64?_gives settings candidate).bind
    fun award awardEq => (gives_sum? scaledEq awardEq ?_ ?_).bind
    fun linked linkedEq => (gives_int64? ?_ ?_).bind
    fun selection selectionEq => (gives_sum? linkedEq selectionEq ?_ ?_).bind
    fun picked pickedEq => (rankPenalty64?_gives candidate).bind
    fun taken takenEq => gives_difference? pickedEq takenEq ?_ ?_
  all_goals omega

theorem throughput_score_eq : Throughput.score settings candidate =
    (cappedRssi settings candidate + rssiOffset) * rssiSlope +
      Throughput.bonus settings candidate.predictedThroughput +
      selectionBonus settings candidate +
      (if candidate.isCurrentNetwork then settings.currentNetworkBonus.toInt else 0) +
      (if !candidate.isOpenNetwork then settings.secureNetworkBonus.toInt else 0) +
      (if !candidate.isMetered then settings.unmeteredNetworkBonus.toInt else 0) +
      (if !candidate.isEphemeral then settings.savedNetworkBonus.toInt else 0) := by
  simp only [Throughput.score, Bool.not_eq_true', ← Bool.not_eq_true, ite_not]

theorem Throughput.score64?_gives (share : candidate.lastSelectionWeight.IsShare) :
    Gives (Throughput.score64? settings candidate) (Throughput.score settings candidate) := by
  have rssi := scaledRssi_bounds settings candidate
  have bonus := throughputBonus_bounds settings candidate.predictedThroughput
  have selection := shared_bounds settings share
  have current := due_bounds candidate.isCurrentNetwork settings.currentNetworkBonus
  have secure := due_bounds (!candidate.isOpenNetwork) settings.secureNetworkBonus
  have unmetered := due_bounds (!candidate.isMetered) settings.unmeteredNetworkBonus
  rw [throughput_score_eq, score64?]
  refine (rssiScore64?_gives settings candidate).bind
    fun rssi rssiEq => (bonus64?_gives settings candidate.predictedThroughput).bind
    fun bonus bonusEq => (gives_sum? rssiEq bonusEq ?_ ?_).bind
    fun carried carriedEq => (gives_int64? ?_ ?_).bind
    fun selection selectionEq => (gives_sum? carriedEq selectionEq ?_ ?_).bind
    fun picked pickedEq => (withBonus?_gives pickedEq ?_ ?_).bind
    fun current currentEq => (withBonus?_gives currentEq ?_ ?_).bind
    fun secure secureEq => (withBonus?_gives secureEq ?_ ?_).bind
    fun unmetered unmeteredEq => withBonus?_gives unmeteredEq ?_ ?_
  all_goals omega

end Scores

end Scoring

end WifiSelection
