import WifiSelection.Proofs.Registry.Instances
import WifiSelection.Proofs.Scoring.Checked
import WifiSelection.Samples
import WifiSelection.Scoring

/-!
Scores are exact. The weights that registries hold are shares, so no formula leaves 64 bits; and the
scores that are values by themselves fit into a double, so that values are compared as scores are.
-/

namespace WifiSelection

theorem Registry.weight_isShare (steps : List Registry.Step) :
    ∀ entry ∈ (Registry.after steps).entries, entry.lastSelectionWeight.IsShare :=
  forall_entries_after (fun _ nomination _ => Binary64.clamp_isShare nomination.selectionWeight)
    steps

namespace Scoring

theorem Throughput.bonus_natAbs_le (settings : ScoringSettings) {throughput : Int32}
    (nonneg : 0 ≤ throughput.toInt * settings.throughputNumerator.toInt) :
    (Throughput.bonus settings throughput).natAbs ≤ 2 ^ 31 := by
  have limitLow := settings.throughputLimit.le_toInt
  have limitHigh := settings.throughputLimit.toInt_lt
  rw [bonus]
  split
  next => decide
  next positive =>
    have quotient := Int.tdiv_nonneg nonneg (Int.le_of_lt (Int.not_le.mp positive))
    omega

end Scoring

namespace Scorer

open Scoring

def score (scorer : Scorer) (settings : ScoringSettings) (candidate : Candidate) : Int :=
  match scorer with
  | compatibility => Compatibility.score settings candidate
  | scoreCardBased => ScoreCard.score settings candidate
  | throughput => Throughput.score settings candidate

def score64? (scorer : Scorer) (settings : ScoringSettings) (candidate : Candidate) :
    Option Int64 :=
  match scorer with
  | compatibility => Compatibility.score64? settings candidate
  | scoreCardBased => ScoreCard.score64? settings candidate
  | throughput => Throughput.score64? settings candidate

variable (settings : ScoringSettings) {candidate left right : Candidate}

theorem score64?_gives (scorer : Scorer) (share : candidate.lastSelectionWeight.IsShare) :
    Width.Gives (scorer.score64? settings candidate) (scorer.score settings candidate) := by
  cases scorer with
  | compatibility => exact Compatibility.score64?_gives settings
  | scoreCardBased => exact ScoreCard.score64?_gives settings share
  | throughput => exact Throughput.score64?_gives settings share

theorem score_natAbs_lt {scorer : Scorer} (integral : scorer ≠ throughput)
    (share : candidate.lastSelectionWeight.IsShare) :
    (scorer.score settings candidate).natAbs < 2 ^ 53 := by
  cases scorer with
  | compatibility => exact compatibility_natAbs_lt settings candidate
  | scoreCardBased =>
      have score := scoreCard_natAbs_le settings candidate
      have selection := shared_bounds settings share
      rw [Scorer.score]
      omega
  | throughput => exact (integral rfl).elim

theorem throughputScore_natAbs_lt_fine (share : candidate.lastSelectionWeight.IsShare)
    (nonneg : 0 ≤ candidate.predictedThroughput.toInt * settings.throughputNumerator.toInt) :
    (Throughput.score settings candidate).natAbs < 2 ^ 43 := by
  have score := throughput_natAbs_le settings candidate
  have bonus := Throughput.bonus_natAbs_le settings nonneg
  have selection := shared_bounds settings share
  omega

theorem throughputScore_natAbs_lt (share : candidate.lastSelectionWeight.IsShare)
    (nonneg : 0 ≤ candidate.predictedThroughput.toInt * settings.throughputNumerator.toInt) :
    (score throughput settings candidate).natAbs < 2 ^ 53 :=
  (throughputScore_natAbs_lt_fine settings share nonneg).trans (by decide)

theorem value_eq_ofInt {scorer : Scorer} (integral : scorer ≠ throughput) :
    scorer.value settings candidate = .ofInt (scorer.score settings candidate) := by
  cases scorer with
  | compatibility => rfl
  | scoreCardBased => rfl
  | throughput => exact (integral rfl).elim

/-- Whatever the settings, for the candidates that a registry can hold no formula leaves 64 bits or
divides by zero. The scores of all formulas but that of throughput stay below `2⁵³`, become values
without rounding, and are compared by their values. A throughput score stays below it as long as
the scaled throughput is not negative, for its bonus is limited from above only. -/
theorem scores_are_exact (settings : ScoringSettings) {left right : Candidate}
    (leftShare : left.lastSelectionWeight.IsShare)
    (rightShare : right.lastSelectionWeight.IsShare) :
    (∀ steps, ∀ entry ∈ (Registry.after steps).entries, entry.lastSelectionWeight.IsShare) ∧
    (∀ scorer : Scorer, (scorer.score64? settings left).map Int64.toInt =
      some (scorer.score settings left)) ∧
    (∀ scorer : Scorer, scorer ≠ throughput →
      (scorer.score settings left).natAbs < 2 ^ 53 ∧
      scorer.value settings left = .finite (scorer.score settings left < 0)
        ((scorer.score settings left).natAbs * Binary64.unitsPerOne) ∧
      (Binary64.less (scorer.value settings left) (scorer.value settings right) = true ↔
        scorer.score settings left < scorer.score settings right) ∧
      (scorer.value settings left = scorer.value settings right ↔
        scorer.score settings left = scorer.score settings right)) ∧
    (0 ≤ left.predictedThroughput.toInt * settings.throughputNumerator.toInt →
      (score throughput settings left).natAbs < 2 ^ 53) := by
  refine ⟨Registry.weight_isShare, fun scorer => score64?_gives settings scorer leftShare, ?_,
    throughputScore_natAbs_lt settings leftShare⟩
  intro scorer integral
  have leftSmall := score_natAbs_lt settings integral leftShare
  have rightSmall := score_natAbs_lt settings integral rightShare
  rw [value_eq_ofInt settings integral, value_eq_ofInt settings integral]
  exact ⟨leftSmall, Binary64.ofInt_eq leftSmall, Binary64.less_ofInt_iff leftSmall rightSmall,
    Binary64.ofInt_inj leftSmall rightSmall⟩

def limitSettings : ScoringSettings where
  goodRssi24Ghz := Int32.minValue
  goodRssi5Ghz := Int32.minValue
  goodRssi6Ghz := Int32.minValue
  band5GhzAward := Int32.minValue
  securityAward := Int32.minValue
  lastSelectionAward := Int32.minValue
  throughputNumerator := Int32.minValue
  throughputDenominator := 1
  throughputLimit := Int32.maxValue
  currentNetworkBonus := Int32.minValue
  secureNetworkBonus := Int32.minValue
  unmeteredNetworkBonus := Int32.minValue
  savedNetworkBonus := Int32.minValue
  cutoffRssiMin := Int32.maxValue
  cutoffRssiMax := Int32.maxValue

def limitCandidate : Candidate :=
  { Samples.candidate "home" 1 7 with
    rssi := Int32.minValue
    frequency := Int32.maxValue
    predictedThroughput := Int32.minValue
    evaluatorPriority := 4294967295
    isCurrentNetwork := true
    isOpenNetwork := false
    lastSelectionWeight := .one
    history := some (.ofMoments 30 .nan .nan) }

theorem scores_are_exact_at_limits :
    let unweighted := { limitCandidate with lastSelectionWeight := .nan }
    limitCandidate.lastSelectionWeight.IsShare ∧ unweighted.lastSelectionWeight.IsShare ∧
      (scoreCardBased.score64? limitSettings limitCandidate).map Int64.toInt =
        some (-4318589615124) ∧
      Binary64.less (scoreCardBased.value limitSettings limitCandidate)
        (scoreCardBased.value limitSettings unweighted) = true ∧
      (score throughput limitSettings limitCandidate).natAbs < 2 ^ 53 := by
  intro unweighted
  have share : limitCandidate.lastSelectionWeight.IsShare := by decide +kernel
  have noShare : unweighted.lastSelectionWeight.IsShare := by decide +kernel
  obtain ⟨-, runs, integral, carried⟩ := scores_are_exact limitSettings share noShare
  obtain ⟨-, -, ordered, -⟩ := integral scoreCardBased (by decide)
  have score : scoreCardBased.score limitSettings limitCandidate = -4318589615124 := by
    decide +kernel
  refine ⟨share, noShare, ?_, ordered.mpr (by decide +kernel), carried (by decide)⟩
  rw [runs, score]

example :
    let steep := { ScoringSettings.standard with
      throughputNumerator := Int32.minValue
      throughputDenominator := 1 }
    let fast := { Samples.candidate "home" 1 7 with predictedThroughput := Int32.maxValue }
    2 ^ 53 ≤ (score throughput steep fast).natAbs := by
  decide +kernel

end Scorer

end WifiSelection
