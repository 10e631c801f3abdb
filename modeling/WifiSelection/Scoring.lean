import WifiSelection.Candidate
import WifiSelection.Settings.Basic

/-!
Scoring: three formulas, each under its identifier, and the choice within a group of candidates and
among groups. Of equal values the earlier one is kept throughout. Scores are integers, which for a
selection weight between zero and one never leave the range of 64 bits.

The compatibility formula takes a score that came with the nomination as it is; zero counts as none.
The score card measures signal strength above a cutoff, which with enough history of an access point
lies two standard deviations below its mean. In the throughput formula bonuses of the network decide
between nominating sources, and a thousandth of the signal strength breaks ties.
-/

namespace WifiSelection

structure Verdict where
  value : Binary64
  /-- How coarse the value is; larger is less certain. -/
  confidence : UInt32
  overridable : Bool
  candidate : Option Candidate
deriving DecidableEq, Repr

namespace Verdict

def nothing : Verdict where
  value := .negativeInfinity
  confidence := 4294967295
  overridable := false
  candidate := none

instance : Inhabited Verdict := ⟨nothing⟩

def isNothing (verdict : Verdict) : Bool :=
  verdict.candidate.isNone

/-- The first verdict of strictly greatest value. Values that are not above negative infinity
never win, and without a winner there is nothing to choose. -/
def best (verdicts : List Verdict) : Verdict :=
  let winner? := verdicts.foldl (fun (found : Option Verdict) verdict =>
    let bound := (found.map Verdict.value).getD .negativeInfinity
    if Binary64.less bound verdict.value then some verdict else found) none
  winner?.getD nothing

instance : JsonForm Verdict where
  toJson verdict := .record
    [("value", JsonForm.toJson verdict.value),
     ("confidence_bucket", JsonForm.toJson verdict.confidence),
     ("allow_user_override", JsonForm.toJson verdict.overridable),
     ("candidate", JsonForm.toJson verdict.candidate)]
  ofJson? := JsonReader.run? do
    let value ← JsonReader.required "value"
    let confidence ← JsonReader.required "confidence_bucket"
    let overridable ← JsonReader.required "allow_user_override"
    let candidate ← JsonReader.optional "candidate"
    return ⟨value, confidence, overridable, candidate⟩

end Verdict

namespace Scoring

def rssiOffset : Int := 85

def rssiSlope : Int := 4

def rankPenaltyUnit : Int := 1000

def standardConfidence : UInt32 := 10

def cappedRssi (settings : ScoringSettings) (candidate : Candidate) : Int :=
  min candidate.rssi.toInt (settings.goodRssi candidate.frequency).toInt

def linkAward (settings : ScoringSettings) (candidate : Candidate) : Int :=
  (if Band.start5Ghz ≤ candidate.frequency then settings.band5GhzAward.toInt else 0) +
    (if candidate.isOpenNetwork then 0 else settings.securityAward.toInt)

def selectionBonus (settings : ScoringSettings) (candidate : Candidate) : Int :=
  (candidate.lastSelectionWeight * Binary64.ofInt settings.lastSelectionAward.toInt).truncate

def rankPenalty (candidate : Candidate) : Int :=
  rankPenaltyUnit * candidate.evaluatorPriority.toNat

namespace Compatibility

def score (settings : ScoringSettings) (candidate : Candidate) : Int :=
  let base :=
    if candidate.evaluatorScore != 0 then
      candidate.evaluatorScore.toInt
    else
      (cappedRssi settings candidate + rssiOffset) * rssiSlope +
        linkAward settings candidate
  base - rankPenalty candidate

end Compatibility

namespace ScoreCard

def significantPolls : UInt32 := 30

def suggestedCutoff? (history : SignalHistory) : Option Binary64 :=
  if history.count < significantPolls then
    none
  else
    match history.mean?, history.deviation? with
    | some mean, some deviation => some (mean - Binary64.ofInt 2 * deviation)
    | _, _ => none

def cutoff (settings : ScoringSettings) (history : Option SignalHistory) : Int :=
  match history.bind suggestedCutoff? with
  | some suggested =>
    let low := Binary64.ofInt settings.cutoffRssiMin.toInt
    let high := Binary64.ofInt settings.cutoffRssiMax.toInt
    (Binary64.minimum (Binary64.maximum suggested low) high).truncate
  | none => -rssiOffset

def score (settings : ScoringSettings) (candidate : Candidate) : Int :=
  (cappedRssi settings candidate - cutoff settings candidate.history) * rssiSlope +
    linkAward settings candidate + selectionBonus settings candidate -
    rankPenalty candidate

end ScoreCard

namespace Throughput

/-- The scaled throughput without its fraction, up to a limit; nothing when the scale has no
positive denominator. -/
def bonus (settings : ScoringSettings) (throughput : Int32) : Int :=
  let scaled := throughput.toInt * settings.throughputNumerator.toInt
  let denominator := settings.throughputDenominator.toInt
  if denominator ≤ 0 then 0 else min (scaled.tdiv denominator) settings.throughputLimit.toInt

def score (settings : ScoringSettings) (candidate : Candidate) : Int :=
  (cappedRssi settings candidate + rssiOffset) * rssiSlope +
    bonus settings candidate.predictedThroughput + selectionBonus settings candidate +
    (if candidate.isCurrentNetwork then settings.currentNetworkBonus.toInt else 0) +
    (if candidate.isOpenNetwork then 0 else settings.secureNetworkBonus.toInt) +
    (if candidate.isMetered then 0 else settings.unmeteredNetworkBonus.toInt) +
    (if candidate.isEphemeral then 0 else settings.savedNetworkBonus.toInt)

def value (settings : ScoringSettings) (candidate : Candidate) : Binary64 :=
  Binary64.ofInt (score settings candidate) +
    Binary64.ofInt candidate.rssi.toInt / Binary64.ofInt 1000

end Throughput

end Scoring

inductive Scorer where
  | compatibility
  | scoreCardBased
  | throughput
deriving DecidableEq, Repr, Inhabited

namespace Scorer

def all : List Scorer :=
  [compatibility, scoreCardBased, throughput]

def identifier : Scorer → String
  | compatibility => "CompatibilityScorer"
  | scoreCardBased => "ScoreCardBasedScorer"
  | throughput => "ThroughputScorer"

def ofIdentifier? (identifier : String) : Option Scorer :=
  all.find? fun scorer => scorer.identifier = identifier

def parse (text : String) : Except SettingsError Scorer :=
  match ofIdentifier? (Text.trim text) with
  | some scorer => .ok scorer
  | none => .error (.unknownScorer text)

def allowsOverride : Scorer → Bool
  | compatibility => false
  | scoreCardBased => true
  | throughput => true

def description (scorer : Scorer) : String :=
  let name :=
    match scorer with
    | compatibility => "Compatibility"
    | scoreCardBased => "ScoreCardBased"
    | throughput => "Throughput"
  "Scorer \x7b kind: " ++ name ++ ", .. \x7d"

instance : JsonForm Scorer where
  toJson scorer := .text scorer.identifier
  ofJson? := JsonForm.choice? (all.map fun scorer => (scorer.identifier, scorer))

def value (scorer : Scorer) (settings : ScoringSettings) (candidate : Candidate) : Binary64 :=
  match scorer with
  | compatibility => .ofInt (Scoring.Compatibility.score settings candidate)
  | scoreCardBased => .ofInt (Scoring.ScoreCard.score settings candidate)
  | throughput => Scoring.Throughput.value settings candidate

def verdict (scorer : Scorer) (settings : ScoringSettings) (candidate : Candidate) : Verdict where
  value := scorer.value settings candidate
  confidence := Scoring.standardConfidence
  overridable := scorer.allowsOverride
  candidate := some candidate

def winner (scorer : Scorer) (settings : ScoringSettings) (group : List Candidate) : Verdict :=
  group.foldl (fun found candidate =>
    if Binary64.less found.value (scorer.value settings candidate) then
      scorer.verdict settings candidate
    else
      found) Verdict.nothing

def winners (scorer : Scorer) (settings : ScoringSettings) (groups : List (List Candidate)) :
    List Verdict :=
  groups.map (scorer.winner settings)

def choose (scorer : Scorer) (settings : ScoringSettings) (groups : List (List Candidate)) :
    Verdict :=
  Verdict.best (scorer.winners settings groups)

end Scorer

end WifiSelection
