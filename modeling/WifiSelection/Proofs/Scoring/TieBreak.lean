import Mathlib.Algebra.Order.Field.Rat
import Mathlib.Data.List.MinMax
import Mathlib.Data.Prod.Lex
import Mathlib.Tactic.FieldSimp
import WifiSelection.Proofs.Binary64.Rounding
import WifiSelection.Proofs.Scoring.Choice
import WifiSelection.Proofs.Scoring.Exact
import WifiSelection.Proofs.Settings.Checks

/-!
How the throughput formula breaks ties. A thousandth of a plausible signal strength is less than the
step from one score to the next, so that values rank candidates by their scores and, at equal
scores, by their signals. Exact values do so for any settings; rounded values do so as long as the
doubles around the scores are less than a thousandth apart, that is below `2⁴³`.
-/

namespace WifiSelection

open Binary64

def FirstGreatest [LT β] [LE β] (rank : α → β) (elements : List α) (chosen : α) : Prop :=
  ∃ before after, elements = before ++ chosen :: after ∧
    (∀ element ∈ before, rank element < rank chosen) ∧
    (∀ element ∈ after, rank element ≤ rank chosen)

namespace FirstGreatest

variable {elements : List α} {chosen : α}

theorem of_argmax [LinearOrder β] {rank : α → β} (found : elements.argmax rank = some chosen) :
    FirstGreatest rank elements chosen := by
  induction elements using List.reverseRecOn generalizing chosen with
  | nil => cases found
  | append_singleton earlier last ih =>
      rw [List.argmax_concat] at found
      cases scanned : earlier.argmax rank with
      | none =>
          simp only [scanned, Option.some.injEq] at found
          rw [List.argmax_eq_none.mp scanned, found]
          exact ⟨[], [], rfl, by simp, by simp⟩
      | some best =>
          simp only [scanned] at found
          split at found
          next above =>
            cases found
            refine ⟨earlier, [], rfl, fun element member => ?_, by simp⟩
            exact (List.le_of_mem_argmax member scanned).trans_lt above
          next notAbove =>
            cases found
            obtain ⟨before, after, split, below, upTo⟩ := ih scanned
            refine ⟨before, after ++ [last], by simp [split], below, ?_⟩
            intro element member
            rcases List.mem_append.mp member with later | final
            · exact upTo element later
            · rw [List.mem_singleton.mp final]
              exact not_lt.mp notAbove

theorem congr [LinearOrder β] [LinearOrder γ] {rank : α → β} {other : α → γ}
    (first : FirstGreatest rank elements chosen)
    (alike : ∀ left ∈ elements, ∀ right ∈ elements,
      rank left < rank right ↔ other left < other right) :
    FirstGreatest other elements chosen := by
  obtain ⟨before, after, rfl, below, upTo⟩ := first
  refine ⟨before, after, rfl, ?_, ?_⟩
  · intro element member
    exact (alike element (by simp [member]) chosen (by simp)).mp (below element member)
  · intro element member
    rw [← not_lt, ← alike chosen (by simp) element (by simp [member]), not_lt]
    exact upTo element member

theorem firstMaximum [LinearOrder β] {rank : α → β} {value : α → Binary64}
    (first : FirstGreatest rank elements chosen)
    (alike : ∀ left ∈ elements, ∀ right ∈ elements,
      less (value left) (value right) = true ↔ rank left < rank right) :
    FirstMaximum value elements chosen := by
  obtain ⟨before, after, rfl, below, upTo⟩ := first
  refine ⟨before, after, rfl, ?_, ?_⟩
  · intro element member
    exact (alike element (by simp [member]) chosen (by simp)).mpr (below element member)
  · intro element member
    rw [← Bool.not_eq_true, alike chosen (by simp) element (by simp [member]), not_lt]
    exact upTo element member

end FirstGreatest

namespace Scoring

namespace Throughput

def exactValue (settings : ScoringSettings) (candidate : Candidate) : ℚ :=
  score settings candidate + candidate.rssi.toInt / 1000

def ranking (settings : ScoringSettings) (candidate : Candidate) : ℤ ×ₗ ℤ :=
  toLex (score settings candidate, candidate.rssi.toInt)

def thousandths (settings : ScoringSettings) (candidate : Candidate) : Int :=
  1000 * score settings candidate + candidate.rssi.toInt

section Exact

variable (settings : ScoringSettings) {left right : Candidate}

theorem exactValue_eq (candidate : Candidate) :
    exactValue settings candidate = thousandths settings candidate / 1000 := by
  rw [exactValue, thousandths]
  push_cast
  field_simp

theorem exactValue_lt_iff :
    exactValue settings left < exactValue settings right ↔
      thousandths settings left < thousandths settings right := by
  rw [exactValue_eq, exactValue_eq, div_lt_div_iff_of_pos_right (by norm_num), Int.cast_lt]

theorem exactValue_eq_iff :
    exactValue settings left = exactValue settings right ↔
      thousandths settings left = thousandths settings right := by
  rw [exactValue_eq, exactValue_eq, div_left_inj' (by norm_num), Int.cast_inj]

theorem ranking_lt_iff (leftInRange : RssiSetting.isPlausible left.rssi = true)
    (rightInRange : RssiSetting.isPlausible right.rssi = true) :
    ranking settings left < ranking settings right ↔
      thousandths settings left < thousandths settings right := by
  have leftBounds := RssiSetting.isPlausible_iff.mp leftInRange
  have rightBounds := RssiSetting.isPlausible_iff.mp rightInRange
  rw [ranking, ranking, Prod.Lex.toLex_lt_toLex, thousandths, thousandths]
  omega

theorem thousandths_eq_iff (leftInRange : RssiSetting.isPlausible left.rssi = true)
    (rightInRange : RssiSetting.isPlausible right.rssi = true) :
    thousandths settings left = thousandths settings right ↔
      score settings left = score settings right ∧ left.rssi = right.rssi := by
  have leftBounds := RssiSetting.isPlausible_iff.mp leftInRange
  have rightBounds := RssiSetting.isPlausible_iff.mp rightInRange
  rw [thousandths, thousandths, ← Int32.toInt_inj]
  omega

end Exact

section Rounded

variable (settings : ScoringSettings) {candidate left right : Candidate}

theorem thousandth_approximates {rssi : Int32} (inRange : RssiSetting.isPlausible rssi = true) :
    (ofInt rssi.toInt / ofInt 1000).Approximates (rssi.toInt * unitsPerOne) 1000
      (powerOfTwo 1021) := by
  have bounds := RssiSetting.isPlausible_iff.mp inRange
  have below : rssi.toInt.natAbs * unitsPerOne / (1000 : Int).natAbs < powerOfTwo 1074 := by
    rw [← unitsPerOne]
    exact Nat.div_lt_of_lt_mul (Nat.mul_lt_mul_of_pos_right (by omega) unitsPerOne_pos)
  have rounded : (ofInt rssi.toInt / ofInt 1000).Approximates (rssi.toInt * unitsPerOne) 1000
      (powerOfTwo (1074 - 53)) :=
    ofInt_div_ofInt_approximates (toInt_natAbs_small rssi) (by decide) (by decide) below
      (by decide)
  exact rounded

/-- Doubles below `2⁴³` are spaced by this many units or fewer, a bit less than a thousandth. -/
def coarsestSpacing : Nat := powerOfTwo 1064

theorem powerOfTwo_ten_add (exponent : Nat) :
    powerOfTwo (10 + exponent) = 1024 * powerOfTwo exponent := by
  have ten : powerOfTwo 10 = 1024 := rfl
  rw [powerOfTwo_add, ten]

theorem unitsPerOne_eq : unitsPerOne = 1024 * coarsestSpacing := by
  rw [coarsestSpacing, ← powerOfTwo_ten_add, unitsPerOne]

theorem thousandth_margin_le : 1024 * powerOfTwo 1021 ≤ coarsestSpacing := by
  rw [coarsestSpacing, ← powerOfTwo_ten_add]
  exact powerOfTwo_le (by decide)

def valueMargin : Nat := coarsestSpacing + powerOfTwo 1021

theorem valueMargin_lt : valueMargin * 1000 < unitsPerOne := by
  have positive : 0 < coarsestSpacing := powerOfTwo_pos 1064
  have finer := thousandth_margin_le
  rw [valueMargin, unitsPerOne_eq]
  -- Any two numbers of these proportions will do, and these ones are too large to compute with.
  generalize coarsestSpacing = spacing, powerOfTwo 1021 = fine at *
  omega

theorem natAbs_thousandth_lt {rssi : Int32} (inRange : RssiSetting.isPlausible rssi = true) :
    (ofInt rssi.toInt / ofInt 1000).toUnits.natAbs < unitsPerOne := by
  have bounds := RssiSetting.isPlausible_iff.mp inRange
  have signal : (rssi.toInt * unitsPerOne).natAbs ≤ 126 * unitsPerOne := by
    rw [Int.natAbs_mul, Int.natAbs_natCast]
    exact Nat.mul_le_mul_right unitsPerOne (by omega)
  have part : powerOfTwo 1021 ≤ valueMargin := Nat.le_add_left _ coarsestSpacing
  have margin := (Nat.mul_le_mul_right 1000 part).trans_lt valueMargin_lt
  apply (thousandth_approximates inRange).natAbs_toUnits_lt
  generalize unitsPerOne = one, powerOfTwo 1021 = fine at *
  omega

theorem add_score_approximates {score : Int} {fraction : Binary64}
    (isFinite : ∃ negative units, fraction = finite negative units)
    (small : score.natAbs < 2 ^ 43) (below : fraction.toUnits.natAbs < unitsPerOne) :
    (ofInt score + fraction).Approximates (score * unitsPerOne + fraction.toUnits) 1
      coarsestSpacing := by
  obtain ⟨negative, units, rfl⟩ := isFinite
  have limit : powerOfTwo 1117 = 2 ^ 43 * unitsPerOne := by
    have power : powerOfTwo 43 = 2 ^ 43 := rfl
    rw [← power, unitsPerOne, ← powerOfTwo_add]
  have whole : (score * unitsPerOne).natAbs ≤ (2 ^ 43 - 1) * unitsPerOne := by
    rw [Int.natAbs_mul, Int.natAbs_natCast]
    exact Nat.mul_le_mul_right unitsPerOne (by omega)
  have sumSmall : (score * unitsPerOne + (finite negative units).toUnits).natAbs <
      powerOfTwo 1117 := by
    omega
  have sum : signedUnits (score < 0) (score.natAbs * unitsPerOne) + signedUnits negative units =
      score * unitsPerOne + (finite negative units).toUnits := by
    rw [signedUnits_natAbs]
    rfl
  have rounded := add_approximates sum sumSmall (by decide)
  rwa [← ofInt_eq (small.trans (by decide))] at rounded

theorem value_approximates (inRange : RssiSetting.isPlausible candidate.rssi = true)
    (small : (score settings candidate).natAbs < 2 ^ 43) :
    (value settings candidate).Approximates (thousandths settings candidate * unitsPerOne) 1000
      valueMargin := by
  have fraction := thousandth_approximates inRange
  have rounded :=
    add_score_approximates fraction.isFinite small (natAbs_thousandth_lt inRange)
  have both := rounded.add fraction
  have total : score settings candidate * unitsPerOne * (1000 : Nat) +
      candidate.rssi.toInt * unitsPerOne = thousandths settings candidate * unitsPerOne := by
    rw [thousandths]
    push_cast
    ring
  rwa [total] at both

theorem toUnits_value_lt (leftInRange : RssiSetting.isPlausible left.rssi = true)
    (rightInRange : RssiSetting.isPlausible right.rssi = true)
    (leftSmall : (score settings left).natAbs < 2 ^ 43)
    (rightSmall : (score settings right).natAbs < 2 ^ 43)
    (below : thousandths settings left < thousandths settings right) :
    (value settings left).toUnits < (value settings right).toUnits := by
  apply (value_approximates settings leftInRange leftSmall).toUnits_lt
    (value_approximates settings rightInRange rightSmall)
  have margin : (valueMargin : Int) * (1000 : Nat) < unitsPerOne := by
    exact_mod_cast valueMargin_lt
  calc
    thousandths settings left * unitsPerOne + valueMargin * (1000 : Nat)
      < thousandths settings left * unitsPerOne + unitsPerOne := Int.add_lt_add_left margin _
    _ = (thousandths settings left + 1) * unitsPerOne := by ring
    _ ≤ thousandths settings right * unitsPerOne :=
      Int.mul_le_mul_of_nonneg_right below (Int.natCast_nonneg unitsPerOne)

theorem less_value_iff (leftInRange : RssiSetting.isPlausible left.rssi = true)
    (rightInRange : RssiSetting.isPlausible right.rssi = true)
    (leftSmall : (score settings left).natAbs < 2 ^ 43)
    (rightSmall : (score settings right).natAbs < 2 ^ 43) :
    less (value settings left) (value settings right) = true ↔
      thousandths settings left < thousandths settings right := by
  have leftPlain := Scorer.throughputValue_isPlain settings left
  have rightPlain := Scorer.throughputValue_isPlain settings right
  rw [less_iff_toUnits_lt leftPlain rightPlain]
  refine ⟨fun ordered => ?_, toUnits_value_lt settings leftInRange rightInRange leftSmall
    rightSmall⟩
  by_contra notBelow
  rcases Int.lt_or_eq_of_le (Int.not_lt.mp notBelow) with above | same
  · exact Int.lt_asymm ordered
      (toUnits_value_lt settings rightInRange leftInRange rightSmall leftSmall above)
  · obtain ⟨scores, signals⟩ :=
      (thousandths_eq_iff settings rightInRange leftInRange).mp same
    have values : value settings left = value settings right := by
      rw [value, value, scores, signals]
    rw [values] at ordered
    exact Int.lt_irrefl _ ordered

end Rounded

end Throughput

end Scoring

namespace Scorer

open Scoring Scoring.Throughput

variable {settings : ScoringSettings} {group : List Candidate} {chosen : Candidate}

theorem winner_eq_verdict_of_firstGreatest
    (inRange : ∀ candidate ∈ group, RssiSetting.isPlausible candidate.rssi = true)
    (small : ∀ candidate ∈ group, (Throughput.score settings candidate).natAbs < 2 ^ 43)
    (first : FirstGreatest (ranking settings) group chosen) :
    throughput.winner settings group = throughput.verdict settings chosen := by
  have alike : ∀ left ∈ group, ∀ right ∈ group,
      less (throughput.value settings left) (throughput.value settings right) = true ↔
        ranking settings left < ranking settings right := by
    intro left leftMember right rightMember
    rw [ranking_lt_iff settings (inRange left leftMember) (inRange right rightMember)]
    exact less_value_iff settings (inRange left leftMember) (inRange right rightMember)
      (small left leftMember) (small right rightMember)
  have maximum := first.firstMaximum alike
  obtain ⟨other, second, winner⟩ := throughput.winner_firstMaximum settings group
    (List.ne_nil_of_mem maximum.mem)
  rw [winner, second.unique maximum]

/-- Exact values compare as the scores do, and among equal scores as plausible signal strengths do.
So the first candidate that is greatest in score and then in strength wins by exact values; and it
wins by rounded values as long as scores stay below `2⁴³`, as they do for a selection weight that is
a share and a scaled throughput that is not negative. -/
theorem throughput_breaks_ties (settings : ScoringSettings) :
    (∀ left right : Candidate, RssiSetting.isPlausible left.rssi = true →
      RssiSetting.isPlausible right.rssi = true →
      (exactValue settings right < exactValue settings left ↔
        Throughput.score settings right < Throughput.score settings left ∨
          Throughput.score settings right = Throughput.score settings left ∧
            right.rssi < left.rssi) ∧
      (exactValue settings left = exactValue settings right ↔
        Throughput.score settings left = Throughput.score settings right ∧
          left.rssi = right.rssi)) ∧
    (∀ group : List Candidate, group ≠ [] →
      (∀ candidate ∈ group, RssiSetting.isPlausible candidate.rssi = true) →
      ∃ chosen, group.argmax (exactValue settings) = some chosen ∧
        FirstGreatest (ranking settings) group chosen ∧
        ((∀ candidate ∈ group, (Throughput.score settings candidate).natAbs < 2 ^ 43) →
          throughput.winner settings group = throughput.verdict settings chosen)) ∧
    (∀ candidate : Candidate, candidate.lastSelectionWeight.IsShare →
      0 ≤ candidate.predictedThroughput.toInt * settings.throughputNumerator.toInt →
      (Throughput.score settings candidate).natAbs < 2 ^ 43) := by
  refine ⟨?_, ?_, fun candidate => throughputScore_natAbs_lt_fine settings⟩
  · intro left right leftInRange rightInRange
    rw [exactValue_lt_iff, ← ranking_lt_iff settings rightInRange leftInRange,
      exactValue_eq_iff, thousandths_eq_iff settings leftInRange rightInRange,
      Int32.lt_iff_toInt_lt]
    exact ⟨Prod.Lex.toLex_lt_toLex, Iff.rfl⟩
  · intro group nonempty inRange
    obtain ⟨chosen, found⟩ := Option.ne_none_iff_exists'.mp
      (mt List.argmax_eq_none.mp nonempty : group.argmax (exactValue settings) ≠ none)
    have first : FirstGreatest (ranking settings) group chosen := by
      apply (FirstGreatest.of_argmax found).congr
      intro left leftMember right rightMember
      rw [exactValue_lt_iff,
        ranking_lt_iff settings (inRange left leftMember) (inRange right rightMember)]
    exact ⟨chosen, found, first,
      fun small => winner_eq_verdict_of_firstGreatest inRange small first⟩

theorem throughput_breaks_ties_among_good :
    let metered := { Samples.candidate "home" 1 5 with rssi := 0, isMetered := true }
    let good := Samples.candidate "cafe" 2 3
    let better := { good with rssi := -40 }
    let group := [metered, good, better]
    (∀ candidate ∈ group, RssiSetting.isPlausible candidate.rssi = true ∧
        candidate.lastSelectionWeight.IsShare ∧ 0 ≤ candidate.predictedThroughput.toInt *
          ScoringSettings.standard.throughputNumerator.toInt) ∧
      Throughput.score .standard good = Throughput.score .standard better ∧
      exactValue .standard good < exactValue .standard better ∧
      (∀ candidate ∈ group, (Throughput.score .standard candidate).natAbs < 2 ^ 43) ∧
      ∃ chosen, group.argmax (exactValue .standard) = some chosen ∧
        FirstGreatest (ranking .standard) group chosen ∧
        throughput.winner .standard group = throughput.verdict .standard chosen ∧
        throughput.winner .standard group = throughput.verdict .standard better := by
  intro metered good better group
  obtain ⟨compared, ranked, bounded⟩ := throughput_breaks_ties .standard
  have ordinary : ∀ candidate ∈ group, RssiSetting.isPlausible candidate.rssi = true ∧
      candidate.lastSelectionWeight.IsShare ∧ 0 ≤ candidate.predictedThroughput.toInt *
        ScoringSettings.standard.throughputNumerator.toInt := by
    decide +kernel
  have tied : Throughput.score .standard good = Throughput.score .standard better := by
    decide +kernel
  have small : ∀ candidate ∈ group, (Throughput.score .standard candidate).natAbs < 2 ^ 43 :=
    fun candidate member =>
      bounded candidate (ordinary candidate member).2.1 (ordinary candidate member).2.2
  obtain ⟨chosen, found, first, wins⟩ := ranked group (List.cons_ne_nil _ _)
    fun candidate member => (ordinary candidate member).1
  have stronger : exactValue .standard good < exactValue .standard better :=
    (compared better good (by decide) (by decide)).1.mpr (Or.inr ⟨tied, by decide⟩)
  exact ⟨ordinary, tied, stronger, small, chosen, found, first, wins small, by decide +kernel⟩

/-- Around a score far below zero both values are rounded to the same, and the earlier one wins. -/
example :
    let steep := { ScoringSettings.standard with
      throughputNumerator := Int32.minValue
      throughputDenominator := 1 }
    let fast := { Samples.candidate "home" 1 7 with predictedThroughput := Int32.maxValue }
    let better := { fast with rssi := -40 }
    ranking steep fast < ranking steep better ∧
      throughput.winner steep [fast, better] = throughput.verdict steep fast := by
  decide +kernel

end Scorer

end WifiSelection
