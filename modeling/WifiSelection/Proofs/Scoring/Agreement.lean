import WifiSelection.Proofs.Scoring.Grouping

/-!
Where the score card and the compatibility formula agree. Without a score from the nomination and
without a significant history, the two differ in the selection bonus only; so when the user has
picked none of the networks, both scorers choose the same candidates at the same values.
-/

namespace WifiSelection

open Binary64

/-- Neither scored by its nominator nor polled often enough for a significant history. -/
structure Candidate.IsUnrated (candidate : Candidate) : Prop where
  unscored : candidate.evaluatorScore = 0
  rarelyPolled : ∀ history ∈ candidate.history, history.count < 30

def Verdict.opened (verdict : Verdict) : Verdict :=
  { verdict with overridable := !verdict.isNothing }

namespace Scoring

variable (settings : ScoringSettings) {candidate : Candidate}

theorem ScoreCard.suggestedCutoff?_of_few {history : SignalHistory} (few : history.count < 30) :
    suggestedCutoff? history = none :=
  if_pos few

theorem ScoreCard.cutoff_of_few {history : Option SignalHistory}
    (few : ∀ polled ∈ history, polled.count < 30) : cutoff settings history = -rssiOffset := by
  cases history with
  | none => rfl
  | some polled => rw [cutoff, Option.bind_some, suggestedCutoff?_of_few (few polled rfl)]

theorem scoreCard_eq_compatibility (unrated : candidate.IsUnrated) :
    ScoreCard.score settings candidate =
      Compatibility.score settings candidate + selectionBonus settings candidate := by
  have unscored : (candidate.evaluatorScore != 0) = false := by simp [unrated.unscored]
  rw [ScoreCard.score, Compatibility.score, ScoreCard.cutoff_of_few settings unrated.rarelyPolled,
    unscored, if_neg Bool.false_ne_true, Int.sub_neg]
  omega

theorem selectionBonus_of_zero
    (unpicked : candidate.lastSelectionWeight.numericallyEqual zero = true) :
    selectionBonus settings candidate = 0 := by
  have small := toInt_natAbs_small settings.lastSelectionAward
  rw [selectionBonus]
  cases weight : candidate.lastSelectionWeight with
  | nan => simp [weight, numericallyEqual, zero] at unpicked
  | infinite => simp [weight, numericallyEqual, zero] at unpicked
  | finite negative units =>
      have nothing : units = 0 := by
        cases negative <;> simpa [weight, numericallyEqual, zero, signedUnits] using unpicked
      obtain ⟨sign, product⟩ := zero_mul_ofInt negative small
      rw [nothing, product, truncate_zero]

end Scoring

namespace Scorer

open Scoring

section Agreement

variable {settings : ScoringSettings} {candidate : Candidate} {group : List Candidate}

theorem value_eq_of_unrated (unrated : candidate.IsUnrated)
    (unpicked : candidate.lastSelectionWeight.numericallyEqual zero = true) :
    compatibility.value settings candidate = scoreCardBased.value settings candidate := by
  rw [value, value, scoreCard_eq_compatibility settings unrated,
    selectionBonus_of_zero settings unpicked, Int.add_zero]

theorem verdict_eq_opened
    (same : compatibility.value settings candidate = scoreCardBased.value settings candidate) :
    scoreCardBased.verdict settings candidate =
      (compatibility.verdict settings candidate).opened := by
  simp only [verdict, Verdict.opened, Verdict.isNothing, allowsOverride, same, Option.isNone_some,
    Bool.not_false]

theorem winner_eq_opened (same : ∀ candidate ∈ group,
    compatibility.value settings candidate = scoreCardBased.value settings candidate) :
    scoreCardBased.winner settings group = (compatibility.winner settings group).opened := by
  by_cases empty : group = []
  · subst empty
    rfl
  · obtain ⟨chosen, first, winner⟩ := compatibility.winner_firstMaximum settings group empty
    obtain ⟨other, second, otherWinner⟩ :=
      scoreCardBased.winner_firstMaximum settings group empty
    rw [winner, otherWinner, second.unique (first.congr same)]
    exact verdict_eq_opened (same chosen first.mem)

theorem winner_overridable_of_compatibility :
    (compatibility.winner settings group).overridable = false := by
  rw [winner_eq]
  cases group.foldl (prefer (compatibility.value settings)) none <;> rfl

end Agreement

/-- For a candidate without a score from its nomination and without a significant history, the
score card is the compatibility formula and the selection bonus. Among such candidates of networks
that were not picked the two scorers choose the same, at the same value, in every group and among
groups; but against the one the user may decide. -/
theorem scoreCard_agrees_with_compatibility (settings : ScoringSettings) :
    (∀ candidate : Candidate, candidate.IsUnrated →
      ScoreCard.score settings candidate =
        Compatibility.score settings candidate + selectionBonus settings candidate) ∧
    (∀ groups : List (List Candidate),
      (∀ group ∈ groups, ∀ candidate ∈ group, candidate.IsUnrated ∧
        candidate.lastSelectionWeight.numericallyEqual zero = true) →
      scoreCardBased.winners settings groups =
          (compatibility.winners settings groups).map Verdict.opened ∧
        scoreCardBased.choose settings groups = (compatibility.choose settings groups).opened ∧
        (∀ verdict ∈ compatibility.winners settings groups, verdict.overridable = false) ∧
        (compatibility.choose settings groups).overridable = false) := by
  refine ⟨fun candidate => scoreCard_eq_compatibility settings, ?_⟩
  intro groups unrated
  have same : ∀ group ∈ groups, ∀ candidate ∈ group,
      compatibility.value settings candidate = scoreCardBased.value settings candidate := by
    intro group member candidate inGroup
    obtain ⟨lacking, unpicked⟩ := unrated group member candidate inGroup
    exact value_eq_of_unrated lacking unpicked
  refine ⟨?_, ?_, ?_, ?_⟩
  · rw [winners, winners, List.map_map]
    exact List.map_congr_left fun group member => winner_eq_opened (same group member)
  · rw [choose_eq_winner_flatten, choose_eq_winner_flatten]
    apply winner_eq_opened
    intro candidate member
    obtain ⟨group, inGroups, inGroup⟩ := List.mem_flatten.mp member
    exact same group inGroups candidate inGroup
  · intro verdict member
    obtain ⟨group, -, rfl⟩ := List.mem_map.mp member
    exact winner_overridable_of_compatibility
  · rw [choose_eq_winner_flatten]
    exact winner_overridable_of_compatibility

theorem scoreCard_agrees_with_compatibility_sample :
    let polled := { Samples.candidate "home" 1 5 with
      rssi := -57
      frequency := 5180
      isOpenNetwork := false
      lastSelectionWeight := .finite true 0
      history := some ⟨29, .nan, .nan⟩ }
    let ranked := { Samples.candidate "cafe" 2 3 with evaluatorPriority := 1 }
    let groups := [[ranked, polled], [], [ranked]]
    (∀ group ∈ groups, ∀ candidate ∈ group, candidate.IsUnrated ∧
        candidate.lastSelectionWeight.numericallyEqual zero = true) ∧
      ScoreCard.score .standard polled =
        Compatibility.score .standard polled + selectionBonus .standard polled ∧
      scoreCardBased.winners .standard groups =
        (compatibility.winners .standard groups).map Verdict.opened ∧
      scoreCardBased.choose .standard groups = (compatibility.choose .standard groups).opened ∧
      (compatibility.choose .standard groups).candidate = some polled := by
  intro polled ranked groups
  have polledUnrated : polled.IsUnrated := ⟨rfl, by simp [polled]⟩
  have rankedUnrated : ranked.IsUnrated := ⟨rfl, by simp [ranked, Samples.candidate]⟩
  have unrated : ∀ group ∈ groups, ∀ candidate ∈ group, candidate.IsUnrated ∧
      candidate.lastSelectionWeight.numericallyEqual zero = true := by
    simp only [groups, List.forall_mem_cons, List.not_mem_nil, IsEmpty.forall_iff,
      implies_true, and_true, polledUnrated, rankedUnrated, true_and]
    decide +kernel
  obtain ⟨formula, agrees⟩ := scoreCard_agrees_with_compatibility .standard
  obtain ⟨winners, chosen, -, -⟩ := agrees groups unrated
  exact ⟨unrated, formula polled polledUnrated, winners, chosen, by decide +kernel⟩

end Scorer

end WifiSelection
