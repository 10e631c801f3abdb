import WifiSelection.Proofs.Scoring.Choice
import WifiSelection.Proofs.Scoring.Exact

/-!
The winner of a group. No value is a NaN or negative infinity, so every candidate can win: a group
has a winner unless it is empty, and no value in the group exceeds the winner's. The winning value
does not depend on the order of the group, and appending candidates never lowers it.
-/

namespace WifiSelection

open Binary64

namespace Scorer

section Winner

variable {scorer : Scorer} {settings : ScoringSettings} {group others : List Candidate}
  {candidate : Candidate}

theorem winner_eq_nothing_iff :
    scorer.winner settings group = Verdict.nothing ↔ group = [] := by
  constructor
  · intro nothing
    by_contra nonempty
    obtain ⟨chosen, -, verdict⟩ := scorer.winner_firstMaximum settings group nonempty
    rw [verdict] at nothing
    cases congrArg Verdict.candidate nothing
  · rintro rfl
    rfl

theorem value_atMost_winner (member : candidate ∈ group) :
    (scorer.value settings candidate).AtMost (scorer.winner settings group).value := by
  obtain ⟨chosen, first, verdict⟩ :=
    scorer.winner_firstMaximum settings group (List.ne_nil_of_mem member)
  have plain := scorer.value_isPlain settings
  rw [verdict]
  exact ((plain candidate).atMost_iff (plain chosen)).mpr
    (first.toUnits_le (fun other _ => plain other) candidate member)

theorem winner_value_of_perm (reordered : others.Perm group) :
    (scorer.winner settings others).value = (scorer.winner settings group).value := by
  by_cases empty : group = []
  · subst empty
    rw [reordered.eq_nil]
  · have nonempty : others ≠ [] := by
      rintro rfl
      exact empty reordered.symm.eq_nil
    obtain ⟨chosen, first, winner⟩ := scorer.winner_firstMaximum settings group empty
    obtain ⟨other, second, otherWinner⟩ := scorer.winner_firstMaximum settings others nonempty
    rw [winner, otherWinner]
    exact second.value_eq_of_perm first (scorer.value_isPlain settings) (reordered.map _)

theorem winner_value_atMost_append :
    (scorer.winner settings group).value.AtMost
      (scorer.winner settings (group ++ others)).value := by
  by_cases empty : group = []
  · subst empty
    -- Without candidates the value is negative infinity, which is at most any value.
    by_cases nothing : others = []
    · subst nothing
      exact Or.inr rfl
    · obtain ⟨chosen, -, winner⟩ := scorer.winner_firstMaximum settings others nothing
      rw [List.nil_append, winner]
      exact Or.inl (negativeInfinity_less (scorer.value_isPlain settings chosen))
  · obtain ⟨chosen, first, winner⟩ := scorer.winner_firstMaximum settings group empty
    rw [winner]
    exact value_atMost_winner (List.mem_append_left others first.mem)

end Winner

/-- A group has no winner exactly if it is empty. Otherwise its first candidate of greatest value
wins, with that value, whatever the settings, the selection weights and the histories are. So
reordering a group does not change the winning value, and appending to it never lowers it. -/
theorem winner_of_group (scorer : Scorer) (settings : ScoringSettings) (group : List Candidate) :
    (scorer.winner settings group = Verdict.nothing ↔ group = []) ∧
    (group ≠ [] → ∃ before chosen after, group = before ++ chosen :: after ∧
      (scorer.winner settings group).candidate = some chosen ∧
      (scorer.winner settings group).value = scorer.value settings chosen ∧
      (∀ candidate ∈ group,
        (scorer.value settings candidate).AtMost (scorer.value settings chosen)) ∧
      (∀ candidate ∈ before,
        less (scorer.value settings candidate) (scorer.value settings chosen) = true)) ∧
    (∀ others : List Candidate, others.Perm group →
      (scorer.winner settings others).value = (scorer.winner settings group).value) ∧
    (∀ others : List Candidate, (scorer.winner settings group).value.AtMost
      (scorer.winner settings (group ++ others)).value) := by
  refine ⟨winner_eq_nothing_iff, ?_, fun others => winner_value_of_perm,
    fun others => winner_value_atMost_append⟩
  intro nonempty
  obtain ⟨chosen, first, winner⟩ := scorer.winner_firstMaximum settings group nonempty
  obtain ⟨before, after, split, below, -⟩ := first
  refine ⟨before, chosen, after, split, ?_, ?_, ?_, below⟩
  · rw [winner]
    rfl
  · rw [winner]
    rfl
  · intro candidate member
    have bound : (scorer.value settings candidate).AtMost (scorer.winner settings group).value :=
      value_atMost_winner member
    rwa [winner] at bound

theorem winner_of_group_without_numbers :
    let unweighted := { limitCandidate with lastSelectionWeight := .nan }
    let group := [limitCandidate, unweighted, unweighted]
    group ≠ [] ∧ group.reverse.Perm group ∧
      (∃ before chosen after, group = before ++ chosen :: after ∧
        (scoreCardBased.winner limitSettings group).candidate = some chosen ∧
        (scoreCardBased.winner limitSettings group).value =
          scoreCardBased.value limitSettings chosen ∧
        (∀ candidate ∈ group, (scoreCardBased.value limitSettings candidate).AtMost
          (scoreCardBased.value limitSettings chosen)) ∧
        (∀ candidate ∈ before, less (scoreCardBased.value limitSettings candidate)
          (scoreCardBased.value limitSettings chosen) = true)) ∧
      (scoreCardBased.winner limitSettings group).candidate = some unweighted ∧
      (scoreCardBased.winner limitSettings group.reverse).value =
        (scoreCardBased.winner limitSettings group).value := by
  intro unweighted group
  obtain ⟨-, chooses, reordered, -⟩ := winner_of_group scoreCardBased limitSettings group
  have nonempty : group ≠ [] := List.cons_ne_nil _ _
  have perm : group.reverse.Perm group := List.reverse_perm group
  exact ⟨nonempty, perm, chooses nonempty, by decide +kernel, reordered group.reverse perm⟩

end Scorer

end WifiSelection
