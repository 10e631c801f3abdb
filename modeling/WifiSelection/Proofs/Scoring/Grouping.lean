import WifiSelection.Proofs.Scoring.Choice
import WifiSelection.Samples

/-!
Choosing by groups. To scan a group with something found already is to scan it afresh and then to
prefer its winner or not, so the best of the winners of groups is the winner of all their candidates
together, the earliest of equals included. The scans are compared for any valuation: a NaN or a
negative infinity is never preferred, and empty groups have no winner.
-/

namespace WifiSelection

open Binary64

section Scan

variable {value : α → Binary64} {found : Option α} {group : List α} {element chosen : α}

theorem negativeInfinity_less_of_scan (scanned : group.foldl (prefer value) none = some chosen) :
    less negativeInfinity (value chosen) = true := by
  induction group using List.reverseRecOn generalizing chosen with
  | nil => cases scanned
  | append_singleton earlier last ih =>
      rw [List.foldl_append, List.foldl_cons, List.foldl_nil, prefer] at scanned
      split at scanned
      next above =>
        cases scanned
        exact negativeInfinity_less_of_less above
      next => exact ih scanned

theorem prefer_of_unpreferred (passed : prefer value none element = none) :
    prefer value found element = found := by
  rw [prefer]
  split
  next above =>
    have preferred := negativeInfinity_less_of_less above
    rw [prefer] at passed
    simp [preferred] at passed
  next => rfl

theorem prefer_prefer (number : value chosen ≠ nan) :
    prefer value (prefer value found chosen) element =
      (prefer value (some chosen) element).elim found (prefer value found) := by
  cases later : less (value chosen) (value element) with
  | true =>
      have takesLater : prefer value (some chosen) element = some element := by
        simp [prefer, later]
      rw [takesLater, Option.elim_some]
      by_cases above : less ((found.map value).getD negativeInfinity) (value chosen) = true
      · have further := less_trans above later
        simp [prefer, above, later, further]
      · simp [prefer, above]
  | false =>
      have keepsFirst : prefer value (some chosen) element = some chosen := by
        simp [prefer, later]
      rw [keepsFirst, Option.elim_some]
      cases above : less ((found.map value).getD negativeInfinity) (value chosen) with
      | true => simp [prefer, above, later]
      | false =>
          have neither := not_less_trans number above later
          simp [prefer, above, neither]

/-- Scanning a group goes on from what was found as if the group had been scanned alone. -/
theorem foldl_prefer_eq (value : α → Binary64) (found : Option α) (group : List α) :
    group.foldl (prefer value) found =
      (group.foldl (prefer value) none).elim found (prefer value found) := by
  induction group using List.reverseRecOn with
  | nil => rfl
  | append_singleton earlier last ih =>
      simp only [List.foldl_append, List.foldl_cons, List.foldl_nil]
      rw [ih]
      cases scanned : earlier.foldl (prefer value) none with
      | none =>
          rw [Option.elim_none]
          cases preferred : prefer value none last with
          | none => exact prefer_of_unpreferred preferred
          | some winner =>
              have same : winner = last := by
                rw [prefer] at preferred
                split at preferred <;> cases preferred
                rfl
              rw [same, Option.elim_some]
      | some chosen =>
          have number := ne_nan_of_less (negativeInfinity_less_of_scan scanned)
          rw [Option.elim_some]
          exact prefer_prefer number

end Scan

namespace Verdict

theorem prefer_nothing (found : Option Verdict) :
    prefer Verdict.value found nothing = found := by
  simp [prefer, nothing, less_negativeInfinity]

theorem prefer_best (found : Option Verdict) (verdicts : List Verdict) :
    prefer Verdict.value found (best verdicts) =
      verdicts.foldl (prefer Verdict.value) found := by
  rw [foldl_prefer_eq, best_eq]
  cases verdicts.foldl (prefer Verdict.value) none with
  | none => exact prefer_nothing found
  | some chosen => rfl

theorem foldl_prefer_best (found : Option Verdict) (groups : List (List Verdict)) :
    (groups.map best).foldl (prefer Verdict.value) found =
      groups.flatten.foldl (prefer Verdict.value) found := by
  induction groups generalizing found with
  | nil => rfl
  | cons group rest ih =>
      rw [List.map_cons, List.foldl_cons, prefer_best, List.flatten_cons, List.foldl_append]
      exact ih _

/-- The best of the best of groups is the best of all verdicts, whatever their values are. -/
theorem best_flatten (groups : List (List Verdict)) :
    best (groups.map best) = best groups.flatten := by
  rw [best_eq, best_eq, foldl_prefer_best]

end Verdict

namespace Scorer

variable {scorer : Scorer} {settings : ScoringSettings}

theorem choose_eq_winner_flatten (groups : List (List Candidate)) :
    scorer.choose settings groups = scorer.winner settings groups.flatten := by
  have judged : scorer.winners settings groups =
      (groups.map (List.map (scorer.verdict settings))).map Verdict.best := by
    rw [winners, List.map_map]
    exact List.map_congr_left fun group _ => scorer.winner_eq_best settings group
  rw [choose, judged, Verdict.best_flatten, ← List.map_flatten, winner_eq_best]

/-- The choice among groups is the best of their winners, and it is the winner of all candidates
together: the first of greatest value, or nothing if there are none. How the candidates are divided
up makes no difference. -/
theorem choose_among_groups (scorer : Scorer) (settings : ScoringSettings)
    (groups : List (List Candidate)) :
    scorer.choose settings groups = Verdict.best (scorer.winners settings groups) ∧
      scorer.choose settings groups = scorer.winner settings groups.flatten ∧
      (groups.flatten = [] ∧ scorer.choose settings groups = Verdict.nothing ∨
        ∃ chosen, FirstMaximum (scorer.value settings) groups.flatten chosen ∧
          scorer.choose settings groups = scorer.verdict settings chosen) ∧
      ∀ others : List (List Candidate), others.flatten = groups.flatten →
        scorer.choose settings others = scorer.choose settings groups := by
  have together : scorer.choose settings groups = scorer.winner settings groups.flatten :=
    choose_eq_winner_flatten groups
  refine ⟨rfl, together, ?_, ?_⟩
  · rw [together]
    by_cases empty : groups.flatten = []
    · left
      rw [empty]
      exact ⟨rfl, rfl⟩
    · right
      exact scorer.winner_firstMaximum settings groups.flatten empty
  · intro others same
    rw [together, choose_eq_winner_flatten, same]

def tiedCandidates : List Candidate :=
  [{ Samples.candidate "cafe" 1 3 with rssi := -80 }, Samples.candidate "home" 2 5,
    Samples.candidate "home" 3 5]

theorem choose_among_groups_tied :
    let groups := [[], tiedCandidates.take 2, [], tiedCandidates.drop 2]
    let others := [tiedCandidates.take 1, tiedCandidates.drop 1]
    others.flatten = groups.flatten ∧
      scoreCardBased.choose .standard others = scoreCardBased.choose .standard groups ∧
      scoreCardBased.choose .standard groups =
        scoreCardBased.verdict .standard (Samples.candidate "home" 2 5) := by
  intro groups others
  obtain ⟨-, together, -, dividedAnyhow⟩ := choose_among_groups scoreCardBased .standard groups
  have same : others.flatten = groups.flatten := rfl
  refine ⟨same, dividedAnyhow others same, ?_⟩
  rw [together]
  decide +kernel

end Scorer

end WifiSelection
