import Mathlib.Data.List.Induction
import WifiSelection.Proofs.Scoring.Range

/-!
Choosing within a group and among winners. Both scans keep a value until a strictly greater one
comes, so both end with the first maximum of what they went through.
-/

namespace WifiSelection

open Binary64

/-- The first of the elements of greatest value. -/
def FirstMaximum (value : α → Binary64) (elements : List α) (chosen : α) : Prop :=
  ∃ before after, elements = before ++ chosen :: after ∧
    (∀ element ∈ before, less (value element) (value chosen) = true) ∧
    (∀ element ∈ after, less (value chosen) (value element) = false)

namespace FirstMaximum

variable {value : α → Binary64} {elements others : List α} {chosen other : α}

theorem mem (first : FirstMaximum value elements chosen) : chosen ∈ elements := by
  obtain ⟨before, after, split, -, -⟩ := first
  simp [split]

theorem toUnits_le (first : FirstMaximum value elements chosen)
    (plain : ∀ element ∈ elements, (value element).IsPlain) :
    ∀ element ∈ elements, (value element).toUnits ≤ (value chosen).toUnits := by
  intro element member
  have chosenPlain := plain chosen first.mem
  have elementPlain := plain element member
  obtain ⟨before, after, split, below, notAbove⟩ := first
  simp only [split, List.mem_append, List.mem_cons] at member
  rcases member with earlier | same | later
  · exact Int.le_of_lt ((less_iff_toUnits_lt elementPlain chosenPlain).mp (below element earlier))
  · rw [same]
  · exact (less_eq_false_iff chosenPlain elementPlain).mp (notAbove element later)

theorem value_eq_of_perm (first : FirstMaximum value elements chosen)
    (second : FirstMaximum value others other)
    (plain : ∀ element, (value element).IsPlain)
    (same : (elements.map value).Perm (others.map value)) : value chosen = value other := by
  have chosenMember : value chosen ∈ others.map value :=
    same.subset (List.mem_map_of_mem first.mem)
  have otherMember : value other ∈ elements.map value :=
    same.symm.subset (List.mem_map_of_mem second.mem)
  obtain ⟨left, leftMember, leftEq⟩ := List.mem_map.mp chosenMember
  obtain ⟨right, rightMember, rightEq⟩ := List.mem_map.mp otherMember
  have chosenBound := second.toUnits_le (fun element _ => plain element) left leftMember
  have otherBound := first.toUnits_le (fun element _ => plain element) right rightMember
  rw [leftEq] at chosenBound
  rw [rightEq] at otherBound
  exact eq_of_toUnits_eq (plain chosen) (plain other) (by omega)

theorem unique (first : FirstMaximum value elements chosen)
    (second : FirstMaximum value elements other) : chosen = other := by
  obtain ⟨before, after, split, below, notAbove⟩ := first
  obtain ⟨otherBefore, otherAfter, otherSplit, otherBelow, otherNotAbove⟩ := second
  rw [split, List.append_eq_append_iff] at otherSplit
  rcases otherSplit with ⟨between, rfl, rest⟩ | ⟨between, rfl, rest⟩
  · cases between with
    | nil => exact (List.cons.inj rest).1
    | cons head tail =>
        obtain ⟨rfl, rfl⟩ := List.cons.inj rest
        have above := otherBelow chosen (by simp)
        rw [notAbove other (by simp)] at above
        cases above
  · cases between with
    | nil => exact (List.cons.inj rest).1.symm
    | cons head tail =>
        obtain ⟨rfl, rfl⟩ := List.cons.inj rest
        have above := below other (by simp)
        rw [otherNotAbove chosen (by simp)] at above
        cases above

theorem map (score : β → Binary64) (view : α → β)
    (first : FirstMaximum (fun element => score (view element)) elements chosen) :
    FirstMaximum score (elements.map view) (view chosen) := by
  obtain ⟨before, after, split, below, notAbove⟩ := first
  refine ⟨before.map view, after.map view, by simp [split], ?_, ?_⟩
  · intro seen member
    obtain ⟨element, elementMember, rfl⟩ := List.mem_map.mp member
    exact below element elementMember
  · intro seen member
    obtain ⟨element, elementMember, rfl⟩ := List.mem_map.mp member
    exact notAbove element elementMember

theorem congr {score : α → Binary64} (first : FirstMaximum value elements chosen)
    (same : ∀ element ∈ elements, value element = score element) :
    FirstMaximum score elements chosen := by
  have chosenEq := same chosen first.mem
  obtain ⟨before, after, split, below, notAbove⟩ := first
  refine ⟨before, after, split, ?_, ?_⟩
  · intro element member
    rw [← same element (by simp [split, member]), ← chosenEq]
    exact below element member
  · intro element member
    rw [← same element (by simp [split, member]), ← chosenEq]
    exact notAbove element member

end FirstMaximum

def prefer (value : α → Binary64) (found : Option α) (element : α) : Option α :=
  if less ((found.map value).getD negativeInfinity) (value element) then some element else found

theorem prefer_map (value : β → Binary64) (view : α → β) (found : Option α) (element : α) :
    prefer value (found.map view) (view element) =
      (prefer (fun element => value (view element)) found element).map view := by
  have bound : (found.map view).map value = found.map fun element => value (view element) :=
    Option.map_map value view found
  simp only [prefer, bound]
  split <;> rfl

theorem foldl_prefer_map (value : β → Binary64) (view : α → β) (found : Option α)
    (elements : List α) :
    (elements.map view).foldl (prefer value) (found.map view) =
      (elements.foldl (prefer fun element => value (view element)) found).map view := by
  rw [List.foldl_map]
  exact List.foldl_hom (Option.map view) (prefer_map value view)

theorem foldl_prefer_firstMaximum (value : α → Binary64) (elements : List α)
    (plain : ∀ element ∈ elements, (value element).IsPlain) (nonempty : elements ≠ []) :
    ∃ chosen, elements.foldl (prefer value) none = some chosen ∧
      FirstMaximum value elements chosen := by
  induction elements using List.reverseRecOn with
  | nil => exact (nonempty rfl).elim
  | append_singleton earlier last ih =>
      have lastPlain := plain last (by simp)
      rw [List.foldl_append, List.foldl_cons, List.foldl_nil]
      by_cases empty : earlier = []
      · subst empty
        refine ⟨last, ?_, [], [], rfl, by simp, by simp⟩
        simp only [List.foldl_nil, prefer, Option.map_none, Option.getD_none,
          negativeInfinity_less lastPlain, if_true]
      · obtain ⟨chosen, found, first⟩ :=
          ih (fun element member => plain element (List.mem_append_left _ member)) empty
        have chosenPlain := plain chosen (List.mem_append_left _ first.mem)
        simp only [found, prefer, Option.map_some, Option.getD_some]
        cases above : less (value chosen) (value last) with
        | true =>
            refine ⟨last, rfl, earlier, [], rfl, ?_, by simp⟩
            intro element member
            have elementPlain := plain element (List.mem_append_left _ member)
            have bound := first.toUnits_le
              (fun element member => plain element (List.mem_append_left _ member)) element member
            rw [less_iff_toUnits_lt chosenPlain lastPlain] at above
            rw [less_iff_toUnits_lt elementPlain lastPlain]
            omega
        | false =>
            obtain ⟨before, after, split, below, notAbove⟩ := first
            refine ⟨chosen, rfl, before, after ++ [last], by simp [split], below, ?_⟩
            intro element member
            rcases List.mem_append.mp member with later | final
            · exact notAbove element later
            · rw [List.mem_singleton.mp final]
              exact above

namespace Verdict

theorem best_eq (verdicts : List Verdict) :
    best verdicts = (verdicts.foldl (prefer Verdict.value) none).getD nothing :=
  rfl

theorem best_firstMaximum (verdicts : List Verdict)
    (plain : ∀ verdict ∈ verdicts, verdict.value.IsPlain) (nonempty : verdicts ≠ []) :
    FirstMaximum Verdict.value verdicts (best verdicts) := by
  obtain ⟨chosen, found, first⟩ := foldl_prefer_firstMaximum _ verdicts plain nonempty
  rw [best_eq, found]
  exact first

end Verdict

namespace Scorer

theorem winner_eq (scorer : Scorer) (settings : ScoringSettings) (group : List Candidate) :
    scorer.winner settings group =
      (group.foldl (prefer (scorer.value settings)) none).elim Verdict.nothing
        (scorer.verdict settings) := by
  rw [winner, ← List.foldl_hom fun found : Option Candidate =>
    found.elim Verdict.nothing (scorer.verdict settings)]
  · rfl
  · intro found candidate
    cases found <;> simp only [prefer] <;> split <;> simp_all [Verdict.nothing, verdict]

theorem winner_eq_best (scorer : Scorer) (settings : ScoringSettings) (group : List Candidate) :
    scorer.winner settings group = Verdict.best (group.map (scorer.verdict settings)) := by
  have scanned : (group.map (scorer.verdict settings)).foldl (prefer Verdict.value) none =
      (group.foldl (prefer (scorer.value settings)) none).map (scorer.verdict settings) :=
    foldl_prefer_map Verdict.value (scorer.verdict settings) none group
  rw [winner_eq, Verdict.best_eq, scanned]
  cases group.foldl (prefer (scorer.value settings)) none <;> rfl

theorem winner_firstMaximum (scorer : Scorer) (settings : ScoringSettings)
    (group : List Candidate) (nonempty : group ≠ []) :
    ∃ chosen, FirstMaximum (scorer.value settings) group chosen ∧
      scorer.winner settings group = scorer.verdict settings chosen := by
  obtain ⟨chosen, found, first⟩ := foldl_prefer_firstMaximum (scorer.value settings) group
    (fun candidate _ => scorer.value_isPlain settings candidate) nonempty
  refine ⟨chosen, first, ?_⟩
  rw [winner_eq, found]
  rfl

end Scorer

end WifiSelection
