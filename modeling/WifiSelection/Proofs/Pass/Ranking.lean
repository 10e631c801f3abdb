import Mathlib.Data.List.Sort
import WifiSelection.Proofs.Registry.Basic
import WifiSelection.Proofs.Scoring.Choice
import WifiSelection.Selector

/-!
How an outcome ranks the candidates of a registry. The networks chosen and their values do not depend
on the order of the candidates, nor on their serial numbers; only which of equally good candidates
of a network is named does.
-/

namespace WifiSelection

def Verdict.choice (verdict : Verdict) : Option Int32 × Binary64 :=
  (verdict.candidate.map Candidate.networkId, verdict.value)

def Candidate.unnumbered (candidate : Candidate) : Candidate :=
  { candidate with serial := 0 }

theorem Scorer.value_unnumbered (scorer : Scorer) (settings : ScoringSettings)
    (candidate : Candidate) :
    scorer.value settings candidate.unnumbered = scorer.value settings candidate := by
  cases scorer <;> rfl

namespace Selector

/-- An outcome ranks candidates: it has the first best candidate of each network by ascending
network id, and the first best of these. -/
structure Ranks (selector : Selector) (candidates : List Candidate) (outcome : Outcome) : Prop where
  winners : ∃ networkIds : List Int32, networkIds.Pairwise (fun left right => left < right) ∧
    (∀ networkId, networkId ∈ networkIds ↔
      ∃ candidate ∈ candidates, candidate.networkId = networkId) ∧
    List.Forall₂ (fun networkId winner => ∃ chosen,
      FirstMaximum (selector.scorer.value selector.settings.scoring)
        (candidates.filter fun candidate => candidate.networkId = networkId) chosen ∧
      winner = selector.scorer.verdict selector.settings.scoring chosen) networkIds outcome.winners
  best : candidates ≠ [] → FirstMaximum Verdict.value outcome.winners outcome.best
  best_nothing : candidates = [] → outcome.best = Verdict.nothing
  best_current : outcome.bestIsCurrentBssid = outcome.best.candidate.any Candidate.isCurrentBssid

theorem outcome_ranks (selector : Selector) (registry : Registry) (log : FaultLog) :
    selector.Ranks registry.candidates (selector.outcome registry log) where
  winners := by
    refine ⟨registry.networkIds, registry.networkIds_pairwise,
      fun networkId => Registry.mem_networkIds, ?_⟩
    rw [outcome, Scorer.winners, Registry.groups, List.forall₂_map_right_iff,
      List.forall₂_map_right_iff, List.forall₂_same]
    intro networkId listed
    exact selector.scorer.winner_firstMaximum _ _ (Registry.group_ne_nil listed)
  best nonempty := by
    obtain ⟨candidate, member⟩ := List.exists_mem_of_ne_nil _ nonempty
    have listed := Registry.mem_networkIds.mpr ⟨candidate, member, rfl⟩
    apply Verdict.best_firstMaximum
    · intro verdict verdictMember
      obtain ⟨group, groupMember, rfl⟩ := List.mem_map.mp verdictMember
      obtain ⟨networkId, idListed, rfl⟩ := List.mem_map.mp groupMember
      obtain ⟨chosen, -, eq⟩ := selector.scorer.winner_firstMaximum selector.settings.scoring _
        (Registry.group_ne_nil idListed)
      rw [eq]
      exact selector.scorer.value_isPlain _ chosen
    · exact List.ne_nil_of_mem (List.mem_map_of_mem (List.mem_map_of_mem listed))
  best_nothing empty := by
    have noIds : registry.networkIds = [] := by
      rw [List.eq_nil_iff_forall_not_mem]
      intro networkId listed
      obtain ⟨candidate, member, -⟩ := Registry.mem_networkIds.mp listed
      rw [empty] at member
      cases member
    rw [outcome, Registry.groups, noIds]
    rfl
  best_current := rfl

theorem map_eq_of_forall₂ {left : α → β → Prop} {right : α → γ → Prop} {view : β → δ} {other : γ → δ}
    (agree : ∀ element first second, left element first → right element second →
      view first = other second)
    {elements : List α} {firsts : List β} {seconds : List γ}
    (leftward : List.Forall₂ left elements firsts)
    (rightward : List.Forall₂ right elements seconds) :
    firsts.map view = seconds.map other := by
  induction leftward generalizing seconds with
  | nil =>
      cases rightward
      rfl
  | cons head _ ih =>
      cases rightward with
      | cons otherHead otherTail =>
          rw [List.map_cons, List.map_cons, agree _ _ _ head otherHead, ih otherTail]

section Congruence

variable {selector : Selector} {candidates others : List Candidate} {outcome other : Outcome}

theorem group_values_perm
    (same : (candidates.map Candidate.unnumbered).Perm (others.map Candidate.unnumbered))
    (networkId : Int32) :
    ((candidates.filter fun candidate => candidate.networkId = networkId).map
        (selector.scorer.value selector.settings.scoring)).Perm
      ((others.filter fun candidate => candidate.networkId = networkId).map
        (selector.scorer.value selector.settings.scoring)) := by
  have through : ∀ list : List Candidate,
      (list.filter fun candidate => candidate.networkId = networkId).map
          (selector.scorer.value selector.settings.scoring) =
        ((list.map Candidate.unnumbered).filter
          fun candidate => candidate.networkId = networkId).map
            (selector.scorer.value selector.settings.scoring) := by
    intro list
    rw [List.filter_map, List.map_map]
    apply List.map_congr_left
    intro candidate _
    exact (selector.scorer.value_unnumbered _ candidate).symm
  rw [through candidates, through others]
  exact (same.filter _).map _

theorem Ranks.winners_congr (ranks : selector.Ranks candidates outcome)
    (otherRanks : selector.Ranks others other)
    (same : (candidates.map Candidate.unnumbered).Perm (others.map Candidate.unnumbered)) :
    outcome.winners.map Verdict.choice = other.winners.map Verdict.choice := by
  obtain ⟨networkIds, ascending, listed, winners⟩ := ranks.winners
  obtain ⟨otherIds, otherAscending, otherListed, otherWinners⟩ := otherRanks.winners
  have sameIds : networkIds = otherIds := by
    have : Std.Irrefl fun left right : Int32 => left < right := ⟨fun _ => Int32.lt_irrefl⟩
    refine ascending.eq_of_mem_iff otherAscending fun networkId => ?_
    have through : ∀ list : List Candidate, (∃ candidate ∈ list, candidate.networkId = networkId) ↔
        networkId ∈ (list.map Candidate.unnumbered).map Candidate.networkId := by
      intro list
      rw [List.map_map, List.mem_map]
      rfl
    rw [listed, otherListed, through, through]
    exact (same.map Candidate.networkId).mem_iff
  subst sameIds
  refine map_eq_of_forall₂ ?_ winners otherWinners
  rintro networkId winner otherWinner ⟨chosen, first, rfl⟩ ⟨otherChosen, otherFirst, rfl⟩
  have value := first.value_eq_of_perm otherFirst
    (selector.scorer.value_isPlain selector.settings.scoring) (group_values_perm same networkId)
  have chosenId := of_decide_eq_true (List.mem_filter.mp first.mem).2
  have otherChosenId := of_decide_eq_true (List.mem_filter.mp otherFirst.mem).2
  simp only [Verdict.choice, Scorer.verdict, Option.map_some, chosenId, otherChosenId, value]

theorem Ranks.best_congr (ranks : selector.Ranks candidates outcome)
    (otherRanks : selector.Ranks others other)
    (same : (candidates.map Candidate.unnumbered).Perm (others.map Candidate.unnumbered)) :
    outcome.best.choice = other.best.choice := by
  by_cases empty : candidates = []
  · have otherEmpty : others = [] := by
      rw [empty, List.map_nil, List.nil_perm, List.map_eq_nil_iff] at same
      exact same
    rw [ranks.best_nothing empty, otherRanks.best_nothing otherEmpty]
  · have otherNonempty : others ≠ [] := by
      intro otherEmpty
      rw [otherEmpty, List.map_nil, List.perm_nil, List.map_eq_nil_iff] at same
      exact empty same
    have first : FirstMaximum Prod.snd (outcome.winners.map Verdict.choice) outcome.best.choice :=
      (ranks.best empty).map Prod.snd Verdict.choice
    have otherFirst : FirstMaximum Prod.snd (other.winners.map Verdict.choice) other.best.choice :=
      (otherRanks.best otherNonempty).map Prod.snd Verdict.choice
    rw [ranks.winners_congr otherRanks same] at first
    exact first.unique otherFirst

end Congruence

end Selector

end WifiSelection
