import WifiSelection.Proofs.Registry.Basic
import WifiSelection.Proofs.Scoring.Choice

/-!
Candidates without the flags that tell of a connection. Leaving the flags out commutes with filing,
listing and grouping, so no decision of a registry hangs on them; it commutes with choosing, too, for
a formula that does not count the current network.
-/

namespace WifiSelection

def Candidate.unflagged (candidate : Candidate) : Candidate :=
  { candidate with isCurrentNetwork := false, isCurrentBssid := false }

namespace Registry

def unflagged (registry : Registry) : Registry where
  entries := registry.entries.map Candidate.unflagged
  currentNetworkId := none
  currentBssid := none
  lastSerial := registry.lastSerial

variable {registry : Registry} {key : CandidateKey}

theorem get?_unflagged :
    registry.unflagged.get? key = (registry.get? key).map Candidate.unflagged :=
  List.find?_map

theorem without_unflagged :
    registry.unflagged.without key = (registry.without key).map Candidate.unflagged :=
  List.filter_map

theorem file_unflagged (registry : Registry) (nomination : Nomination) (key : CandidateKey) :
    (registry.file nomination key).unflagged = registry.unflagged.file nomination key := by
  have entries : (registry.file nomination key).entries.map Candidate.unflagged =
      (registry.unflagged.file nomination key).entries := by
    rw [file_entries, file_entries, without_unflagged, List.map_append]
    rfl
  rw [unflagged, entries]
  rfl

theorem add_unflagged (registry : Registry) (log : FaultLog) (nomination : Nomination) :
    registry.unflagged.add log nomination =
      ((registry.add log nomination).1, (registry.add log nomination).2.1.unflagged,
        (registry.add log nomination).2.2) := by
  rcases registry.add_cases log nomination with
    ⟨fault, faulty, eq⟩ | ⟨key, registered, valid, found, outranked, eq⟩ |
      ⟨key, valid, unrivalled, eq⟩
  · rw [eq, add_of_faulty faulty]
  · have foundUnflagged : registry.unflagged.get? key = some registered.unflagged := by
      rw [get?_unflagged, found, Option.map_some]
    rw [eq, add_of_outranked valid foundUnflagged outranked]
  · have unrivalledUnflagged : ∀ registered, registry.unflagged.get? key = some registered →
        nomination.isOutrankedBy registered = false := by
      intro registered found
      rw [get?_unflagged] at found
      obtain ⟨flagged, foundFlagged, rfl⟩ := Option.map_eq_some_iff.mp found
      exact unrivalled flagged foundFlagged
    rw [eq, add_of_unrivalled valid unrivalledUnflagged, file_unflagged]

theorem size_unflagged (registry : Registry) : registry.unflagged.size = registry.size :=
  List.length_map _

theorem candidates_unflagged (registry : Registry) :
    registry.unflagged.candidates = registry.candidates.map Candidate.unflagged :=
  Sorting.sort_map _ Candidate.unflagged registry.entries

theorem groups_unflagged (registry : Registry) :
    registry.unflagged.groups = registry.groups.map (List.map Candidate.unflagged) := by
  have ids : registry.unflagged.networkIds = registry.networkIds := by
    rw [networkIds, candidates_unflagged, List.map_map]
    rfl
  rw [groups, groups, ids, List.map_map]
  refine List.map_congr_left fun networkId _ => ?_
  rw [candidates_unflagged, List.filter_map]
  rfl

end Registry

def Verdict.unflagged (verdict : Verdict) : Verdict :=
  { verdict with candidate := verdict.candidate.map Candidate.unflagged }

theorem Verdict.best_unflagged (verdicts : List Verdict) :
    best (verdicts.map unflagged) = (best verdicts).unflagged := by
  have scanned : (verdicts.map unflagged).foldl (prefer value) none =
      (verdicts.foldl (prefer value) none).map unflagged :=
    foldl_prefer_map value unflagged none verdicts
  rw [best_eq, best_eq, scanned]
  cases verdicts.foldl (prefer value) none <;> rfl

namespace Scorer

variable {scorer : Scorer} {settings : ScoringSettings}

/-- A formula counts the current network only for throughput, and only for a bonus. -/
def Overlooks (scorer : Scorer) (settings : ScoringSettings) (candidate : Candidate) : Prop :=
  scorer = throughput → settings.currentNetworkBonus = 0 ∨ candidate.isCurrentNetwork = false

instance (candidate : Candidate) : Decidable (scorer.Overlooks settings candidate) :=
  inferInstanceAs (Decidable (_ → _))

theorem value_unflagged {candidate : Candidate}
    (overlooks : scorer.Overlooks settings candidate) :
    scorer.value settings candidate.unflagged = scorer.value settings candidate := by
  cases scorer with
  | compatibility => rfl
  | scoreCardBased => rfl
  | throughput =>
      have unawarded :
          (if candidate.isCurrentNetwork then settings.currentNetworkBonus.toInt else 0) = 0 := by
        rcases overlooks rfl with worthless | unmarked
        · rw [worthless]
          exact ite_self 0
        · rw [unmarked]
          rfl
      simp only [value, Scoring.Throughput.value, Scoring.Throughput.score, unawarded]
      rfl

theorem verdict_unflagged {candidate : Candidate}
    (overlooks : scorer.Overlooks settings candidate) :
    scorer.verdict settings candidate.unflagged = (scorer.verdict settings candidate).unflagged := by
  rw [verdict, verdict, value_unflagged overlooks, Verdict.unflagged, Option.map_some]

theorem winner_unflagged {group : List Candidate}
    (overlooks : ∀ candidate ∈ group, scorer.Overlooks settings candidate) :
    scorer.winner settings (group.map Candidate.unflagged) =
      (scorer.winner settings group).unflagged := by
  rw [winner_eq_best, winner_eq_best, ← Verdict.best_unflagged, List.map_map, List.map_map]
  refine congrArg Verdict.best (List.map_congr_left fun candidate member => ?_)
  exact verdict_unflagged (overlooks candidate member)

end Scorer

end WifiSelection
