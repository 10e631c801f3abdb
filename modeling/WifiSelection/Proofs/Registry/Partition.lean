import WifiSelection.Proofs.Registry.Basic
import WifiSelection.Proofs.Registry.Survivors
import WifiSelection.Samples

/-!
The groups of a registry as an ordered partition of its candidates. Neither the listing nor the
groups depend on the order in which the entries are kept, since serial numbers tell all of them
apart. The groups come out the same when they are filled one candidate at a time.
-/

namespace WifiSelection

namespace Registry

def joinGroup (candidate : Candidate) :
    List (Int32 × List Candidate) → List (Int32 × List Candidate)
  | [] => [(candidate.networkId, [candidate])]
  | (networkId, group) :: rest =>
    if candidate.networkId < networkId then
      (candidate.networkId, [candidate]) :: (networkId, group) :: rest
    else if candidate.networkId = networkId then
      (networkId, group ++ [candidate]) :: rest
    else
      (networkId, group) :: joinGroup candidate rest

def gathered (candidates : List Candidate) : List (Int32 × List Candidate) :=
  candidates.foldl (fun groups candidate => joinGroup candidate groups) []

def groupAt (candidates : List Candidate) (networkId : Int32) : Int32 × List Candidate :=
  (networkId, candidates.filter fun candidate => candidate.networkId = networkId)

section Filling

variable {candidates : List Candidate} {candidate : Candidate} {networkIds : List Int32}

theorem groupAt_concat_of_ne {networkId : Int32} (different : candidate.networkId ≠ networkId) :
    groupAt (candidates ++ [candidate]) networkId = groupAt candidates networkId := by
  simp [groupAt, different]

theorem map_groupAt_concat (absent : candidate.networkId ∉ networkIds) :
    networkIds.map (groupAt (candidates ++ [candidate])) = networkIds.map (groupAt candidates) :=
  List.map_congr_left fun _ member =>
    groupAt_concat_of_ne fun same => absent (same ▸ member)

theorem map_groupAt_started (absent : candidate.networkId ∉ networkIds)
    (fresh : candidates.filter (fun other => other.networkId = candidate.networkId) = []) :
    (candidate.networkId :: networkIds).map (groupAt (candidates ++ [candidate])) =
      (candidate.networkId, [candidate]) :: networkIds.map (groupAt candidates) := by
  rw [List.map_cons, map_groupAt_concat absent]
  simp [groupAt, fresh]

theorem joinGroup_groupAt (ascending : networkIds.Pairwise fun left right => left < right)
    (fresh : candidate.networkId ∉ networkIds →
      candidates.filter (fun other => other.networkId = candidate.networkId) = []) :
    ∃ next : List Int32, next.Pairwise (fun left right => left < right) ∧
      (∀ networkId, networkId ∈ next ↔
        networkId = candidate.networkId ∨ networkId ∈ networkIds) ∧
      joinGroup candidate (networkIds.map (groupAt candidates)) =
        next.map (groupAt (candidates ++ [candidate])) := by
  induction networkIds with
  | nil =>
      have absent : candidate.networkId ∉ ([] : List Int32) := List.not_mem_nil
      refine ⟨[candidate.networkId], List.pairwise_singleton _ _, fun _ => by simp, ?_⟩
      rw [map_groupAt_started absent (fresh absent)]
      rfl
  | cons first rest ih =>
      obtain ⟨above, restAscending⟩ := List.pairwise_cons.mp ascending
      -- The cases are those of the filling: in front of the first group, into it, or further on.
      by_cases below : candidate.networkId < first
      · have ahead : ∀ networkId ∈ first :: rest, candidate.networkId < networkId := by
          intro networkId member
          rcases List.mem_cons.mp member with rfl | later
          · exact below
          · exact Int32.lt_trans below (above _ later)
        have absent : candidate.networkId ∉ first :: rest := fun member =>
          Int32.lt_irrefl (ahead _ member)
        refine ⟨candidate.networkId :: first :: rest, List.pairwise_cons.mpr ⟨ahead, ascending⟩,
          fun _ => List.mem_cons, ?_⟩
        rw [map_groupAt_started absent (fresh absent), List.map_cons, groupAt, joinGroup,
          if_pos below]
      by_cases same : candidate.networkId = first
      · have absent : candidate.networkId ∉ rest := fun later =>
          Int32.ne_of_lt (above _ later) same.symm
        refine ⟨first :: rest, ascending, fun _ => by simp [same], ?_⟩
        rw [List.map_cons, List.map_cons, map_groupAt_concat absent, groupAt, joinGroup,
          if_neg below, if_pos same]
        simp [groupAt, same]
      · have beyond : first < candidate.networkId :=
          Int32.lt_of_le_of_ne (Int32.not_lt.mp below) (Ne.symm same)
        obtain ⟨next, nextAscending, listed, joined⟩ := ih restAscending fun absent =>
          fresh fun member => absent ((List.mem_cons.mp member).resolve_left same)
        refine ⟨first :: next, ?_, fun networkId => ?_, ?_⟩
        · refine List.pairwise_cons.mpr ⟨fun networkId member => ?_, nextAscending⟩
          rcases (listed networkId).mp member with rfl | later
          · exact beyond
          · exact above networkId later
        · rw [List.mem_cons, listed, List.mem_cons]
          exact or_left_comm
        · rw [List.map_cons, List.map_cons, ← joined, groupAt_concat_of_ne same, groupAt,
            joinGroup, if_neg below, if_neg same]

theorem gathered_concat (candidates : List Candidate) (candidate : Candidate) :
    gathered (candidates ++ [candidate]) = joinGroup candidate (gathered candidates) := by
  simp [gathered]

theorem gathered_eq (candidates : List Candidate) :
    ∃ networkIds : List Int32, networkIds.Pairwise (fun left right => left < right) ∧
      (∀ networkId, networkId ∈ networkIds ↔
        ∃ candidate ∈ candidates, candidate.networkId = networkId) ∧
      gathered candidates = networkIds.map (groupAt candidates) := by
  induction candidates using List.reverseRecOn with
  | nil => exact ⟨[], List.Pairwise.nil, by simp, rfl⟩
  | append_singleton candidates candidate ih =>
      obtain ⟨networkIds, ascending, listed, filled⟩ := ih
      have fresh : candidate.networkId ∉ networkIds →
          candidates.filter (fun other => other.networkId = candidate.networkId) = [] := by
        intro absent
        rw [List.filter_eq_nil_iff]
        intro other member same
        exact absent ((listed _).mpr ⟨other, member, of_decide_eq_true same⟩)
      obtain ⟨next, nextAscending, nextListed, joined⟩ := joinGroup_groupAt ascending fresh
      refine ⟨next, nextAscending, fun networkId => ?_, ?_⟩
      · rw [nextListed, listed]
        simp [or_and_right, exists_or, or_comm, eq_comm]
      · rw [gathered_concat, filled, joined]

theorem joinGroup_perm (candidate : Candidate) (groups : List (Int32 × List Candidate)) :
    ((joinGroup candidate groups).map Prod.snd).flatten.Perm
      (candidate :: (groups.map Prod.snd).flatten) := by
  induction groups with
  | nil => exact List.Perm.refl _
  | cons entry rest ih =>
      obtain ⟨networkId, group⟩ := entry
      rw [joinGroup]
      split
      · exact List.Perm.refl _
      · split
        · simp [List.perm_middle]
        · exact (ih.append_left group).trans List.perm_middle

theorem gathered_perm (candidates : List Candidate) :
    ((gathered candidates).map Prod.snd).flatten.Perm candidates := by
  induction candidates using List.reverseRecOn with
  | nil => exact List.Perm.refl _
  | append_singleton candidates candidate ih =>
      rw [gathered_concat]
      exact (joinGroup_perm candidate _).trans
        ((ih.cons candidate).trans (List.perm_append_singleton candidate candidates).symm)

end Filling

theorem groups_eq_gathered (registry : Registry) :
    registry.groups = (gathered registry.candidates).map Prod.snd := by
  obtain ⟨networkIds, ascending, listed, filled⟩ := gathered_eq registry.candidates
  have : Std.Irrefl fun left right : Int32 => left < right := ⟨fun _ => Int32.lt_irrefl⟩
  have sameIds : registry.networkIds = networkIds :=
    registry.networkIds_pairwise.eq_of_mem_iff ascending fun networkId =>
      mem_networkIds.trans (listed networkId).symm
  rw [filled, ← sameIds, List.map_map]
  rfl

theorem IsConsistent.candidates_of_perm {registry : Registry}
    (consistent : registry.IsConsistent) {enumerated : List Candidate}
    (same : enumerated.Perm registry.entries) :
    { registry with entries := enumerated }.candidates = registry.candidates := by
  refine Sorting.sort_eq_of_perm (fun left right => ?_) (fun left middle right => ?_) ?_ same
  · simpa using Nat.le_total left.serial right.serial
  · simpa using Nat.le_trans
  · intro left leftMember right rightMember before after
    simp only [decide_eq_true_eq] at before after
    exact consistent.serial_injective leftMember rightMember (Nat.le_antisymm before after)

/-- Some lists divide up the candidates by network, with ascending network ids and the members of
each in the order of the candidates. -/
structure DivideUp (groups : List (List Candidate)) (candidates : List Candidate) : Prop where
  nonempty : ∀ group ∈ groups, group ≠ []
  one_network : ∀ group ∈ groups, ∃ networkId,
    (∀ member ∈ group, member.networkId = networkId) ∧
      group = candidates.filter fun candidate => candidate.networkId = networkId
  ascending : groups.Pairwise fun left right =>
    ∀ lower ∈ left, ∀ upper ∈ right, lower.networkId < upper.networkId
  exhaustive : groups.flatten.Perm candidates

theorem groups_divideUp (registry : Registry) : DivideUp registry.groups registry.candidates where
  nonempty group member := by
    obtain ⟨networkId, listed, rfl⟩ := List.mem_map.mp member
    exact group_ne_nil listed
  one_network group member := by
    obtain ⟨networkId, -, rfl⟩ := List.mem_map.mp member
    exact ⟨networkId, fun _ inGroup => of_decide_eq_true (List.mem_filter.mp inGroup).2, rfl⟩
  ascending := by
    rw [groups, List.pairwise_map]
    refine registry.networkIds_pairwise.imp fun below lower lowerMember upper upperMember => ?_
    rw [of_decide_eq_true (List.mem_filter.mp lowerMember).2,
      of_decide_eq_true (List.mem_filter.mp upperMember).2]
    exact below
  exhaustive := by
    rw [groups_eq_gathered]
    exact gathered_perm registry.candidates

/-- However the entries of a registry that a run brought about are enumerated, it lists the same
candidates, all of them by ascending serial number, and divides them up into the same groups, which
are those filled one candidate after the other. -/
theorem groups_of_enumerated (steps : List Step) {enumerated : List Candidate}
    (order : enumerated.Perm (after steps).entries) :
    let registry := { after steps with entries := enumerated }
    registry.candidates = (after steps).candidates ∧
      registry.candidates.Pairwise (fun left right => left.serial < right.serial) ∧
      registry.candidates.Perm enumerated ∧
      registry.groups = (after steps).groups ∧
      registry.groups = (gathered registry.candidates).map Prod.snd ∧
      DivideUp registry.groups registry.candidates ∧
      (registry.groups.map List.length).sum = registry.size := by
  intro registry
  have consistent := isConsistent_after steps
  have same : registry.candidates = (after steps).candidates := consistent.candidates_of_perm order
  have listed : registry.candidates.Perm enumerated := Sorting.sort_perm _ _
  have divided := registry.groups_divideUp
  refine ⟨same, ?_, listed, ?_, registry.groups_eq_gathered, divided, ?_⟩
  · rw [same, consistent.candidates_eq]
    exact consistent.serials_ascend
  · rw [groups, groups, networkIds, networkIds, same]
  · rw [← List.length_flatten, divided.exhaustive.length_eq, listed.length_eq]
    rfl

def mingledSteps : List Step :=
  [(7, "home", "00:00:00:00:00:01"), (3, "cafe", "00:00:00:00:00:02"),
    (7, "home", "00:00:00:00:00:03")].map fun (networkId, ssid, bssid) =>
      .add (.empty .tolerant)
        { scan := Samples.scan ssid bssid .unsecured
          network := Samples.network networkId ssid .unsecured
          priority := 0
          score := 0 }

theorem groups_of_enumerated_reversed :
    let enumerated := (after mingledSteps).entries.reverse
    let registry := { after mingledSteps with entries := enumerated }
    enumerated.Perm (after mingledSteps).entries ∧ enumerated ≠ (after mingledSteps).entries ∧
      registry.groups.map (List.map Candidate.serial) = [[2], [1, 3]] ∧
      registry.groups = (after mingledSteps).groups ∧
      DivideUp registry.groups registry.candidates := by
  have order := List.reverse_perm (after mingledSteps).entries
  obtain ⟨-, -, -, same, -, divided, -⟩ := groups_of_enumerated mingledSteps order
  exact ⟨order, by decide +kernel, by decide +kernel, same, divided⟩

end Registry

end WifiSelection
