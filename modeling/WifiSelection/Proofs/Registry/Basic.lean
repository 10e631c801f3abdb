import Mathlib.Data.List.Sort
import WifiSelection.Registry

/-!
What one operation does to a registry, and what every registry keeps: one candidate for a key, and
candidates held in the order of their serial numbers. The sort behind it is insertion sort by the
relation that its Boolean order decides; so the network ids of a registry's candidates are listed
once each in ascending order, and each has a group that is not empty.
-/

namespace WifiSelection

namespace Sorting

theorem insert_eq_orderedInsert (precedes : α → α → Bool) (element : α) (list : List α) :
    insert precedes element list =
      list.orderedInsert (fun left right => precedes left right = true) element := by
  induction list with
  | nil => rfl
  | cons head tail ih => simp only [insert, List.orderedInsert_cons, ih]

theorem sort_eq_insertionSort (precedes : α → α → Bool) (list : List α) :
    sort precedes list = list.insertionSort (fun left right => precedes left right = true) := by
  induction list with
  | nil => rfl
  | cons head tail ih =>
      simp only [sort, List.insertionSort_cons, ih, insert_eq_orderedInsert]

theorem sort_perm (precedes : α → α → Bool) (list : List α) :
    (sort precedes list).Perm list := by
  rw [sort_eq_insertionSort]
  exact List.perm_insertionSort _ list

theorem mem_sort {precedes : α → α → Bool} {list : List α} {element : α} :
    element ∈ sort precedes list ↔ element ∈ list :=
  (sort_perm precedes list).mem_iff

theorem sort_pairwise (precedes : α → α → Bool)
    (total : ∀ left right, precedes left right = true ∨ precedes right left = true)
    (trans : ∀ left middle right, precedes left middle = true → precedes middle right = true →
      precedes left right = true) (list : List α) :
    (sort precedes list).Pairwise fun left right => precedes left right = true := by
  rw [sort_eq_insertionSort]
  have : Std.Total fun left right => precedes left right = true := ⟨total⟩
  have : IsTrans α fun left right => precedes left right = true := ⟨trans⟩
  exact List.pairwise_insertionSort _ list

theorem sort_eq_of_perm {precedes : α → α → Bool} {list other : List α}
    (total : ∀ left right, precedes left right = true ∨ precedes right left = true)
    (trans : ∀ left middle right, precedes left middle = true → precedes middle right = true →
      precedes left right = true)
    (apart : ∀ left ∈ list, ∀ right ∈ list, precedes left right = true →
      precedes right left = true → left = right)
    (same : other.Perm list) : sort precedes other = sort precedes list := by
  have sorted : (sort precedes other).Perm (sort precedes list) :=
    (sort_perm precedes other).trans (same.trans (sort_perm precedes list).symm)
  refine sorted.eq_of_pairwise (fun left right leftMember rightMember => ?_)
    (sort_pairwise precedes total trans other) (sort_pairwise precedes total trans list)
  exact apart left (same.mem_iff.mp (mem_sort.mp leftMember)) right (mem_sort.mp rightMember)

theorem sort_map (precedes : β → β → Bool) (view : α → β) (list : List α) :
    sort precedes (list.map view) =
      (sort (fun left right => precedes (view left) (view right)) list).map view := by
  rw [sort_eq_insertionSort, sort_eq_insertionSort]
  exact (List.map_insertionSort _ _ view list fun _ _ _ _ => Iff.rfl).symm

theorem sort_eq_self {precedes : α → α → Bool} {list : List α}
    (ordered : list.Pairwise fun left right => precedes left right = true) :
    sort precedes list = list := by
  rw [sort_eq_insertionSort]
  exact ordered.insertionSort_eq

end Sorting

namespace Nomination

def fault? (nomination : Nomination) : Option Fault :=
  match nomination.key? with
  | .error fault => some fault
  | .ok _ => none

theorem fault?_eq_some_iff {nomination : Nomination} {fault : Fault} :
    nomination.fault? = some fault ↔ nomination.key? = .error fault := by
  rw [fault?]
  cases nomination.key? <;> simp

end Nomination

namespace Registry

variable {registry : Registry} {log : FaultLog} {nomination : Nomination} {key : CandidateKey}

theorem get?_eq_some {entry : Candidate} (found : registry.get? key = some entry) :
    entry ∈ registry.entries ∧ entry.key = key := by
  have member := List.mem_of_find?_eq_some found
  have matched := List.find?_some found
  exact ⟨member, of_decide_eq_true matched⟩

theorem get?_eq_none_iff :
    registry.get? key = none ↔ ∀ entry ∈ registry.entries, entry.key ≠ key := by
  simp only [get?, List.find?_eq_none, decide_eq_true_eq, ne_eq]

theorem mem_without {entry : Candidate} :
    entry ∈ registry.without key ↔ entry ∈ registry.entries ∧ entry.key ≠ key := by
  simp only [without, List.mem_filter, bne_iff_ne, ne_eq]

theorem without_of_absent (absent : registry.get? key = none) :
    registry.without key = registry.entries :=
  List.filter_eq_self.mpr fun entry member =>
    bne_iff_ne.mpr (get?_eq_none_iff.mp absent entry member)

@[simp] theorem candidateOf_key (nomination : Nomination) (key : CandidateKey) (serial : Nat) :
    (registry.candidateOf nomination key serial).key = key := rfl

@[simp] theorem candidateOf_serial (nomination : Nomination) (key : CandidateKey) (serial : Nat) :
    (registry.candidateOf nomination key serial).serial = serial := rfl

@[simp] theorem candidateOf_evaluatorPriority (nomination : Nomination) (key : CandidateKey)
    (serial : Nat) :
    (registry.candidateOf nomination key serial).evaluatorPriority = nomination.priority := rfl

@[simp] theorem candidateOf_evaluatorScore (nomination : Nomination) (key : CandidateKey)
    (serial : Nat) :
    (registry.candidateOf nomination key serial).evaluatorScore = nomination.score := rfl

@[simp] theorem file_entries (registry : Registry) (nomination : Nomination)
    (key : CandidateKey) :
    (registry.file nomination key).entries =
      registry.without key ++ [registry.candidateOf nomination key (registry.lastSerial + 1)] :=
  rfl

@[simp] theorem file_lastSerial (registry : Registry) (nomination : Nomination)
    (key : CandidateKey) :
    (registry.file nomination key).lastSerial = registry.lastSerial + 1 := rfl

@[simp] theorem connectedTo_entries (registry : Registry) (networkId : Option Int32)
    (bssid : Option MacAddress) : (registry.connectedTo networkId bssid).entries =
      registry.entries := rfl

theorem add_of_faulty {fault : Fault} (faulty : nomination.key? = .error fault) :
    registry.add log nomination = ((log.record fault).1, registry, (log.record fault).2) := by
  simp only [add, faulty]

theorem add_of_outranked {registered : Candidate} (valid : nomination.key? = .ok key)
    (found : registry.get? key = some registered)
    (outranked : nomination.isOutrankedBy registered = true) :
    registry.add log nomination = (.ok false, registry, log) := by
  simp only [add, valid, found, outranked, if_true]

theorem add_of_unrivalled (valid : nomination.key? = .ok key)
    (unrivalled : ∀ registered, registry.get? key = some registered →
      nomination.isOutrankedBy registered = false) :
    registry.add log nomination = (.ok true, registry.file nomination key, log) := by
  cases found : registry.get? key with
  | none => simp only [add, valid, found]
  | some registered =>
      simp only [add, valid, found, unrivalled registered found, Bool.false_eq_true, if_false]

theorem add_cases (registry : Registry) (log : FaultLog) (nomination : Nomination) :
    (∃ fault, nomination.key? = .error fault ∧
      registry.add log nomination = ((log.record fault).1, registry, (log.record fault).2)) ∨
    (∃ key registered, nomination.key? = .ok key ∧ registry.get? key = some registered ∧
      nomination.isOutrankedBy registered = true ∧
      registry.add log nomination = (.ok false, registry, log)) ∨
    (∃ key, nomination.key? = .ok key ∧
      (∀ registered, registry.get? key = some registered →
        nomination.isOutrankedBy registered = false) ∧
      registry.add log nomination = (.ok true, registry.file nomination key, log)) := by
  cases valid : nomination.key? with
  | error fault => exact .inl ⟨fault, rfl, add_of_faulty valid⟩
  | ok key =>
      right
      by_cases outranked : ∃ registered, registry.get? key = some registered ∧
          nomination.isOutrankedBy registered = true
      · obtain ⟨registered, found, below⟩ := outranked
        exact .inl ⟨key, registered, rfl, found, below, add_of_outranked valid found below⟩
      · have unrivalled : ∀ registered, registry.get? key = some registered →
            nomination.isOutrankedBy registered = false := by
          intro registered found
          rw [← Bool.not_eq_true]
          exact fun below => outranked ⟨registered, found, below⟩
        exact .inr ⟨key, rfl, unrivalled, add_of_unrivalled valid unrivalled⟩

theorem add_of_faultless (registry : Registry) {nomination : Nomination}
    (faultless : nomination.fault? = none) :
    ∃ filed next, ∀ log, registry.add log nomination = (.ok filed, next, log) := by
  cases checked : nomination.key? with
  | error fault =>
      rw [Nomination.fault?, checked] at faultless
      cases faultless
  | ok key =>
      cases found : registry.get? key with
      | none => exact ⟨true, registry.file nomination key, fun log => by simp [add, checked, found]⟩
      | some registered =>
          cases outranked : nomination.isOutrankedBy registered with
          | true => exact ⟨false, registry, fun log => add_of_outranked checked found outranked⟩
          | false =>
              exact ⟨true, registry.file nomination key,
                fun log => by simp [add, checked, found, outranked]⟩

theorem remove_cases (registry : Registry) (candidate : Candidate) :
    registry.remove candidate =
        (true, { registry with entries := registry.without candidate.key }) ∨
      registry.remove candidate = (false, registry) := by
  simp only [remove]
  split
  · split
    · exact .inl rfl
    · exact .inr rfl
  · exact .inr rfl

structure IsConsistent (registry : Registry) : Prop where
  keys_nodup : (registry.entries.map Candidate.key).Nodup
  serials_ascend : registry.entries.Pairwise fun left right => left.serial < right.serial
  serial_le : ∀ entry ∈ registry.entries, entry.serial ≤ registry.lastSerial

theorem IsConsistent.serials_nodup (consistent : registry.IsConsistent) :
    (registry.entries.map Candidate.serial).Nodup := by
  rw [List.Nodup, List.pairwise_map]
  exact consistent.serials_ascend.imp Nat.ne_of_lt

theorem IsConsistent.serial_injective (consistent : registry.IsConsistent) {left right : Candidate}
    (leftMember : left ∈ registry.entries) (rightMember : right ∈ registry.entries)
    (same : left.serial = right.serial) : left = right :=
  List.inj_on_of_nodup_map consistent.serials_nodup leftMember rightMember same

theorem isConsistent_empty : empty.IsConsistent where
  keys_nodup := List.nodup_nil
  serials_ascend := List.Pairwise.nil
  serial_le := by simp [empty]

theorem IsConsistent.connectedTo (consistent : registry.IsConsistent) (networkId : Option Int32)
    (bssid : Option MacAddress) : (registry.connectedTo networkId bssid).IsConsistent :=
  ⟨consistent.keys_nodup, consistent.serials_ascend, consistent.serial_le⟩

theorem IsConsistent.without (consistent : registry.IsConsistent) (key : CandidateKey) :
    { registry with entries := registry.without key }.IsConsistent where
  keys_nodup := consistent.keys_nodup.sublist (List.filter_sublist.map _)
  serials_ascend := consistent.serials_ascend.sublist List.filter_sublist
  serial_le entry member := consistent.serial_le entry (mem_without.mp member).1

theorem IsConsistent.file (consistent : registry.IsConsistent) (nomination : Nomination)
    (key : CandidateKey) : (registry.file nomination key).IsConsistent := by
  have kept := consistent.without key
  constructor
  · rw [file_entries, List.map_append, List.nodup_append]
    refine ⟨kept.keys_nodup, List.nodup_singleton _, ?_⟩
    intro left leftMember right rightMember same
    obtain ⟨entry, entryMember, rfl⟩ := List.mem_map.mp leftMember
    simp only [List.map_cons, List.map_nil, List.mem_singleton, candidateOf_key] at rightMember
    exact (mem_without.mp entryMember).2 (same.trans rightMember)
  · rw [file_entries, List.pairwise_append]
    refine ⟨kept.serials_ascend, List.pairwise_singleton _ _, ?_⟩
    intro left leftMember right rightMember
    rw [List.mem_singleton.mp rightMember, candidateOf_serial]
    have bound := kept.serial_le left leftMember
    exact Nat.lt_succ_of_le bound
  · intro entry member
    rw [file_lastSerial]
    rcases List.mem_append.mp member with old | new
    · exact Nat.le_succ_of_le (kept.serial_le entry old)
    · rw [List.mem_singleton.mp new, candidateOf_serial]

theorem IsConsistent.add (consistent : registry.IsConsistent) (log : FaultLog)
    (nomination : Nomination) : (registry.add log nomination).2.1.IsConsistent := by
  rcases add_cases registry log nomination with
    ⟨fault, -, eq⟩ | ⟨key, registered, -, -, -, eq⟩ | ⟨key, -, -, eq⟩
  · rw [eq]
    exact consistent
  · rw [eq]
    exact consistent
  · rw [eq]
    exact consistent.file nomination key

theorem IsConsistent.remove (consistent : registry.IsConsistent) (candidate : Candidate) :
    (registry.remove candidate).2.IsConsistent := by
  rcases remove_cases registry candidate with eq | eq
  · rw [eq]
    exact consistent.without candidate.key
  · rw [eq]
    exact consistent

theorem IsConsistent.get?_eq_some_iff (consistent : registry.IsConsistent) {entry : Candidate} :
    registry.get? key = some entry ↔ entry ∈ registry.entries ∧ entry.key = key := by
  refine ⟨get?_eq_some, ?_⟩
  rintro ⟨member, rfl⟩
  cases found : registry.get? entry.key with
  | none => exact (get?_eq_none_iff.mp found entry member rfl).elim
  | some other =>
      obtain ⟨otherMember, same⟩ := get?_eq_some found
      exact congrArg some (List.inj_on_of_nodup_map consistent.keys_nodup otherMember member same)

theorem IsConsistent.candidates_eq (consistent : registry.IsConsistent) :
    registry.candidates = registry.entries := by
  apply Sorting.sort_eq_self
  exact consistent.serials_ascend.imp fun lower => decide_eq_true (Nat.le_of_lt lower)

theorem file_get? (registry : Registry) (nomination : Nomination) (key other : CandidateKey) :
    (registry.file nomination key).get? other =
      if other = key then some (registry.candidateOf nomination key (registry.lastSerial + 1))
      else registry.get? other := by
  simp only [get?, file_entries, List.find?_append]
  split
  next same =>
    subst same
    have absent : (registry.without other).find? (fun entry => entry.key = other) = none := by
      simp only [List.find?_eq_none, decide_eq_true_eq]
      exact fun entry member => (mem_without.mp member).2
    rw [absent]
    simp
  next different =>
    have last : [registry.candidateOf nomination key (registry.lastSerial + 1)].find?
        (fun entry => entry.key = other) = none := by
      simp [Ne.symm different]
    rw [last, Option.or_none, Registry.without, List.find?_filter]
    congr 1
    funext entry
    by_cases same : entry.key = other
    · simp [same, different]
    · simp [same]

end Registry

namespace Nomination

/-- Better by priority and score; the lower priority is better. -/
def Beats (left right : Nomination) : Prop :=
  left.priority < right.priority ∨ (left.priority = right.priority ∧ right.score < left.score)

theorem isOutrankedBy_candidateOf (registry : Registry) (nomination earlier : Nomination)
    (key : CandidateKey) (serial : Nat) :
    nomination.isOutrankedBy (registry.candidateOf earlier key serial) = true ↔
      ¬nomination.Beats earlier := by
  simp only [isOutrankedBy, Registry.candidateOf_evaluatorPriority,
    Registry.candidateOf_evaluatorScore, Bool.or_eq_true, Bool.and_eq_true, Beats]
  grind

theorem Beats.asymm {left right : Nomination} (beats : left.Beats right) : ¬right.Beats left := by
  simp only [Beats] at *
  grind

theorem Beats.trans {left middle right : Nomination} (first : left.Beats middle)
    (second : ¬right.Beats middle) : left.Beats right := by
  simp only [Beats] at *
  grind

end Nomination

theorem nodup_eraseDups [BEq α] [LawfulBEq α] : ∀ list : List α, list.eraseDups.Nodup
  | [] => List.nodup_nil
  | head :: tail => by
      rw [List.eraseDups_cons, List.nodup_cons]
      exact ⟨by simp [List.mem_eraseDups], nodup_eraseDups _⟩
  termination_by list => list.length
  decreasing_by exact Nat.lt_succ_of_le (List.length_filter_le _ _)

namespace Registry

theorem mem_networkIds {registry : Registry} {networkId : Int32} :
    networkId ∈ registry.networkIds ↔
      ∃ candidate ∈ registry.candidates, candidate.networkId = networkId := by
  rw [networkIds, Sorting.mem_sort, List.mem_eraseDups, List.mem_map]

theorem networkIds_pairwise (registry : Registry) :
    registry.networkIds.Pairwise fun left right => left < right := by
  have ascending := Sorting.sort_pairwise (fun left right : Int32 => decide (left ≤ right))
    (fun left right => by simpa using Int32.le_total left right)
    (fun left middle right first second => by
      simp only [decide_eq_true_eq] at *
      exact Int32.le_trans first second)
    (registry.candidates.map Candidate.networkId).eraseDups
  have distinct : registry.networkIds.Nodup :=
    (Sorting.sort_perm _ _).nodup_iff.mpr (nodup_eraseDups _)
  refine ascending.imp₂ (fun left right ordered different => ?_) distinct
  exact Int32.lt_of_le_of_ne (of_decide_eq_true ordered) different

theorem group_ne_nil {registry : Registry} {networkId : Int32}
    (listed : networkId ∈ registry.networkIds) :
    registry.candidates.filter (fun candidate => candidate.networkId = networkId) ≠ [] := by
  obtain ⟨candidate, member, same⟩ := mem_networkIds.mp listed
  exact List.ne_nil_of_mem (List.mem_filter.mpr ⟨member, decide_eq_true same⟩)

theorem mem_of_mem_groups {registry : Registry} {group : List Candidate} {candidate : Candidate}
    (listed : group ∈ registry.groups) (member : candidate ∈ group) :
    candidate ∈ registry.candidates := by
  obtain ⟨networkId, -, rfl⟩ := List.mem_map.mp listed
  exact List.mem_of_mem_filter member

end Registry

end WifiSelection
