import Mathlib.Data.List.Basic
import Mathlib.Data.List.Nodup
import Mathlib.Data.List.Perm.Basic

/-!
Lists by the keys of their elements: the first element of each key, and lists that have the same
elements of each key in the same order and differ only in how the keys are interleaved. What is made
of such lists element by element is again such a pair. Under distinct keys each element is found.
-/

namespace WifiSelection

def firstOfEach [BEq β] (key : α → β) (list : List α) : List α :=
  list.eraseDupsBy fun later earlier => key later == key earlier

section FirstOfEach

variable [DecidableEq β] (key : α → β)

theorem firstOfEach_cons (head : α) (tail : List α) :
    firstOfEach key (head :: tail) =
      head :: firstOfEach key (tail.filter fun element => key element != key head) := by
  rw [firstOfEach, List.eraseDupsBy_cons, firstOfEach]
  congr 3
  funext element
  cases same : key element == key head <;> simp [bne, same]

theorem filter_firstOfEach (value : β) : ∀ list : List α,
    (firstOfEach key list).filter (fun element => key element = value) =
      (list.find? fun element => key element = value).toList
  | [] => rfl
  | head :: tail => by
      rw [firstOfEach_cons, List.filter_cons, filter_firstOfEach value, List.find?_filter,
        List.find?_cons]
      by_cases same : key head = value
      · subst same
        simp
      · have narrowed : (fun element : α =>
            decide ((key element != key head) = true ∧ decide (key element = value) = true)) =
              fun element => decide (key element = value) := by
          funext element
          by_cases hit : key element = value <;> simp [hit, Ne.symm same]
        rw [narrowed]
        simp [same]
  termination_by list => list.length
  decreasing_by exact Nat.lt_succ_of_le (List.length_filter_le _ _)

theorem firstOfEach_sublist : ∀ list : List α, (firstOfEach key list).Sublist list
  | [] => .slnil
  | head :: tail => by
      rw [firstOfEach_cons]
      exact ((firstOfEach_sublist _).trans List.filter_sublist).cons_cons head
  termination_by list => list.length
  decreasing_by exact Nat.lt_succ_of_le (List.length_filter_le _ _)

theorem firstOfEach_nodup (list : List α) : ((firstOfEach key list).map key).Nodup := by
  rw [List.nodup_iff_count_le_one]
  intro value
  have counted : ((firstOfEach key list).map key).count value =
      ((firstOfEach key list).filter fun element => key element = value).length := by
    rw [List.count, List.countP_map, List.countP_eq_length_filter]
    rfl
  rw [counted, filter_firstOfEach]
  cases list.find? fun element => key element = value <;> simp

theorem mem_map_firstOfEach {list : List α} {value : β} :
    value ∈ (firstOfEach key list).map key ↔ value ∈ list.map key := by
  constructor
  · exact fun member => (((firstOfEach_sublist key list).map key).subset member)
  · intro member
    obtain ⟨element, listed, same⟩ := List.mem_map.mp member
    have found : (list.find? fun element => key element = value).isSome = true :=
      List.find?_isSome.mpr ⟨element, listed, decide_eq_true same⟩
    obtain ⟨first, isFirst⟩ := Option.isSome_iff_exists.mp found
    have kept : first ∈ (firstOfEach key list).filter fun element => key element = value := by
      rw [filter_firstOfEach, isFirst]
      exact List.mem_singleton_self first
    obtain ⟨firstMember, firstKey⟩ := List.mem_filter.mp kept
    exact List.mem_map.mpr ⟨first, firstMember, of_decide_eq_true firstKey⟩

end FirstOfEach
/-- Both lists have the same elements of each key, in the same order. -/
def SamePerKey [DecidableEq β] (key : α → β) (left right : List α) : Prop :=
  ∀ value, left.filter (fun element => key element = value) =
    right.filter (fun element => key element = value)

namespace SamePerKey

variable [DecidableEq β] [DecidableEq δ] {key : α → β} {left right : List α}

theorem of_perm [DecidableEq α] (permuted : left.Perm right) : SamePerKey id left right := by
  intro value
  simp only [id_eq, List.filter_eq, permuted.count_eq]

theorem append {first second : List α} (same : SamePerKey key left right)
    (more : SamePerKey key first second) : SamePerKey key (left ++ first) (right ++ second) := by
  intro value
  rw [List.filter_append, List.filter_append, same value, more value]

theorem filter (same : SamePerKey key left right) (keep : α → Bool) :
    SamePerKey key (left.filter keep) (right.filter keep) := by
  intro value
  rw [List.filter_comm, same value, List.filter_comm]

theorem filter_flatMap {make : α → List γ} {made : γ → β}
    (origin : ∀ element, ∀ result ∈ make element, made result = key element) (list : List α)
    (value : β) :
    (list.flatMap make).filter (fun result => made result = value) =
      (list.filter fun element => key element = value).flatMap make := by
  induction list with
  | nil => rfl
  | cons head tail ih =>
      rw [List.flatMap_cons, List.filter_append, ih, List.filter_cons]
      by_cases same : key head = value
      · have all : (make head).filter (fun result => made result = value) = make head :=
          List.filter_eq_self.mpr fun result member =>
            decide_eq_true ((origin head result member).trans same)
        rw [all, if_pos (decide_eq_true same), List.flatMap_cons]
      · have none : (make head).filter (fun result => made result = value) = [] :=
          List.filter_eq_nil_iff.mpr fun result member equal =>
            same ((origin head result member).symm.trans (of_decide_eq_true equal))
        rw [none, if_neg (by simpa using same), List.nil_append]

theorem flatMap (same : SamePerKey key left right) {make : α → List γ} {made : γ → β}
    (origin : ∀ element, ∀ result ∈ make element, made result = key element) :
    SamePerKey made (left.flatMap make) (right.flatMap make) := by
  intro value
  rw [filter_flatMap origin, filter_flatMap origin, same value]

theorem filterMap (same : SamePerKey key left right) {make : α → Option γ} {made : γ → β}
    (origin : ∀ element result, make element = some result → made result = key element) :
    SamePerKey made (left.filterMap make) (right.filterMap make) := by
  rw [List.filterMap_eq_flatMap_toList, List.filterMap_eq_flatMap_toList]
  exact same.flatMap fun element result member =>
    origin element result (Option.mem_toList.mp member)

theorem map (same : SamePerKey key left right) {make : α → γ} {made : γ → β}
    (origin : ∀ element, made (make element) = key element) :
    SamePerKey made (left.map make) (right.map make) := by
  rw [← List.filterMap_eq_map]
  refine same.filterMap fun element result eq => ?_
  rw [← origin element, ← Option.some.inj eq]

theorem perm (same : SamePerKey key left right) : left.Perm right := by
  classical
  rw [List.perm_iff_count]
  intro element
  have chosen := congrArg (List.count element) (same (key element))
  rwa [List.count_filter (by simp), List.count_filter (by simp)] at chosen

theorem rekey {finer : α → δ} (same : SamePerKey key left right)
    (determined : ∀ first ∈ left, ∀ second ∈ left, finer first = finer second →
      key first = key second) : SamePerKey finer left right := by
  intro value
  by_cases empty : left.filter (fun element => finer element = value) = []
  · rw [empty, eq_comm, List.filter_eq_nil_iff]
    intro element member
    exact List.filter_eq_nil_iff.mp empty element (same.perm.symm.subset member)
  · obtain ⟨first, firstMember⟩ := List.exists_mem_of_ne_nil _ empty
    obtain ⟨inLeft, firstValue⟩ := List.mem_filter.mp firstMember
    have narrowed : ∀ list : List α, list ⊆ left →
        list.filter (fun element => finer element = value) =
          (list.filter fun element => key element = key first).filter
            fun element => finer element = value := by
      intro list within
      rw [List.filter_filter]
      apply List.filter_congr
      intro element member
      by_cases hit : finer element = value
      · have keys := determined element (within member) first inLeft
          (hit.trans (of_decide_eq_true firstValue).symm)
        simp [hit, keys]
      · simp [hit]
    rw [narrowed left fun _ member => member, narrowed right same.perm.symm.subset,
      same (key first)]

theorem firstOfEach (same : SamePerKey key left right) :
    SamePerKey key (firstOfEach key left) (firstOfEach key right) := by
  intro value
  rw [filter_firstOfEach, filter_firstOfEach, ← List.head?_filter, ← List.head?_filter, same value]

end SamePerKey

theorem lookup_map_of_nodup [DecidableEq β] {key : α → β} {elements : List α}
    (distinct : (elements.map key).Nodup) {element : α} (member : element ∈ elements)
    (content : α → γ) :
    (elements.map fun element => (key element, content element)).lookup (key element) =
      some (content element) := by
  induction elements with
  | nil => cases member
  | cons head tail ih =>
      rw [List.map_cons, List.nodup_cons] at distinct
      rw [List.map_cons, List.lookup_cons]
      rcases List.mem_cons.mp member with rfl | later
      · simp
      · have apart : key element ≠ key head := by
          intro same
          exact distinct.1 (same ▸ List.mem_map_of_mem later)
        have unequal : (key element == key head) = false := by simpa using apart
        simp only [unequal]
        exact ih distinct.2 later

end WifiSelection
