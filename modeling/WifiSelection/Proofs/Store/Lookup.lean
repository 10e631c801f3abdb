import Mathlib.Data.List.Perm.Basic
import WifiSelection.NetworkStore

/-!
Looking up networks by their configuration keys after one was put in place or had its status set.
Neither the key order of the networks nor distinct ids are taken for granted: of several networks
with one id it is the first whose status is set, whichever of them is looked up.
-/

namespace WifiSelection

namespace NetworkStore

def lookup (networks : List Network) (key : String) : Option Network :=
  networks.find? fun network => network.storeKey = key

theorem get?_eq_lookup (store : NetworkStore) (key : String) :
    store.get? key = lookup store.networks key :=
  rfl

section Lookup

variable {networks : List Network} {key : String} {network stored : Network} {id : Int32}

theorem lookup_cons (head : Network) (tail : List Network) (key : String) :
    lookup (head :: tail) key = if head.storeKey = key then some head else lookup tail key := by
  rw [lookup, List.find?_cons]
  by_cases same : head.storeKey = key <;> simp [same, lookup]

theorem mem_of_lookup (found : lookup networks key = some network) : network ∈ networks :=
  List.mem_of_find?_eq_some found

theorem storeKey_of_lookup (found : lookup networks key = some network) :
    network.storeKey = key := by
  have accepted := List.find?_eq_some_iff_append.mp found
  exact of_decide_eq_true accepted.1

theorem lookup_place (absent : lookup networks network.storeKey = none) (key : String) :
    lookup (place network networks) key =
      if network.storeKey = key then some network else lookup networks key := by
  induction networks with
  | nil => rw [place, lookup_cons]
  | cons head tail ih =>
      rw [lookup_cons] at absent
      have otherKey : head.storeKey ≠ network.storeKey := by
        intro same
        rw [if_pos same] at absent
        cases absent
      rw [if_neg otherKey] at absent
      rw [place]
      split
      · rw [lookup_cons]
      · rw [if_neg otherKey.symm, lookup_cons, ih absent, lookup_cons]
        split <;> split <;> simp_all

theorem place_perm (absent : lookup networks network.storeKey = none) :
    (place network networks).Perm (network :: networks) := by
  induction networks with
  | nil => exact List.Perm.refl _
  | cons head tail ih =>
      rw [lookup_cons] at absent
      have otherKey : head.storeKey ≠ network.storeKey := by
        intro same
        rw [if_pos same] at absent
        cases absent
      rw [if_neg otherKey] at absent
      rw [place, if_neg otherKey.symm]
      split
      · exact List.Perm.refl _
      · exact ((ih absent).cons head).trans (List.Perm.swap network head tail)

theorem setStatus_map_id (status : NetworkStatus) (id : Int32) (networks : List Network) :
    (setStatus status id networks).map Network.id = networks.map Network.id := by
  induction networks with
  | nil => rfl
  | cons head tail ih =>
      rw [setStatus]
      split
      · rfl
      · rw [List.map_cons, List.map_cons, ih]

theorem lookup_setStatus (status : NetworkStatus) (id : Int32) (networks : List Network)
    (key : String) :
    lookup (setStatus status id networks) key = lookup networks key ∨
      ∃ found, lookup networks key = some found ∧ found.id = id ∧
        lookup (setStatus status id networks) key = some { found with status := status } := by
  induction networks with
  | nil => exact Or.inl rfl
  | cons head tail ih =>
      rw [setStatus]
      by_cases same : head.id = id
      · rw [if_pos same, lookup_cons, lookup_cons]
        by_cases sameKey : head.storeKey = key
        · exact Or.inr ⟨head, if_pos sameKey, same, if_pos sameKey⟩
        · exact Or.inl (by rw [if_neg sameKey]; exact if_neg sameKey)
      · rw [if_neg same, lookup_cons, lookup_cons]
        by_cases sameKey : head.storeKey = key
        · exact Or.inl (by rw [if_pos sameKey, if_pos sameKey])
        · rw [if_neg sameKey, if_neg sameKey]
          exact ih

theorem lookup_setStatus_of_ne (found : lookup networks key = some network)
    (other : network.id ≠ id) (status : NetworkStatus) :
    lookup (setStatus status id networks) key = some network := by
  rcases lookup_setStatus status id networks key with same | ⟨changed, eq, sameId, -⟩
  · rw [same, found]
  · rw [found] at eq
    injection eq with eq
    rw [eq] at other
    exact absurd sameId other

theorem lookup_setStatus_of_none (absent : lookup networks key = none) (status : NetworkStatus)
    (id : Int32) : lookup (setStatus status id networks) key = none := by
  rcases lookup_setStatus status id networks key with same | ⟨changed, eq, -, -⟩
  · rw [same, absent]
  · rw [absent] at eq
    cases eq

theorem lookup_setStatus_of_nodup (distinct : (networks.map Network.id).Nodup)
    (found : lookup networks key = some network) (status : NetworkStatus) :
    lookup (setStatus status network.id networks) key = some { network with status := status } := by
  induction networks with
  | nil => cases found
  | cons head tail ih =>
      obtain ⟨headApart, tailDistinct⟩ := List.nodup_cons.mp distinct
      rw [lookup_cons] at found
      rw [setStatus]
      by_cases sameKey : head.storeKey = key
      · rw [if_pos sameKey] at found
        injection found with eq
        rw [eq, if_pos rfl, lookup_cons]
        exact if_pos (eq ▸ sameKey)
      · rw [if_neg sameKey] at found
        have otherId : head.id ≠ network.id := by
          intro same
          rw [same] at headApart
          exact headApart (List.mem_map_of_mem (mem_of_lookup found))
        rw [if_neg otherId, lookup_cons, if_neg sameKey]
        exact ih tailDistinct found

theorem setStatus_setStatus (status : NetworkStatus) (id : Int32) (networks : List Network) :
    setStatus status id (setStatus status id networks) = setStatus status id networks := by
  induction networks with
  | nil => rfl
  | cons head tail ih =>
      by_cases same : head.id = id <;> simp [setStatus, same, ih]

theorem setStatus_comm (status : NetworkStatus) {left right : Int32} (apart : left ≠ right)
    (networks : List Network) :
    setStatus status left (setStatus status right networks) =
      setStatus status right (setStatus status left networks) := by
  induction networks with
  | nil => rfl
  | cons head tail ih =>
      by_cases isLeft : head.id = left
      · have notRight : head.id ≠ right := isLeft ▸ apart
        simp [setStatus, isLeft, apart]
      · by_cases isRight : head.id = right
        · simp [setStatus, isRight, apart.symm]
        · simp [setStatus, isLeft, isRight, ih]

end Lookup

end NetworkStore

end WifiSelection
