import Mathlib.Data.List.Perm.Basic
import Mathlib.Data.Option.Basic
import WifiSelection.Proofs.Store.Lookup

/-!
Trying to enable networks by their configuration keys. Trying is by id, so it may enable another
network than the one of the key; even so tries commute and repeating one changes nothing, and what a
network would be after its own try is not changed by any.
-/

namespace WifiSelection

namespace Network

/-- A network that is disabled and would be enabled if it were tried. -/
def isAsleep (refused : List Int32) (network : Network) : Bool :=
  !network.isEnabled && !refused.contains network.id

def roused (refused : List Int32) (network : Network) : Network :=
  if network.isAsleep refused then { network with status := .enabled } else network

variable {refused : List Int32} {network : Network}

theorem roused_of_asleep (asleep : network.isAsleep refused = true) :
    network.roused refused = { network with status := .enabled } := by
  rw [roused, if_pos asleep]

theorem roused_of_not_asleep (awake : network.isAsleep refused = false) :
    network.roused refused = network := by
  simp [roused, awake]

theorem roused_isAsleep (refused : List Int32) (network : Network) :
    (network.roused refused).isAsleep refused = false := by
  cases asleep : network.isAsleep refused with
  | false => rw [roused_of_not_asleep asleep, asleep]
  | true => simp [roused_of_asleep asleep, isAsleep, isEnabled]

@[simp]
theorem roused_roused (refused : List Int32) (network : Network) :
    (network.roused refused).roused refused = network.roused refused :=
  roused_of_not_asleep (roused_isAsleep refused network)

theorem roused_of_isEnabled (enabled : network.isEnabled = true) :
    network.roused refused = network :=
  roused_of_not_asleep (by simp [isAsleep, enabled])

end Network

namespace NetworkStore

def rouse (refused : List Int32) (networks : List Network) (key : String) : List Network :=
  match lookup networks key with
  | some stored =>
    if stored.isAsleep refused then setStatus .enabled stored.id networks else networks
  | none => networks

section Rousing

variable {refused : List Int32} {networks : List Network} {key : String} {stored : Network}

theorem rouse_of_none (absent : lookup networks key = none) :
    rouse refused networks key = networks := by
  rw [rouse, absent]

theorem rouse_of_asleep (found : lookup networks key = some stored)
    (asleep : stored.isAsleep refused = true) :
    rouse refused networks key = setStatus .enabled stored.id networks := by
  simp only [rouse, found, asleep, if_true]

theorem rouse_of_not_asleep (found : lookup networks key = some stored)
    (awake : stored.isAsleep refused = false) : rouse refused networks key = networks := by
  simp [rouse, found, awake]

theorem rouse_map_id (refused : List Int32) (networks : List Network) (key : String) :
    (rouse refused networks key).map Network.id = networks.map Network.id := by
  rw [rouse]
  split
  · split
    · exact setStatus_map_id ..
    · rfl
  · rfl

theorem lookup_rouse (refused : List Int32) (networks : List Network) (tried key : String) :
    lookup (rouse refused networks tried) key = lookup networks key ∨
      lookup (rouse refused networks tried) key =
        (lookup networks key).map (Network.roused refused) := by
  cases found : lookup networks tried with
  | none => exact Or.inl (by rw [rouse_of_none found])
  | some stored =>
      cases asleep : stored.isAsleep refused with
      | false => exact Or.inl (by rw [rouse_of_not_asleep found asleep])
      | true =>
          rw [rouse_of_asleep found asleep]
          rcases lookup_setStatus .enabled stored.id networks key with
            same | ⟨other, foundOther, sameId, changed⟩
          · exact Or.inl same
          · right
            rw [changed, foundOther, Option.map_some]
            cases otherAsleep : other.isAsleep refused with
            | true => rw [Network.roused_of_asleep otherAsleep]
            | false =>
                -- The ids agree and the tried one is not refused, so the other is enabled.
                have enabled : other.status = .enabled := by
                  simp only [Network.isAsleep, Network.isEnabled, sameId] at asleep otherAsleep
                  simp_all
                rw [Network.roused_of_not_asleep otherAsleep, ← enabled]

theorem lookup_rouse_isSome (refused : List Int32) (networks : List Network)
    (tried key : String) :
    (lookup (rouse refused networks tried) key).isSome = (lookup networks key).isSome := by
  rcases lookup_rouse refused networks tried key with same | changed
  · rw [same]
  · rw [changed, Option.isSome_map]

theorem map_roused_lookup_rouse (refused : List Int32) (networks : List Network)
    (tried key : String) :
    (lookup (rouse refused networks tried) key).map (Network.roused refused) =
      (lookup networks key).map (Network.roused refused) := by
  rcases lookup_rouse refused networks tried key with same | changed
  · rw [same]
  · rw [changed, Option.map_map]
    congr 1
    funext network
    exact Network.roused_roused refused network

theorem rouse_of_map_eq (rested : (lookup networks key).map (Network.roused refused) =
    lookup networks key) : rouse refused networks key = networks := by
  cases found : lookup networks key with
  | none => exact rouse_of_none found
  | some stored =>
      rw [found, Option.map_some, Option.some.injEq] at rested
      refine rouse_of_not_asleep found ?_
      rw [← rested]
      exact Network.roused_isAsleep refused stored

theorem rouse_rouse_of_not_asleep (found : lookup networks key = some stored)
    (awake : stored.isAsleep refused = false) (tried : String) :
    rouse refused (rouse refused networks tried) key = rouse refused networks tried := by
  have rested : lookup (rouse refused networks tried) key = some stored := by
    rcases lookup_rouse refused networks tried key with same | changed
    · rw [same, found]
    · rw [changed, found, Option.map_some, Network.roused_of_not_asleep awake]
  exact rouse_of_not_asleep rested awake

theorem rouse_rouse_of_none (absent : lookup networks key = none) (tried : String) :
    rouse refused (rouse refused networks tried) key = rouse refused networks tried := by
  apply rouse_of_none
  rw [← Option.not_isSome_iff_eq_none, lookup_rouse_isSome, absent]
  exact Bool.false_ne_true

theorem rouse_rouse_of_asleep {first second : String} {firstStored secondStored : Network}
    (firstFound : lookup networks first = some firstStored)
    (firstAsleep : firstStored.isAsleep refused = true)
    (secondFound : lookup networks second = some secondStored)
    (secondAsleep : secondStored.isAsleep refused = true) :
    rouse refused (rouse refused networks first) second =
      setStatus .enabled secondStored.id (setStatus .enabled firstStored.id networks) := by
  rw [rouse_of_asleep firstFound firstAsleep]
  rcases lookup_setStatus .enabled firstStored.id networks second with
    same | ⟨found, foundEq, sameId, changed⟩
  · exact rouse_of_asleep (same.trans secondFound) secondAsleep
  · rw [secondFound, Option.some.injEq] at foundEq
    rw [foundEq, sameId, setStatus_setStatus]
    exact rouse_of_not_asleep changed (by simp [Network.isAsleep, Network.isEnabled])

theorem rouse_comm (refused : List Int32) (networks : List Network) (first second : String) :
    rouse refused (rouse refused networks first) second =
      rouse refused (rouse refused networks second) first := by
  cases firstFound : lookup networks first with
  | none => rw [rouse_of_none firstFound, rouse_rouse_of_none firstFound]
  | some firstStored =>
      cases secondFound : lookup networks second with
      | none => rw [rouse_of_none secondFound, rouse_rouse_of_none secondFound]
      | some secondStored =>
          cases firstAsleep : firstStored.isAsleep refused with
          | false =>
              rw [rouse_of_not_asleep firstFound firstAsleep,
                rouse_rouse_of_not_asleep firstFound firstAsleep]
          | true =>
              cases secondAsleep : secondStored.isAsleep refused with
              | false =>
                  rw [rouse_of_not_asleep secondFound secondAsleep,
                    rouse_rouse_of_not_asleep secondFound secondAsleep]
              | true =>
                  rw [rouse_rouse_of_asleep firstFound firstAsleep secondFound secondAsleep,
                    rouse_rouse_of_asleep secondFound secondAsleep firstFound firstAsleep]
                  by_cases same : firstStored.id = secondStored.id
                  · rw [same]
                  · exact setStatus_comm .enabled (Ne.symm same) networks

theorem rouse_idem (refused : List Int32) (networks : List Network) (key : String) :
    rouse refused (rouse refused networks key) key = rouse refused networks key := by
  cases found : lookup networks key with
  | none => exact rouse_rouse_of_none found key
  | some stored =>
      cases asleep : stored.isAsleep refused with
      | false => exact rouse_rouse_of_not_asleep found asleep key
      | true =>
          rw [rouse_rouse_of_asleep found asleep found asleep, rouse_of_asleep found asleep,
            setStatus_setStatus]

instance (refused : List Int32) : RightCommutative (rouse refused) :=
  ⟨rouse_comm refused⟩

def rouseAll (refused : List Int32) (networks : List Network) (keys : List String) :
    List Network :=
  keys.foldl (rouse refused) networks

theorem rouseAll_append (refused : List Int32) (networks : List Network)
    (first second : List String) :
    rouseAll refused networks (first ++ second) =
      rouseAll refused (rouseAll refused networks first) second :=
  List.foldl_append

theorem rouse_rouseAll_of_mem {keys : List String} (member : key ∈ keys) :
    rouse refused (rouseAll refused networks keys) key = rouseAll refused networks keys := by
  have moved : keys.Perm (keys.erase key ++ [key]) :=
    (List.perm_cons_erase member).trans (List.perm_append_singleton key _).symm
  have last : rouseAll refused networks keys =
      rouse refused (rouseAll refused networks (keys.erase key)) key := by
    rw [rouseAll, moved.foldl_eq networks, List.foldl_append]
    rfl
  rw [last, rouse_idem]

theorem rouseAll_of_subset {first second : List String} (subset : second ⊆ first) :
    rouseAll refused networks (first ++ second) = rouseAll refused networks first := by
  induction second with
  | nil => rw [List.append_nil]
  | cons key rest ih =>
      have member := subset List.mem_cons_self
      have step : rouseAll refused networks (first ++ key :: rest) =
          rouseAll refused networks (first ++ rest) := by
        rw [rouseAll_append, rouseAll_append, rouseAll, List.foldl_cons,
          rouse_rouseAll_of_mem member]
        rfl
      rw [step]
      exact ih fun other later => subset (List.mem_cons_of_mem key later)

/-- Only which keys are tried matters, not how often nor in what order. -/
theorem rouseAll_congr {first second : List String}
    (same : ∀ key, key ∈ first ↔ key ∈ second) :
    rouseAll refused networks first = rouseAll refused networks second := by
  have fromFirst : rouseAll refused networks (first ++ second) = rouseAll refused networks first :=
    rouseAll_of_subset fun key member => (same key).mpr member
  have fromSecond : rouseAll refused networks (second ++ first) =
      rouseAll refused networks second :=
    rouseAll_of_subset fun key member => (same key).mp member
  rw [← fromFirst, ← fromSecond]
  exact List.perm_append_comm.foldl_eq networks

theorem rouseAll_eq_self {keys : List String}
    (rested : ∀ key ∈ keys, (lookup networks key).map (Network.roused refused) =
      lookup networks key) : rouseAll refused networks keys = networks := by
  induction keys with
  | nil => rfl
  | cons key rest ih =>
      rw [rouseAll, List.foldl_cons, rouse_of_map_eq (rested key List.mem_cons_self)]
      exact ih fun other later => rested other (List.mem_cons_of_mem key later)

end Rousing

end NetworkStore

end WifiSelection
