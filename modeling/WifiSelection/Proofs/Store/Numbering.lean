import Mathlib.Data.List.Nodup
import WifiSelection.Proofs.Integers
import WifiSelection.Proofs.Store.Readiness

/-!
Stores in which every network has an id of its own, below the next one. There a try enables just the
network of its key, and a network that is saved is the one that is enabled then.
-/

namespace WifiSelection

namespace NetworkStore

variable {store : NetworkStore} {network : Network}

structure Numbered (store : NetworkStore) : Prop where
  distinct : (store.networks.map Network.id).Nodup
  below : ∀ id ∈ store.networks.map Network.id, id < store.nextId

/-- A store that inserting networks brought about, each of them under a condition. Statuses may have
been set and everything besides networks and ids may be anything. -/
inductive InsertedUnder (condition : NetworkStore → Network → Prop) : NetworkStore → Prop
  | empty : InsertedUnder condition empty
  | insert {store : NetworkStore} (network) : InsertedUnder condition store →
      condition store network → InsertedUnder condition (store.insert network).2
  | setStatus {store : NetworkStore} (status id) : InsertedUnder condition store →
      InsertedUnder condition { store with networks := setStatus status id store.networks }
  | furnish {store : NetworkStore} (forgottenSsids refusedIds refusesAdding refusesEnabling added
      scanResults enableAttempts) : InsertedUnder condition store →
      InsertedUnder condition { store with forgottenSsids, refusedIds, refusesAdding,
                                           refusesEnabling, added, scanResults, enableAttempts }

/-- Brought about while ids lasted. -/
abbrev Built (store : NetworkStore) : Prop :=
  store.InsertedUnder fun before network => (before.numbered network).id ≠ Int32.maxValue

abbrev Inserted (store : NetworkStore) : Prop :=
  store.InsertedUnder fun _ _ => True

theorem mem_place {networks : List Network} {other : Network}
    (member : other ∈ place network networks) : other = network ∨ other ∈ networks := by
  induction networks with
  | nil => exact Or.inl (List.mem_singleton.mp member)
  | cons head tail ih =>
      rw [place] at member
      split at member
      · exact List.mem_cons.mp member
      · split at member
        · rcases List.mem_cons.mp member with new | old
          · exact Or.inl new
          · exact Or.inr (List.mem_cons_of_mem head old)
        · rcases List.mem_cons.mp member with first | later
          · exact Or.inr (first ▸ List.mem_cons_self)
          · rcases ih later with new | old
            · exact Or.inl new
            · exact Or.inr (List.mem_cons_of_mem head old)

theorem Built.id_lt (built : store.Built) :
    ∀ id ∈ store.networks.map Network.id, id < store.nextId := by
  induction built with
  | empty => exact fun _ member => absurd member List.not_mem_nil
  | @insert store network _ apart ih =>
      intro id member
      obtain ⟨other, otherMember, rfl⟩ := List.mem_map.mp member
      have grown := toInt_succ (toInt_lt_maxValue apart)
      have next : (store.insert network).2.nextId =
          max store.nextId ((store.numbered network).id + 1) := rfl
      rw [Int32.lt_iff_toInt_lt, next, toInt_max, grown]
      rcases mem_place otherMember with rfl | old
      · omega
      · have older := ih other.id (List.mem_map_of_mem old)
        rw [Int32.lt_iff_toInt_lt] at older
        omega
  | setStatus status id _ ih =>
      intro other member
      rw [setStatus_map_id] at member
      exact ih other member
  | furnish => assumption

theorem ids_withNewcomer (absent : store.get? network.storeKey = none) (creator : App) :
    ((store.withNewcomer network creator).networks.map Network.id).Perm
      (store.nextId :: store.networks.map Network.id) := by
  have absentNewcomer : lookup store.networks (store.newcomer network creator).storeKey = none :=
    absent
  exact (place_perm absentNewcomer).map Network.id

theorem Numbered.nodup_withNewcomer (numbered : store.Numbered)
    (absent : store.get? network.storeKey = none) (creator : App) :
    ((store.withNewcomer network creator).networks.map Network.id).Nodup := by
  rw [(ids_withNewcomer absent creator).nodup_iff, List.nodup_cons]
  exact ⟨fun taken => Int32.lt_irrefl (numbered.below _ taken), numbered.distinct⟩

theorem Numbered.withNewcomer (numbered : store.Numbered)
    (absent : store.get? network.storeKey = none)
    (room : store.nextId.toInt < Int32.maxValue.toInt) (creator : App) :
    (store.withNewcomer network creator).Numbered := by
  have grown : store.nextId < max store.nextId (store.nextId + 1) := by
    rw [Int32.lt_iff_toInt_lt, toInt_max, toInt_succ room]
    omega
  refine ⟨numbered.nodup_withNewcomer absent creator, ?_⟩
  intro id member
  rcases List.mem_cons.mp ((ids_withNewcomer absent creator).subset member) with rfl | old
  · exact grown
  · exact Int32.lt_trans (numbered.below id old) grown

theorem get?_tried (numbered : store.Numbered) (key other : String) (attempts : List Int32) :
    (store.tried key attempts).get? other =
      if key = other then (store.get? other).map (Network.roused store.refusedIds)
      else store.get? other := by
  rw [get?_eq_lookup, get?_eq_lookup, tried]
  cases found : lookup store.networks key with
  | none =>
      rw [rouse_of_none found]
      split
      next same => rw [← same, found, Option.map_none]
      next => rfl
  | some stored =>
      cases asleep : stored.isAsleep store.refusedIds with
      | false =>
          rw [rouse_of_not_asleep found asleep]
          split
          next same => rw [← same, found, Option.map_some, Network.roused_of_not_asleep asleep]
          next => rfl
      | true =>
          rw [rouse_of_asleep found asleep]
          split
          next same =>
            rw [← same, found, Option.map_some, Network.roused_of_asleep asleep]
            exact lookup_setStatus_of_nodup numbered.distinct found .enabled
          next apart =>
            rcases lookup_setStatus .enabled stored.id store.networks other with
              same | ⟨network, foundOther, sameId, -⟩
            · exact same
            · have one := List.inj_on_of_nodup_map numbered.distinct (mem_of_lookup foundOther)
                (mem_of_lookup found) sameId
              rw [one] at foundOther
              exact absurd ((storeKey_of_lookup found).symm.trans (storeKey_of_lookup foundOther))
                apart

theorem get?_enabled_newcomer (numbered : store.Numbered)
    (absent : store.get? network.storeKey = none) (creator : App) (key : String) :
    lookup (setStatus .enabled store.nextId (store.withNewcomer network creator).networks) key =
      if network.storeKey = key then
        some { store.newcomer network creator with status := .enabled }
      else store.get? key := by
  have placed : lookup (store.withNewcomer network creator).networks key =
      if network.storeKey = key then some (store.newcomer network creator)
      else store.get? key := by
    have absentNewcomer : lookup store.networks (store.newcomer network creator).storeKey = none :=
      absent
    exact lookup_place absentNewcomer key
  split
  next same =>
    rw [if_pos same] at placed
    exact lookup_setStatus_of_nodup (numbered.nodup_withNewcomer absent creator) placed .enabled
  next apart =>
    rw [if_neg apart] at placed
    cases found : store.get? key with
    | none => exact lookup_setStatus_of_none (placed.trans found) .enabled store.nextId
    | some stored =>
        have older := numbered.below stored.id (List.mem_map_of_mem (mem_of_lookup found))
        exact lookup_setStatus_of_ne (placed.trans found) (Int32.ne_of_lt older) .enabled

end NetworkStore

end WifiSelection
