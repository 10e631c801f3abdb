import WifiSelection.Proofs.Store.Filing
import WifiSelection.Proofs.Store.Locality
import WifiSelection.Samples

/-!
What one request to make a network ready comes to. When it succeeds, the copy that it gives is what
the store holds from then on. When it fails, the store holds what it held before, but for a network
that was saved and could not be enabled: nothing takes that one out again.
-/

namespace WifiSelection

namespace NetworkStore

def besides (store : NetworkStore) (key : String) : List Network :=
  store.networks.filter fun network => network.storeKey ≠ key

section Besides

variable {store : NetworkStore} {networks : List Network} {key : String}

theorem besides_of_none (absent : store.get? key = none) : store.besides key = store.networks := by
  rw [besides, List.filter_eq_self]
  intro other member
  have apart := List.find?_eq_none.mp absent other member
  simpa using apart

theorem filter_place (network : Network) (networks : List Network) :
    (place network networks).filter (fun other => other.storeKey ≠ network.storeKey) =
      networks.filter fun other => other.storeKey ≠ network.storeKey := by
  induction networks with
  | nil => simp [place]
  | cons head tail ih =>
      rw [place]
      split
      · simp
      · split
        next same => simp [same]
        next => rw [List.filter_cons, List.filter_cons, ih]

theorem filter_setStatus (status : NetworkStatus) {id : Int32}
    (own : ∀ other ∈ networks, other.id = id → other.storeKey = key) :
    (setStatus status id networks).filter (fun other => other.storeKey ≠ key) =
      networks.filter fun other => other.storeKey ≠ key := by
  induction networks with
  | nil => rfl
  | cons head tail ih =>
      rw [setStatus]
      split
      next same =>
        have headKey := own head List.mem_cons_self same
        have changedKey : { head with status := status }.storeKey = key := headKey
        simp [headKey, changedKey]
      next =>
        have later := ih fun other member => own other (List.mem_cons_of_mem head member)
        rw [List.filter_cons, List.filter_cons, later]

end Besides

section Requests

variable {store left : NetworkStore} {network copy : Network} {creator : App}
  {answer : Option Network}

theorem besides_withNewcomer (absent : store.get? network.storeKey = none) (creator : App) :
    (store.withNewcomer network creator).besides network.storeKey = store.networks :=
  (filter_place (store.newcomer network creator) store.networks).trans (besides_of_none absent)

theorem besides_tried (numbered : store.Numbered) (key : String) (attempts : List Int32) :
    (store.tried key attempts).besides key = store.besides key := by
  have networks : (store.tried key attempts).networks =
      rouse store.refusedIds store.networks key := rfl
  rw [besides, networks]
  cases found : lookup store.networks key with
  | none => rw [rouse_of_none found, besides]
  | some stored =>
      cases asleep : stored.isAsleep store.refusedIds with
      | false => rw [rouse_of_not_asleep found asleep, besides]
      | true =>
          rw [rouse_of_asleep found asleep]
          refine filter_setStatus .enabled fun other member sameId => ?_
          have one := List.inj_on_of_nodup_map numbered.distinct member (mem_of_lookup found) sameId
          rw [one, storeKey_of_lookup found]

theorem besides_of_ensureReady (numbered : store.Numbered)
    (ready : store.ensureReady network creator = (answer, left)) :
    left.besides network.storeKey = store.besides network.storeKey := by
  rcases networks_of_ensureReady ready with tried | ⟨absent, -, placed⟩
  · rw [besides, tried]
    exact besides_tried numbered network.storeKey []
  · have before := besides_withNewcomer absent creator
    rw [besides_of_none absent, ← before]
    rcases placed with same | changed
    · rw [besides, same, besides]
    · rw [besides, changed]
      -- The new id is above every stored one, so its status is set for the newcomer alone.
      refine filter_setStatus .enabled fun other member sameId => ?_
      rcases mem_place member with rfl | old
      · rfl
      · have below := numbered.below other.id (List.mem_map_of_mem old)
        rw [sameId] at below
        exact absurd below Int32.lt_irrefl

theorem ids_nodup_of_ensureReady (numbered : store.Numbered)
    (ready : store.ensureReady network creator = (answer, left)) :
    (left.networks.map Network.id).Nodup := by
  rcases networks_of_ensureReady ready with tried | ⟨absent, -, same | changed⟩
  · rw [tried, rouse_map_id]
    exact numbered.distinct
  · rw [same]
    exact numbered.nodup_withNewcomer absent creator
  · rw [changed, setStatus_map_id]
    exact numbered.nodup_withNewcomer absent creator

/-- In a store that inserting networks with ids of their own brought about, the copy given for a
network is the one that is stored under its key from then on. It is enabled and has an id, ids stay
apart, and the networks under all other keys stay as they are. -/
theorem ensureReady_gives_stored_copy (built : store.Built)
    (distinct : (store.networks.map Network.id).Nodup)
    (ready : store.ensureReady network creator = (some copy, left)) :
    left.get? network.storeKey = some copy ∧ copy.isEnabled = true ∧ copy.id ≠ Network.noId ∧
      (left.networks.map Network.id).Nodup ∧
      left.besides network.storeKey = store.besides network.storeKey := by
  have numbered : store.Numbered := ⟨distinct, built.id_lt⟩
  exact ⟨get?_of_ensureReady numbered ready, isEnabled_of_ensureReady ready,
    built.identified.hasId_of_ensureReady ready, ids_nodup_of_ensureReady numbered ready,
    besides_of_ensureReady numbered ready⟩

def sampleStore : NetworkStore :=
  ((NetworkStore.empty.insert (Samples.network 7 "cafe" .unsecured)).2.insert
    { Samples.network Network.noId "hall" .psk with status := .permanentlyDisabled }).2

theorem ensureReady_gives_stored_copy_sample :
    let hall := Samples.network Network.noId "hall" .psk
    let shop := Samples.network 7 "shop" .unsecured
    sampleStore.Built ∧ (sampleStore.networks.map Network.id).Nodup ∧
      (∃ copy left, sampleStore.ensureReady hall .system = (some copy, left) ∧
        sampleStore.get? hall.storeKey ≠ some copy ∧ left.get? hall.storeKey = some copy) ∧
      ∃ copy left, sampleStore.ensureReady shop .system = (some copy, left) ∧ copy.id = 9 ∧
        left.get? shop.storeKey = some copy ∧
        left.besides shop.storeKey = sampleStore.besides shop.storeKey := by
  intro hall shop
  have built : sampleStore.Built := by
    refine .insert _ (.insert _ .empty ?_) ?_
    · decide +kernel
    · decide +kernel
  have distinct : (sampleStore.networks.map Network.id).Nodup := by decide +kernel
  refine ⟨built, distinct, ?_, ?_⟩
  · let left := (sampleStore.ensureReady hall .system).2
    have ready : sampleStore.ensureReady hall .system =
        (some { hall with id := 8 }, left) := by decide +kernel
    have stored := (ensureReady_gives_stored_copy built distinct ready).1
    exact ⟨_, left, ready, by decide +kernel, stored⟩
  · let left := (sampleStore.ensureReady shop .system).2
    have ready : sampleStore.ensureReady shop .system =
        (some { shop with id := 9 }, left) := by decide +kernel
    obtain ⟨stored, -, -, -, others⟩ := ensureReady_gives_stored_copy built distinct ready
    exact ⟨_, left, ready, rfl, stored, others⟩

structure LeavesBehind (store : NetworkStore) (key : String) : Prop where
  absent : store.get? key = none
  adds : store.refusesAdding = false
  refuses : store.refusesEnabling = true

theorem rouse_of_unavailable {key : String} (unavailable : store.available? key = none) :
    rouse store.refusedIds store.networks key = store.networks := by
  cases found : lookup store.networks key with
  | none => exact rouse_of_none found
  | some stored =>
      apply rouse_of_not_asleep found
      rw [available?, get?_eq_lookup, found, Option.map_some, Option.filter_eq_none_iff] at unavailable
      cases asleep : stored.isAsleep store.refusedIds with
      | false => rfl
      | true =>
          have disabled := unavailable _ rfl
          rw [Network.roused_of_asleep asleep] at disabled
          exact absurd rfl disabled

/-- A failed request leaves the stored networks just as they were, unless it saved a new network that
was not enabled then. That one stays as it was saved, beside the others as they were. -/
theorem networks_of_failed_request (failed : store.ensureReady network creator = (none, left)) :
    (¬store.LeavesBehind network.storeKey → left.networks = store.networks) ∧
      (store.LeavesBehind network.storeKey →
        left.get? network.storeKey = some (store.newcomer network creator) ∧
          left.besides network.storeKey = store.networks) := by
  rcases store.ensureReady_cases network creator with ⟨settled, attempts, eq⟩ | ⟨absent, adds, -⟩
  · obtain ⟨unavailable, rfl⟩ := Prod.mk.inj (eq.symm.trans failed)
    refine ⟨fun _ => rouse_of_unavailable unavailable, fun behind => ?_⟩
    rcases settled with present | refuses
    · rw [behind.absent] at present
      cases present
    · rw [behind.adds] at refuses
      cases refuses
  · rw [ensureReady_of_new absent adds] at failed
    split at failed
    next refuses =>
      cases failed
      refine ⟨fun kept => absurd ⟨absent, adds, refuses⟩ kept, fun _ => ⟨?_, ?_⟩⟩
      · have absentNewcomer :
            lookup store.networks (store.newcomer network creator).storeKey = none := absent
        exact (lookup_place absentNewcomer network.storeKey).trans (if_pos rfl)
      · exact besides_withNewcomer absent creator
    next => cases failed

theorem networks_of_failed_request_sample :
    let hall := Samples.network Network.noId "hall" .psk
    let shop := Samples.network 7 "shop" .unsecured
    let refusing : NetworkStore :=
      { sampleStore with refusedIds := [8], refusesEnabling := true }
    (∃ left, refusing.ensureReady hall .system = (none, left) ∧
      ¬refusing.LeavesBehind hall.storeKey ∧ left.networks = refusing.networks) ∧
      ∃ left, refusing.ensureReady shop .system = (none, left) ∧
        refusing.LeavesBehind shop.storeKey ∧
        left.get? shop.storeKey = some { shop with id := 9 } ∧
        left.besides shop.storeKey = refusing.networks := by
  intro hall shop refusing
  constructor
  · let left := (refusing.ensureReady hall .system).2
    have failed : refusing.ensureReady hall .system = (none, left) := by decide +kernel
    have present : refusing.get? hall.storeKey ≠ none := by decide +kernel
    have kept : ¬refusing.LeavesBehind hall.storeKey := fun behind => present behind.absent
    exact ⟨left, failed, kept, (networks_of_failed_request failed).1 kept⟩
  · let left := (refusing.ensureReady shop .system).2
    have failed : refusing.ensureReady shop .system = (none, left) := by decide +kernel
    have behind : refusing.LeavesBehind shop.storeKey := by
      refine ⟨?_, rfl, rfl⟩
      decide +kernel
    obtain ⟨stored, others⟩ := (networks_of_failed_request failed).2 behind
    refine ⟨left, failed, behind, stored.trans ?_, others⟩
    decide +kernel

/-- A failed request may leave a network that was not there before. -/
theorem failed_newcomer_stays :
    ¬∀ (store : NetworkStore) (network : Network) (creator : App) (left : NetworkStore),
      store.ensureReady network creator = (none, left) → left.networks = store.networks := by
  intro unchanged
  let store : NetworkStore := { NetworkStore.empty with refusesEnabling := true }
  let network := Samples.network Network.noId "cafe" .unsecured
  have failed : store.ensureReady network .system =
      (none, (store.ensureReady network .system).2) := by decide +kernel
  have same := unchanged store network .system _ failed
  have grown : (store.ensureReady network .system).2.networks ≠ store.networks := by decide +kernel
  exact grown same

end Requests

end NetworkStore

end WifiSelection
