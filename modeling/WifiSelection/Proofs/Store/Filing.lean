import WifiSelection.Proofs.Store.Asking
import WifiSelection.Proofs.Store.Persistence

/-!
Stores all of whose networks have an id and are Passpoint networks exactly when the configured network
of their key is one. Inserting networks gives them ids, and making networks ready keeps all this.
-/

namespace WifiSelection

/-- A configured network has the same key and is a Passpoint network if this one is. -/
def Network.Agrees (configured : List Network) (network : Network) : Prop :=
  ∃ origin ∈ configured, origin.storeKey = network.storeKey ∧
    origin.isPasspoint = network.isPasspoint

theorem Network.Persists.agrees {configured : List Network} {before after : Network}
    (persists : before.Persists after) (agrees : before.Agrees configured) :
    after.Agrees configured := by
  obtain ⟨origin, member, sameKey, sameKind⟩ := agrees
  exact ⟨origin, member, sameKey.trans persists.storeKey_eq.symm,
    sameKind.trans persists.isPasspoint_eq.symm⟩

namespace NetworkStore

structure Identified (store : NetworkStore) : Prop where
  hasId : ∀ network ∈ store.networks, network.id ≠ Network.noId
  next : 0 ≤ store.nextId

theorem nextId_ne_noId {store : NetworkStore} (identified : store.Identified) :
    store.nextId ≠ Network.noId := by
  intro same
  have next := identified.next
  rw [same] at next
  exact absurd next (by decide)

theorem Identified.numbered_id {store : NetworkStore} (identified : store.Identified)
    (network : Network) : (store.numbered network).id ≠ Network.noId := by
  rw [numbered]
  split
  next present => exact bne_iff_ne.mp present
  next => exact nextId_ne_noId identified

theorem InsertedUnder.identified {store : NetworkStore}
    {condition : NetworkStore → Network → Prop} (inserted : store.InsertedUnder condition) :
    store.Identified := by
  induction inserted with
  | empty => exact ⟨fun _ member => absurd member List.not_mem_nil, by decide⟩
  | @insert store network _ _ ih =>
      constructor
      · intro other member
        rcases mem_place member with rfl | old
        · exact ih.numbered_id network
        · exact ih.hasId other old
      · have next : (store.insert network).2.nextId =
            max store.nextId ((store.numbered network).id + 1) := rfl
        have before := ih.next
        rw [Int32.le_iff_toInt_le] at before
        rw [next, Int32.le_iff_toInt_le, toInt_max]
        omega
  | @setStatus store status id _ ih =>
      refine ⟨?_, ih.next⟩
      intro network member
      have listed : network.id ∈
          (NetworkStore.setStatus status id store.networks).map Network.id :=
        List.mem_map_of_mem member
      rw [setStatus_map_id] at listed
      obtain ⟨origin, originMember, sameId⟩ := List.mem_map.mp listed
      exact sameId ▸ ih.hasId origin originMember
  | furnish _ _ _ _ _ _ _ _ ih => exact ⟨ih.hasId, ih.next⟩

structure Filed (configured : List Network) (store : NetworkStore) : Prop where
  identified : store.Identified
  agree : ∀ network ∈ store.networks, network.Agrees configured

section Filing

variable {configured : List Network} {store next final : NetworkStore} {template : Network}
  {creator : App} {answer : Option Network} {asked : List Asked}

theorem Filed.congr (filed : store.Filed configured) (networks : next.networks = store.networks)
    (nextId : next.nextId = store.nextId) : next.Filed configured := by
  refine ⟨⟨?_, nextId ▸ filed.identified.next⟩, ?_⟩
  · rw [networks]
    exact filed.identified.hasId
  · rw [networks]
    exact filed.agree

theorem nextId_of_ensureReady (ready : store.ensureReady template creator = (answer, next)) :
    store.nextId ≤ next.nextId := by
  rcases store.ensureReady_cases template creator with
    ⟨-, attempts, eq⟩ | ⟨-, -, given, networks, eq, -⟩
  · obtain ⟨-, rfl⟩ := Prod.mk.inj (eq.symm.trans ready)
    exact Int32.le_refl _
  · obtain ⟨-, rfl⟩ := Prod.mk.inj (eq.symm.trans ready)
    have grown : (store.withNewcomer template creator).nextId =
        max store.nextId (store.nextId + 1) := rfl
    rw [Int32.le_iff_toInt_le]
    simp only [grown, toInt_max]
    omega

theorem Filed.of_ensureReady (filed : store.Filed configured)
    (agrees : template.Agrees configured)
    (ready : store.ensureReady template creator = (answer, next)) : next.Filed configured := by
  refine ⟨⟨?_, Int32.le_trans filed.identified.next (nextId_of_ensureReady ready)⟩, ?_⟩
  · intro network member
    obtain ⟨origin, stored | ⟨-, rfl⟩, persists⟩ := mem_of_ensureReady ready member
    · rw [persists.id_eq]
      exact filed.identified.hasId origin stored
    · rw [persists.id_eq]
      exact nextId_ne_noId filed.identified
  · intro network member
    obtain ⟨origin, stored | ⟨-, rfl⟩, persists⟩ := mem_of_ensureReady ready member
    · exact persists.agrees (filed.agree origin stored)
    · exact persists.agrees agrees

theorem Identified.hasId_of_ensureReady {network : Network} (identified : store.Identified)
    (ready : store.ensureReady template creator = (some network, next)) :
    network.id ≠ Network.noId := by
  obtain ⟨origin, stored | rfl, persists⟩ := answer_of_ensureReady ready
  · rw [persists.id_eq]
    exact identified.hasId origin (mem_of_lookup stored)
  · rw [persists.id_eq]
    exact nextId_ne_noId identified

structure GivenFor (configured : List Network) (key : String) (network : Network) : Prop where
  hasId : network.id ≠ Network.noId
  sameKey : network.storeKey = key
  agrees : network.Agrees configured

theorem Filed.given_of_ensureReady {network : Network} (filed : store.Filed configured)
    (agrees : template.Agrees configured)
    (ready : store.ensureReady template creator = (some network, next)) :
    GivenFor configured template.storeKey network := by
  refine ⟨filed.identified.hasId_of_ensureReady ready, storeKey_of_ensureReady ready, ?_⟩
  obtain ⟨origin, stored | rfl, persists⟩ := answer_of_ensureReady ready
  · exact persists.agrees (filed.agree origin (mem_of_lookup stored))
  · exact persists.agrees agrees

theorem Filed.of_asks (filed : store.Filed configured) (asks : Asks store asked final)
    (agree : ∀ entry ∈ asked, entry.template.Agrees configured) :
    final.Filed configured ∧ ∀ entry ∈ asked, ∀ network, entry.answer = some network →
      GivenFor configured entry.key network := by
  induction asks with
  | done => exact ⟨filed, fun _ member => absurd member List.not_mem_nil⟩
  | note id scan _ ih => exact ih (filed.congr rfl rfl) agree
  | @ask store next final asked template answer creator ready _ ih =>
      have agrees : template.Agrees configured := agree _ List.mem_cons_self
      obtain ⟨last, later⟩ := ih (filed.of_ensureReady agrees ready)
        fun entry member => agree entry (List.mem_cons_of_mem _ member)
      refine ⟨last, ?_⟩
      intro entry member network given
      rcases List.mem_cons.mp member with rfl | other
      · cases given
        exact filed.given_of_ensureReady agrees ready
      · exact later entry other network given

end Filing

end NetworkStore

end WifiSelection
