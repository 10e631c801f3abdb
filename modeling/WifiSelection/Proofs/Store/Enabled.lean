import WifiSelection.Proofs.Store.Locality

/-!
Ids of enabled networks. Nothing that is asked of a store disables a network, so an id that an
enabled network has stays one, even where ids are shared and another network than the one of the key
is tried; and whatever is given as an answer has such an id by then.
-/

namespace WifiSelection

namespace Network

theorem Persists.status_eq {before after : Network} (persists : before.Persists after)
    (enabled : before.status = .enabled) : after.status = .enabled := by
  rcases persists with rfl | rfl
  · exact enabled
  · rfl

end Network

namespace NetworkStore

def HasEnabled (networks : List Network) (id : Int32) : Prop :=
  ∃ network ∈ networks, network.id = id ∧ network.status = .enabled

def Remain (before after : List Network) : Prop :=
  ∀ network ∈ before, ∃ kept ∈ after, network.Persists kept

section Remaining

variable {networks before middle after : List Network} {network : Network} {id : Int32}

theorem Remain.refl (networks : List Network) : Remain networks networks :=
  fun network member => ⟨network, member, .refl network⟩

theorem Remain.trans (first : Remain before middle) (second : Remain middle after) :
    Remain before after := by
  intro network member
  obtain ⟨halfway, halfwayMember, persists⟩ := first network member
  obtain ⟨kept, keptMember, persistsOn⟩ := second halfway halfwayMember
  exact ⟨kept, keptMember, persists.trans persistsOn⟩

theorem HasEnabled.of_remain (enabled : HasEnabled before id) (remain : Remain before after) :
    HasEnabled after id := by
  obtain ⟨network, member, sameId, status⟩ := enabled
  obtain ⟨kept, keptMember, persists⟩ := remain network member
  exact ⟨kept, keptMember, persists.id_eq.trans sameId, persists.status_eq status⟩

theorem remain_setStatus_enabled (networks : List Network) (id : Int32) :
    Remain networks (setStatus .enabled id networks) := by
  induction networks with
  | nil => exact Remain.refl []
  | cons head tail ih =>
      intro network member
      rw [setStatus]
      split
      · rcases List.mem_cons.mp member with rfl | later
        · exact ⟨_, List.mem_cons_self, Or.inr rfl⟩
        · exact ⟨network, List.mem_cons_of_mem _ later, .refl network⟩
      · rcases List.mem_cons.mp member with rfl | later
        · exact ⟨network, List.mem_cons_self, .refl network⟩
        · obtain ⟨kept, keptMember, persists⟩ := ih network later
          exact ⟨kept, List.mem_cons_of_mem _ keptMember, persists⟩

/-- Enabling an id enables a network, though it may be another one than was meant. -/
theorem hasEnabled_setStatus (member : network ∈ networks) :
    HasEnabled (setStatus .enabled network.id networks) network.id := by
  induction networks with
  | nil => cases member
  | cons head tail ih =>
      rw [setStatus]
      split
      next same => exact ⟨_, List.mem_cons_self, same, rfl⟩
      next other =>
        rcases List.mem_cons.mp member with rfl | later
        · exact (other rfl).elim
        · obtain ⟨enabled, enabledMember, hit⟩ := ih later
          exact ⟨enabled, List.mem_cons_of_mem _ enabledMember, hit⟩

theorem remain_rouse (refused : List Int32) (networks : List Network) (key : String) :
    Remain networks (rouse refused networks key) := by
  cases found : lookup networks key with
  | none =>
      rw [rouse_of_none found]
      exact .refl networks
  | some stored =>
      cases asleep : stored.isAsleep refused with
      | false =>
          rw [rouse_of_not_asleep found asleep]
          exact .refl networks
      | true =>
          rw [rouse_of_asleep found asleep]
          exact remain_setStatus_enabled networks stored.id

theorem remain_place (absent : lookup networks network.storeKey = none) :
    Remain networks (place network networks) := fun other member =>
  ⟨other, (place_perm absent).symm.subset (List.mem_cons_of_mem network member), .refl other⟩

end Remaining

section Answers

variable {store next final : NetworkStore} {template network : Network} {answer : Option Network}
  {creator : App} {asked : List Asked} {key : String}

theorem hasEnabled_of_available (available : store.available? key = some network) :
    HasEnabled (rouse store.refusedIds store.networks key) network.id := by
  obtain ⟨roused, enabled⟩ := Option.filter_eq_some_iff.mp available
  obtain ⟨stored, found, rfl⟩ := Option.map_eq_some_iff.mp roused
  have member := mem_of_lookup found
  cases asleep : stored.isAsleep store.refusedIds with
  | true =>
      rw [rouse_of_asleep found asleep, Network.roused_of_asleep asleep]
      exact hasEnabled_setStatus member
  | false =>
      rw [Network.roused_of_not_asleep asleep] at enabled ⊢
      rw [rouse_of_not_asleep found asleep]
      exact ⟨stored, member, rfl, of_decide_eq_true enabled⟩

theorem remain_of_ensureReady (ready : store.ensureReady template creator = (answer, next)) :
    Remain store.networks next.networks := by
  rcases networks_of_ensureReady ready with same | ⟨absent, -, placed⟩
  · rw [same]
    exact remain_rouse _ _ _
  · have absentNewcomer : lookup store.networks (store.newcomer template creator).storeKey = none :=
      absent
    have grown : Remain store.networks (store.withNewcomer template creator).networks :=
      remain_place absentNewcomer
    rcases placed with same | changed
    · rw [same]
      exact grown
    · rw [changed]
      exact grown.trans (remain_setStatus_enabled _ _)

theorem hasEnabled_of_ensureReady
    (ready : store.ensureReady template creator = (some network, next)) :
    HasEnabled next.networks network.id := by
  rcases store.ensureReady_cases template creator with ⟨-, attempts, eq⟩ | ⟨absent, adds, -⟩
  · obtain ⟨available, rfl⟩ := Prod.mk.inj (eq.symm.trans ready)
    exact hasEnabled_of_available available
  · rw [ensureReady_of_new absent adds] at ready
    split at ready
    · cases ready
    · cases ready
      exact hasEnabled_setStatus (newcomer_mem absent creator)

theorem Asks.remain (asks : Asks store asked final) : Remain store.networks final.networks := by
  induction asks with
  | done store => exact .refl store.networks
  | note id scan _ ih => exact ih
  | ask creator ready _ ih => exact (remain_of_ensureReady ready).trans ih

theorem Asks.hasEnabled (asks : Asks store asked final) :
    ∀ entry ∈ asked, ∀ network, entry.answer = some network →
      HasEnabled final.networks network.id := by
  induction asks with
  | done => exact fun _ member => absurd member List.not_mem_nil
  | note id scan _ ih => exact ih
  | ask creator ready rest ih =>
      intro entry member network answered
      rcases List.mem_cons.mp member with rfl | later
      · cases answered
        exact (hasEnabled_of_ensureReady ready).of_remain rest.remain
      · exact ih entry later network answered

end Answers

end NetworkStore

end WifiSelection
