import WifiSelection.Proofs.Store.Numbering

/-!
What making a network ready keeps. Every stored network stays under its key as it was or becomes
enabled, whatever ids the networks have; and every network that is there afterwards, or is given as
the answer, was stored before or is the one that was asked for.
-/

namespace WifiSelection

namespace Network

def Persists (before after : Network) : Prop :=
  after = before ∨ after = { before with status := .enabled }

namespace Persists

variable {before middle after : Network}

theorem refl (network : Network) : network.Persists network :=
  Or.inl rfl

theorem trans (first : before.Persists middle) (second : middle.Persists after) :
    before.Persists after := by
  rcases first with rfl | rfl
  · exact second
  · rcases second with rfl | rfl
    · exact Or.inr rfl
    · exact Or.inr rfl

theorem id_eq (persists : before.Persists after) : after.id = before.id := by
  rcases persists with rfl | rfl <;> rfl

theorem storeKey_eq (persists : before.Persists after) : after.storeKey = before.storeKey := by
  rcases persists with rfl | rfl <;> rfl

theorem isPasspoint_eq (persists : before.Persists after) :
    after.isPasspoint = before.isPasspoint := by
  rcases persists with rfl | rfl <;> rfl

end Persists

theorem roused_persists (refused : List Int32) (network : Network) :
    network.Persists (network.roused refused) := by
  rw [roused]
  split
  · exact Or.inr rfl
  · exact Or.inl rfl

end Network

namespace NetworkStore

section Enabling

variable {networks : List Network} {network : Network}

theorem mem_setStatus_enabled {id : Int32} (member : network ∈ setStatus .enabled id networks) :
    ∃ origin ∈ networks, origin.Persists network := by
  induction networks with
  | nil => cases member
  | cons head tail ih =>
      rw [setStatus] at member
      split at member
      · rcases List.mem_cons.mp member with rfl | later
        · exact ⟨head, List.mem_cons_self, Or.inr rfl⟩
        · exact ⟨network, List.mem_cons_of_mem _ later, .refl network⟩
      · rcases List.mem_cons.mp member with rfl | later
        · exact ⟨network, List.mem_cons_self, .refl network⟩
        · obtain ⟨origin, originMember, persists⟩ := ih later
          exact ⟨origin, List.mem_cons_of_mem _ originMember, persists⟩

theorem lookup_setStatus_enabled {key : String} (found : lookup networks key = some network)
    (id : Int32) :
    ∃ kept, lookup (setStatus .enabled id networks) key = some kept ∧ network.Persists kept := by
  rcases lookup_setStatus .enabled id networks key with same | ⟨changed, foundChanged, -, now⟩
  · exact ⟨network, same.trans found, .refl network⟩
  · rw [found, Option.some.injEq] at foundChanged
    rw [foundChanged]
    exact ⟨_, now, Or.inr rfl⟩

theorem mem_rouse {refused : List Int32} {key : String}
    (member : network ∈ rouse refused networks key) :
    ∃ origin ∈ networks, origin.Persists network := by
  cases found : lookup networks key with
  | none =>
      rw [rouse_of_none found] at member
      exact ⟨network, member, .refl network⟩
  | some stored =>
      cases asleep : stored.isAsleep refused with
      | false =>
          rw [rouse_of_not_asleep found asleep] at member
          exact ⟨network, member, .refl network⟩
      | true =>
          rw [rouse_of_asleep found asleep] at member
          exact mem_setStatus_enabled member

end Enabling

section Readiness

variable {store next : NetworkStore} {template network : Network} {answer : Option Network}
  {creator : App}

theorem networks_of_ensureReady (ready : store.ensureReady template creator = (answer, next)) :
    next.networks = rouse store.refusedIds store.networks template.storeKey ∨
      store.get? template.storeKey = none ∧ store.refusesAdding = false ∧
        (next.networks = (store.withNewcomer template creator).networks ∨
          next.networks = setStatus .enabled store.nextId
            (store.withNewcomer template creator).networks) := by
  rcases store.ensureReady_cases template creator with
    ⟨-, attempts, eq⟩ | ⟨absent, adds, -⟩
  · left
    obtain ⟨-, rfl⟩ := Prod.mk.inj (eq.symm.trans ready)
    rfl
  · refine Or.inr ⟨absent, adds, ?_⟩
    rw [ensureReady_of_new absent adds] at ready
    split at ready
    · obtain ⟨-, rfl⟩ := Prod.mk.inj ready
      exact Or.inl rfl
    · obtain ⟨-, rfl⟩ := Prod.mk.inj ready
      exact Or.inr rfl

theorem kept_of_ensureReady (ready : store.ensureReady template creator = (answer, next))
    {key : String} (found : store.get? key = some network) :
    ∃ kept, next.get? key = some kept ∧ network.Persists kept := by
  rw [get?_eq_lookup]
  rcases networks_of_ensureReady ready with same | ⟨absent, -, placed⟩
  · rw [same]
    rcases lookup_rouse store.refusedIds store.networks template.storeKey key with same | changed
    · exact ⟨network, same.trans found, .refl network⟩
    · refine ⟨_, changed.trans ?_, network.roused_persists store.refusedIds⟩
      rw [← get?_eq_lookup, found, Option.map_some]
  · have absentNewcomer : lookup store.networks (store.newcomer template creator).storeKey = none :=
      absent
    have apart : (store.newcomer template creator).storeKey ≠ key := by
      rintro rfl
      rw [← get?_eq_lookup, found] at absentNewcomer
      cases absentNewcomer
    have still : lookup (store.withNewcomer template creator).networks key = some network := by
      rw [withNewcomer, lookup_place absentNewcomer, if_neg apart]
      exact found
    rcases placed with same | changed
    · exact ⟨network, same ▸ still, .refl network⟩
    · rw [changed]
      exact lookup_setStatus_enabled still store.nextId

theorem mem_of_ensureReady (ready : store.ensureReady template creator = (answer, next))
    (member : network ∈ next.networks) :
    ∃ origin, (origin ∈ store.networks ∨
        store.get? template.storeKey = none ∧ origin = store.newcomer template creator) ∧
      origin.Persists network := by
  rcases networks_of_ensureReady ready with same | ⟨absent, -, placed⟩
  · rw [same] at member
    obtain ⟨origin, originMember, persists⟩ := mem_rouse member
    exact ⟨origin, Or.inl originMember, persists⟩
  · have origins : ∀ origin ∈ (store.withNewcomer template creator).networks,
        origin ∈ store.networks ∨
          store.get? template.storeKey = none ∧ origin = store.newcomer template creator :=
      fun origin originMember => (mem_place originMember).symm.imp_right fun new => ⟨absent, new⟩
    rcases placed with same | changed
    · exact ⟨network, origins network (same ▸ member), .refl network⟩
    · rw [changed] at member
      obtain ⟨origin, originMember, persists⟩ := mem_setStatus_enabled member
      exact ⟨origin, origins origin originMember, persists⟩

theorem answer_of_ensureReady (ready : store.ensureReady template creator = (some network, next)) :
    ∃ origin, (store.get? template.storeKey = some origin ∨
        origin = store.newcomer template creator) ∧ origin.Persists network := by
  rcases store.ensureReady_cases template creator with ⟨-, attempts, eq⟩ | ⟨absent, adds, -⟩
  · obtain ⟨available, -⟩ := Prod.mk.inj (eq.symm.trans ready)
    have roused := Option.eq_some_of_filter_eq_some available
    obtain ⟨origin, found, rfl⟩ := Option.map_eq_some_iff.mp roused
    exact ⟨origin, Or.inl found, origin.roused_persists store.refusedIds⟩
  · rw [ensureReady_of_new absent adds] at ready
    split at ready
    · cases ready
    · cases ready
      exact ⟨_, Or.inr rfl, Or.inr rfl⟩

theorem storeKey_of_ensureReady
    (ready : store.ensureReady template creator = (some network, next)) :
    network.storeKey = template.storeKey := by
  obtain ⟨origin, found | rfl, persists⟩ := answer_of_ensureReady ready
  · rw [persists.storeKey_eq, storeKey_of_lookup found]
  · exact persists.storeKey_eq

end Readiness

end NetworkStore

end WifiSelection
