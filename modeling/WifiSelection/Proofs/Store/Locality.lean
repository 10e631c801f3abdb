import WifiSelection.Proofs.Store.Asking
import WifiSelection.Proofs.Store.Persistence

/-!
What a run reaches in a store of numbered networks, whether or not the store enables what it adds.
Networks under keys that are not asked for stay as they are, and what was given for a key is what is
stored there in the end. A key is left to suggestions while no network is stored there, or a suggested
one: a run that asks for suggested networks under such keys only is given suggested networks, and no
run makes a store leave another key to suggestions.
-/

namespace WifiSelection

namespace Network

theorem Persists.eq_of_isEnabled {before after : Network} (persists : before.Persists after)
    (enabled : before.isEnabled = true) : after = before := by
  rcases persists with rfl | rfl
  · rfl
  · have status : before.status = .enabled := of_decide_eq_true enabled
    rw [← status]

end Network

namespace NetworkStore

section Locality

variable {store next final : NetworkStore} {template network : Network} {answer : Option Network}
  {creator : App} {asked : List Asked} {key : String}

theorem Asks.kept (asks : Asks store asked final) (found : store.get? key = some network) :
    ∃ kept, final.get? key = some kept ∧ network.Persists kept := by
  induction asks generalizing network with
  | done => exact ⟨network, found, .refl network⟩
  | note id scan _ ih => exact ih found
  | ask creator ready _ ih =>
      obtain ⟨middle, foundMiddle, first⟩ := kept_of_ensureReady ready found
      obtain ⟨kept, foundKept, second⟩ := ih foundMiddle
      exact ⟨kept, foundKept, first.trans second⟩

theorem isEnabled_of_ensureReady
    (ready : store.ensureReady template creator = (some network, next)) :
    network.isEnabled = true := by
  rcases store.ensureReady_cases template creator with ⟨-, attempts, eq⟩ | ⟨absent, adds, -⟩
  · obtain ⟨available, -⟩ := Prod.mk.inj (eq.symm.trans ready)
    exact (Option.filter_eq_some_iff.mp available).2
  · rw [ensureReady_of_new absent adds] at ready
    split at ready
    · cases ready
    · cases ready
      rfl

theorem get?_of_ensureReady (numbered : store.Numbered)
    (ready : store.ensureReady template creator = (some network, next)) :
    next.get? template.storeKey = some network := by
  rcases store.ensureReady_cases template creator with ⟨-, attempts, eq⟩ | ⟨absent, adds, -⟩
  · obtain ⟨available, rfl⟩ := Prod.mk.inj (eq.symm.trans ready)
    rw [get?_tried numbered, if_pos rfl]
    exact Option.eq_some_of_filter_eq_some available
  · rw [ensureReady_of_new absent adds] at ready
    split at ready
    · cases ready
    · cases ready
      rw [get?_eq_lookup, get?_enabled_newcomer numbered absent, if_pos rfl]

/-- A network under a key that was not asked for is as it was, and one that was given for a key is
stored there. -/
structure Spares (store : NetworkStore) (asked : List Asked) (final : NetworkStore) : Prop where
  numbered : final.Numbered
  untouched : ∀ key, (∀ entry ∈ asked, entry.key ≠ key) → final.get? key = store.get? key
  given : ∀ entry ∈ asked, ∀ network, entry.answer = some network →
    final.get? entry.key = some network

theorem spares_of_ensureReady (numbered : store.Numbered) (lasting : IdsLast store next)
    (ready : store.ensureReady template creator = (answer, next)) :
    Spares store [⟨template, answer⟩] next := by
  have given : ∀ entry ∈ [Asked.mk template answer], ∀ network, entry.answer = some network →
      next.get? entry.key = some network := by
    intro entry member network answered
    obtain rfl := List.mem_singleton.mp member
    cases answered
    exact get?_of_ensureReady numbered ready
  rcases serves_of_ensureReady numbered lasting ready with serves | ⟨-, absent, -, same, added⟩
  · exact ⟨serves.numbered, serves.untouched, given⟩
  · refine ⟨added, fun key unasked => ?_, given⟩
    have absentNewcomer : lookup store.networks (store.newcomer template creator).storeKey = none :=
      absent
    have apart : template.storeKey ≠ key := unasked _ List.mem_cons_self
    rw [same]
    exact (lookup_place absentNewcomer key).trans (if_neg apart)

theorem Asks.spares (asks : Asks store asked final) (numbered : store.Numbered)
    (lasting : IdsLast store final) : Spares store asked final := by
  induction asks with
  | done store =>
      exact ⟨numbered, fun _ _ => rfl, fun _ member => absurd member List.not_mem_nil⟩
  | note id scan _ ih =>
      have spares := ih ⟨numbered.distinct, numbered.below⟩ lasting
      exact ⟨spares.numbered, spares.untouched, spares.given⟩
  | @ask store next final asked template answer creator ready rest ih =>
      obtain ⟨here, later⟩ := lasting.of_ensureReady ready rest.added_prefix
      have first := spares_of_ensureReady numbered here ready
      have others := ih first.numbered later
      refine ⟨others.numbered, fun key unasked => ?_, fun entry member network answered => ?_⟩
      · rw [others.untouched key fun entry member => unasked entry (List.mem_cons_of_mem _ member)]
        refine first.untouched key fun entry member => unasked entry ?_
        exact List.mem_cons.mpr (Or.inl (List.mem_singleton.mp member))
      · rcases List.mem_cons.mp member with rfl | afterwards
        · -- What was given is enabled, and an enabled network stays just as it is.
          cases answered
          have found := first.given _ List.mem_cons_self network rfl
          obtain ⟨kept, foundKept, persists⟩ := rest.kept found
          rw [foundKept, persists.eq_of_isEnabled (isEnabled_of_ensureReady ready)]
        · exact others.given entry afterwards network answered

end Locality

end NetworkStore

theorem Network.Persists.fromSuggestion_eq {before after : Network}
    (persists : before.Persists after) : after.fromSuggestion = before.fromSuggestion := by
  rcases persists with rfl | rfl <;> rfl

namespace NetworkStore

def admits (store : NetworkStore) (key : String) : Bool :=
  (store.get? key).all Network.fromSuggestion

section Admission

variable {store next final : NetworkStore} {template network : Network} {answer : Option Network}
  {creator : App} {asked : List Asked} {key : String}

theorem admits_iff : store.admits key = true ↔
    ∀ stored, store.get? key = some stored → stored.fromSuggestion = true := by
  rw [admits, Option.all_eq_true]

/-- A network from elsewhere stays one, so no run makes a store admit more. -/
theorem Asks.admits_of_final (asks : Asks store asked final) (admitted : final.admits key = true) :
    store.admits key = true := by
  rw [admits_iff] at admitted ⊢
  intro stored found
  obtain ⟨kept, foundKept, persists⟩ := asks.kept found
  rw [← persists.fromSuggestion_eq]
  exact admitted kept foundKept

theorem admits_of_ensureReady (ready : store.ensureReady template creator = (answer, next))
    (suggested : template.fromSuggestion = true) (admitted : store.admits key = true) :
    next.admits key = true := by
  rw [admits_iff] at admitted ⊢
  intro stored found
  cases before : store.get? key with
  | some old =>
      obtain ⟨kept, foundKept, persists⟩ := kept_of_ensureReady ready before
      rw [found, Option.some.injEq] at foundKept
      rw [foundKept, persists.fromSuggestion_eq]
      exact admitted old before
  | none =>
      -- Only a newcomer can be found where nothing was, and it is as suggested as its template.
      obtain ⟨origin, old | ⟨-, rfl⟩, persists⟩ := mem_of_ensureReady ready (mem_of_lookup found)
      · have sameKey : origin.storeKey = key :=
          persists.storeKey_eq.symm.trans (storeKey_of_lookup found)
        have missing := List.find?_eq_none.mp before origin old
        exact absurd (decide_eq_true sameKey) missing
      · exact persists.fromSuggestion_eq.trans suggested

theorem fromSuggestion_of_ensureReady
    (ready : store.ensureReady template creator = (some network, next))
    (suggested : template.fromSuggestion = true)
    (admitted : store.admits template.storeKey = true) : network.fromSuggestion = true := by
  obtain ⟨origin, found | rfl, persists⟩ := answer_of_ensureReady ready
  · exact persists.fromSuggestion_eq.trans (admits_iff.mp admitted origin found)
  · exact persists.fromSuggestion_eq.trans suggested

theorem Asks.fromSuggestion (asks : Asks store asked final)
    (suggested : ∀ entry ∈ asked, entry.template.fromSuggestion = true ∧
      store.admits entry.key = true) :
    ∀ entry ∈ asked, ∀ network, entry.answer = some network → network.fromSuggestion = true := by
  induction asks with
  | done => exact fun _ member => absurd member List.not_mem_nil
  | note id scan _ ih => exact ih suggested
  | ask creator ready _ ih =>
      obtain ⟨ownTemplate, ownKey⟩ := suggested _ List.mem_cons_self
      have later := ih fun entry member => by
        obtain ⟨template, admitted⟩ := suggested entry (List.mem_cons_of_mem _ member)
        exact ⟨template, admits_of_ensureReady ready ownTemplate admitted⟩
      intro entry member network answered
      rcases List.mem_cons.mp member with rfl | afterwards
      · cases answered
        exact fromSuggestion_of_ensureReady ready ownTemplate ownKey
      · exact later entry afterwards network answered

end Admission

end NetworkStore

end WifiSelection
