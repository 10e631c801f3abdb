import WifiSelection.Proofs.Store.Rousing

/-!
What making a network ready comes to. When its key is settled, which means that a network is stored
under it or nothing can be, the answer is what the store has available for the key. Otherwise the
network is stored under the next id.
-/

namespace WifiSelection

namespace NetworkStore

/-- A network is stored under the key, or the store takes no new ones. -/
def Settled (store : NetworkStore) (key : String) : Prop :=
  (store.get? key).isSome = true ∨ store.refusesAdding = true

def Rested (store : NetworkStore) (key : String) : Prop :=
  (store.get? key).map (Network.roused store.refusedIds) = store.get? key

def available? (store : NetworkStore) (key : String) : Option Network :=
  ((store.get? key).map (Network.roused store.refusedIds)).filter Network.isEnabled

def tried (store : NetworkStore) (key : String) (attempts : List Int32) : NetworkStore :=
  { store with
    networks := rouse store.refusedIds store.networks key
    enableAttempts := attempts }

def newcomer (store : NetworkStore) (network : Network) (creator : App) : Network :=
  { network with id := store.nextId, creator := creator }

def withNewcomer (store : NetworkStore) (network : Network) (creator : App) : NetworkStore :=
  { store with
    networks := place (store.newcomer network creator) store.networks
    nextId := max store.nextId (store.nextId + 1)
    added := store.added ++ [(store.nextId, creator)] }

section Readiness

variable {store : NetworkStore} {network stored : Network}

theorem enableStored_of_mem (store : NetworkStore) (member : stored ∈ store.networks) :
    store.enableStored stored.id =
      (true, { store with networks := setStatus .enabled stored.id store.networks }) := by
  have present : (store.withId? stored.id).isSome = true := by
    rw [withId?, List.find?_isSome]
    exact ⟨stored, member, decide_eq_true rfl⟩
  obtain ⟨first, found⟩ := Option.isSome_iff_exists.mp present
  rw [enableStored, found]

theorem reenable_of_refused {id : Int32} (refused : store.refusedIds.contains id = true) :
    store.reenable id = (false, { store with enableAttempts := store.enableAttempts ++ [id] }) :=
  if_pos refused

theorem reenable_of_mem (member : stored ∈ store.networks)
    (willing : store.refusedIds.contains stored.id = false) :
    store.reenable stored.id =
      (true, { store with
        networks := setStatus .enabled stored.id store.networks
        enableAttempts := store.enableAttempts ++ [stored.id] }) := by
  rw [reenable]
  exact (if_neg (by rw [willing]; exact Bool.false_ne_true)).trans (enableStored_of_mem _ member)

theorem ensureReady_of_enabled (found : store.get? network.storeKey = some stored)
    (enabled : stored.isEnabled = true) (creator : App) :
    store.ensureReady network creator = (some stored, store) := by
  simp only [ensureReady, found, enabled, if_true]

theorem ensureReady_of_disabled (found : store.get? network.storeKey = some stored)
    (disabled : stored.isEnabled = false) (creator : App) :
    store.ensureReady network creator =
      (store.available? network.storeKey,
        store.tried network.storeKey (store.enableAttempts ++ [stored.id])) := by
  rw [ensureReady, available?, tried, found, Option.map_some]
  cases refused : store.refusedIds.contains stored.id with
  | true =>
      have awake : stored.isAsleep store.refusedIds = false := by
        rw [Network.isAsleep, refused, Bool.not_true, Bool.and_false]
      rw [rouse_of_not_asleep found awake, Network.roused_of_not_asleep awake,
        Option.filter_some_neg (by simp [disabled])]
      simp only [disabled, reenable_of_refused refused, Bool.false_eq_true, if_false]
  | false =>
      have asleep : stored.isAsleep store.refusedIds = true := by
        rw [Network.isAsleep, refused, disabled]
        rfl
      rw [rouse_of_asleep found asleep, Network.roused_of_asleep asleep,
        Option.filter_some_pos (by rfl)]
      simp only [disabled, reenable_of_mem (mem_of_lookup found) refused, Bool.false_eq_true,
        if_false, if_true]

theorem ensureReady_of_stored (found : store.get? network.storeKey = some stored)
    (creator : App) : ∃ attempts, store.ensureReady network creator =
      (store.available? network.storeKey, store.tried network.storeKey attempts) := by
  cases enabled : stored.isEnabled with
  | true =>
      have awake : stored.isAsleep store.refusedIds = false := by
        simp [Network.isAsleep, enabled]
      refine ⟨store.enableAttempts, ?_⟩
      rw [ensureReady_of_enabled found enabled, available?, found, Option.map_some,
        Network.roused_of_not_asleep awake, Option.filter_some_pos enabled, tried,
        rouse_of_not_asleep found awake]
  | false => exact ⟨_, ensureReady_of_disabled found enabled creator⟩

theorem ensureReady_of_unsaved (absent : store.get? network.storeKey = none)
    (refuses : store.refusesAdding = true) (creator : App) :
    store.ensureReady network creator = (none, store) := by
  have unsaved : store.save network creator = (none, store) := if_pos refuses
  simp only [ensureReady, absent, unsaved]

theorem save_of_new (absent : store.get? network.storeKey = none)
    (adds : store.refusesAdding = false) (creator : App) :
    store.save network creator = (some store.nextId, store.withNewcomer network creator) := by
  simp [save, adds, absent, insert, numbered, Network.hasId, newcomer, withNewcomer]

theorem newcomer_mem (absent : store.get? network.storeKey = none) (creator : App) :
    store.newcomer network creator ∈ (store.withNewcomer network creator).networks := by
  have absentNewcomer : lookup store.networks (store.newcomer network creator).storeKey = none :=
    absent
  exact (place_perm absentNewcomer).symm.subset List.mem_cons_self

theorem enable_newcomer (absent : store.get? network.storeKey = none)
    (enables : store.refusesEnabling = false) (creator : App) :
    (store.withNewcomer network creator).enable store.nextId =
      (true, { store.withNewcomer network creator with
        networks := setStatus .enabled store.nextId
          (store.withNewcomer network creator).networks }) := by
  have enablesStill : ¬(store.withNewcomer network creator).refusesEnabling = true := by
    rw [withNewcomer, enables]
    exact Bool.false_ne_true
  rw [enable, if_neg enablesStill]
  exact enableStored_of_mem _ (newcomer_mem absent creator)

theorem enable_of_refusing (store : NetworkStore) (refuses : store.refusesEnabling = true)
    (id : Int32) : store.enable id = (false, store) :=
  if_pos refuses

theorem ensureReady_of_new (absent : store.get? network.storeKey = none)
    (adds : store.refusesAdding = false) (creator : App) :
    store.ensureReady network creator =
      if store.refusesEnabling then
        (none, store.withNewcomer network creator)
      else
        (some { store.newcomer network creator with status := .enabled },
          { store.withNewcomer network creator with
            networks := setStatus .enabled store.nextId
              (store.withNewcomer network creator).networks }) := by
  simp only [ensureReady, absent, save_of_new absent adds]
  cases enabling : store.refusesEnabling with
  | true =>
      rw [enable_of_refusing (store.withNewcomer network creator) enabling]
      rfl
  | false =>
      rw [enable_newcomer absent enabling]
      rfl

theorem ensureReady_cases (store : NetworkStore) (network : Network) (creator : App) :
    (store.Settled network.storeKey ∧ ∃ attempts, store.ensureReady network creator =
      (store.available? network.storeKey, store.tried network.storeKey attempts)) ∨
    (store.get? network.storeKey = none ∧ store.refusesAdding = false ∧
      ∃ answer networks, store.ensureReady network creator =
        (answer, { store.withNewcomer network creator with networks := networks }) ∧
      (store.refusesEnabling = false →
        answer = some { store.newcomer network creator with status := .enabled } ∧
        networks = setStatus .enabled store.nextId
          (store.withNewcomer network creator).networks)) := by
  cases found : store.get? network.storeKey with
  | some stored =>
      refine Or.inl ⟨Or.inl ?_, ensureReady_of_stored found creator⟩
      rw [found]
      rfl
  | none =>
      cases adding : store.refusesAdding with
      | true =>
          refine Or.inl ⟨Or.inr adding, store.enableAttempts, ?_⟩
          rw [ensureReady_of_unsaved found adding, tried, rouse_of_none found, available?, found]
          rfl
      | false =>
          refine Or.inr ⟨rfl, rfl, ?_⟩
          rw [ensureReady_of_new found adding]
          cases enabling : store.refusesEnabling with
          | true =>
              refine ⟨none, (store.withNewcomer network creator).networks, rfl, ?_⟩
              intro impossible
              cases impossible
          | false => exact ⟨_, _, rfl, fun _ => ⟨rfl, rfl⟩⟩

theorem ensureReady_of_settled (settled : store.Settled network.storeKey) (creator : App) :
    ∃ attempts, store.ensureReady network creator =
      (store.available? network.storeKey, store.tried network.storeKey attempts) := by
  rcases store.ensureReady_cases network creator with ⟨-, eq⟩ | ⟨absent, adds, -⟩
  · exact eq
  · rcases settled with present | refuses
    · rw [absent] at present
      cases present
    · rw [adds] at refuses
      cases refuses

theorem settled_tried_iff (store : NetworkStore) (key other : String) (attempts : List Int32) :
    (store.tried key attempts).Settled other ↔ store.Settled other := by
  rw [Settled, Settled, get?_eq_lookup, get?_eq_lookup, tried, lookup_rouse_isSome]

theorem available?_tried (store : NetworkStore) (key other : String) (attempts : List Int32) :
    (store.tried key attempts).available? other = store.available? other := by
  rw [available?, available?, get?_eq_lookup, get?_eq_lookup, tried, map_roused_lookup_rouse]

theorem available?_of_isEnabled {key : String} (found : store.get? key = some stored)
    (enabled : stored.isEnabled = true) :
    store.Settled key ∧ store.Rested key ∧ some stored = store.available? key := by
  have rested : stored.roused store.refusedIds = stored := Network.roused_of_isEnabled enabled
  refine ⟨Or.inl ?_, ?_, ?_⟩
  · rw [found]
    rfl
  · rw [Rested, found, Option.map_some, rested]
  · rw [available?, found, Option.map_some, rested, Option.filter_some_pos enabled]

end Readiness

end NetworkStore

end WifiSelection
