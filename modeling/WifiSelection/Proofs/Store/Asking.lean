import WifiSelection.Proofs.Store.Numbering

/-!
Runs that make networks ready one after the other and note scans on the way. A run that saves
nothing asks for settled keys only, so it just tries the networks of its keys. In a store of numbered
networks every run ends with each of its keys settled, and gave what is available under them then.
-/

namespace WifiSelection

namespace NetworkStore

structure Asked where
  template : Network
  answer : Option Network

def Asked.key (entry : Asked) : String :=
  entry.template.storeKey

inductive Asks : NetworkStore → List Asked → NetworkStore → Prop
  | done (store) : Asks store [] store
  | note {store final : NetworkStore} {asked} (id scan) :
      Asks (store.noteScan id scan) asked final → Asks store asked final
  | ask {store next final : NetworkStore} {asked template answer} (creator) :
      store.ensureReady template creator = (answer, next) → Asks next asked final →
      Asks store (⟨template, answer⟩ :: asked) final

structure SameRules (before after : NetworkStore) : Prop where
  forgotten : after.forgottenSsids = before.forgottenSsids
  refused : after.refusedIds = before.refusedIds
  adding : after.refusesAdding = before.refusesAdding
  enabling : after.refusesEnabling = before.refusesEnabling

theorem SameRules.trans {before middle after : NetworkStore} (first : SameRules before middle)
    (second : SameRules middle after) : SameRules before after :=
  ⟨second.forgotten.trans first.forgotten, second.refused.trans first.refused,
    second.adding.trans first.adding, second.enabling.trans first.enabling⟩

theorem sameRules_noteScan (store : NetworkStore) (id : Int32) (scan : Scan) :
    SameRules store (store.noteScan id scan) :=
  ⟨rfl, rfl, rfl, rfl⟩

section Asking

variable {store middle next final : NetworkStore} {asked later : List Asked} {template : Network}
  {answer : Option Network} {creator : App}

theorem sameRules_of_ensureReady (ready : store.ensureReady template creator = (answer, next)) :
    SameRules store next := by
  rcases store.ensureReady_cases template creator with
    ⟨-, attempts, eq⟩ | ⟨-, -, given, networks, eq, -⟩
  all_goals
    obtain ⟨-, rfl⟩ := Prod.mk.inj (eq.symm.trans ready)
    exact ⟨rfl, rfl, rfl, rfl⟩

theorem added_prefix_of_ensureReady (ready : store.ensureReady template creator = (answer, next)) :
    store.added <+: next.added := by
  rcases store.ensureReady_cases template creator with
    ⟨-, attempts, eq⟩ | ⟨-, -, given, networks, eq, -⟩
  · obtain ⟨-, rfl⟩ := Prod.mk.inj (eq.symm.trans ready)
    exact List.prefix_refl _
  · obtain ⟨-, rfl⟩ := Prod.mk.inj (eq.symm.trans ready)
    exact List.prefix_append _ _

namespace Asks

theorem append (first : Asks store asked middle) (second : Asks middle later final) :
    Asks store (asked ++ later) final := by
  induction first with
  | done => exact second
  | note id scan _ ih => exact .note id scan (ih second)
  | ask creator ready _ ih => exact .ask creator ready (ih second)

theorem sameRules (asks : Asks store asked final) : SameRules store final := by
  induction asks with
  | done => exact ⟨rfl, rfl, rfl, rfl⟩
  | note id scan _ ih => exact (sameRules_noteScan _ id scan).trans ih
  | ask creator ready _ ih => exact (sameRules_of_ensureReady ready).trans ih

theorem added_prefix (asks : Asks store asked final) : store.added <+: final.added := by
  induction asks with
  | done => exact List.prefix_refl _
  | note id scan _ ih => exact ih
  | ask creator ready _ ih => exact (added_prefix_of_ensureReady ready).trans ih

theorem settled_of_added_eq (asks : Asks store asked final)
    (unchanged : final.added = store.added) : ∀ entry ∈ asked, store.Settled entry.key := by
  induction asks with
  | done => exact fun _ member => absurd member List.not_mem_nil
  | note id scan _ ih => exact ih unchanged
  | @ask store next final asked template answer creator ready rest ih =>
      rcases store.ensureReady_cases template creator with
        ⟨settled, attempts, eq⟩ | ⟨-, -, given, networks, eq, -⟩
      · obtain ⟨-, rfl⟩ := Prod.mk.inj (eq.symm.trans ready)
        intro entry member
        rcases List.mem_cons.mp member with rfl | later
        · exact settled
        · exact (settled_tried_iff ..).mp (ih unchanged entry later)
      · obtain ⟨-, rfl⟩ := Prod.mk.inj (eq.symm.trans ready)
        have longer := rest.added_prefix.length_le
        simp only [unchanged, withNewcomer, List.length_append, List.length_singleton] at longer
        omega

theorem of_settled (asks : Asks store asked final)
    (settled : ∀ entry ∈ asked, store.Settled entry.key) :
    final.added = store.added ∧
      final.networks = rouseAll store.refusedIds store.networks (asked.map Asked.key) ∧
      ∀ entry ∈ asked, entry.answer = store.available? entry.key := by
  induction asks with
  | done => exact ⟨rfl, rfl, fun _ member => absurd member List.not_mem_nil⟩
  | note id scan _ ih => exact ih settled
  | @ask store next final asked template answer creator ready _ ih =>
      have first : store.Settled template.storeKey := settled _ List.mem_cons_self
      obtain ⟨attempts, eq⟩ := ensureReady_of_settled first creator
      obtain ⟨rfl, rfl⟩ := Prod.mk.inj (eq.symm.trans ready)
      obtain ⟨added, networks, answers⟩ := ih fun entry later =>
        (settled_tried_iff ..).mpr (settled entry (List.mem_cons_of_mem _ later))
      refine ⟨added, networks, ?_⟩
      intro entry member
      rcases List.mem_cons.mp member with rfl | later
      · rfl
      · rw [answers entry later, available?_tried]

end Asks

/-- What a run makes of a store of numbered networks. -/
structure Serves (store : NetworkStore) (asked : List Asked) (final : NetworkStore) : Prop where
  numbered : final.Numbered
  rules : SameRules store final
  untouched : ∀ key, (∀ entry ∈ asked, entry.key ≠ key) → final.get? key = store.get? key
  kept : ∀ key stored, store.get? key = some stored →
    final.get? key = some stored ∨ final.get? key = some (stored.roused store.refusedIds)
  added : ∀ key new, store.get? key = none → final.get? key = some new →
    store.refusesAdding = false ∧ ∃ entry,
      asked.find? (fun entry => entry.key = key) = some entry ∧ ∃ id creator,
        new = { entry.template with id := id, creator := creator, status := .enabled }
  answered : ∀ entry ∈ asked, final.Settled entry.key ∧ final.Rested entry.key ∧
    entry.answer = final.available? entry.key

theorem Serves.refl (numbered : store.Numbered) : Serves store [] store where
  numbered := numbered
  rules := ⟨rfl, rfl, rfl, rfl⟩
  untouched _ _ := rfl
  kept _ _ found := Or.inl found
  added key new absent found := by
    rw [absent] at found
    cases found
  answered _ member := absurd member List.not_mem_nil

theorem Serves.get?_eq {key : String} (serves : Serves store asked final)
    (settled : store.Settled key) (rested : store.Rested key) :
    final.get? key = store.get? key := by
  cases found : store.get? key with
  | some stored =>
      rw [Rested, found, Option.map_some, Option.some.injEq] at rested
      rcases serves.kept key stored found with same | changed
      · exact same
      · rw [changed, rested]
  | none =>
      rw [Option.eq_none_iff_forall_ne_some]
      intro new appeared
      have adds := (serves.added key new found appeared).1
      rcases settled with present | refuses
      · rw [found] at present
        cases present
      · rw [adds] at refuses
        cases refuses

theorem Serves.find?_eq_none {key : String} (serves : Serves store asked final)
    (absent : final.get? key = none) (adds : final.refusesAdding = false) :
    asked.find? (fun entry => entry.key = key) = none := by
  rw [List.find?_eq_none]
  intro entry member same
  have settled := (serves.answered entry member).1
  rw [of_decide_eq_true same, Settled, absent, adds] at settled
  rcases settled with impossible | impossible <;> cases impossible

theorem Serves.kept_trans (first : Serves store asked middle) (second : Serves middle later final)
    (key : String) (stored : Network) (found : store.get? key = some stored) :
    final.get? key = some stored ∨ final.get? key = some (stored.roused store.refusedIds) := by
  have refused := first.rules.refused
  rcases first.kept key stored found with same | changed
  · rcases second.kept key stored same with same | changed
    · exact Or.inl same
    · exact Or.inr (refused ▸ changed)
  · rcases second.kept key _ changed with same | changed
    · exact Or.inr same
    · rw [refused, Network.roused_roused] at changed
      exact Or.inr changed

theorem Serves.trans (first : Serves store asked middle) (second : Serves middle later final) :
    Serves store (asked ++ later) final where
  numbered := second.numbered
  rules := first.rules.trans second.rules
  untouched key unasked := by
    rw [second.untouched key fun entry member => unasked entry (List.mem_append_right _ member),
      first.untouched key fun entry member => unasked entry (List.mem_append_left _ member)]
  kept := first.kept_trans second
  added key new absent found := by
    cases appeared : middle.get? key with
    | none =>
        obtain ⟨adds, entry, earliest, made⟩ := second.added key new appeared found
        refine ⟨first.rules.adding.symm.trans adds, entry, ?_, made⟩
        rw [List.find?_append, first.find?_eq_none appeared adds, earliest]
        rfl
    | some early =>
        obtain ⟨adds, entry, earliest, id, creator, made⟩ := first.added key early absent appeared
        refine ⟨adds, entry, by rw [List.find?_append, earliest]; rfl, id, creator, ?_⟩
        have enabled : early.isEnabled = true := by
          rw [made]
          rfl
        rcases second.kept key early appeared with same | changed
        · rw [← made, ← Option.some.injEq, ← found, same]
        · rw [Network.roused_of_isEnabled enabled] at changed
          rw [← made, ← Option.some.injEq, ← found, changed]
  answered entry member := by
    rcases List.mem_append.mp member with early | late
    · obtain ⟨settled, rested, given⟩ := first.answered entry early
      have same := second.get?_eq settled rested
      refine ⟨?_, ?_, ?_⟩
      · rw [Settled, same, second.rules.adding]
        exact settled
      · rw [Rested, same, second.rules.refused]
        exact rested
      · rw [available?, same, second.rules.refused]
        exact given
    · exact second.answered entry late

theorem serves_of_settled (numbered : store.Numbered) (settled : store.Settled template.storeKey)
    (attempts : List Int32) :
    Serves store [⟨template, store.available? template.storeKey⟩]
      (store.tried template.storeKey attempts) where
  numbered := by
    have ids : (store.tried template.storeKey attempts).networks.map Network.id =
        store.networks.map Network.id := rouse_map_id ..
    exact ⟨ids ▸ numbered.distinct, ids ▸ numbered.below⟩
  rules := ⟨rfl, rfl, rfl, rfl⟩
  untouched key unasked := by
    rw [get?_tried numbered]
    exact if_neg (unasked _ List.mem_cons_self)
  kept key stored found := by
    rw [get?_tried numbered, found]
    split
    · exact Or.inr rfl
    · exact Or.inl rfl
  added key new absent found := by
    rw [get?_tried numbered, absent] at found
    simp at found
  answered entry member := by
    obtain rfl := List.mem_singleton.mp member
    have changed : (store.tried template.storeKey attempts).get? template.storeKey =
        (store.get? template.storeKey).map (Network.roused store.refusedIds) := by
      rw [get?_tried numbered, if_pos rfl]
    refine ⟨(settled_tried_iff ..).mpr settled, ?_, (available?_tried ..).symm⟩
    simp only [Rested, Asked.key]
    rw [changed, Option.map_map]
    congr 1
    funext network
    exact Network.roused_roused store.refusedIds network

theorem serves_of_new (numbered : store.Numbered) (absent : store.get? template.storeKey = none)
    (adds : store.refusesAdding = false) (room : store.nextId.toInt < Int32.maxValue.toInt)
    (creator : App) :
    let new := { store.newcomer template creator with status := .enabled }
    Serves store [⟨template, some new⟩]
      { store.withNewcomer template creator with
        networks := setStatus .enabled store.nextId (store.withNewcomer template creator).networks }
    where
  numbered := by
    have grown := numbered.withNewcomer absent room creator
    constructor
    · simpa only [setStatus_map_id] using grown.distinct
    · simpa only [setStatus_map_id] using grown.below
  rules := ⟨rfl, rfl, rfl, rfl⟩
  untouched key unasked := by
    rw [get?_eq_lookup, get?_enabled_newcomer numbered absent]
    exact if_neg (unasked _ List.mem_cons_self)
  kept key stored found := by
    left
    rw [get?_eq_lookup, get?_enabled_newcomer numbered absent, found, if_neg]
    intro same
    rw [same, found] at absent
    cases absent
  added key new missing found := by
    rw [get?_eq_lookup, get?_enabled_newcomer numbered absent, missing] at found
    split at found
    next same =>
      injection found with found
      refine ⟨adds, ⟨template, some { store.newcomer template creator with status := .enabled }⟩, ?_,
        store.nextId, creator, found.symm⟩
      rw [List.find?_cons, Asked.key, decide_eq_true same]
    next => cases found
  answered entry member := by
    obtain rfl := List.mem_singleton.mp member
    have stored := get?_enabled_newcomer numbered absent creator template.storeKey
    rw [if_pos rfl] at stored
    refine available?_of_isEnabled ?_ rfl
    exact stored

def IdsLast (store final : NetworkStore) : Prop :=
  store.nextId.toInt + final.added.length ≤ Int32.maxValue.toInt + store.added.length

theorem IdsLast.of_ensureReady (lasting : IdsLast store final)
    (ready : store.ensureReady template creator = (answer, next))
    (grown : next.added <+: final.added) : IdsLast store next ∧ IdsLast next final := by
  have longer := grown.length_le
  have limit : store.nextId.toInt ≤ Int32.maxValue.toInt :=
    Int32.le_iff_toInt_le.mp (Int32.le_maxValue store.nextId)
  rw [IdsLast] at lasting
  rcases store.ensureReady_cases template creator with
    ⟨-, attempts, eq⟩ | ⟨-, -, given, networks, eq, -⟩
  · obtain ⟨-, rfl⟩ := Prod.mk.inj (eq.symm.trans ready)
    simp only [IdsLast, tried]
    exact ⟨by omega, lasting⟩
  · obtain ⟨-, rfl⟩ := Prod.mk.inj (eq.symm.trans ready)
    simp only [withNewcomer, List.length_append, List.length_singleton] at longer
    have room : store.nextId.toInt < Int32.maxValue.toInt := by
      omega
    simp only [IdsLast, withNewcomer, toInt_max, toInt_succ room, List.length_append,
      List.length_singleton]
    omega

theorem serves_of_ensureReady (numbered : store.Numbered) (lasting : IdsLast store next)
    (ready : store.ensureReady template creator = (answer, next)) :
    Serves store [⟨template, answer⟩] next ∨
      store.refusesEnabling = true ∧ store.get? template.storeKey = none ∧ answer = none ∧
        next = store.withNewcomer template creator ∧ next.Numbered := by
  rcases store.ensureReady_cases template creator with
    ⟨settled, attempts, eq⟩ | ⟨absent, adds, given, networks, eq, -⟩
  · obtain ⟨rfl, rfl⟩ := Prod.mk.inj (eq.symm.trans ready)
    exact Or.inl (serves_of_settled numbered settled attempts)
  · obtain ⟨-, same⟩ := Prod.mk.inj (eq.symm.trans ready)
    have room : store.nextId.toInt < Int32.maxValue.toInt := by
      rw [IdsLast, ← same] at lasting
      simp only [withNewcomer, List.length_append, List.length_singleton] at lasting
      omega
    rw [ensureReady_of_new absent adds] at ready
    cases enabling : store.refusesEnabling with
    | false =>
        rw [if_neg (by simp [enabling])] at ready
        obtain ⟨rfl, rfl⟩ := Prod.mk.inj ready
        exact Or.inl (serves_of_new numbered absent adds room creator)
    | true =>
        rw [if_pos enabling] at ready
        obtain ⟨rfl, rfl⟩ := Prod.mk.inj ready
        exact Or.inr ⟨rfl, absent, rfl, rfl, numbered.withNewcomer absent room creator⟩

/-- As long as ids last, a run in a store that can enable new networks serves. -/
theorem Asks.serves (asks : Asks store asked final) (numbered : store.Numbered)
    (enables : store.refusesEnabling = false) (lasting : IdsLast store final) :
    Serves store asked final := by
  induction asks with
  | done store => exact Serves.refl numbered
  | note id scan _ ih =>
      have serves := ih ⟨numbered.distinct, numbered.below⟩ enables lasting
      exact ⟨serves.numbered, (sameRules_noteScan _ id scan).trans serves.rules,
        serves.untouched, serves.kept, serves.added, serves.answered⟩
  | ask creator ready rest ih =>
      obtain ⟨here, later⟩ := lasting.of_ensureReady ready rest.added_prefix
      rcases serves_of_ensureReady numbered here ready with first | ⟨refuses, -⟩
      · exact first.trans (ih first.numbered (first.rules.enabling.trans enables) later)
      · rw [enables] at refuses
        cases refuses

theorem Asks.answer_of_settled (asks : Asks store asked final)
    (refuses : store.refusesEnabling = true) {key : String} (settled : store.Settled key) :
    ∀ entry ∈ asked, entry.key = key → entry.answer = store.available? key := by
  induction asks with
  | done => exact fun _ member => absurd member List.not_mem_nil
  | note id scan _ ih => exact ih refuses settled
  | @ask store next final asked template answer creator ready _ ih =>
      by_cases first : store.Settled template.storeKey
      · obtain ⟨attempts, eq⟩ := ensureReady_of_settled first creator
        obtain ⟨rfl, rfl⟩ := Prod.mk.inj (eq.symm.trans ready)
        intro entry member sameKey
        rcases List.mem_cons.mp member with rfl | later
        · rw [← sameKey]
          rfl
        · rw [ih refuses ((settled_tried_iff ..).mpr settled) entry later sameKey,
            available?_tried]
      · rw [Settled, not_or] at first
        have absent : store.get? template.storeKey = none := by simpa using first.1
        have adds : store.refusesAdding = false := by simpa using first.2
        have apart : template.storeKey ≠ key := by
          rintro rfl
          rcases settled with present | refusing
          · exact first.1 present
          · exact first.2 refusing
        rw [ensureReady_of_new absent adds, if_pos refuses] at ready
        obtain ⟨rfl, rfl⟩ := Prod.mk.inj ready
        have absentNewcomer :
            lookup store.networks (store.newcomer template creator).storeKey = none := absent
        have same : (store.withNewcomer template creator).get? key = store.get? key :=
          (lookup_place absentNewcomer key).trans (if_neg apart)
        have settledNext : (store.withNewcomer template creator).Settled key := by
          rw [Settled, same]
          exact settled
        intro entry member sameKey
        rcases List.mem_cons.mp member with rfl | later
        · exact absurd sameKey apart
        · rw [ih refuses settledNext entry later sameKey, available?, same]
          rfl

/-- New networks can be enabled, or none is added under the key. -/
def Enables (store : NetworkStore) (key : String) : Prop :=
  store.refusesEnabling = false ∨ store.Settled key

theorem Asks.same_answer (asks : Asks store asked final) (numbered : store.Numbered)
    (lasting : IdsLast store final) {left right : Asked} (leftMember : left ∈ asked)
    (rightMember : right ∈ asked) (sameKey : left.key = right.key)
    (enables : store.Enables right.key) : left.answer = right.answer := by
  cases enabling : store.refusesEnabling with
  | false =>
      have serves := asks.serves numbered enabling lasting
      rw [(serves.answered left leftMember).2.2, (serves.answered right rightMember).2.2, sameKey]
  | true =>
      have settled : store.Settled right.key := by
        rcases enables with impossible | settled
        · rw [enabling] at impossible
          cases impossible
        · exact settled
      rw [asks.answer_of_settled enabling settled left leftMember sameKey,
        asks.answer_of_settled enabling settled right rightMember rfl]

end Asking

end NetworkStore

end WifiSelection
