import WifiSelection.Nomination
import WifiSelection.Proofs.Store.Locality

/-!
Networks made ready one after the other in one batch. Noting scans commutes with it, so a run that
does both comes to a batch and its notes. A batch keeps every stored network up to its status, and of
each request the logs show at most one network added or one tried.
-/

namespace WifiSelection

namespace NetworkStore

structure Request where
  template : Network
  creator : App

def Request.key (request : Request) : String :=
  request.template.storeKey

def readyAll (store : NetworkStore) : List Request → List Asked × NetworkStore
  | [] => ([], store)
  | request :: rest =>
    let (answer, next) := store.ensureReady request.template request.creator
    let (asked, final) := next.readyAll rest
    (⟨request.template, answer⟩ :: asked, final)

def noteReports (store : NetworkStore) (reports : List Connectable) : NetworkStore :=
  reports.foldl noteReport store

theorem noteReports_eq (store : NetworkStore) (reports : List Connectable) :
    store.noteReports reports =
      { store with
        scanResults := store.scanResults ++
          reports.map fun report => (report.network.id, report.scan.bssid) } := by
  induction reports generalizing store with
  | nil => simp [noteReports]
  | cons report rest ih =>
      have step : store.noteReports (report :: rest) =
          (store.noteReport report).noteReports rest := rfl
      rw [step, ih]
      simp [noteReport, noteScan]

theorem noteReports_append (store : NetworkStore) (first second : List Connectable) :
    store.noteReports (first ++ second) = (store.noteReports first).noteReports second :=
  List.foldl_append

section One

variable {store next : NetworkStore} {template : Network} {answer : Option Network} {creator : App}

theorem ensureReady_noteReport (store : NetworkStore) (template : Network) (creator : App)
    (report : Connectable) :
    (store.noteReport report).ensureReady template creator =
      ((store.ensureReady template creator).1,
        (store.ensureReady template creator).2.noteReport report) := by
  have same : (store.noteReport report).get? template.storeKey = store.get? template.storeKey :=
    rfl
  cases found : store.get? template.storeKey with
  | some stored =>
      cases enabled : stored.isEnabled with
      | true =>
          rw [ensureReady_of_enabled found enabled,
            ensureReady_of_enabled (same.trans found) enabled]
      | false =>
          rw [ensureReady_of_disabled found enabled,
            ensureReady_of_disabled (same.trans found) enabled]
          rfl
  | none =>
      cases adding : store.refusesAdding with
      | true =>
          rw [ensureReady_of_unsaved found adding,
            ensureReady_of_unsaved (same.trans found) adding]
      | false =>
          have sameRule : (store.noteReport report).refusesEnabling = store.refusesEnabling := rfl
          rw [ensureReady_of_new found adding, ensureReady_of_new (same.trans found) adding,
            sameRule]
          split <;> rfl

theorem get?_of_added (ready : store.ensureReady template creator = (answer, next))
    (absent : store.get? template.storeKey = none) (adds : store.refusesAdding = false) :
    next.added = store.added ++ [(store.nextId, creator)] ∧
      next.enableAttempts = store.enableAttempts ∧
      ∃ new, next.get? template.storeKey = some new ∧ new.id = store.nextId := by
  have absentNewcomer : lookup store.networks (store.newcomer template creator).storeKey = none :=
    absent
  have placed : lookup (store.withNewcomer template creator).networks template.storeKey =
      some (store.newcomer template creator) :=
    (lookup_place absentNewcomer template.storeKey).trans (if_pos rfl)
  rw [ensureReady_of_new absent adds] at ready
  split at ready
  · obtain ⟨-, rfl⟩ := Prod.mk.inj ready
    exact ⟨rfl, rfl, _, placed, rfl⟩
  · obtain ⟨-, rfl⟩ := Prod.mk.inj ready
    obtain ⟨new, found, persists⟩ := lookup_setStatus_enabled placed store.nextId
    exact ⟨rfl, rfl, new, found, persists.id_eq⟩

theorem logs_of_ensureReady (ready : store.ensureReady template creator = (answer, next)) :
    next.added = store.added ∧ next.enableAttempts = store.enableAttempts ∨
    next.added = store.added ∧ (∃ stored, next.get? template.storeKey = some stored ∧
      next.enableAttempts = store.enableAttempts ++ [stored.id]) ∨
    store.get? template.storeKey = none ∧ next.added = store.added ++ [(store.nextId, creator)] ∧
      next.enableAttempts = store.enableAttempts ∧
      ∃ new, next.get? template.storeKey = some new ∧ new.id = store.nextId := by
  cases found : store.get? template.storeKey with
  | some stored =>
      cases enabled : stored.isEnabled with
      | true =>
          rw [ensureReady_of_enabled found enabled] at ready
          obtain ⟨-, rfl⟩ := Prod.mk.inj ready
          exact Or.inl ⟨rfl, rfl⟩
      | false =>
          obtain ⟨kept, foundKept, persists⟩ := kept_of_ensureReady ready found
          rw [ensureReady_of_disabled found enabled] at ready
          obtain ⟨-, rfl⟩ := Prod.mk.inj ready
          refine Or.inr (Or.inl ⟨rfl, kept, foundKept, ?_⟩)
          rw [persists.id_eq]
          rfl
  | none =>
      cases adding : store.refusesAdding with
      | true =>
          rw [ensureReady_of_unsaved found adding] at ready
          obtain ⟨-, rfl⟩ := Prod.mk.inj ready
          exact Or.inl ⟨rfl, rfl⟩
      | false => exact Or.inr (Or.inr ⟨rfl, get?_of_added ready found adding⟩)

end One

section Batch

theorem readyAll_cons {store next : NetworkStore} {request : Request} {answer : Option Network}
    (ready : store.ensureReady request.template request.creator = (answer, next))
    (rest : List Request) :
    store.readyAll (request :: rest) =
      (⟨request.template, answer⟩ :: (next.readyAll rest).1, (next.readyAll rest).2) := by
  simp only [readyAll, ready]

theorem readyAll_noteReport (store : NetworkStore) (requests : List Request)
    (report : Connectable) :
    (store.noteReport report).readyAll requests =
      ((store.readyAll requests).1, (store.readyAll requests).2.noteReport report) := by
  induction requests generalizing store with
  | nil => rfl
  | cons request rest ih =>
      rcases ready : store.ensureReady request.template request.creator with ⟨answer, next⟩
      have noted := store.ensureReady_noteReport request.template request.creator report
      rw [ready] at noted
      rw [readyAll_cons noted, readyAll_cons ready, ih]

theorem readyAll_noteReports (store : NetworkStore) (requests : List Request)
    (reports : List Connectable) :
    (store.noteReports reports).readyAll requests =
      ((store.readyAll requests).1, (store.readyAll requests).2.noteReports reports) := by
  induction reports generalizing store with
  | nil => rfl
  | cons report rest ih =>
      rw [noteReports, List.foldl_cons, ← noteReports, ih, readyAll_noteReport]
      rfl

theorem readyAll_templates (store : NetworkStore) (requests : List Request) :
    (store.readyAll requests).1.map Asked.template = requests.map Request.template := by
  induction requests generalizing store with
  | nil => rfl
  | cons request rest ih =>
      rcases ready : store.ensureReady request.template request.creator with ⟨answer, next⟩
      rw [readyAll_cons ready, List.map_cons, List.map_cons, ih]

theorem readyAll_keys (store : NetworkStore) (requests : List Request) :
    (store.readyAll requests).1.map Asked.key = requests.map Request.key := by
  have templates := congrArg (List.map Network.storeKey) (store.readyAll_templates requests)
  rw [List.map_map, List.map_map] at templates
  exact templates

theorem readyAll_asks (store : NetworkStore) (requests : List Request) :
    Asks store (store.readyAll requests).1 (store.readyAll requests).2 := by
  induction requests generalizing store with
  | nil => exact .done store
  | cons request rest ih =>
      rcases ready : store.ensureReady request.template request.creator with ⟨answer, next⟩
      rw [readyAll_cons ready]
      exact .ask request.creator ready (ih next)

theorem kept_of_readyAll {store : NetworkStore} {key : String} {network : Network}
    (found : store.get? key = some network) (requests : List Request) :
    ∃ kept, (store.readyAll requests).2.get? key = some kept ∧ network.Persists kept :=
  (store.readyAll_asks requests).kept found

/-- What requests for some keys add to the logs: for each occurrence of a key at most one network
added and at most one tried, under the id that is found under the key in the end. -/
structure Logs (store : NetworkStore) (keys : List String) (final : NetworkStore) : Prop where
  added : ∃ adds : List (String × Int32 × App), (adds.map Prod.fst).Sublist keys ∧
    final.added = store.added ++ adds.map Prod.snd ∧
    ∀ key id creator, (key, id, creator) ∈ adds → store.get? key = none ∧
      ∃ new, final.get? key = some new ∧ new.id = id
  tried : ∃ tries : List (String × Int32), (tries.map Prod.fst).Sublist keys ∧
    final.enableAttempts = store.enableAttempts ++ tries.map Prod.snd ∧
    ∀ key id, (key, id) ∈ tries → ∃ stored, final.get? key = some stored ∧ stored.id = id

theorem Logs.refl (store : NetworkStore) : Logs store [] store where
  added := ⟨[], .slnil, (List.append_nil _).symm, fun _ _ _ member => absurd member List.not_mem_nil⟩
  tried := ⟨[], .slnil, (List.append_nil _).symm, fun _ _ member => absurd member List.not_mem_nil⟩

theorem Logs.noteReports {store final : NetworkStore} {keys : List String}
    (logs : Logs store keys final) (reports : List Connectable) :
    Logs store keys (final.noteReports reports) := by
  rw [noteReports_eq]
  exact ⟨logs.added, logs.tried⟩

theorem get?_eq_none_of_ensureReady {store next : NetworkStore} {template : Network}
    {answer : Option Network} {creator : App} {key : String}
    (ready : store.ensureReady template creator = (answer, next)) (absent : next.get? key = none) :
    store.get? key = none := by
  rw [Option.eq_none_iff_forall_ne_some]
  intro network found
  obtain ⟨kept, foundKept, -⟩ := kept_of_ensureReady ready found
  rw [absent] at foundKept
  cases foundKept

/-- The networks that are saved while requests are served in turn: the key, the id and the app of
each. A request has its network saved when none is stored under its key. -/
def additions (store : NetworkStore) : List Request → List (String × Int32 × App)
  | [] => []
  | request :: rest =>
    let later := (store.ensureReady request.template request.creator).2.additions rest
    match store.get? request.key with
    | some _ => later
    | none =>
      match (store.save request.template request.creator).1 with
      | some id => (request.key, id, request.creator) :: later
      | none => later

theorem additions_cons {store next : NetworkStore} {request : Request} {answer : Option Network}
    (ready : store.ensureReady request.template request.creator = (answer, next))
    (rest : List Request) :
    ∃ own : List (String × Int32 × App),
      store.additions (request :: rest) = own ++ next.additions rest ∧
      (own.map Prod.fst).Sublist [request.key] ∧
      next.added = store.added ++ own.map Prod.snd ∧
      ∀ key id creator, (key, id, creator) ∈ own →
        store.get? key = none ∧ ∃ new, next.get? key = some new ∧ new.id = id := by
  have nothing : ∀ key id creator, (key, id, creator) ∈ ([] : List (String × Int32 × App)) →
      store.get? key = none ∧ ∃ new, next.get? key = some new ∧ new.id = id :=
    fun _ _ _ member => absurd member List.not_mem_nil
  rw [additions, ready]
  cases found : store.get? request.key with
  | some stored =>
      have settled : store.Settled request.template.storeKey :=
        Or.inl (Option.isSome_of_eq_some found)
      obtain ⟨attempts, eq⟩ := ensureReady_of_settled settled request.creator
      obtain ⟨-, rfl⟩ := Prod.mk.inj (eq.symm.trans ready)
      exact ⟨[], rfl, List.nil_sublist _, (List.append_nil _).symm, nothing⟩
  | none =>
      have absent : store.get? request.template.storeKey = none := found
      cases adding : store.refusesAdding with
      | true =>
          rw [ensureReady_of_unsaved absent adding] at ready
          obtain ⟨-, rfl⟩ := Prod.mk.inj ready
          have unsaved : (store.save request.template request.creator).1 = none := by
            rw [save, if_pos adding]
          rw [unsaved]
          exact ⟨[], rfl, List.nil_sublist _, (List.append_nil _).symm, nothing⟩
      | false =>
          obtain ⟨grown, -, new, stored, newId⟩ := get?_of_added ready absent adding
          rw [save_of_new absent adding]
          refine ⟨[(request.key, store.nextId, request.creator)], rfl, List.Sublist.refl _, grown,
            ?_⟩
          intro key id creator member
          obtain ⟨rfl, sameRest⟩ := Prod.mk.inj (List.mem_singleton.mp member)
          obtain ⟨rfl, -⟩ := Prod.mk.inj sameRest
          exact ⟨found, new, stored, newId⟩

theorem readyAll_added (store : NetworkStore) (requests : List Request) :
    (store.readyAll requests).2.added =
      store.added ++ (store.additions requests).map Prod.snd := by
  induction requests generalizing store with
  | nil => exact (List.append_nil _).symm
  | cons request rest ih =>
      rcases ready : store.ensureReady request.template request.creator with ⟨answer, next⟩
      obtain ⟨own, saved, -, grown, -⟩ := additions_cons ready rest
      rw [readyAll_cons ready, ih, grown, saved, List.map_append, List.append_assoc]

theorem additions_sublist (store : NetworkStore) (requests : List Request) :
    ((store.additions requests).map Prod.fst).Sublist (requests.map Request.key) := by
  induction requests generalizing store with
  | nil => exact .slnil
  | cons request rest ih =>
      rcases ready : store.ensureReady request.template request.creator with ⟨answer, next⟩
      obtain ⟨own, saved, ownKey, -, -⟩ := additions_cons ready rest
      rw [saved, List.map_append, List.map_cons]
      exact ownKey.append (ih next)

theorem additions_new {store : NetworkStore} {requests : List Request} {key : String} {id : Int32}
    {creator : App} (saved : (key, id, creator) ∈ store.additions requests) :
    store.get? key = none ∧
      ∃ new, (store.readyAll requests).2.get? key = some new ∧ new.id = id := by
  induction requests generalizing store with
  | nil => cases saved
  | cons request rest ih =>
      rcases ready : store.ensureReady request.template request.creator with ⟨answer, next⟩
      obtain ⟨own, eq, -, -, ownNew⟩ := additions_cons ready rest
      rw [eq] at saved
      rw [readyAll_cons ready]
      rcases List.mem_append.mp saved with here | later
      · obtain ⟨absent, new, found, newId⟩ := ownNew key id creator here
        obtain ⟨kept, foundKept, persists⟩ := kept_of_readyAll found rest
        exact ⟨absent, kept, foundKept, persists.id_eq.trans newId⟩
      · obtain ⟨absent, found⟩ := ih later
        exact ⟨get?_eq_none_of_ensureReady ready absent, found⟩

theorem additions_nodup (store : NetworkStore) (requests : List Request) :
    ((store.additions requests).map Prod.fst).Nodup := by
  induction requests generalizing store with
  | nil => exact List.nodup_nil
  | cons request rest ih =>
      rcases ready : store.ensureReady request.template request.creator with ⟨answer, next⟩
      obtain ⟨own, saved, ownKey, -, ownNew⟩ := additions_cons ready rest
      rw [saved, List.map_append]
      refine (List.nodup_singleton request.key |>.sublist ownKey).append (ih next) ?_
      intro key here later
      obtain ⟨⟨_, id, creator⟩, ownMember, rfl⟩ := List.mem_map.mp here
      obtain ⟨⟨_, laterId, laterCreator⟩, laterMember, rfl⟩ := List.mem_map.mp later
      obtain ⟨-, new, found, -⟩ := ownNew _ id creator ownMember
      rw [(additions_new laterMember).1] at found
      cases found

theorem readyAll_tries (store : NetworkStore) (requests : List Request) :
    ∃ tries : List (String × Int32), (tries.map Prod.fst).Sublist (requests.map Request.key) ∧
      (store.readyAll requests).2.enableAttempts = store.enableAttempts ++ tries.map Prod.snd ∧
      ∀ key id, (key, id) ∈ tries →
        ∃ stored, (store.readyAll requests).2.get? key = some stored ∧ stored.id = id := by
  induction requests generalizing store with
  | nil => exact (Logs.refl store).tried
  | cons request rest ih =>
      rcases ready : store.ensureReady request.template request.creator with ⟨answer, next⟩
      obtain ⟨tries, tryKeys, tried, triedOnes⟩ := ih next
      rw [readyAll_cons ready, List.map_cons]
      rcases logs_of_ensureReady ready with
        ⟨-, sameTried⟩ | ⟨-, stored, found, grown⟩ | ⟨-, -, sameTried, -⟩
      · exact ⟨tries, tryKeys.cons _, sameTried ▸ tried, triedOnes⟩
      · -- What is tried is still found under its key in the end.
        obtain ⟨kept, foundKept, persists⟩ := kept_of_readyAll found rest
        refine ⟨(request.key, stored.id) :: tries, tryKeys.cons_cons _, ?_, ?_⟩
        · rw [tried, grown, List.append_assoc]
          rfl
        · intro key id member
          rcases List.mem_cons.mp member with same | later
          · obtain ⟨rfl, rfl⟩ := Prod.mk.inj same
            exact ⟨kept, foundKept, persists.id_eq⟩
          · exact triedOnes key id later
      · exact ⟨tries, tryKeys.cons _, sameTried ▸ tried, triedOnes⟩

theorem readyAll_logs (store : NetworkStore) (requests : List Request) :
    Logs store (requests.map Request.key) (store.readyAll requests).2 where
  added := ⟨store.additions requests, store.additions_sublist requests,
    store.readyAll_added requests, fun _ _ _ => additions_new⟩
  tried := store.readyAll_tries requests

theorem readyAll_append (store : NetworkStore) (first second : List Request) :
    store.readyAll (first ++ second) =
      let early := store.readyAll first
      let late := early.2.readyAll second
      (early.1 ++ late.1, late.2) := by
  induction first generalizing store with
  | nil => rfl
  | cons request rest ih =>
      rcases ready : store.ensureReady request.template request.creator with ⟨answer, next⟩
      rw [List.cons_append, readyAll_cons ready, readyAll_cons ready, ih]
      rfl

theorem mem_of_readyAll {store : NetworkStore} {requests : List Request} {network : Network}
    (member : network ∈ (store.readyAll requests).2.networks) :
    (∃ origin ∈ store.networks, origin.Persists network) ∨
      store.get? network.storeKey = none := by
  induction requests generalizing store with
  | nil => exact Or.inl ⟨network, member, .refl network⟩
  | cons request rest ih =>
      rcases ready : store.ensureReady request.template request.creator with ⟨answer, next⟩
      rw [readyAll_cons ready] at member
      rcases ih member with ⟨middle, middleMember, second⟩ | absent
      · obtain ⟨origin, stored | ⟨new, rfl⟩, first⟩ := mem_of_ensureReady ready middleMember
        · exact Or.inl ⟨origin, stored, first.trans second⟩
        · right
          rw [second.storeKey_eq, first.storeKey_eq]
          exact new
      · exact Or.inr (get?_eq_none_of_ensureReady ready absent)

end Batch

end NetworkStore

end WifiSelection
