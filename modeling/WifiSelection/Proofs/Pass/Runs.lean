import WifiSelection.Nomination
import WifiSelection.Proofs.Regrouping
import WifiSelection.Proofs.Store.Batches

/-!
Runs of the nominators that store networks. Such a run is a batch of requests followed by the reports
that the answers make. The suggestions request a configuration key at its first match and remember
the answer for the others; the providers request a network for every match.
-/

namespace WifiSelection

open NetworkStore (Asked Request)

namespace NetworkStore

def answerTo (asked : List Asked) (key : String) : Option Network :=
  (asked.find? fun entry => entry.key = key).bind Asked.answer

theorem answerTo_eq_some {asked : List Asked} {key : String} {network : Network}
    (given : answerTo asked key = some network) :
    ∃ entry ∈ asked, entry.key = key ∧ entry.answer = some network := by
  obtain ⟨entry, first, answered⟩ := Option.bind_eq_some_iff.mp given
  have accepted := List.find?_eq_some_iff_append.mp first
  exact ⟨entry, List.mem_of_find?_eq_some first, of_decide_eq_true accepted.1, answered⟩

theorem answerTo_eq {asked : List Asked} {answer : String → Option Network}
    (answers : ∀ entry ∈ asked, entry.answer = answer entry.key) {entry : Asked}
    (member : entry ∈ asked) : answerTo asked entry.key = answer entry.key := by
  have hit : (asked.find? fun other => other.key = entry.key).isSome = true :=
    List.find?_isSome.mpr ⟨entry, member, decide_eq_true rfl⟩
  obtain ⟨first, isFirst⟩ := Option.isSome_iff_exists.mp hit
  have sameKey : first.key = entry.key :=
    of_decide_eq_true (List.find?_eq_some_iff_append.mp isFirst).1
  rw [answerTo, isFirst, Option.bind_some, answers first (List.mem_of_find?_eq_some isFirst),
    sameKey]

theorem answerTo_of_nodup {asked : List Asked} (distinct : (asked.map Asked.key).Nodup)
    {entry : Asked} (member : entry ∈ asked) : answerTo asked entry.key = entry.answer := by
  induction asked with
  | nil => cases member
  | cons first rest ih =>
      obtain ⟨apart, restDistinct⟩ := List.nodup_cons.mp distinct
      rw [answerTo, List.find?_cons]
      rcases List.mem_cons.mp member with rfl | later
      · simp
      · have otherKey : first.key ≠ entry.key := by
          intro same
          rw [same] at apart
          exact apart (List.mem_map_of_mem later)
        simp only [otherKey, decide_false]
        exact ih restDistinct later

end NetworkStore

namespace Nomination

namespace Suggested

def template (found : SuggestionMatch) : Network :=
  found.network.asSuggestedBy found.app

def request (found : SuggestionMatch) : Request :=
  ⟨template found, found.app⟩

def reportsOf (answer : String → Option Network) (tier : List SuggestionMatch) :
    List Connectable :=
  tier.filterMap fun found => (answer (template found).storeKey).map (reported found)

def report? (asked : List Asked) (found : SuggestionMatch) : Option Connectable :=
  (NetworkStore.answerTo asked found.network.storeKey).map (reported found)

theorem reportsOf_cons (answer : String → Option Network) (found : SuggestionMatch)
    (rest : List SuggestionMatch) :
    reportsOf answer (found :: rest) =
      ((answer (template found).storeKey).map (reported found)).toList ++
        reportsOf answer rest := by
  cases given : answer (template found).storeKey <;> simp [reportsOf, given]

def firsts (tier : List SuggestionMatch) : List SuggestionMatch :=
  firstOfEach (fun found => found.network.storeKey) tier

theorem reportAll_cons {memory nextMemory : Memory} {store next : NetworkStore}
    {found : SuggestionMatch} {known : Option Network}
    (settled : settle memory store found = (known, nextMemory, next))
    (rest : List SuggestionMatch) :
    let reports := (known.map (reported found)).toList
    let later := reportAll nextMemory (next.noteReports reports) rest
    reportAll memory store (found :: rest) = (reports ++ later.1, later.2) := by
  cases known with
  | none => simp [reportAll, settled, NetworkStore.noteReports]
  | some stored => simp [reportAll, settled, NetworkStore.noteReports]

def recalled (memory : Memory) (asked : List Asked) (key : String) : Option Network :=
  (memory.lookup key).getD (NetworkStore.answerTo asked key)

theorem recalled_cons (memory : Memory) {entry : Asked}
    (fresh : memory.lookup entry.key = none) (asked : List Asked) :
    recalled memory (entry :: asked) = recalled ((entry.key, entry.answer) :: memory) asked := by
  funext key
  rw [recalled, recalled, NetworkStore.answerTo, List.find?_cons, List.lookup_cons]
  by_cases same : entry.key = key
  · subst same
    simp [fresh]
  · have apart : (key == entry.key) = false := beq_eq_false_iff_ne.mpr (Ne.symm same)
    simp [same, apart, NetworkStore.answerTo]

def unknown (memory : Memory) (tier : List SuggestionMatch) : List SuggestionMatch :=
  tier.filter fun found => (memory.lookup found.network.storeKey).isNone

theorem unknown_cons_memory (memory : Memory) (key : String) (known : Option Network)
    (tier : List SuggestionMatch) :
    unknown ((key, known) :: memory) tier =
      (unknown memory tier).filter fun found => found.network.storeKey != key := by
  rw [unknown, unknown, List.filter_filter]
  apply List.filter_congr
  intro found _
  rw [List.lookup_cons]
  cases same : found.network.storeKey == key <;> simp [bne, same]

theorem firsts_cons (found : SuggestionMatch) (rest : List SuggestionMatch) :
    firsts (found :: rest) = found :: firsts (rest.filter fun other =>
      other.network.storeKey != found.network.storeKey) :=
  firstOfEach_cons (fun found : SuggestionMatch => found.network.storeKey) found rest

theorem settle_of_known {memory : Memory} {found : SuggestionMatch} {known : Option Network}
    (remembered : memory.lookup found.network.storeKey = some known) (store : NetworkStore) :
    settle memory store found = (known, memory, store) := by
  rw [settle, remembered]

theorem settle_of_new {memory : Memory} {store next : NetworkStore} {found : SuggestionMatch}
    {answer : Option Network} (fresh : memory.lookup found.network.storeKey = none)
    (ready : store.ensureReady (template found) found.app = (answer, next)) :
    settle memory store found = (answer, ((template found).storeKey, answer) :: memory, next) := by
  have readied : store.ensureReady (found.network.asSuggestedBy found.app) found.app =
      (answer, next) := ready
  simp only [settle, fresh, readied]
  rfl

theorem firsts_unknown_cons {memory : Memory} {found : SuggestionMatch}
    (fresh : memory.lookup found.network.storeKey = none) (answer : Option Network)
    (rest : List SuggestionMatch) :
    firsts (unknown memory (found :: rest)) =
      found :: firsts (unknown (((template found).storeKey, answer) :: memory) rest) := by
  have kept : unknown memory (found :: rest) = found :: unknown memory rest := by
    simp [unknown, fresh]
  rw [kept, firsts_cons, unknown_cons_memory]
  rfl

/-- Reporting comes to one batch of requests, for the first match of each key about which nothing is
remembered. -/
theorem reportAll_of_memory (memory : Memory) (store : NetworkStore)
    (tier : List SuggestionMatch) :
    let batch := store.readyAll ((firsts (unknown memory tier)).map request)
    let reports := reportsOf (recalled memory batch.1) tier
    reportAll memory store tier = (reports, batch.2.noteReports reports) := by
  intro batch reports
  -- An answer moves from the batch to the memory as soon as its match is past.
  induction tier generalizing memory store with
  | nil => rfl
  | cons found rest ih =>
      cases remembered : memory.lookup found.network.storeKey with
      | some known =>
          have given : recalled memory batch.1 (template found).storeKey = known := by
            have lookup : memory.lookup (template found).storeKey = some known := remembered
            rw [recalled, lookup, Option.getD_some]
          have same : unknown memory (found :: rest) = unknown memory rest := by
            simp [unknown, remembered]
          have batched : batch = store.readyAll ((firsts (unknown memory rest)).map request) := by
            rw [← same]
          have reported : reports =
              (known.map (reported found)).toList ++ reportsOf (recalled memory batch.1) rest := by
            rw [← given]
            exact reportsOf_cons ..
          rw [reportAll_cons (settle_of_known remembered store), ih,
            NetworkStore.readyAll_noteReports, ← batched, reported,
            NetworkStore.noteReports_append]
      | none =>
          rcases ready : store.ensureReady (request found).template (request found).creator with
            ⟨answer, next⟩
          let grown : Memory := ((template found).storeKey, answer) :: memory
          let later := next.readyAll ((firsts (unknown grown rest)).map request)
          have batched : batch = (⟨template found, answer⟩ :: later.1, later.2) := by
            have first : firsts (unknown memory (found :: rest)) =
                found :: firsts (unknown grown rest) := firsts_unknown_cons remembered answer rest
            have step := NetworkStore.readyAll_cons ready
              ((firsts (unknown grown rest)).map request)
            rw [← List.map_cons, ← first] at step
            exact step
          have recalls : recalled memory batch.1 = recalled grown later.1 := by
            have fresh : memory.lookup (Asked.mk (template found) answer).key = none := remembered
            rw [batched, recalled_cons memory fresh]
            rfl
          have given : recalled grown later.1 (template found).storeKey = answer := by
            rw [recalled, List.lookup_cons_self, Option.getD_some]
          have reported : reports =
              (answer.map (reported found)).toList ++ reportsOf (recalled grown later.1) rest := by
            rw [← given, ← recalls]
            exact reportsOf_cons ..
          rw [reportAll_cons (settle_of_new remembered ready), ih,
            NetworkStore.readyAll_noteReports, reported, batched,
            NetworkStore.noteReports_append]

theorem reportAll_eq (store : NetworkStore) (tier : List SuggestionMatch) :
    let batch := store.readyAll ((firsts tier).map request)
    let reports := reportsOf (NetworkStore.answerTo batch.1) tier
    reportAll [] store tier = (reports, batch.2.noteReports reports) := by
  have unremembered : unknown [] tier = tier := List.filter_true tier
  have batched := reportAll_of_memory [] store tier
  rw [unremembered] at batched
  exact batched

end Suggested

namespace Passpoint

def template (found : ProviderMatch) : Network :=
  found.provider.network.forAccessPoint found.scan found.kind

def request (found : ProviderMatch) : Request :=
  ⟨template found, .system⟩

def reported (found : ProviderMatch) (stored : Network) : Connectable :=
  ⟨found.scan, stored.forAccessPoint found.scan found.kind⟩

def reportsOf (answer : String → Option Network) (offers : List ProviderMatch) :
    List Connectable :=
  offers.filterMap fun found => (answer (template found).storeKey).map (reported found)

def reportsGiven (offers : List ProviderMatch) (asked : List Asked) : List Connectable :=
  (offers.zip asked).filterMap fun (found, entry) => entry.answer.map (reported found)

theorem reportsGiven_cons (found : ProviderMatch) (rest : List ProviderMatch) (entry : Asked)
    (asked : List Asked) :
    reportsGiven (found :: rest) (entry :: asked) =
      (entry.answer.map (reported found)).toList ++ reportsGiven rest asked := by
  cases given : entry.answer <;> simp [reportsGiven, given]

theorem reportAll_cons {store next : NetworkStore} {found : ProviderMatch}
    {answer : Option Network}
    (ready : store.ensureReady (template found) .system = (answer, next))
    (rest : List ProviderMatch) :
    let reports := (answer.map (reported found)).toList
    let later := reportAll (next.noteReports reports) rest
    reportAll store (found :: rest) = (reports ++ later.1, later.2) := by
  have readied : store.ensureReady
      (found.provider.network.forAccessPoint found.scan found.kind) .system = (answer, next) :=
    ready
  cases answer with
  | none => simp [reportAll, readied, NetworkStore.noteReports]
  | some stored => simp [reportAll, readied, NetworkStore.noteReports, reported]

theorem reportAll_eq (store : NetworkStore) (offers : List ProviderMatch) :
    let batch := store.readyAll (offers.map request)
    let reports := reportsGiven offers batch.1
    reportAll store offers = (reports, batch.2.noteReports reports) := by
  intro batch reports
  induction offers generalizing store with
  | nil => rfl
  | cons found rest ih =>
      rcases ready : store.ensureReady (request found).template (request found).creator with
        ⟨answer, next⟩
      have batched : batch = _ := NetworkStore.readyAll_cons ready (rest.map request)
      have reported : reports = (answer.map (reported found)).toList ++
          reportsGiven rest (next.readyAll (rest.map request)).1 := by
        have given : reports = reportsGiven (found :: rest) batch.1 := rfl
        rw [given, batched, reportsGiven_cons]
      rw [reportAll_cons ready, ih, NetworkStore.readyAll_noteReports, reported, batched,
        NetworkStore.noteReports_append]

theorem template_of_mem_zip {offers : List ProviderMatch} {asked : List Asked}
    (templates : asked.map Asked.template = offers.map template) {found : ProviderMatch}
    {entry : Asked} (zipped : (found, entry) ∈ offers.zip asked) :
    entry.template = template found := by
  induction offers generalizing asked with
  | nil => cases zipped
  | cons first rest ih =>
      cases asked with
      | nil => cases templates
      | cons head later =>
          obtain ⟨same, sameLater⟩ := List.cons.inj templates
          rcases List.mem_cons.mp zipped with here | there
          · obtain ⟨rfl, rfl⟩ := Prod.mk.inj here
            exact same
          · exact ih sameLater there

theorem reportsGiven_eq {offers : List ProviderMatch} {asked : List Asked}
    (templates : asked.map Asked.template = offers.map template)
    {answer : String → Option Network}
    (answers : ∀ entry ∈ asked, entry.answer = answer entry.key) :
    reportsGiven offers asked = reportsOf answer offers := by
  induction offers generalizing asked with
  | nil => rfl
  | cons found rest ih =>
      cases asked with
      | nil => cases templates
      | cons entry later =>
          obtain ⟨same, sameLater⟩ := List.cons.inj templates
          have given : entry.answer = answer (template found).storeKey := by
            rw [answers entry List.mem_cons_self, Asked.key, same]
          rw [reportsGiven_cons, given,
            ih sameLater fun entry member => answers entry (List.mem_cons_of_mem _ member)]
          cases known : answer (template found).storeKey <;> simp [reportsOf, known]

end Passpoint

end Nomination

namespace Nominator

open Nomination

def suggestionTier (device : DeviceState) (scans : List Scan) (sources : Sources) :
    List SuggestionMatch :=
  Suggested.tier device sources (sources.store.liveScans scans)

def providerOffers (scans : List Scan) (sources : Sources) : List ProviderMatch :=
  ProviderMatch.ofScans sources.providers.match? .user (sources.store.liveScans scans)

def requests (nominator : Nominator) (device : DeviceState) (scans : List Scan)
    (sources : Sources) : List Request :=
  match nominator with
  | saved => []
  | suggestion =>
    (Suggested.firsts (suggestionTier device scans sources)).map Suggested.request
  | passpoint => (providerOffers scans sources).map Passpoint.request

def batch (nominator : Nominator) (device : DeviceState) (scans : List Scan)
    (sources : Sources) : List Asked × NetworkStore :=
  sources.store.readyAll (nominator.requests device scans sources)

theorem passpoint_templates (device : DeviceState) (scans : List Scan) (sources : Sources) :
    (passpoint.batch device scans sources).1.map Asked.template =
      (providerOffers scans sources).map Passpoint.template := by
  rw [batch, NetworkStore.readyAll_templates, requests, List.map_map]
  rfl

def handled (nominator : Nominator) (device : DeviceState) (scans : List Scan)
    (sources : Sources) : List (String × Option Connectable) :=
  let asked := (nominator.batch device scans sources).1
  match nominator with
  | saved => (sources.store.liveScans scans).map fun scan =>
      (scan.identity.storeKey, Saved.report? sources.store scan)
  | suggestion => (suggestionTier device scans sources).map fun found =>
      (found.network.storeKey, Suggested.report? asked found)
  | passpoint => ((providerOffers scans sources).zip asked).map fun (found, entry) =>
      ((Passpoint.template found).storeKey, entry.answer.map (Passpoint.reported found))

theorem nominate_eq (nominator : Nominator) (device : DeviceState) (scans : List Scan)
    (sources : Sources) :
    let reports := (nominator.handled device scans sources).filterMap Prod.snd
    (nominator.nominate device scans sources).1 = reports ∧
      (nominator.nominate device scans sources).2.store =
        (nominator.batch device scans sources).2.noteReports reports := by
  intro reports
  cases nominator with
  | saved =>
      have found : reports =
          (sources.store.liveScans scans).filterMap (Saved.report? sources.store) :=
        List.filterMap_map ..
      rw [found]
      exact ⟨rfl, rfl⟩
  | suggestion =>
      have ran := Suggested.reportAll_eq sources.store (suggestionTier device scans sources)
      have found : reports = Suggested.reportsOf _ (suggestionTier device scans sources) :=
        List.filterMap_map ..
      rw [found]
      exact ⟨congrArg Prod.fst ran, congrArg Prod.snd ran⟩
  | passpoint =>
      have ran := Passpoint.reportAll_eq sources.store (providerOffers scans sources)
      have found : reports = Passpoint.reportsGiven (providerOffers scans sources) _ :=
        List.filterMap_map ..
      rw [found]
      exact ⟨congrArg Prod.fst ran, congrArg Prod.snd ran⟩

theorem nominate_suggestions (nominator : Nominator) (device : DeviceState) (scans : List Scan)
    (sources : Sources) :
    (nominator.nominate device scans sources).2.suggestions = sources.suggestions := by
  cases nominator <;> rfl

theorem nominate_entries (nominator : Nominator) (device : DeviceState) (scans : List Scan)
    (sources : Sources) : (nominator.nominate device scans sources).2.providers.entries =
      sources.providers.entries := by
  cases nominator <;> rfl

end Nominator

end WifiSelection
