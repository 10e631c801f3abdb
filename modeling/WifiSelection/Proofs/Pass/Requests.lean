import WifiSelection.Proofs.Pass.Matching
import WifiSelection.Proofs.Pass.Reports
import WifiSelection.Proofs.Pass.Runs

/-!
The networks that a pass asks the store for. Whatever the answers are, the reports of a pass follow
from them when they depend on the key alone.
-/

namespace WifiSelection

open NetworkStore (Asks Asked)

namespace NetworkStore

theorem asks_noteReports (store : NetworkStore) (reports : List Connectable) :
    Asks store [] (store.noteReports reports) := by
  induction reports generalizing store with
  | nil => exact .done store
  | cons report rest ih => exact .note _ _ (ih (store.noteReport report))

theorem Asks.noteReports {store final : NetworkStore} {asked : List Asked}
    (asks : Asks store asked final) (reports : List Connectable) :
    Asks store asked (final.noteReports reports) := by
  have noted := asks.append (final.asks_noteReports reports)
  rwa [List.append_nil] at noted

theorem SameRules.liveScans_eq {before after : NetworkStore} (rules : SameRules before after)
    (scans : List Scan) : after.liveScans scans = before.liveScans scans := by
  simp only [liveScans, isForgotten, rules.forgotten]

end NetworkStore

namespace Nomination.Suggested

def asked (store : NetworkStore) (tier : List SuggestionMatch) : List Asked :=
  (store.readyAll ((firsts tier).map request)).1

theorem reportAll_asks (store : NetworkStore) (tier : List SuggestionMatch) :
    Asks store (asked store tier) (reportAll [] store tier).2 := by
  rw [reportAll_eq]
  exact (store.readyAll_asks _).noteReports _

theorem asked_templates (store : NetworkStore) (tier : List SuggestionMatch) :
    (asked store tier).map Asked.template = (firsts tier).map template := by
  rw [asked, NetworkStore.readyAll_templates, List.map_map]
  rfl

theorem asked_template_mem {store : NetworkStore} {tier : List SuggestionMatch} {entry : Asked}
    (member : entry ∈ asked store tier) : entry.template ∈ tier.map template := by
  have listed : entry.template ∈ (asked store tier).map Asked.template :=
    List.mem_map_of_mem member
  rw [asked_templates] at listed
  exact ((firstOfEach_sublist _ tier).map template).subset listed

theorem admits_of_template_mem {device : DeviceState} {sources : Sources} {scans : List Scan}
    {network : Network} (listed : network ∈ (tier device sources scans).map template) :
    network.fromSuggestion = true ∧ sources.store.admits network.storeKey = true := by
  obtain ⟨found, tiered, rfl⟩ := List.mem_map.mp listed
  exact ⟨rfl, admits_of_mem_tier tiered⟩

theorem asked_complete (store : NetworkStore) {tier : List SuggestionMatch}
    {found : SuggestionMatch} (member : found ∈ tier) :
    ∃ entry ∈ asked store tier, entry.key = (template found).storeKey := by
  have listed : found.network.storeKey ∈
      (firsts tier).map fun found : SuggestionMatch => found.network.storeKey :=
    (mem_map_firstOfEach _).mpr (List.mem_map_of_mem member)
  obtain ⟨first, isFirst, sameKey⟩ := List.mem_map.mp listed
  have isAsked : template first ∈ (asked store tier).map Asked.template := by
    rw [asked_templates]
    exact List.mem_map_of_mem isFirst
  obtain ⟨entry, entryMember, same⟩ := List.mem_map.mp isAsked
  exact ⟨entry, entryMember, (congrArg Network.storeKey same).trans sameKey⟩

theorem reportAll_of_answers {store : NetworkStore} {tier : List SuggestionMatch}
    {answer : String → Option Network}
    (answers : ∀ entry ∈ asked store tier, entry.answer = answer entry.key) :
    (reportAll [] store tier).1 = reportsOf answer tier := by
  rw [reportAll_eq]
  apply List.filterMap_congr
  intro found member
  obtain ⟨entry, isAsked, sameKey⟩ := asked_complete store member
  have given : NetworkStore.answerTo (asked store tier) entry.key = answer entry.key :=
    NetworkStore.answerTo_eq answers isAsked
  rw [sameKey] at given
  exact congrArg (Option.map (reported found)) given

theorem tier_congr {left right : Sources} (networks : left.store.networks = right.store.networks)
    (suggestions : left.suggestions = right.suggestions)
    (providers : left.providers = right.providers) (device : DeviceState) (scans : List Scan) :
    tier device left scans = tier device right scans := by
  have admissible : isAdmissible device left.store = isAdmissible device right.store := by
    funext suggestion
    rw [isAdmissible, isAdmissible, NetworkStore.get?_eq_lookup, NetworkStore.get?_eq_lookup,
      networks]
  simp only [tier, passpointMatches, plainMatches, admissible, suggestions, providers]

end Nomination.Suggested

namespace Nomination.Passpoint

theorem reportAll_asks (store : NetworkStore) (offers : List ProviderMatch) :
    ∃ asked, Asks store asked (reportAll store offers).2 ∧
      asked.map Asked.template = offers.map template ∧
      ∀ answer, (∀ entry ∈ asked, entry.answer = answer entry.key) →
        (reportAll store offers).1 = reportsOf answer offers := by
  have templates := store.readyAll_templates (offers.map request)
  rw [List.map_map] at templates
  rw [reportAll_eq]
  refine ⟨_, (store.readyAll_asks _).noteReports _, templates, ?_⟩
  exact fun answer answers => reportsGiven_eq templates answers

end Nomination.Passpoint

namespace Nominator

open Nomination

theorem nominate_asks (nominator : Nominator) (device : DeviceState) (scans : List Scan)
    (sources : Sources) :
    Asks sources.store (nominator.batch device scans sources).1
      (nominator.nominate device scans sources).2.store := by
  obtain ⟨-, left⟩ := nominator.nominate_eq device scans sources
  have asks : Asks sources.store (nominator.batch device scans sources).1
      (nominator.batch device scans sources).2 := sources.store.readyAll_asks _
  rw [left]
  exact asks.noteReports _

theorem nominate_logs (nominator : Nominator) (device : DeviceState) (scans : List Scan)
    (sources : Sources) :
    NetworkStore.Logs sources.store
      ((nominator.batch device scans sources).1.map Asked.key)
      (nominator.nominate device scans sources).2.store := by
  obtain ⟨-, left⟩ := nominator.nominate_eq device scans sources
  have logs := sources.store.readyAll_logs (nominator.requests device scans sources)
  rw [← sources.store.readyAll_keys] at logs
  rw [left]
  exact logs.noteReports _

def requested (device : DeviceState) (scans : List Scan) (sources : Sources) : List Network :=
  (suggestionTier device scans sources).map Suggested.template ++
    (providerOffers scans sources).map Passpoint.template

def reportsOf (answer : String → Option Network) (device : DeviceState) (scans : List Scan)
    (sources : Sources) : List (Nominator × Connectable) :=
  ((sources.store.liveScans scans).filterMap (Saved.report? sources.store)).map (Prod.mk saved) ++
    ((Suggested.reportsOf answer (suggestionTier device scans sources)).map (Prod.mk suggestion) ++
      (Passpoint.reportsOf answer (providerOffers scans sources)).map (Prod.mk passpoint))

/-- What a pass asks the store for: suggested networks first, then those of providers. -/
structure Asking (device : DeviceState) (scans : List Scan) (sources : Sources)
    (suggested provided : List Asked) (left : NetworkStore) : Prop where
  asks : Asks sources.store (suggested ++ provided) left
  stores : (reportInTurn device scans all sources).2 =
    ⟨left, sources.suggestions, sources.providers.sweep⟩
  suggested_template : ∀ entry ∈ suggested,
    entry.template ∈ (suggestionTier device scans sources).map Suggested.template
  suggested_complete : ∀ found ∈ suggestionTier device scans sources,
    ∃ entry ∈ suggested, entry.key = (Suggested.template found).storeKey
  provided_templates : provided.map Asked.template =
    (providerOffers scans sources).map Passpoint.template
  reports : ∀ answer, (∀ entry ∈ suggested ++ provided, entry.answer = answer entry.key) →
    (reportInTurn device scans all sources).1 = reportsOf answer device scans sources

theorem suggested_run_eq {sources : Sources} {store : NetworkStore}
    (noting : Asks sources.store [] store) (device : DeviceState) (scans : List Scan) :
    Suggested.run device { sources with store } (store.liveScans scans) =
      Suggested.reportAll [] store (suggestionTier device scans sources) := by
  have sameNetworks : store.networks = sources.store.networks :=
    (noting.of_settled fun _ member => absurd member List.not_mem_nil).2.1
  have sameTier : Suggested.tier device { sources with store } (sources.store.liveScans scans) =
      Suggested.tier device sources (sources.store.liveScans scans) := by
    apply Suggested.tier_congr
    · exact sameNetworks
    · rfl
    · rfl
  rw [Suggested.run, noting.sameRules.liveScans_eq, sameTier]
  rfl

theorem passpoint_run_eq {sources : Sources} {store : NetworkStore} {asked : List Asked}
    (asks : Asks sources.store asked store) (scans : List Scan) :
    Passpoint.run { sources with store } (store.liveScans scans) =
      ((Passpoint.reportAll store (providerOffers scans sources)).1,
        ⟨(Passpoint.reportAll store (providerOffers scans sources)).2,
          sources.suggestions, sources.providers.sweep⟩) := by
  rw [Passpoint.run, asks.sameRules.liveScans_eq]
  rfl

theorem exists_asking (device : DeviceState) (scans : List Scan) (sources : Sources) :
    ∃ suggested provided left, Asking device scans sources suggested provided left := by
  let savedStore := (Saved.run sources.store (sources.store.liveScans scans)).2
  let savedSources : Sources := { sources with store := savedStore }
  have noting : Asks sources.store [] savedStore := sources.store.asks_noteReports _
  have suggesting : Suggested.run device savedSources (savedStore.liveScans scans) = _ :=
    suggested_run_eq noting device scans
  let suggested := Suggested.asked savedStore (suggestionTier device scans sources)
  let suggestedStore := (Suggested.run device savedSources (savedStore.liveScans scans)).2
  have suggestedAsks : Asks savedStore suggested suggestedStore := by
    have asks := Suggested.reportAll_asks savedStore (suggestionTier device scans sources)
    rwa [← suggesting] at asks
  have providing : Passpoint.run { sources with store := suggestedStore }
      (suggestedStore.liveScans scans) = _ :=
    passpoint_run_eq (noting.append suggestedAsks) scans
  obtain ⟨provided, providedAsks, providedTemplates, providedReports⟩ :=
    Passpoint.reportAll_asks suggestedStore (providerOffers scans sources)
  have passed : reportInTurn device scans all sources =
      ((Saved.run sources.store (sources.store.liveScans scans)).1.map (Prod.mk saved) ++
        ((Suggested.run device savedSources (savedStore.liveScans scans)).1.map
            (Prod.mk suggestion) ++
          ((Passpoint.run { sources with store := suggestedStore }
            (suggestedStore.liveScans scans)).1.map (Prod.mk passpoint) ++ [])),
        (Passpoint.run { sources with store := suggestedStore }
          (suggestedStore.liveScans scans)).2) :=
    rfl
  refine ⟨suggested, provided, _, noting.append (suggestedAsks.append providedAsks), ?_,
    fun entry member => Suggested.asked_template_mem member,
    fun found tiered => Suggested.asked_complete savedStore tiered, providedTemplates, ?_⟩
  · rw [passed, providing]
  · intro answer answers
    have fromSuggested := Suggested.reportAll_of_answers
      fun entry early => answers entry (List.mem_append_left _ early)
    have fromProvided := providedReports answer
      fun entry late => answers entry (List.mem_append_right _ late)
    rw [passed, providing, suggesting, fromSuggested, fromProvided, List.append_nil]
    rfl

namespace Asking

variable {device : DeviceState} {scans : List Scan} {sources : Sources}
  {suggested provided : List Asked} {left : NetworkStore}

theorem template_mem (asking : Asking device scans sources suggested provided left)
    {entry : Asked} (member : entry ∈ suggested ++ provided) :
    entry.template ∈ requested device scans sources := by
  rcases List.mem_append.mp member with early | late
  · exact List.mem_append_left _ (asking.suggested_template entry early)
  · refine List.mem_append_right _ ?_
    rw [← asking.provided_templates]
    exact List.mem_map_of_mem late

theorem complete (asking : Asking device scans sources suggested provided left)
    {network : Network} (member : network ∈ requested device scans sources) :
    ∃ entry ∈ suggested ++ provided, entry.key = network.storeKey := by
  rcases List.mem_append.mp member with early | late
  · obtain ⟨found, tiered, rfl⟩ := List.mem_map.mp early
    obtain ⟨entry, asked, same⟩ := asking.suggested_complete found tiered
    exact ⟨entry, List.mem_append_left _ asked, same⟩
  · rw [← asking.provided_templates] at late
    obtain ⟨entry, asked, rfl⟩ := List.mem_map.mp late
    exact ⟨entry, List.mem_append_right _ asked, rfl⟩

end Asking

section Settled

variable {device : DeviceState} {scans : List Scan} {sources : Sources}

theorem settled_of_added_eq
    (unchanged : (reportInTurn device scans all sources).2.store.added = sources.store.added) :
    ∀ network ∈ requested device scans sources, sources.store.Settled network.storeKey := by
  obtain ⟨suggested, provided, left, asking⟩ := exists_asking device scans sources
  rw [asking.stores] at unchanged
  intro network member
  obtain ⟨entry, asked, same⟩ := asking.complete member
  exact same ▸ asking.asks.settled_of_added_eq unchanged entry asked

theorem reportInTurn_of_settled
    (settled : ∀ network ∈ requested device scans sources,
      sources.store.Settled network.storeKey) :
    (reportInTurn device scans all sources).1 =
        reportsOf sources.store.available? device scans sources ∧
      (reportInTurn device scans all sources).2.store.added = sources.store.added ∧
      (reportInTurn device scans all sources).2.store.networks =
        NetworkStore.rouseAll sources.store.refusedIds sources.store.networks
          ((requested device scans sources).map Network.storeKey) := by
  obtain ⟨suggested, provided, left, asking⟩ := exists_asking device scans sources
  obtain ⟨added, networks, answers⟩ := asking.asks.of_settled fun entry member =>
    settled entry.template (asking.template_mem member)
  rw [asking.stores]
  refine ⟨asking.reports _ answers, added, networks.trans (NetworkStore.rouseAll_congr ?_)⟩
  intro key
  rw [List.mem_map, List.mem_map]
  constructor
  · rintro ⟨entry, member, same⟩
    exact ⟨entry.template, asking.template_mem member, same⟩
  · rintro ⟨network, member, same⟩
    obtain ⟨entry, asked, sameKey⟩ := asking.complete member
    exact ⟨entry, asked, sameKey.trans same⟩

end Settled

end Nominator

end WifiSelection
