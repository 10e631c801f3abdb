import WifiSelection.Proofs.Pass.Permutation

/-!
Running a pass again on the stores that it left. What the first run stored or enabled is suggested or
a Passpoint network, so it is no saved network to report; a suggestion that is admissible no more was
not nominated before; and every network that is asked for is settled and rested.
-/

namespace WifiSelection

open NetworkStore (Asked Serves)

namespace Network

theorem roused_fromSuggestion (refused : List Int32) (network : Network) :
    (network.roused refused).fromSuggestion = network.fromSuggestion := by
  rw [roused]
  split <;> rfl

theorem roused_isPasspoint (refused : List Int32) (network : Network) :
    (network.roused refused).isPasspoint = network.isPasspoint := by
  rw [roused]
  split <;> rfl

end Network

namespace Nomination

namespace Saved

theorem isEligible_of_fromSuggestion {network : Network}
    (suggested : network.fromSuggestion = true) : isEligible network = false := by
  simp [isEligible, suggested]

theorem isEligible_of_isPasspoint {network : Network} (passpoint : network.isPasspoint = true) :
    isEligible network = false := by
  simp [isEligible, passpoint]

theorem isEligible_of_disabled {network : Network} (disabled : network.isEnabled = false) :
    isEligible network = false := by
  simp [isEligible, disabled]

end Saved

namespace Suggested

variable {device : DeviceState} {sources after : Sources} {scans : List Scan}

section Narrower

variable (suggestions : after.suggestions = sources.suggestions)
  (providers : after.providers.match? = sources.providers.match?)
  (narrower : ∀ key, after.store.admits key = true → sources.store.admits key = true)

include narrower in
theorem isAdmissible_of_narrower (device : DeviceState) (suggestion : Suggestion) :
    isAdmissible device after.store suggestion =
      (after.store.admits suggestion.network.storeKey &&
        isAdmissible device sources.store suggestion) := by
  rw [isAdmissible_eq, isAdmissible_eq]
  cases admitted : after.store.admits suggestion.network.storeKey with
  | true => rw [narrower _ admitted, Bool.true_and]
  | false => rw [Bool.and_false, Bool.false_and]

include suggestions providers narrower in
theorem passpointMatches_of_narrower :
    passpointMatches device after scans = (passpointMatches device sources scans).filter
      fun found => after.store.admits found.network.storeKey := by
  rw [passpointMatches, passpointMatches, suggestions, providers, List.filter_flatMap]
  congr 1
  funext offer
  rw [List.filter_map, List.filter_filter]
  congr 1
  apply List.filter_congr
  intro suggestion member
  rw [isAdmissible_of_narrower narrower, Function.comp_apply,
    Network.storeKey_forAccessPoint (isPasspoint_of_mem_forProvider member)]

include suggestions narrower in
theorem plainMatches_of_narrower :
    plainMatches device after scans = (plainMatches device sources scans).filter
      fun found => after.store.admits found.network.storeKey := by
  rw [plainMatches, plainMatches, suggestions, List.filter_flatMap]
  congr 1
  funext scan
  rw [List.filter_map, List.filter_filter]
  congr 1
  apply List.filter_congr
  intro suggestion _
  rw [isAdmissible_of_narrower narrower, Function.comp_apply]

include suggestions providers narrower in
theorem tier_of_narrower (tops : ∀ found ∈ tier device sources scans,
      after.store.admits found.network.storeKey = true) :
    tier device after scans = tier device sources scans := by
  rw [tier, passpointMatches_of_narrower suggestions providers narrower,
    plainMatches_of_narrower suggestions narrower, ← List.filter_append]
  exact topPerApp_filter _ tops

end Narrower

end Suggested

end Nomination

namespace Nominator.Asking

open Nomination

variable {device : DeviceState} {scans : List Scan} {sources : Sources}
  {suggested provided : List Asked} {left : NetworkStore} {entry : Asked} {key : String}

theorem of_suggested (asking : Asking device scans sources suggested provided left)
    (member : entry ∈ suggested) :
    entry.template.fromSuggestion = true ∧ sources.store.admits entry.key = true :=
  Suggested.admits_of_template_mem (asking.suggested_template entry member)

theorem of_provided (asking : Asking device scans sources suggested provided left)
    (named : sources.ProvidersNamed) (separate : sources.KeysSeparate)
    (member : entry ∈ provided) :
    entry.template.isPasspoint = true ∧ ∀ stored, sources.store.get? entry.key = some stored →
      stored.isPasspoint = true := by
  have listed : entry.template ∈ provided.map Asked.template := List.mem_map_of_mem member
  rw [asking.provided_templates] at listed
  obtain ⟨found, offered, eq⟩ := List.mem_map.mp listed
  obtain ⟨ssid, installed⟩ := ProviderDirectory.mem_of_match?
    (ProviderMatch.matched_of_mem_ofScans offered)
  have passpoint : found.provider.network.isPasspoint = true := named _ installed
  have sameKey : entry.key = found.provider.network.storeKey := by
    rw [Asked.key, ← eq]
    exact Network.storeKey_forAccessPoint passpoint found.scan found.kind
  refine ⟨eq ▸ passpoint, fun stored isStored => ?_⟩
  rw [← passpoint]
  refine separate stored ?_ found.provider.network ?_ ?_
  · exact List.mem_append_left _ (NetworkStore.mem_of_lookup isStored)
  · exact List.mem_append_right _ (List.mem_append_right _
      (List.mem_map_of_mem (f := fun entry => entry.2.1.network) installed))
  · rw [← sameKey]
    exact NetworkStore.storeKey_of_lookup isStored

theorem left_admits (asking : Asking device scans sources suggested provided left)
    (serves : Serves sources.store (suggested ++ provided) left) {found : SuggestionMatch}
    (tiered : found ∈ suggestionTier device scans sources) :
    left.admits found.network.storeKey = true := by
  have admitted := Suggested.admits_of_mem_tier tiered
  rw [NetworkStore.admits] at admitted ⊢
  cases before : sources.store.get? found.network.storeKey with
  | some stored =>
      rw [before] at admitted
      rcases serves.kept _ stored before with same | changed
      · rw [same]
        exact admitted
      · rw [changed, Option.all_some, Network.roused_fromSuggestion]
        exact admitted
  | none =>
      cases now : left.get? found.network.storeKey with
      | none => rfl
      | some new =>
          obtain ⟨-, entry, earliest, id, creator, made⟩ := serves.added _ new before now
          obtain ⟨request, asked, sameKey⟩ := asking.suggested_complete found tiered
          have hit : (suggested.find? fun entry => entry.key = found.network.storeKey).isSome :=
            List.find?_isSome.mpr ⟨request, asked, decide_eq_true sameKey⟩
          obtain ⟨first, isFirst⟩ := Option.isSome_iff_exists.mp hit
          rw [List.find?_append, isFirst] at earliest
          injection earliest with earliest
          have member := List.mem_of_find?_eq_some isFirst
          rw [Option.all_some, made, ← earliest]
          exact (asking.of_suggested member).1

theorem not_isEligible_of_asked (asking : Asking device scans sources suggested provided left)
    (named : sources.ProvidersNamed) (separate : sources.KeysSeparate)
    (member : entry ∈ suggested ++ provided) {stored : Network}
    (before : sources.store.get? entry.key = some stored) (refused : List Int32) :
    Saved.isEligible (stored.roused refused) = false := by
  rcases List.mem_append.mp member with early | late
  · have admitted := (asking.of_suggested early).2
    rw [NetworkStore.admits, before] at admitted
    apply Saved.isEligible_of_fromSuggestion
    rw [Network.roused_fromSuggestion]
    exact admitted
  · apply Saved.isEligible_of_isPasspoint
    rw [Network.roused_isPasspoint]
    exact (asking.of_provided named separate late).2 stored before

theorem not_isEligible_of_new (asking : Asking device scans sources suggested provided left)
    (serves : Serves sources.store (suggested ++ provided) left)
    (named : sources.ProvidersNamed) (separate : sources.KeysSeparate) {new : Network}
    (before : sources.store.get? key = none) (now : left.get? key = some new) :
    Saved.isEligible new = false := by
  obtain ⟨-, first, earliest, id, creator, made⟩ := serves.added key new before now
  rw [made]
  rcases List.mem_append.mp (List.mem_of_find?_eq_some earliest) with early | late
  · exact Saved.isEligible_of_fromSuggestion (asking.of_suggested early).1
  · exact Saved.isEligible_of_isPasspoint (asking.of_provided named separate late).1

theorem eligible_get? (asking : Asking device scans sources suggested provided left)
    (serves : Serves sources.store (suggested ++ provided) left)
    (named : sources.ProvidersNamed) (separate : sources.KeysSeparate) (key : String) :
    (left.get? key).filter Saved.isEligible =
      (sources.store.get? key).filter Saved.isEligible := by
  by_cases asked : ∃ entry ∈ suggested ++ provided, entry.key = key
  · obtain ⟨entry, member, rfl⟩ := asked
    cases before : sources.store.get? entry.key with
    | some stored =>
        rcases serves.kept _ stored before with same | changed
        · rw [same]
        · cases asleep : stored.isAsleep sources.store.refusedIds with
          | false => rw [changed, Network.roused_of_not_asleep asleep]
          | true =>
              have disabled : stored.isEnabled = false := by
                rw [Network.isAsleep, Bool.and_eq_true, Bool.not_eq_true'] at asleep
                exact asleep.1
              have foreign := asking.not_isEligible_of_asked named separate member before
                sources.store.refusedIds
              rw [changed, Option.filter_some_neg (by simp [foreign]),
                Option.filter_some_neg (by simp [Saved.isEligible_of_disabled disabled])]
    | none =>
        cases now : left.get? entry.key with
        | none => rfl
        | some new =>
            have foreign := asking.not_isEligible_of_new serves named separate before now
            rw [Option.filter_some_neg (by simp [foreign]), Option.filter_none]
  · rw [serves.untouched key fun entry member same => asked ⟨entry, member, same⟩]

theorem suggestionTier_again (asking : Asking device scans sources suggested provided left)
    (serves : Serves sources.store (suggested ++ provided) left) :
    suggestionTier device scans ⟨left, sources.suggestions, sources.providers.sweep⟩ =
      suggestionTier device scans sources := by
  have tops : ∀ found ∈ Suggested.tier device sources (sources.store.liveScans scans),
      left.admits found.network.storeKey = true := fun found tiered =>
    asking.left_admits serves tiered
  rw [suggestionTier, suggestionTier, serves.rules.liveScans_eq]
  exact Suggested.tier_of_narrower rfl rfl (fun key => asking.asks.admits_of_final) tops

theorem providerOffers_again (serves : Serves sources.store (suggested ++ provided) left) :
    providerOffers scans ⟨left, sources.suggestions, sources.providers.sweep⟩ =
      providerOffers scans sources := by
  rw [providerOffers, serves.rules.liveScans_eq]
  rfl

theorem reportsOf_again (asking : Asking device scans sources suggested provided left)
    (serves : Serves sources.store (suggested ++ provided) left)
    (named : sources.ProvidersNamed) (separate : sources.KeysSeparate)
    (answer : String → Option Network) :
    reportsOf answer device scans ⟨left, sources.suggestions, sources.providers.sweep⟩ =
      reportsOf answer device scans sources := by
  have savedReports : Saved.report? left = Saved.report? sources.store := by
    funext scan
    rw [Saved.report?_eq, Saved.report?_eq, asking.eligible_get? serves named separate]
  rw [reportsOf, reportsOf, asking.suggestionTier_again serves, providerOffers_again serves,
    serves.rules.liveScans_eq, savedReports]

theorem reportInTurn_again (asking : Asking device scans sources suggested provided left)
    (serves : Serves sources.store (suggested ++ provided) left)
    (named : sources.ProvidersNamed) (separate : sources.KeysSeparate) :
    let again := reportInTurn device scans all
      ⟨left, sources.suggestions, sources.providers.sweep⟩
    again.1 = (reportInTurn device scans all sources).1 ∧
      again.2.store.added = left.added ∧ again.2.store.networks = left.networks := by
  intro again
  have answered : ∀ network ∈
      requested device scans ⟨left, sources.suggestions, sources.providers.sweep⟩,
      left.Settled network.storeKey ∧ left.Rested network.storeKey := by
    intro network member
    rw [requested, asking.suggestionTier_again serves, providerOffers_again serves] at member
    obtain ⟨entry, asked, sameKey⟩ := asking.complete member
    obtain ⟨settled, rested, -⟩ := serves.answered entry asked
    rw [← sameKey]
    exact ⟨settled, rested⟩
  obtain ⟨reports, added, networks⟩ := reportInTurn_of_settled fun network member =>
    (answered network member).1
  refine ⟨?_, added, networks.trans (NetworkStore.rouseAll_eq_self ?_)⟩
  · rw [reports, asking.reports left.available? fun entry asked =>
      (serves.answered entry asked).2.2]
    exact asking.reportsOf_again serves named separate _
  · intro key member
    obtain ⟨network, isRequested, rfl⟩ := List.mem_map.mp member
    exact (answered network isRequested).2

end Nominator.Asking

namespace Selector

/-- A pass that succeeded, on a store that enables new networks and while ids last, comes to the same
outcome when it is run again. The second run saves no network and changes none. -/
theorem select_again {selector : Selector} {input : PassInput} {scans : List Scan}
    {sources left : Sources} {outcome : Outcome} (built : sources.store.Built)
    (distinct : (sources.store.networks.map Network.id).Nodup)
    (enables : sources.store.refusesEnabling = false)
    (lasting : NetworkStore.IdsLast sources.store left.store)
    (named : sources.ProvidersNamed) (separate : sources.KeysSeparate)
    (selected : selector.select input scans sources = (.ok outcome, left)) :
    ∃ again, selector.select input scans left = (.ok outcome, again) ∧
      again.store.added = left.store.added ∧ again.store.networks = left.store.networks := by
  obtain ⟨registry, log, registered, stores, eq⟩ := (select_eq_ok_iff ..).mp selected
  obtain ⟨suggested, provided, store, asking⟩ :=
    Nominator.exists_asking input.device scans sources
  rw [asking.stores] at stores
  subst stores
  have serves := asking.asks.serves ⟨distinct, built.id_lt⟩ enables lasting
  obtain ⟨reports, added, networks⟩ := asking.reportInTurn_again serves named separate
  refine ⟨_, (select_eq_ok_iff ..).mpr ⟨registry, log, ?_, rfl, eq⟩, added, networks⟩
  rw [reports]
  exact registered

def roamingSources : Sources where
  store := restingSources.store
  suggestions := sampleSources.suggestions ++
    [Samples.passpointSuggestion "roam.example" ⟨10002, "right"⟩ 1]
  providers :=
    (ProviderDirectory.empty.add "hub" (Samples.provider "roam.example") .home).add "hall"
      { Samples.provider "roam.example" with fromSuggestion := true } .roaming

def roamingScans : List Scan :=
  sampleScans ++ [Samples.passpointScan "hall" "00:00:00:00:00:03",
    Samples.passpointScan "hub" "00:00:00:00:00:04"]

theorem select_again_sample :
    ∃ selector, ofSettings Settings.standard = .ok selector ∧
      roamingSources.store.Built ∧ (roamingSources.store.networks.map Network.id).Nodup ∧
      roamingSources.store.refusesEnabling = false ∧ roamingSources.ProvidersNamed ∧
      roamingSources.KeysSeparate ∧ ∃ outcome left,
        selector.select sampleInput roamingScans roamingSources = (.ok outcome, left) ∧
        NetworkStore.IdsLast roamingSources.store left.store ∧
        left.store.added ≠ roamingSources.store.added ∧
        ∃ again, selector.select sampleInput roamingScans left = (.ok outcome, again) ∧
          again.store.added = left.store.added ∧ again.store.networks = left.store.networks := by
  have accepted : ofSettings Settings.standard =
      .ok ⟨.standard, .throughput, ⟨28800000000000⟩⟩ := by decide +kernel
  have built : roamingSources.store.Built := by
    refine .insert _ (.insert _ .empty ?_) ?_
    · decide +kernel
    · decide +kernel
  have distinct : (roamingSources.store.networks.map Network.id).Nodup := by decide +kernel
  have named : roamingSources.ProvidersNamed := by decide +kernel
  have separate : roamingSources.KeysSeparate := by decide +kernel
  let left := (Nominator.reportInTurn sampleInput.device roamingScans Nominator.all roamingSources).2
  have lasting : NetworkStore.IdsLast roamingSources.store left.store := by
    rw [NetworkStore.IdsLast]
    decide +kernel
  have grown : left.store.added ≠ roamingSources.store.added := by decide +kernel
  have tolerant : (Selector.mk .standard .throughput ⟨28800000000000⟩
      ).settings.registry.faultPolicy = .tolerant := rfl
  obtain ⟨-, -, outcome, -, selected, -⟩ :=
    select_of_tolerant tolerant sampleInput roamingScans roamingSources
  exact ⟨_, accepted, built, distinct, rfl, named, separate, outcome, left, selected, lasting, grown,
    select_again built distinct rfl lasting named separate selected⟩

end Selector

end WifiSelection
