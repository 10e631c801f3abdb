import WifiSelection.Proofs.Pass.Matching
import WifiSelection.Proofs.Pass.Requests
import WifiSelection.Proofs.Pass.Tiers

/-!
The exact outcome of nominating suggestions. What is offered to apps is described here once more, as
one comprehension over kinds, scans and suggestions; the nominator reports the offers at the top of
their app for whose key the store gave a network, and asks the store once for each key.
-/

namespace WifiSelection

open NetworkStore (Asked)

namespace Nomination.Suggested

/-- Untrusted suggestions have to be allowed, and a network stored under the key of the suggestion
has to be a suggested one itself. -/
def Admissible (device : DeviceState) (store : NetworkStore) (suggestion : Suggestion) : Prop :=
  (suggestion.untrusted = true → device.untrustedAllowed = true) ∧
    ∀ stored ∈ store.get? suggestion.network.storeKey, stored.fromSuggestion = true

instance (device : DeviceState) (store : NetworkStore) :
    DecidablePred (Admissible device store) := fun suggestion =>
  inferInstanceAs (Decidable ((suggestion.untrusted = true → device.untrustedAllowed = true) ∧
    ∀ stored ∈ store.get? suggestion.network.storeKey, stored.fromSuggestion = true))

def passpointOffers (providers : ProviderDirectory) (suggestions : List Suggestion)
    (kind : PasspointKind) (scan : Scan) : List SuggestionMatch :=
  match providers.match? scan with
  | some (provider, matched) =>
    if scan.interworking = true ∧ provider.fromSuggestion = true ∧ matched = kind then
      (suggestions.filter fun suggestion => suggestion.network.fqdn = some provider.fqdn).map
        fun suggestion =>
          { scan
            app := suggestion.app
            priority := suggestion.priority
            network := suggestion.network.forAccessPoint scan kind
            passpoint := some kind }
    else
      []
  | none => []

def plainOffers (suggestions : List Suggestion) (scan : Scan) : List SuggestionMatch :=
  (suggestions.filter fun suggestion =>
    suggestion.network.isPasspoint = false ∧ suggestion.network.identity = scan.identity).map
      fun suggestion =>
        { scan
          app := suggestion.app
          priority := suggestion.priority
          network := suggestion.network
          passpoint := none }

def offers (device : DeviceState) (scans : List Scan) (sources : Sources) : List SuggestionMatch :=
  let live := scans.filter fun scan => scan.ssid ∉ sources.store.forgottenSsids
  let admissible := sources.suggestions.filter fun suggestion =>
    Admissible device sources.store suggestion
  [PasspointKind.home, .roaming].flatMap
      (fun kind => live.flatMap (passpointOffers sources.providers admissible kind)) ++
    live.flatMap (plainOffers admissible)

/-- The offers of which the same app has none of a higher priority. -/
def tops (device : DeviceState) (scans : List Scan) (sources : Sources) : List SuggestionMatch :=
  let offers := offers device scans sources
  offers.filter fun found =>
    IsTop (fun found : SuggestionMatch => (found.app, found.priority)) offers found

section Offers

variable {device : DeviceState} {scans : List Scan} {sources : Sources}

theorem isAdmissible_iff {store : NetworkStore} {suggestion : Suggestion} :
    isAdmissible device store suggestion = true ↔ Admissible device store suggestion := by
  rw [isAdmissible_eq, NetworkStore.admits, Admissible, Bool.and_eq_true]
  cases suggestion.untrusted <;> cases device.untrustedAllowed <;>
    cases store.get? suggestion.network.storeKey <;> simp

theorem filter_isAdmissible (store : NetworkStore) (keep : Suggestion → Bool)
    (suggestions : List Suggestion) :
    (suggestions.filter keep).filter (isAdmissible device store) =
      (suggestions.filter fun suggestion => Admissible device store suggestion).filter keep := by
  rw [List.filter_comm]
  congr 1
  apply List.filter_congr
  intro suggestion _
  rw [Bool.eq_iff_iff, isAdmissible_iff, decide_eq_true_eq]

theorem filter_ofScans (matcher : Scan → Option (Provider × PasspointKind)) (kind : PasspointKind)
    (make : ProviderMatch → List SuggestionMatch) (scans : List Scan) :
    ((scans.filterMap (ProviderMatch.ofScan? matcher .app)).filter
        fun found => found.kind = kind).flatMap make =
      scans.flatMap fun scan => match matcher scan with
        | some (provider, matched) =>
          if scan.interworking = true ∧ provider.fromSuggestion = true ∧ matched = kind then
            make ⟨scan, provider, kind⟩
          else
            []
        | none => [] := by
  rw [List.filterMap_eq_flatMap_toList, List.filter_flatMap, List.flatMap_assoc]
  congr 1
  funext scan
  rw [ProviderMatch.ofScan?]
  cases scan.interworking with
  | false => cases matcher scan <;> simp
  | true =>
      cases matcher scan with
      | none => rfl
      | some offer =>
          obtain ⟨provider, matched⟩ := offer
          by_cases same : matched = kind
          · cases installed : provider.fromSuggestion <;>
              simp [Installer.installed, installed, same]
          · cases installed : provider.fromSuggestion <;>
              simp [Installer.installed, installed, same]

theorem passpointMatches_eq (live : List Scan) :
    passpointMatches device sources live =
      [PasspointKind.home, .roaming].flatMap fun kind => live.flatMap
        (passpointOffers sources.providers (sources.suggestions.filter fun suggestion =>
          Admissible device sources.store suggestion) kind) := by
  rw [passpointMatches, ProviderMatch.ofScans, List.flatMap_append, filter_ofScans,
    filter_ofScans]
  simp only [forProvider, filter_isAdmissible, List.flatMap_cons, List.flatMap_nil,
    List.append_nil]
  rfl

theorem plainMatches_eq (live : List Scan) :
    plainMatches device sources live = live.flatMap
      (plainOffers (sources.suggestions.filter fun suggestion =>
        Admissible device sources.store suggestion)) := by
  rw [plainMatches]
  congr 1
  funext scan
  rw [forScan, filter_isAdmissible, plainOffers]
  congr 2
  funext suggestion
  cases suggestion.network.isPasspoint <;> simp

theorem tier_eq_tops : tier device sources (sources.store.liveScans scans) =
    tops device scans sources := by
  have live : sources.store.liveScans scans =
      scans.filter fun scan => scan.ssid ∉ sources.store.forgottenSsids := by
    apply List.filter_congr
    intro scan _
    simp [NetworkStore.isForgotten]
  rw [tier, topPerApp_eq_filter, passpointMatches_eq, plainMatches_eq, live]
  rfl

end Offers

theorem reported_id (found : SuggestionMatch) (stored : Network) :
    (reported found stored).network.id = stored.id := by
  cases offered : found.passpoint <;> simp [reported, offered, Network.forAccessPoint,
    Network.withPlainSsid]

end Nomination.Suggested

namespace Nominator

open Nomination

end Nominator

end WifiSelection
