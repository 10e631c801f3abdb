import WifiSelection.Nomination
import WifiSelection.Proofs.Pass.Tiers
import WifiSelection.Proofs.Store.Locality
import WifiSelection.Proofs.StoreKeys

/-!
What scans are matched with. A match is of the scan that it came from and of a provider in the
directory, and what is saved or admissible under a key depends on the network stored there alone.
-/

namespace WifiSelection

namespace Network

theorem storeKey_forAccessPoint {network : Network} (passpoint : network.isPasspoint = true)
    (scan : Scan) (kind : PasspointKind) :
    (network.forAccessPoint scan kind).storeKey = network.storeKey := by
  obtain ⟨fqdn, named⟩ := Option.isSome_iff_exists.mp passpoint
  have filled : (network.forAccessPoint scan kind).fqdn = some fqdn := named
  rw [storeKey, storeKey, filled, named]

end Network

namespace Sources

def configured (sources : Sources) : List Network :=
  sources.store.networks ++
    (sources.suggestions.map Suggestion.network ++
      sources.providers.entries.map fun entry => entry.2.1.network)

/-- No Passpoint network has the configuration key of another network. -/
def KeysSeparate (sources : Sources) : Prop :=
  ∀ left ∈ sources.configured, ∀ right ∈ sources.configured,
    left.storeKey = right.storeKey → left.isPasspoint = right.isPasspoint

instance (sources : Sources) : Decidable sources.KeysSeparate :=
  inferInstanceAs (Decidable (∀ left ∈ sources.configured, ∀ right ∈ sources.configured,
    left.storeKey = right.storeKey → left.isPasspoint = right.isPasspoint))

def ProvidersNamed (sources : Sources) : Prop :=
  ∀ entry ∈ sources.providers.entries, entry.2.1.network.isPasspoint = true

instance (sources : Sources) : Decidable sources.ProvidersNamed :=
  inferInstanceAs (Decidable (∀ entry ∈ sources.providers.entries,
    entry.2.1.network.isPasspoint = true))

end Sources

theorem ProviderDirectory.mem_of_match? {directory : ProviderDirectory} {scan : Scan}
    {provider : Provider} {kind : PasspointKind}
    (matched : directory.match? scan = some (provider, kind)) :
    ∃ ssid, (ssid, provider, kind) ∈ directory.entries := by
  have listed : (provider, kind) ∈
      (directory.entries.filter fun entry => entry.1 = scan.ssid).map Prod.snd := by
    simp only [match?, Option.orElse_eq_or, Option.or_eq_some_iff] at matched
    rcases matched with home | ⟨-, first⟩
    · exact List.mem_of_find?_eq_some home
    · exact List.mem_of_head? first
  obtain ⟨⟨ssid, found⟩, member, rfl⟩ := List.mem_map.mp listed
  exact ⟨ssid, (List.mem_filter.mp member).1⟩

namespace ProviderMatch

variable {matcher : Scan → Option (Provider × PasspointKind)} {installer : Installer} {scan : Scan}
  {scans : List Scan} {found : ProviderMatch}

theorem ofScan?_eq_some_iff : ofScan? matcher installer scan = some found ↔
    scan.interworking = true ∧ installer.installed found.provider = true ∧
      matcher scan = some (found.provider, found.kind) ∧ found.scan = scan := by
  obtain ⟨foundScan, provider, kind⟩ := found
  rw [ofScan?]
  cases scan.interworking with
  | false => simp
  | true =>
      cases matched : matcher scan with
      | none => simp
      | some offer =>
          obtain ⟨offered, offeredKind⟩ := offer
          cases installed : installer.installed offered <;> simp [installed] <;> grind

theorem mem_ofScans : found ∈ ofScans matcher installer scans ↔
    ∃ scan ∈ scans, ofScan? matcher installer scan = some found := by
  simp only [ofScans, List.mem_append, List.mem_filter, List.mem_filterMap]
  cases found.kind <;> simp

theorem scan_of_ofScan? (offered : ofScan? matcher installer scan = some found) :
    found.scan = scan :=
  (ofScan?_eq_some_iff.mp offered).2.2.2

theorem scan_mem_of_mem_ofScans (member : found ∈ ofScans matcher installer scans) :
    found.scan ∈ scans := by
  obtain ⟨scan, listed, offered⟩ := mem_ofScans.mp member
  exact scan_of_ofScan? offered ▸ listed

theorem matched_of_mem_ofScans (member : found ∈ ofScans matcher installer scans) :
    matcher found.scan = some (found.provider, found.kind) := by
  obtain ⟨scan, -, offered⟩ := mem_ofScans.mp member
  obtain ⟨-, -, matched, same⟩ := ofScan?_eq_some_iff.mp offered
  rw [same, matched]

end ProviderMatch

namespace Nomination

namespace Saved

theorem report?_eq (store : NetworkStore) (scan : Scan) :
    report? store scan =
      ((store.get? scan.identity.storeKey).filter isEligible).map (Connectable.mk scan) := by
  rw [report?]
  cases store.get? scan.identity.storeKey with
  | none => rfl
  | some network =>
      cases eligible : isEligible network <;> simp [eligible, Option.filter]

theorem report?_eq_some_iff {store : NetworkStore} {scan : Scan} {report : Connectable} :
    report? store scan = some report ↔ report.scan = scan ∧
      store.get? scan.identity.storeKey = some report.network ∧
        isEligible report.network = true := by
  obtain ⟨reportedScan, network⟩ := report
  rw [report?_eq]
  simp only [Option.map_eq_some_iff, Option.filter_eq_some_iff, Connectable.mk.injEq]
  constructor
  · rintro ⟨stored, ⟨found, eligible⟩, rfl, rfl⟩
    exact ⟨rfl, found, eligible⟩
  · rintro ⟨rfl, found, eligible⟩
    exact ⟨network, ⟨found, eligible⟩, rfl, rfl⟩

theorem scan_of_report? {store : NetworkStore} {scan : Scan} {report : Connectable}
    (reported : report? store scan = some report) : report.scan = scan :=
  (report?_eq_some_iff.mp reported).1

end Saved

namespace Suggested

theorem isAdmissible_eq (device : DeviceState) (store : NetworkStore) (suggestion : Suggestion) :
    isAdmissible device store suggestion =
      (!(suggestion.untrusted && !device.untrustedAllowed) &&
        store.admits suggestion.network.storeKey) := by
  rw [isAdmissible, NetworkStore.admits]
  cases suggestion.untrusted && !device.untrustedAllowed with
  | true => rfl
  | false => cases store.get? suggestion.network.storeKey <;> rfl

theorem isPasspoint_of_mem_forProvider {suggestions : List Suggestion} {fqdn : String}
    {suggestion : Suggestion} (member : suggestion ∈ forProvider suggestions fqdn) :
    suggestion.network.isPasspoint = true := by
  have named := of_decide_eq_true (List.mem_filter.mp member).2
  rw [Network.isPasspoint, named]
  rfl

theorem origin_of_mem_tier {device : DeviceState} {sources : Sources} {scans : List Scan}
    {found : SuggestionMatch} (member : found ∈ tier device sources scans) :
    ∃ suggestion ∈ sources.suggestions, isAdmissible device sources.store suggestion = true ∧
      ((∃ kind provider, sources.providers.match? found.scan = some (provider, kind) ∧
          suggestion.network.isPasspoint = true ∧ found.passpoint = some kind ∧
          found.network = suggestion.network.forAccessPoint found.scan kind) ∨
        (suggestion.network.isPasspoint = false ∧
          suggestion.network.identity = found.scan.identity ∧ found.passpoint = none ∧
          found.network = suggestion.network)) := by
  have listed := (mem_topPerApp.mp member).1
  rcases List.mem_append.mp listed with passpoint | plain
  · obtain ⟨offer, offered, made⟩ := List.mem_flatMap.mp passpoint
    obtain ⟨suggestion, chosen, rfl⟩ := List.mem_map.mp made
    obtain ⟨ofProvider, admissible⟩ := List.mem_filter.mp chosen
    refine ⟨suggestion, (List.mem_filter.mp ofProvider).1, admissible, Or.inl ?_⟩
    exact ⟨offer.kind, offer.provider, ProviderMatch.matched_of_mem_ofScans offered,
      isPasspoint_of_mem_forProvider ofProvider, rfl, rfl⟩
  · obtain ⟨scan, -, made⟩ := List.mem_flatMap.mp plain
    obtain ⟨suggestion, chosen, rfl⟩ := List.mem_map.mp made
    obtain ⟨ofScan, admissible⟩ := List.mem_filter.mp chosen
    obtain ⟨suggested, fitting⟩ := List.mem_filter.mp ofScan
    rw [Bool.and_eq_true, Bool.not_eq_true', decide_eq_true_eq] at fitting
    exact ⟨suggestion, suggested, admissible, Or.inr ⟨fitting.1, fitting.2, rfl, rfl⟩⟩

theorem admits_of_mem_tier {device : DeviceState} {sources : Sources} {scans : List Scan}
    {found : SuggestionMatch} (member : found ∈ tier device sources scans) :
    sources.store.admits found.network.storeKey = true := by
  obtain ⟨suggestion, -, admissible, origin⟩ := origin_of_mem_tier member
  rw [isAdmissible_eq, Bool.and_eq_true] at admissible
  rcases origin with ⟨kind, provider, -, passpoint, -, same⟩ | ⟨-, -, -, same⟩
  · rw [same, Network.storeKey_forAccessPoint passpoint]
    exact admissible.2
  · rw [same]
    exact admissible.2

end Suggested

end Nomination

namespace Nominator

open Nomination

theorem mem_saved_iff {device : DeviceState} {scans : List Scan} {sources : Sources}
    {report : Connectable} :
    report ∈ (saved.nominate device scans sources).1 ↔
      report.scan ∈ sources.store.liveScans scans ∧
        sources.store.get? report.scan.identity.storeKey = some report.network ∧
        Saved.isEligible report.network = true := by
  have listed : report ∈ (saved.nominate device scans sources).1 ↔
      ∃ scan ∈ sources.store.liveScans scans, Saved.report? sources.store scan = some report :=
    List.mem_filterMap
  rw [listed]
  constructor
  · rintro ⟨scan, live, reported⟩
    obtain ⟨rfl, found⟩ := Saved.report?_eq_some_iff.mp reported
    exact ⟨live, found⟩
  · rintro ⟨live, found⟩
    exact ⟨report.scan, live, Saved.report?_eq_some_iff.mpr ⟨rfl, found⟩⟩

end Nominator

end WifiSelection
