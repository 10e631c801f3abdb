import WifiSelection.Proofs.Pass.Matching
import WifiSelection.Proofs.Pass.Meaning
import WifiSelection.Proofs.Store.Lookup

/-!
Which scans a saved network is found for. A scan and a network have one identity when they name one
SSID with one security class; but of an SSID that is broadcast in double quotes only what is between
them counts, so that scan is of the network with the inner name.
-/

namespace WifiSelection

open Nomination

namespace Network

theorem identity_withPlainSsid (network : Network) (plain : String) :
    (network.withPlainSsid plain).identity = ⟨plain, network.security⟩ := by
  have ofQuote : (network.withPlainSsid plain).identity =
      .ofSsid (Ssid.quote plain) network.security := rfl
  rw [ofQuote, NetworkIdentity.ofSsid, Ssid.unquote_quote]

end Network

theorem Scan.identity_eq_iff {scan : Scan} {network : Network} {plain : String} :
    scan.identity = (network.withPlainSsid plain).identity ↔
      Ssid.unquote scan.ssid = plain ∧ scan.security = network.security := by
  rw [Network.identity_withPlainSsid, Scan.identity, NetworkIdentity.ofSsid,
    NetworkIdentity.mk.injEq]

namespace Nominator

theorem mem_saved_iff_identity_eq {device : DeviceState} {scans : List Scan} {sources : Sources}
    {scan : Scan} {network : Network} (plain : network.isPasspoint = false)
    (stored : sources.store.get? network.storeKey = some network)
    (eligible : Saved.isEligible network = true) :
    ⟨scan, network⟩ ∈ (saved.nominate device scans sources).1 ↔
      scan ∈ sources.store.liveScans scans ∧ scan.identity = network.identity := by
  rw [mem_saved_iff]
  constructor
  · rintro ⟨live, found, -⟩
    have sameKey := NetworkStore.storeKey_of_lookup found
    rw [Network.storeKey_of_plain plain] at sameKey
    exact ⟨live, (NetworkIdentity.storeKey_injective sameKey).symm⟩
  · rintro ⟨live, same⟩
    refine ⟨live, ?_, eligible⟩
    rw [same, ← Network.storeKey_of_plain plain]
    exact stored

/-- A scan has the identity of a network, and the key of that identity, exactly when it names the
same SSID without double quotes around it and has the same security class. Double quotes around the
SSID of a scan do not count: such a scan has the identity of the network with the inner name, and
never that of the network with its own. -/
theorem saved_recognised_by_ssid (scan : Scan) (template : Network) (plain : String)
    (ofUser : template.isPasspoint = false) :
    let network := template.withPlainSsid plain
    (scan.identity.storeKey = network.storeKey ↔ scan.identity = network.identity) ∧
      (¬Ssid.IsQuoted scan.ssid → (scan.identity = network.identity ↔
        scan.ssid = plain ∧ scan.security = network.security)) ∧
      (∀ inner, scan.ssid = Ssid.quote inner →
        (scan.identity = network.identity ↔ inner = plain ∧ scan.security = network.security) ∧
          (scan.ssid = plain → scan.identity ≠ network.identity)) ∧
      ∀ device scans sources, sources.store.get? network.storeKey = some network →
        Saved.isEligible network = true →
          (⟨scan, network⟩ ∈ (saved.nominate device scans sources).1 ↔
            scan ∈ sources.store.liveScans scans ∧ scan.identity = network.identity) := by
  intro network
  have plainNetwork : network.isPasspoint = false := ofUser
  refine ⟨?_, ?_, ?_, ?_⟩
  · rw [Network.storeKey_of_plain plainNetwork]
    exact ⟨NetworkIdentity.storeKey_injective, congrArg NetworkIdentity.storeKey⟩
  · intro bare
    rw [Scan.identity_eq_iff, Ssid.unquote_of_not_isQuoted bare]
    rfl
  · intro inner quoted
    rw [ne_eq, Scan.identity_eq_iff, quoted, Ssid.unquote_quote]
    refine ⟨Iff.rfl, ?_⟩
    rintro rfl ⟨same, -⟩
    exact Ssid.ne_quote inner same
  · intro device scans sources stored eligible
    exact mem_saved_iff_identity_eq plainNetwork stored eligible

theorem saved_recognised_by_ssid_sample :
    let device := Selector.sampleInput.device
    let sources := Selector.sampleSources
    let bare := Samples.scan "cafe" "00:00:00:00:00:01" .unsecured
    let quoted := Samples.scan "\"cafe\"" "00:00:00:00:00:02" .unsecured
    let template := Samples.network 0 "" .unsecured
    let network := template.withPlainSsid "cafe"
    template.isPasspoint = false ∧ ¬Ssid.IsQuoted bare.ssid ∧
      sources.store.get? network.storeKey = some network ∧ Saved.isEligible network = true ∧
      ⟨bare, network⟩ ∈ (saved.nominate device [bare, quoted] sources).1 ∧
      ⟨quoted, network⟩ ∈ (saved.nominate device [bare, quoted] sources).1 := by
  intro device sources bare quoted template network
  have ofUser : template.isPasspoint = false := rfl
  have unquoted : ¬Ssid.IsQuoted bare.ssid := by decide +kernel
  have stored : sources.store.get? network.storeKey = some network := by decide +kernel
  have eligible : Saved.isEligible network = true := by decide +kernel
  obtain ⟨-, named, -, found⟩ := saved_recognised_by_ssid bare template "cafe" ofUser
  obtain ⟨-, -, inner, foundQuoted⟩ := saved_recognised_by_ssid quoted template "cafe" ofUser
  refine ⟨ofUser, unquoted, stored, eligible, ?_, ?_⟩
  · rw [found device [bare, quoted] sources stored eligible]
    exact ⟨by decide +kernel, (named unquoted).mpr ⟨rfl, by decide +kernel⟩⟩
  · rw [foundQuoted device [bare, quoted] sources stored eligible]
    exact ⟨by decide +kernel, (inner "cafe" rfl).1.mpr ⟨rfl, by decide +kernel⟩⟩

/-- A scan of an SSID in double quotes has the identity of another network, and not that of the
network of its own SSID. -/
theorem quoted_scan_mistaken :
    let scan := Samples.scan "\"home\"" "00:00:00:00:00:01" .psk
    let other := (Samples.network 0 "" .psk).withPlainSsid "home"
    let own := (Samples.network 0 "" .psk).withPlainSsid "\"home\""
    ¬(scan.identity = other.identity ↔ scan.ssid = "home" ∧ scan.security = other.security) ∧
      ¬(scan.identity = own.identity ↔
        scan.ssid = "\"home\"" ∧ scan.security = own.security) := by
  decide +kernel

end Nominator

end WifiSelection
