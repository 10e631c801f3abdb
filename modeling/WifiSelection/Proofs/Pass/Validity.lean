import WifiSelection.Proofs.Pass.Matching
import WifiSelection.Proofs.Pass.Meaning
import WifiSelection.Proofs.Pass.Runs
import WifiSelection.Proofs.Store.Filing

/-!
What nominators report is stored and fits its scan. Whatever a store gives for a key agrees with the
configured networks of the key, so a match of a provider is given a Passpoint network; and a network
without a provider has the identity that its key tells. What is left to be at fault is the scan.
-/

namespace WifiSelection

open NetworkStore (Asked GivenFor Request)

/-- The network is stored, and unless it is a Passpoint network it has the identity of the scan. -/
def Connectable.IsSound (report : Connectable) : Prop :=
  report.network.id ≠ Network.noId ∧
    (report.network.isPasspoint = true ∨ report.network.identity = report.scan.identity)

namespace Sources

def UserProvidersNamed (sources : Sources) : Prop :=
  ∀ entry ∈ sources.providers.entries, entry.2.1.fromSuggestion = false →
    entry.2.1.network.isPasspoint = true

instance (sources : Sources) : Decidable sources.UserProvidersNamed :=
  inferInstanceAs (Decidable (∀ entry ∈ sources.providers.entries,
    entry.2.1.fromSuggestion = false → entry.2.1.network.isPasspoint = true))

/-- What can be stored agrees with the configured networks, of which none with a provider shares its
key with one without. -/
structure Consistent (configured : List Network) (sources : Sources) : Prop where
  filed : sources.store.Filed configured
  suggested : ∀ suggestion ∈ sources.suggestions, suggestion.network ∈ configured
  provided : ∀ entry ∈ sources.providers.entries, entry.2.1.network ∈ configured
  named : sources.UserProvidersNamed
  separate : ∀ left ∈ configured, ∀ right ∈ configured,
    left.storeKey = right.storeKey → left.isPasspoint = right.isPasspoint

theorem consistent_configured {sources : Sources} (identified : sources.store.Identified)
    (named : sources.UserProvidersNamed) (separate : sources.KeysSeparate) :
    sources.Consistent sources.configured where
  filed := by
    refine ⟨identified, fun network member => ⟨network, ?_, rfl, rfl⟩⟩
    exact List.mem_append_left _ member
  suggested suggestion member :=
    List.mem_append_right _ (List.mem_append_left _ (List.mem_map_of_mem member))
  provided entry member :=
    List.mem_append_right _ (List.mem_append_right _
      (List.mem_map_of_mem (f := fun entry => entry.2.1.network) member))
  named := named
  separate := separate

end Sources

namespace Nominator

open Nomination

section Reports

variable {configured : List Network} {sources : Sources} {device : DeviceState} {scans : List Scan}
  {network : Network} {key : String}

theorem isPasspoint_of_given (consistent : sources.Consistent configured)
    (given : GivenFor configured key network) {origin : Network} (member : origin ∈ configured)
    (sameKey : origin.storeKey = key) : network.isPasspoint = origin.isPasspoint := by
  obtain ⟨other, otherMember, otherKey, otherKind⟩ := given.agrees
  rw [← otherKind]
  exact consistent.separate other otherMember origin member
    (otherKey.trans (given.sameKey.trans sameKey.symm))

theorem userProvider_of_mem_offers (consistent : sources.Consistent configured)
    {found : ProviderMatch} (member : found ∈ providerOffers scans sources) :
    found.provider.network ∈ configured ∧ found.provider.network.isPasspoint = true := by
  obtain ⟨scan, -, offered⟩ := ProviderMatch.mem_ofScans.mp member
  obtain ⟨-, installed, matched, -⟩ := ProviderMatch.ofScan?_eq_some_iff.mp offered
  obtain ⟨ssid, listed⟩ := ProviderDirectory.mem_of_match? matched
  have byUser : found.provider.fromSuggestion = false := by
    rw [← Bool.not_eq_true']
    exact installed
  exact ⟨consistent.provided _ listed, consistent.named _ listed byUser⟩

theorem requests_agree (consistent : sources.Consistent configured) (nominator : Nominator) :
    ∀ request ∈ nominator.requests device scans sources, request.template.Agrees configured := by
  intro request member
  cases nominator with
  | saved => cases member
  | suggestion =>
      obtain ⟨found, first, rfl⟩ := List.mem_map.mp member
      have tiered : found ∈ suggestionTier device scans sources :=
        (firstOfEach_sublist _ _).subset first
      obtain ⟨suggestion, listed, -, origin⟩ := Suggested.origin_of_mem_tier tiered
      refine ⟨suggestion.network, consistent.suggested suggestion listed, ?_⟩
      rcases origin with ⟨kind, provider, -, passpoint, -, same⟩ | ⟨-, -, -, same⟩
      · have sameKey := Network.storeKey_forAccessPoint passpoint found.scan kind
        rw [← same] at sameKey
        exact ⟨sameKey.symm, (congrArg Network.isPasspoint same).symm⟩
      · exact ⟨(congrArg Network.storeKey same).symm, (congrArg Network.isPasspoint same).symm⟩
  | passpoint =>
      obtain ⟨found, offered, rfl⟩ := List.mem_map.mp member
      obtain ⟨listed, passpoint⟩ := userProvider_of_mem_offers consistent offered
      exact ⟨found.provider.network, listed,
        (Network.storeKey_forAccessPoint passpoint found.scan found.kind).symm, rfl⟩

theorem batch_given (consistent : sources.Consistent configured) (nominator : Nominator)
    (device : DeviceState) (scans : List Scan) :
    (nominator.batch device scans sources).2.Filed configured ∧
      ∀ entry ∈ (nominator.batch device scans sources).1, ∀ network,
        entry.answer = some network → GivenFor configured entry.key network := by
  refine consistent.filed.of_asks (sources.store.readyAll_asks _) ?_
  intro entry member
  have listed : entry.template ∈ (sources.store.readyAll
      (nominator.requests device scans sources)).1.map Asked.template := List.mem_map_of_mem member
  rw [NetworkStore.readyAll_templates] at listed
  obtain ⟨request, requested, same⟩ := List.mem_map.mp listed
  rw [← same]
  exact requests_agree consistent nominator request requested

theorem saved_sound (consistent : sources.Consistent configured) {scan : Scan}
    {report : Connectable} (reported : Saved.report? sources.store scan = some report) :
    report.IsSound := by
  obtain ⟨rfl, found, -⟩ := Saved.report?_eq_some_iff.mp reported
  exact ⟨consistent.filed.identified.hasId report.network (NetworkStore.mem_of_lookup found),
    Network.isPasspoint_or_identity_eq (NetworkStore.storeKey_of_lookup found)⟩

theorem suggested_sound (consistent : sources.Consistent configured) {found : SuggestionMatch}
    (tiered : found ∈ suggestionTier device scans sources)
    (given : GivenFor configured found.network.storeKey network) :
    (Suggested.reported found network).IsSound := by
  obtain ⟨suggestion, listed, -, origin⟩ := Suggested.origin_of_mem_tier tiered
  rcases origin with
    ⟨kind, provider, -, passpoint, kindKnown, same⟩ | ⟨plain, fitting, kindless, same⟩
  · have sameKey : suggestion.network.storeKey = found.network.storeKey := by
      rw [same, Network.storeKey_forAccessPoint passpoint]
    have isPasspoint : network.isPasspoint = true :=
      (isPasspoint_of_given consistent given (consistent.suggested suggestion listed) sameKey).trans
        passpoint
    have filled : Suggested.reported found network =
        ⟨found.scan, network.forAccessPoint found.scan kind⟩ := by
      rw [Suggested.reported, kindKnown]
    rw [filled]
    exact ⟨given.hasId, Or.inl isPasspoint⟩
  · have asStored : Suggested.reported found network = ⟨found.scan, network⟩ := by
      rw [Suggested.reported, kindless]
    rw [asStored]
    refine ⟨given.hasId, Network.isPasspoint_or_identity_eq ?_⟩
    rw [given.sameKey, same, Network.storeKey_of_plain plain, fitting]

theorem provided_sound (consistent : sources.Consistent configured) {found : ProviderMatch}
    (offered : found ∈ providerOffers scans sources)
    (given : GivenFor configured (Passpoint.template found).storeKey network) :
    (Passpoint.reported found network).IsSound := by
  obtain ⟨listed, passpoint⟩ := userProvider_of_mem_offers consistent offered
  have sameKey := (Network.storeKey_forAccessPoint passpoint found.scan found.kind).symm
  have isPasspoint : network.isPasspoint = true :=
    (isPasspoint_of_given consistent given listed sameKey).trans passpoint
  exact ⟨given.hasId, Or.inl isPasspoint⟩

theorem handled_sound (consistent : sources.Consistent configured) (nominator : Nominator)
    {report : Connectable} (handled : (key, some report) ∈ nominator.handled device scans sources) :
    report.IsSound := by
  have given := (batch_given consistent nominator device scans).2
  cases nominator with
  | saved =>
      obtain ⟨scan, -, same⟩ := List.mem_map.mp handled
      exact saved_sound consistent (Prod.mk.inj same).2
  | suggestion =>
      obtain ⟨found, tiered, same⟩ := List.mem_map.mp handled
      obtain ⟨network, answered, rfl⟩ := Option.map_eq_some_iff.mp (Prod.mk.inj same).2
      obtain ⟨entry, asked, sameKey, answer⟩ := NetworkStore.answerTo_eq_some answered
      exact suggested_sound consistent tiered (sameKey ▸ given entry asked network answer)
  | passpoint =>
      obtain ⟨⟨found, entry⟩, zipped, same⟩ := List.mem_map.mp handled
      obtain ⟨network, answer, rfl⟩ := Option.map_eq_some_iff.mp (Prod.mk.inj same).2
      obtain ⟨offered, asked⟩ := List.of_mem_zip zipped
      have templates := passpoint_templates device scans sources
      have sameKey : entry.key = (Passpoint.template found).storeKey :=
        congrArg Network.storeKey (Passpoint.template_of_mem_zip templates zipped)
      exact provided_sound consistent offered (sameKey ▸ given entry asked network answer)

theorem nominate_sound (consistent : sources.Consistent configured) (nominator : Nominator)
    (device : DeviceState) (scans : List Scan) :
    (∀ report ∈ (nominator.nominate device scans sources).1, report.IsSound) ∧
      (nominator.nominate device scans sources).2.Consistent configured := by
  obtain ⟨reports, left⟩ := nominator.nominate_eq device scans sources
  have filed := (batch_given consistent nominator device scans).1
  constructor
  · intro report member
    rw [reports] at member
    obtain ⟨⟨key, handled⟩, listed, rfl⟩ := List.mem_filterMap.mp member
    exact handled_sound consistent nominator listed
  · refine ⟨?_, ?_, ?_, ?_, consistent.separate⟩
    · rw [left, NetworkStore.noteReports_eq]
      exact filed.congr rfl rfl
    · rw [nominate_suggestions]
      exact consistent.suggested
    · rw [nominate_entries]
      exact consistent.provided
    · rw [Sources.UserProvidersNamed, nominate_entries]
      exact consistent.named

theorem reportInTurn_sound (consistent : sources.Consistent configured) (device : DeviceState)
    (scans : List Scan) (nominators : List Nominator) :
    ∀ pair ∈ (reportInTurn device scans nominators sources).1, pair.2.IsSound := by
  induction nominators generalizing sources with
  | nil => exact fun _ member => absurd member List.not_mem_nil
  | cons nominator rest ih =>
      obtain ⟨sound, later⟩ := nominate_sound consistent nominator device scans
      intro pair member
      rcases List.mem_append.mp member with own | other
      · obtain ⟨report, reported, rfl⟩ := List.mem_map.mp own
        exact sound report reported
      · exact ih later pair other

end Reports

end Nominator

def Fault.isOfScan : Fault → Bool
  | .malformedScan _ => true
  | .unparsableBssid _ => true
  | .malformedNetwork _ _ => false
  | .identityMismatch _ _ => false

def Scan.fault? (scan : Scan) : Option Fault :=
  if scan.ssid = "" then
    some (.emptySsid scan.bssid)
  else
    match scan.parseBssid with
    | .error error => some (.unparsableBssid error.input)
    | .ok _ => none

theorem Scan.isOfScan_of_fault? {scan : Scan} {fault : Fault} (faulty : scan.fault? = some fault) :
    fault.isOfScan = true := by
  rw [fault?] at faulty
  split at faulty
  · cases faulty
    rfl
  · split at faulty
    · cases faulty
      rfl
    · cases faulty

theorem Scan.fault?_isSome (scan : Scan) :
    scan.fault?.isSome = (scan.ssid = "" || scan.parseBssid.toOption.isNone) := by
  rw [fault?]
  split
  next empty => simp [empty]
  next filled =>
    cases scan.parseBssid with
    | error error => simp [filled, Except.toOption]
    | ok bssid => simp [filled, Except.toOption]

namespace Selector

open Nomination

theorem fault?_of_isSound {report : Connectable} (sound : report.IsSound) (selector : Selector)
    (input : PassInput) (nominator : Nominator) :
    (selector.nomination input nominator report).fault? = report.scan.fault? := by
  obtain ⟨stored, fitting⟩ := sound
  have hasId : report.network.hasId = true := bne_iff_ne.mpr stored
  have fits : (!report.network.isPasspoint && report.network.identity != report.scan.identity) =
      false := by
    rcases fitting with passpoint | same
    · simp [passpoint]
    · simp [same]
  simp only [Nomination.fault?, key?, nomination, Scan.fault?, hasId, fits]
  by_cases empty : report.scan.ssid = ""
  · simp [empty]
  · cases report.scan.parseBssid <;> simp [empty]

/-- Let networks be stored by insertion, providers of the user have a domain, and no Passpoint network
share its key with another. Then whatever is reported can be registered unless its scan has no SSID
or no readable address: these are the only faults that a pass raises, notes or counts. -/
theorem select_faults_of_scans {sources : Sources} (inserted : sources.store.Inserted)
    (named : sources.UserProvidersNamed) (separate : sources.KeysSeparate) (selector : Selector)
    (input : PassInput) (scans : List Scan) :
    let reports := Nominator.reportInTurn input.device scans Nominator.all sources
    (∀ pair ∈ reports.1, pair.2.network.id ≠ Network.noId ∧
        (pair.2.network.isPasspoint = true ∨ pair.2.network.identity = pair.2.scan.identity)) ∧
      (∀ fault left, selector.select input scans sources = (.error fault, left) →
        fault.isOfScan = true) ∧
      (∀ outcome left, selector.select input scans sources = (.ok outcome, left) →
        ∀ fault, outcome.lastFault = some fault → fault.isOfScan = true) ∧
      (selector.settings.registry.faultPolicy = .tolerant →
        ∃ outcome, selector.select input scans sources = (.ok outcome, reports.2) ∧
          outcome.faultCount = (reports.1.filter fun pair =>
            pair.2.scan.ssid = "" || pair.2.scan.parseBssid.toOption.isNone).length) := by
  intro reports
  have sound : ∀ pair ∈ reports.1, pair.2.IsSound := Nominator.reportInTurn_sound
    (sources.consistent_configured inserted.identified named separate) input.device scans _
  have faults : ∀ nomination ∈ selector.nominations input reports.1, ∀ fault,
      nomination.fault? = some fault → fault.isOfScan = true := by
    intro nomination member fault faulty
    obtain ⟨pair, listed, rfl⟩ := List.mem_map.mp member
    rw [fault?_of_isSound (sound pair listed)] at faulty
    exact Scan.isOfScan_of_fault? faulty
  refine ⟨sound, ?_, ?_, ?_⟩
  · intro fault left failed
    obtain ⟨nomination, member, faulty⟩ :=
      (fault_of_registerAll _ _ _).1 (registerAll_of_select_error failed)
    exact faults nomination member fault faulty
  · intro outcome left selected fault noted
    obtain ⟨registry, log, registered, -, rfl⟩ := (select_eq_ok_iff ..).mp selected
    rcases (fault_of_registerAll _ _ _).2 registry log registered noted with
      impossible | ⟨nomination, member, faulty⟩
    · cases impossible
    · exact faults nomination member fault faulty
  · intro tolerant
    obtain ⟨outcome, selected, count⟩ := select_counts_faults tolerant input scans sources
    refine ⟨outcome, selected, count.trans ?_⟩
    rw [List.length_filterMap_eq_countP, nominations, List.countP_map,
      ← List.countP_eq_length_filter]
    apply List.countP_congr
    intro pair member
    rw [Function.comp_apply, fault?_of_isSound (sound pair member), Scan.fault?_isSome]

def mixedSources : Sources where
  store := sampleSources.store
  suggestions := sampleSources.suggestions
  providers :=
    let provider := Samples.provider "roam.example"
    (ProviderDirectory.empty.add "hub" provider .home).add "" provider .roaming

def mixedScans : List Scan :=
  sampleScans ++ [Samples.passpointScan "hub" "00:00:00:00:00:03",
    Samples.passpointScan "" "00:00:00:00:00:04"]

theorem select_faults_of_scans_sample :
    ∃ selector, ofSettings Settings.standard = .ok selector ∧ mixedSources.store.Inserted ∧
      mixedSources.UserProvidersNamed ∧ mixedSources.KeysSeparate ∧
      ∃ outcome left, selector.select sampleInput mixedScans mixedSources = (.ok outcome, left) ∧
        outcome.faultCount = 2 := by
  have accepted : ofSettings Settings.standard =
      .ok ⟨.standard, .throughput, ⟨28800000000000⟩⟩ := by decide +kernel
  have inserted : mixedSources.store.Inserted := .insert _ .empty trivial
  have named : mixedSources.UserProvidersNamed := by decide +kernel
  have separate : mixedSources.KeysSeparate := by decide +kernel
  obtain ⟨-, -, -, counted⟩ := select_faults_of_scans inserted named separate
    ⟨.standard, .throughput, ⟨28800000000000⟩⟩ sampleInput mixedScans
  obtain ⟨outcome, selected, count⟩ := counted rfl
  refine ⟨_, accepted, inserted, named, separate, outcome, _, selected, count.trans ?_⟩
  decide +kernel

end Selector

end WifiSelection
