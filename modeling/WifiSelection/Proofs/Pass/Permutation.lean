import Mathlib.Data.List.Pairwise
import WifiSelection.Proofs.Pass.Matching
import WifiSelection.Proofs.Pass.Meaning
import WifiSelection.Proofs.Pass.Requests
import WifiSelection.Proofs.Pass.Tiers

/-!
Passes over one batch of scans in different orders. Everything between the scans and the registered
candidates works scan by scan, or on a whole batch, so the order of a batch shows only between
different scans. In a pass that saves nothing the store is the same in the end as well.
-/

namespace WifiSelection

/-- Both scans show one radio: they agree in identity and in a readable address. -/
def Scan.SameRadio (left right : Scan) : Prop :=
  left.identity = right.identity ∧
    ∃ bssid, left.parseBssid = .ok bssid ∧ right.parseBssid = .ok bssid

instance : DecidableRel Scan.SameRadio := fun left right =>
  decidable_of_iff (left.identity = right.identity ∧
      left.parseBssid.toOption.any (right.parseBssid.toOption = some ·) = true) (by
    rw [Scan.SameRadio]
    cases left.parseBssid <;> cases right.parseBssid <;> simp [Except.toOption, eq_comm])

theorem Scan.SameRadio.symm {left right : Scan} (same : left.SameRadio right) :
    right.SameRadio left := by
  obtain ⟨identities, bssid, leftParsed, rightParsed⟩ := same
  exact ⟨identities.symm, bssid, rightParsed, leftParsed⟩

instance : Std.Symm fun left right : Scan => ¬left.SameRadio right :=
  ⟨fun _ _ apart same => apart same.symm⟩

theorem ProviderMatch.ofScans_samePerKey {left right : List Scan} (same : SamePerKey id left right)
    (matcher : Scan → Option (Provider × PasspointKind)) (installer : Installer) :
    SamePerKey ProviderMatch.scan (ofScans matcher installer left)
      (ofScans matcher installer right) := by
  have found : SamePerKey ProviderMatch.scan (left.filterMap (ofScan? matcher installer))
      (right.filterMap (ofScan? matcher installer)) :=
    same.filterMap fun _ _ offered => scan_of_ofScan? offered
  exact (found.filter _).append (found.filter _)

namespace Nomination

namespace Suggested

theorem topPerApp_samePerKey [DecidableEq β] {key : α → β} {left right : List α}
    (same : SamePerKey key left right) (rank : α → App × Int32) :
    SamePerKey key (topPerApp rank left) (topPerApp rank right) := by
  classical
  have tops : ∀ entry, IsTop rank left entry ↔ IsTop rank right entry := fun _ =>
    isTop_congr fun _ => same.perm.mem_iff
  simp only [topPerApp_eq_filter, tops]
  exact same.filter _

theorem tier_samePerKey {left right : List Scan} (same : SamePerKey id left right)
    (device : DeviceState) (sources : Sources) :
    SamePerKey SuggestionMatch.scan (tier device sources left) (tier device sources right) := by
  refine topPerApp_samePerKey (SamePerKey.append ?_ ?_) _
  · refine (ProviderMatch.ofScans_samePerKey same _ _).flatMap fun found result member => ?_
    obtain ⟨suggestion, -, rfl⟩ := List.mem_map.mp member
    rfl
  · refine same.flatMap fun scan result member => ?_
    obtain ⟨suggestion, -, rfl⟩ := List.mem_map.mp member
    rfl

theorem scan_mem_of_mem_tier {device : DeviceState} {sources : Sources} {scans : List Scan}
    {found : SuggestionMatch} (member : found ∈ tier device sources scans) :
    found.scan ∈ scans := by
  have listed := (mem_topPerApp.mp member).1
  rcases List.mem_append.mp listed with passpoint | plain
  · obtain ⟨offer, offered, made⟩ := List.mem_flatMap.mp passpoint
    obtain ⟨suggestion, -, rfl⟩ := List.mem_map.mp made
    exact ProviderMatch.scan_mem_of_mem_ofScans offered
  · obtain ⟨scan, scanMember, made⟩ := List.mem_flatMap.mp plain
    obtain ⟨suggestion, -, rfl⟩ := List.mem_map.mp made
    exact scanMember

end Suggested

end Nomination

namespace Nominator

open Nomination

theorem reportsOf_samePerKey {scans others : List Scan} (permuted : scans.Perm others)
    (answer : String → Option Network) (device : DeviceState) (sources : Sources) :
    SamePerKey (fun report : Nominator × Connectable => report.2.scan)
      (reportsOf answer device scans sources) (reportsOf answer device others sources) := by
  have live : SamePerKey id (sources.store.liveScans scans) (sources.store.liveScans others) :=
    (SamePerKey.of_perm permuted).filter _
  have savedReports : SamePerKey Connectable.scan
      ((sources.store.liveScans scans).filterMap (Saved.report? sources.store))
      ((sources.store.liveScans others).filterMap (Saved.report? sources.store)) :=
    live.filterMap fun _ _ reported => Saved.scan_of_report? reported
  have suggestedReports : SamePerKey Connectable.scan
      (Suggested.reportsOf answer (suggestionTier device scans sources))
      (Suggested.reportsOf answer (suggestionTier device others sources)) := by
    refine (Suggested.tier_samePerKey live device sources).filterMap fun found report made => ?_
    obtain ⟨stored, -, rfl⟩ := Option.map_eq_some_iff.mp made
    rfl
  have providedReports : SamePerKey Connectable.scan
      (Passpoint.reportsOf answer (providerOffers scans sources))
      (Passpoint.reportsOf answer (providerOffers others sources)) := by
    refine (ProviderMatch.ofScans_samePerKey live _ _).filterMap fun found report made => ?_
    obtain ⟨stored, -, rfl⟩ := Option.map_eq_some_iff.mp made
    rfl
  rw [reportsOf, reportsOf]
  refine SamePerKey.append ?_ (SamePerKey.append ?_ ?_)
  · exact savedReports.map fun _ => rfl
  · exact suggestedReports.map fun _ => rfl
  · exact providedReports.map fun _ => rfl

theorem requested_perm {scans others : List Scan} (permuted : scans.Perm others)
    (device : DeviceState) (sources : Sources) :
    (requested device scans sources).Perm (requested device others sources) := by
  have live : SamePerKey id (sources.store.liveScans scans) (sources.store.liveScans others) :=
    (SamePerKey.of_perm permuted).filter _
  exact ((Suggested.tier_samePerKey live device sources).perm.map _).append
    ((ProviderMatch.ofScans_samePerKey live _ _).perm.map _)

theorem scan_mem_of_mem_reportsOf {answer : String → Option Network} {device : DeviceState}
    {scans : List Scan} {sources : Sources} {report : Nominator × Connectable}
    (member : report ∈ reportsOf answer device scans sources) : report.2.scan ∈ scans := by
  have live : ∀ scan ∈ sources.store.liveScans scans, scan ∈ scans :=
    fun scan listed => (List.mem_filter.mp listed).1
  simp only [reportsOf, List.mem_append, List.mem_map] at member
  rcases member with ⟨made, reported, rfl⟩ | ⟨made, reported, rfl⟩ | ⟨made, reported, rfl⟩
  · obtain ⟨scan, listed, eq⟩ := List.mem_filterMap.mp reported
    exact live _ (Saved.scan_of_report? eq ▸ listed)
  · obtain ⟨found, tiered, eq⟩ := List.mem_filterMap.mp reported
    obtain ⟨stored, -, rfl⟩ := Option.map_eq_some_iff.mp eq
    exact live _ (Suggested.scan_mem_of_mem_tier tiered)
  · obtain ⟨found, offered, eq⟩ := List.mem_filterMap.mp reported
    obtain ⟨stored, -, rfl⟩ := Option.map_eq_some_iff.mp eq
    exact live _ (ProviderMatch.scan_mem_of_mem_ofScans offered)

end Nominator

namespace Nomination

theorem radio_of_validKey? {nomination : Nomination} {key : CandidateKey}
    (valid : nomination.validKey? = some key) :
    nomination.scan.identity = key.identity ∧ nomination.scan.parseBssid = .ok key.bssid := by
  rw [validKey?] at valid
  split at valid
  · obtain ⟨bssid, parsed, rfl⟩ := Option.map_eq_some_iff.mp valid
    refine ⟨rfl, ?_⟩
    cases text : nomination.scan.parseBssid with
    | error error =>
        rw [text] at parsed
        cases parsed
    | ok address =>
        rw [text] at parsed
        injection parsed with parsed
        rw [parsed]
  · cases valid

theorem mem_validOnes {nominations : List Nomination} {entry : CandidateKey × Nomination} :
    entry ∈ validOnes nominations ↔
      entry.2 ∈ nominations ∧ entry.2.validKey? = some entry.1 := by
  rw [validOnes, List.mem_filterMap]
  constructor
  · rintro ⟨nomination, member, eq⟩
    obtain ⟨key, valid, rfl⟩ := Option.map_eq_some_iff.mp eq
    exact ⟨member, valid⟩
  · rintro ⟨member, valid⟩
    exact ⟨entry.2, member, by rw [valid]; rfl⟩

end Nomination

namespace Selector

open Nomination

section Reordering

variable (selector : Selector) (input : PassInput) {left right : List (Nominator × Connectable)}

theorem nominations_samePerKey
    (same : SamePerKey (fun report : Nominator × Connectable => report.2.scan) left right) :
    SamePerKey Nomination.scan (selector.nominations input left)
      (selector.nominations input right) :=
  same.map fun _ => rfl

theorem validOnes_samePerKey
    (same : SamePerKey (fun report : Nominator × Connectable => report.2.scan) left right) :
    SamePerKey (fun entry : CandidateKey × Nomination => entry.2.scan)
      (validOnes (selector.nominations input left))
      (validOnes (selector.nominations input right)) := by
  refine (nominations_samePerKey selector input same).filterMap fun nomination entry eq => ?_
  obtain ⟨key, -, rfl⟩ := Option.map_eq_some_iff.mp eq
  rfl

theorem kept_samePerKey {scans : List Scan}
    (same : SamePerKey (fun report : Nominator × Connectable => report.2.scan) left right)
    (distinct : scans.Pairwise fun left right => ¬left.SameRadio right)
    (within : ∀ report ∈ left, report.2.scan ∈ scans) :
    SamePerKey Prod.fst (firstPerKey (validOnes (selector.nominations input left)))
      (firstPerKey (validOnes (selector.nominations input right))) := by
  apply SamePerKey.firstOfEach
  refine (validOnes_samePerKey selector input same).rekey fun first firstMember second secondMember sameKey => ?_
  have scanMember : ∀ entry ∈ validOnes (selector.nominations input left),
      entry.2.scan ∈ scans := by
    intro entry member
    obtain ⟨report, reported, eq⟩ := List.mem_map.mp (mem_validOnes.mp member).1
    rw [← eq]
    exact within report reported
  have firstRadio := radio_of_validKey? (mem_validOnes.mp firstMember).2
  have secondRadio := radio_of_validKey? (mem_validOnes.mp secondMember).2
  by_contra apart
  apply distinct.forall (scanMember first firstMember) (scanMember second secondMember) apart
  refine ⟨?_, first.1.bssid, firstRadio.2, ?_⟩
  · rw [firstRadio.1, secondRadio.1, sameKey]
  · rw [secondRadio.2, sameKey]

end Reordering

theorem filedOnes_unnumbered (registry : Registry) (entries : List (CandidateKey × Nomination)) :
    (filedOnes registry entries).map Candidate.unnumbered =
      entries.map fun entry => registry.candidateOf entry.2 entry.1 0 := by
  have through : entries = (entries.zipIdx (registry.lastSerial + 1)).map Prod.fst :=
    (List.zipIdx_map_fst _ _).symm
  rw [filedOnes, List.map_map]
  conv_rhs => rw [through, List.map_map]
  rfl

/-- When a pass over scans of distinct radios saves no network, a pass over them in another order
saves none either, ranks the same networks with the same values, and leaves the same networks. -/
theorem select_of_permuted {selector : Selector}
    (tolerant : selector.settings.registry.faultPolicy = .tolerant) (input : PassInput)
    {scans others : List Scan} (permuted : scans.Perm others)
    (distinct : scans.Pairwise fun left right => ¬left.SameRadio right) (sources : Sources)
    (unchanged : (selector.select input scans sources).2.store.added = sources.store.added) :
    ∃ outcome left other otherLeft,
      selector.select input scans sources = (.ok outcome, left) ∧
      selector.select input others sources = (.ok other, otherLeft) ∧
      otherLeft.store.added = sources.store.added ∧
      other.candidateCount = outcome.candidateCount ∧
      other.faultCount = outcome.faultCount ∧
      other.winners.map Verdict.choice = outcome.winners.map Verdict.choice ∧
      other.best.choice = outcome.best.choice ∧
      otherLeft.store.networks = left.store.networks := by
  obtain ⟨registry, log, outcome, -, selected, candidates, count, faults, ranks⟩ :=
    select_of_tolerant tolerant input scans sources
  obtain ⟨otherRegistry, otherLog, other, -, otherSelected, otherCandidates, otherCount,
    otherFaults, otherRanks⟩ := select_of_tolerant tolerant input others sources
  rw [selected] at unchanged
  have settled := Nominator.settled_of_added_eq unchanged
  have requests := Nominator.requested_perm permuted input.device sources
  have otherSettled : ∀ network ∈ Nominator.requested input.device others sources,
      sources.store.Settled network.storeKey :=
    fun network member => settled network (requests.symm.subset member)
  obtain ⟨reports, -, networks⟩ := Nominator.reportInTurn_of_settled settled
  obtain ⟨otherReports, otherAdded, otherNetworks⟩ :=
    Nominator.reportInTurn_of_settled otherSettled
  have samePerScan := Nominator.reportsOf_samePerKey permuted sources.store.available?
    input.device sources
  rw [← reports, ← otherReports] at samePerScan
  have kept := kept_samePerKey selector input samePerScan distinct (by
    rw [reports]
    exact fun _ => Nominator.scan_mem_of_mem_reportsOf)
  have sameCandidates : (otherRegistry.candidates.map Candidate.unnumbered).Perm
      (registry.candidates.map Candidate.unnumbered) := by
    rw [candidates, otherCandidates, filedOnes_unnumbered, filedOnes_unnumbered]
    exact kept.perm.symm.map _
  refine ⟨outcome, _, other, _, selected, otherSelected, otherAdded, ?_, ?_,
    otherRanks.winners_congr ranks sameCandidates, otherRanks.best_congr ranks sameCandidates, ?_⟩
  · rw [count, otherCount]
    exact kept.perm.symm.length_eq
  · have reported := (nominations_samePerKey selector input samePerScan).perm.length_eq
    have valid := (validOnes_samePerKey selector input samePerScan).perm.length_eq
    omega
  · rw [networks, otherNetworks]
    exact (requests.symm.map Network.storeKey).foldl_eq _

def restingSources : Sources where
  store := (sampleSources.store.insert
    { (Samples.network Network.noId "shop" .unsecured).asSuggestedBy ⟨10002, "right"⟩ with
      status := .temporarilyDisabled }).2
  suggestions := sampleSources.suggestions
  providers := .empty

theorem select_of_permuted_sample :
    ∃ selector, ofSettings Settings.standard = .ok selector ∧
      selector.settings.registry.faultPolicy = .tolerant ∧
      sampleScans.Perm sampleScans.reverse ∧
      (sampleScans.Pairwise fun left right => ¬left.SameRadio right) ∧
      (selector.select sampleInput sampleScans restingSources).2.store.added =
        restingSources.store.added ∧
      ∃ outcome left other otherLeft,
        selector.select sampleInput sampleScans restingSources = (.ok outcome, left) ∧
        selector.select sampleInput sampleScans.reverse restingSources = (.ok other, otherLeft) ∧
        other.winners.map Verdict.choice = outcome.winners.map Verdict.choice ∧
        otherLeft.store.networks = left.store.networks := by
  have accepted : ofSettings Settings.standard =
      .ok ⟨.standard, .throughput, ⟨28800000000000⟩⟩ := by decide +kernel
  have permuted : sampleScans.Perm sampleScans.reverse := (List.reverse_perm _).symm
  have distinct : sampleScans.Pairwise fun left right => ¬left.SameRadio right := by
    decide +kernel
  have unchanged : (select ⟨.standard, .throughput, ⟨28800000000000⟩⟩ sampleInput sampleScans
      restingSources).2.store.added = restingSources.store.added := by
    decide +kernel
  obtain ⟨outcome, left, other, otherLeft, selected, otherSelected, -, -, -, winners, -, networks⟩ :=
    select_of_permuted rfl sampleInput permuted distinct restingSources unchanged
  exact ⟨_, accepted, rfl, permuted, distinct, unchanged, outcome, left, other, otherLeft, selected,
    otherSelected, winners, networks⟩

end Selector

end WifiSelection
