import WifiSelection.Proofs.Pass.Meaning
import WifiSelection.Proofs.Pass.Requests
import WifiSelection.Proofs.Pass.Suggestions
import WifiSelection.Proofs.Store.Enabled

/-!
What a pass may connect to. A reported network has the id of an enabled one when it is reported, and
it still does after the requests of all later nominators. A candidate carries the id of a report,
and a winner is a candidate, so no failed request puts a network that is missing or disabled
forward.
-/

namespace WifiSelection

open NetworkStore (Asked HasEnabled Remain)

namespace Nominator

open Nomination

variable {device : DeviceState} {scans : List Scan} {sources : Sources} {report : Connectable}

theorem saved_hasEnabled {store : NetworkStore} {scan : Scan}
    (reported : Saved.report? store scan = some report) :
    HasEnabled store.networks report.network.id := by
  obtain ⟨-, found, eligible⟩ := Saved.report?_eq_some_iff.mp reported
  simp only [Saved.isEligible, Bool.and_eq_true] at eligible
  exact ⟨report.network, NetworkStore.mem_of_lookup found, rfl, of_decide_eq_true eligible.2⟩

theorem handled_hasEnabled (nominator : Nominator) {key : String}
    (handled : (key, some report) ∈ nominator.handled device scans sources) :
    HasEnabled (nominator.nominate device scans sources).2.store.networks report.network.id := by
  have asks := nominator.nominate_asks device scans sources
  cases nominator with
  | saved =>
      obtain ⟨scan, -, same⟩ := List.mem_map.mp handled
      exact (saved_hasEnabled (Prod.mk.inj same).2).of_remain asks.remain
  | suggestion =>
      obtain ⟨found, -, same⟩ := List.mem_map.mp handled
      obtain ⟨network, answered, rfl⟩ := Option.map_eq_some_iff.mp (Prod.mk.inj same).2
      obtain ⟨entry, asked, -, answer⟩ := NetworkStore.answerTo_eq_some answered
      rw [Suggested.reported_id]
      exact asks.hasEnabled entry asked network answer
  | passpoint =>
      obtain ⟨⟨found, entry⟩, zipped, same⟩ := List.mem_map.mp handled
      obtain ⟨network, answer, rfl⟩ := Option.map_eq_some_iff.mp (Prod.mk.inj same).2
      obtain ⟨-, asked⟩ := List.of_mem_zip zipped
      -- Filling a network in for an access point leaves its id alone.
      exact asks.hasEnabled entry asked network answer

theorem nominate_hasEnabled (nominator : Nominator)
    (reported : report ∈ (nominator.nominate device scans sources).1) :
    HasEnabled (nominator.nominate device scans sources).2.store.networks report.network.id := by
  rw [(nominator.nominate_eq device scans sources).1] at reported
  obtain ⟨⟨key, handled⟩, listed, rfl⟩ := List.mem_filterMap.mp reported
  exact nominator.handled_hasEnabled listed

theorem reportInTurn_remain (device : DeviceState) (scans : List Scan)
    (nominators : List Nominator) (sources : Sources) :
    Remain sources.store.networks
      (reportInTurn device scans nominators sources).2.store.networks := by
  induction nominators generalizing sources with
  | nil => exact .refl sources.store.networks
  | cons nominator rest ih =>
      exact (nominator.nominate_asks device scans sources).remain.trans (ih _)

theorem reportInTurn_hasEnabled {nominators : List Nominator} {pair : Nominator × Connectable}
    (reported : pair ∈ (reportInTurn device scans nominators sources).1) :
    HasEnabled (reportInTurn device scans nominators sources).2.store.networks
      pair.2.network.id := by
  induction nominators generalizing sources with
  | nil => cases reported
  | cons nominator rest ih =>
      rcases List.mem_append.mp reported with own | later
      · obtain ⟨report, made, rfl⟩ := List.mem_map.mp own
        exact (nominator.nominate_hasEnabled made).of_remain
          (reportInTurn_remain device scans rest _)
      · exact ih later

end Nominator

theorem Nomination.networkId_of_key? {nomination : Nomination} {key : CandidateKey}
    (valid : nomination.key? = .ok key) : key.networkId = nomination.network.id := by
  have found := key?_eq_ok_iff.mp valid
  rw [validKey?] at found
  split at found
  · obtain ⟨bssid, -, rfl⟩ := Option.map_eq_some_iff.mp found
    rfl
  · cases found

theorem Registry.mem_of_add {registry : Registry} {log : FaultLog} {nomination : Nomination}
    {entry : Candidate} (member : entry ∈ (registry.add log nomination).2.1.entries) :
    entry ∈ registry.entries ∨ entry.networkId = nomination.network.id := by
  rcases add_cases registry log nomination with
    ⟨fault, -, eq⟩ | ⟨key, registered, -, -, -, eq⟩ | ⟨key, valid, -, eq⟩
  · rw [eq] at member
    exact Or.inl member
  · rw [eq] at member
    exact Or.inl member
  · rw [eq, file_entries, List.mem_append, List.mem_singleton] at member
    rcases member with old | rfl
    · exact Or.inl (mem_without.mp old).1
    · exact Or.inr (Nomination.networkId_of_key? valid)

namespace Selector

theorem mem_of_registerAll {registry registered : Registry} {log logged : FaultLog}
    {nominations : List Nomination} {entry : Candidate}
    (eq : registerAll registry log nominations = .ok (registered, logged))
    (member : entry ∈ registered.entries) :
    entry ∈ registry.entries ∨
      ∃ nomination ∈ nominations, entry.networkId = nomination.network.id := by
  induction nominations generalizing registry log with
  | nil =>
      cases eq
      exact Or.inl member
  | cons head rest ih =>
      rw [registerAll] at eq
      rcases added : registry.add log head with ⟨fault | filed, changed, changedLog⟩ <;>
        rw [added] at eq
      · cases eq
      · rcases ih eq with early | ⟨nomination, listed, same⟩
        · have changedBy : (registry.add log head).2.1 = changed := by rw [added]
          rw [← changedBy] at early
          exact (Registry.mem_of_add early).imp_right fun same => ⟨head, List.mem_cons_self, same⟩
        · exact Or.inr ⟨nomination, List.mem_cons_of_mem _ listed, same⟩

theorem Ranks.candidate_of_winner {selector : Selector} {candidates : List Candidate}
    {outcome : Outcome} (ranks : selector.Ranks candidates outcome) {winner : Verdict}
    (member : winner ∈ outcome.winners) :
    ∃ candidate ∈ candidates, winner.candidate = some candidate := by
  obtain ⟨networkIds, -, -, winners⟩ := ranks.winners
  obtain ⟨index, bound, rfl⟩ := List.getElem_of_mem member
  have idBound : index < networkIds.length := winners.length_eq ▸ bound
  obtain ⟨chosen, first, verdict⟩ := winners.get idBound bound
  exact ⟨chosen, List.mem_of_mem_filter first.mem, congrArg Verdict.candidate verdict⟩

theorem Ranks.best_mem_winners {selector : Selector} {candidates : List Candidate}
    {outcome : Outcome} (ranks : selector.Ranks candidates outcome) {candidate : Candidate}
    (chosen : outcome.best.candidate = some candidate) : outcome.best ∈ outcome.winners := by
  by_cases empty : candidates = []
  · rw [ranks.best_nothing empty] at chosen
    cases chosen
  · exact (ranks.best empty).mem

theorem registered_hasEnabled {selector : Selector} {input : PassInput} {scans : List Scan}
    {sources : Sources} {log logged : FaultLog} {registry : Registry}
    (registered : registerAll (initialRegistry input.device) log (selector.nominations input
      (Nominator.reportInTurn input.device scans Nominator.all sources).1) = .ok (registry, logged))
    {candidate : Candidate} (member : candidate ∈ registry.candidates) :
    HasEnabled (Nominator.reportInTurn input.device scans Nominator.all sources).2.store.networks
      candidate.networkId := by
  have filed : candidate ∈ registry.entries := Sorting.mem_sort.mp member
  rcases mem_of_registerAll registered filed with impossible | ⟨nomination, listed, sameId⟩
  · rw [initialRegistry_entries] at impossible
    cases impossible
  · obtain ⟨pair, reported, rfl⟩ := List.mem_map.mp listed
    rw [sameId]
    exact Nominator.reportInTurn_hasEnabled reported

/-- When a pass succeeds, each of its winners, and the best if there is one, is on a network id that
an enabled network has in the store that the pass leaves, whatever the store refused meanwhile. -/
theorem select_winners_enabled {selector : Selector} {input : PassInput} {scans : List Scan}
    {sources left : Sources} {outcome : Outcome}
    (selected : selector.select input scans sources = (.ok outcome, left)) :
    (∀ winner ∈ outcome.winners, ∃ candidate, winner.candidate = some candidate ∧
      HasEnabled left.store.networks candidate.networkId) ∧
    (∀ candidate, outcome.best.candidate = some candidate →
      HasEnabled left.store.networks candidate.networkId) := by
  obtain ⟨registry, log, registered, rfl, rfl⟩ := (select_eq_ok_iff ..).mp selected
  have ranks := selector.outcome_ranks registry log
  have winning : ∀ winner ∈ (selector.outcome registry log).winners,
      ∃ candidate, winner.candidate = some candidate ∧ HasEnabled
        (Nominator.reportInTurn input.device scans Nominator.all sources).2.store.networks
          candidate.networkId := by
    intro winner member
    obtain ⟨candidate, listed, chosen⟩ := ranks.candidate_of_winner member
    exact ⟨candidate, chosen, registered_hasEnabled registered listed⟩
  refine ⟨winning, fun candidate chosen => ?_⟩
  obtain ⟨winner, same, enabled⟩ := winning _ (ranks.best_mem_winners chosen)
  rw [chosen, Option.some.injEq] at same
  exact same ▸ enabled

def unwillingSources : Sources where
  store :=
    let saved := (NetworkStore.empty.insert (Samples.network Network.noId "cafe" .unsecured)).2
    let asleep := { (Samples.network Network.noId "shop" .unsecured).asSuggestedBy ⟨10001, "left"⟩ with
      status := .temporarilyDisabled }
    { (saved.insert asleep).2 with refusesEnabling := true }
  suggestions := [Samples.suggestion "shop" .unsecured ⟨10001, "left"⟩ 1]
  providers := ProviderDirectory.empty.add "hub" (Samples.provider "roam.example") .home

def unwillingScans : List Scan :=
  [Samples.scan "cafe" "00:00:00:00:00:01" .unsecured,
    Samples.scan "shop" "00:00:00:00:00:02" .unsecured,
    Samples.passpointScan "hub" "00:00:00:00:00:03",
    Samples.passpointScan "hub" "00:00:00:00:00:04"]

theorem select_winners_enabled_sample :
    let selector : Selector := ⟨.standard, .throughput, ⟨28800000000000⟩⟩
    ∃ outcome left, ofSettings Settings.standard = .ok selector ∧
      selector.select sampleInput unwillingScans unwillingSources = (.ok outcome, left) ∧
      outcome.winners.length = 3 ∧
      ∀ winner ∈ outcome.winners, ∃ candidate, winner.candidate = some candidate ∧
        HasEnabled left.store.networks candidate.networkId := by
  intro selector
  have accepted : ofSettings Settings.standard = .ok selector := by decide +kernel
  have three : ((selector.select sampleInput unwillingScans unwillingSources).1.toOption.map
      fun outcome => outcome.winners.length) = some 3 := by decide +kernel
  rcases selected : selector.select sampleInput unwillingScans unwillingSources with
    ⟨fault | outcome, left⟩
  · rw [selected] at three
    cases three
  · rw [selected] at three
    exact ⟨outcome, left, accepted, rfl, Option.some.inj three,
      (select_winners_enabled selected).1⟩

end Selector

end WifiSelection
