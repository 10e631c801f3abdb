import WifiSelection.Proofs.Pass.Ranking
import WifiSelection.Proofs.Pass.Registration
import WifiSelection.Samples

/-!
What a pass under the tolerant policy comes to. The nominators report in ascending order of their
priorities and all scores are zero, so no report ever replaces an earlier one: the candidates are
the first valid reports of their keys, and the outcome ranks them by network.
-/

namespace WifiSelection

namespace Nominator

theorem mem_of_mem_reportInTurn {device : DeviceState} {scans : List Scan}
    {nominators : List Nominator} {sources : Sources} {nominator : Nominator} {report : Connectable}
    (member : (nominator, report) ∈ (reportInTurn device scans nominators sources).1) :
    nominator ∈ nominators := by
  induction nominators generalizing sources with
  | nil => cases member
  | cons first rest ih =>
      simp only [reportInTurn, List.mem_append, List.mem_map, Prod.mk.injEq] at member
      rcases member with ⟨made, -, same, -⟩ | later
      · exact same ▸ List.mem_cons_self
      · exact List.mem_cons_of_mem _ (ih later)

theorem reportInTurn_pairwise (device : DeviceState) (scans : List Scan) (sources : Sources)
    {nominators : List Nominator}
    (ascending : nominators.Pairwise fun left right => left.priority ≤ right.priority) :
    (reportInTurn device scans nominators sources).1.Pairwise
      fun left right => left.1.priority ≤ right.1.priority := by
  induction nominators generalizing sources with
  | nil => exact List.Pairwise.nil
  | cons first rest ih =>
      obtain ⟨firstLowest, restAscending⟩ := List.pairwise_cons.mp ascending
      simp only [reportInTurn, List.pairwise_append]
      refine ⟨?_, ih _ restAscending, ?_⟩
      · rw [List.pairwise_map]
        exact List.pairwise_of_forall fun left right => UInt32.le_refl _
      · intro left leftMember right rightMember
        obtain ⟨report, -, rfl⟩ := List.mem_map.mp leftMember
        exact firstLowest right.1 (mem_of_mem_reportInTurn rightMember)

theorem all_ascending : all.Pairwise fun left right => left.priority ≤ right.priority := by
  decide

end Nominator

namespace Selector

open Nomination

theorem nominations_yield (selector : Selector) (input : PassInput) (scans : List Scan)
    (sources : Sources) :
    (selector.nominations input
      (Nominator.reportInTurn input.device scans Nominator.all sources).1).Pairwise
        fun earlier later => ¬later.Beats earlier := by
  rw [nominations, List.pairwise_map]
  refine (Nominator.reportInTurn_pairwise input.device scans sources
    Nominator.all_ascending).imp fun ordered => ?_
  simp only [Beats, nomination]
  grind

theorem initialRegistry_entries (device : DeviceState) : (initialRegistry device).entries = [] := by
  rw [initialRegistry]
  split <;> rfl

theorem initialRegistry_lastSerial (device : DeviceState) :
    (initialRegistry device).lastSerial = 0 := by
  rw [initialRegistry]
  split <;> rfl

theorem initialRegistry_get? (device : DeviceState) (key : CandidateKey) :
    (initialRegistry device).get? key = none := by
  rw [Registry.get?, initialRegistry_entries, List.find?_nil]

theorem initialRegistry_isConsistent (device : DeviceState) :
    (initialRegistry device).IsConsistent := by
  rw [initialRegistry]
  split
  · exact Registry.isConsistent_empty.connectedTo _ _
  · exact Registry.isConsistent_empty

theorem registerAll_isConsistent {registry registered : Registry} {log logged : FaultLog}
    {nominations : List Nomination} (consistent : registry.IsConsistent)
    (eq : registerAll registry log nominations = .ok (registered, logged)) :
    registered.IsConsistent := by
  induction nominations generalizing registry log with
  | nil =>
      cases eq
      exact consistent
  | cons head rest ih =>
      have next := consistent.add log head
      rw [registerAll] at eq
      rcases added : registry.add log head with ⟨fault | filed, changed, changedLog⟩ <;>
        rw [added] at eq next
      · cases eq
      · exact ih next eq

theorem ofSettings_eq_ok_iff {settings : Settings} {selector : Selector} :
    ofSettings settings = .ok selector ↔ settings.validate = .ok () ∧
      ∃ scorer decay, Scorer.parse settings.selection.scorer = .ok scorer ∧
        Duration.ofMinutes? settings.selection.decayMinutes.toInt = some decay ∧
        selector = ⟨settings, scorer, decay⟩ := by
  rw [ofSettings]
  cases settings.validate with
  | error error => simp [bind, Except.bind]
  | ok _ =>
      cases Scorer.parse settings.selection.scorer with
      | error error => simp [bind, Except.bind]
      | ok scorer =>
          cases ranged : Duration.ofMinutes? settings.selection.decayMinutes.toInt with
          | none => simp [bind, Except.bind, ranged]
          | some decay => simp [bind, Except.bind, ranged, eq_comm]

theorem ofSettings_settings {settings : Settings} {selector : Selector}
    (accepted : ofSettings settings = .ok selector) : selector.settings = settings := by
  obtain ⟨-, scorer, decay, -, -, rfl⟩ := ofSettings_eq_ok_iff.mp accepted
  rfl

def keptOnes (selector : Selector) (input : PassInput) (scans : List Scan) (sources : Sources) :
    List (CandidateKey × Nomination) :=
  firstPerKey (validOnes (selector.nominations input
    (Nominator.reportInTurn input.device scans Nominator.all sources).1))

theorem select_of_tolerant {selector : Selector}
    (tolerant : selector.settings.registry.faultPolicy = .tolerant)
    (input : PassInput) (scans : List Scan) (sources : Sources) :
    let reports := Nominator.reportInTurn input.device scans Nominator.all sources
    let reported := selector.nominations input reports.1
    let kept := selector.keptOnes input scans sources
    ∃ registry log outcome,
      selector.nominateAll input scans (initialRegistry input.device) (FaultLog.empty .tolerant)
        sources Nominator.all = (.ok (registry, log), reports.2) ∧
      selector.select input scans sources = (.ok outcome, reports.2) ∧
      registry.candidates = filedOnes (initialRegistry input.device) kept ∧
      outcome.candidateCount = kept.length ∧
      outcome.faultCount + (validOnes reported).length = reported.length ∧
      selector.Ranks registry.candidates outcome := by
  intro reports reported kept
  obtain ⟨registry, log, registered, entries, count⟩ :=
    registerAll_keeps_first (initialRegistry input.device) (FaultLog.empty .tolerant) reported rfl
      (by simp [initialRegistry_entries]) (selector.nominations_yield input scans sources)
  have fresh : (validOnes reported).filter
      (fun entry => ((initialRegistry input.device).get? entry.1).isNone) =
        validOnes reported := by
    simp [initialRegistry_get?]
  have keptEntries : registry.entries = filedOnes (initialRegistry input.device) kept := by
    rw [entries, initialRegistry_entries, fresh, List.nil_append]
    rfl
  refine ⟨registry, log, selector.outcome registry log, ?_, ?_, ?_, ?_, ?_,
    selector.outcome_ranks registry log⟩
  · exact (nominateAll_eq_ok_iff _ _ _ _ _ _ _ _ _).mpr ⟨registered, rfl⟩
  · rw [select_eq_ok_iff, tolerant]
    exact ⟨registry, log, registered, rfl, rfl⟩
  · rw [(registerAll_isConsistent (initialRegistry_isConsistent input.device)
      registered).candidates_eq, keptEntries]
  · rw [outcome, Registry.size, keptEntries, filedOnes, List.length_map, List.length_zipIdx]
  · rw [outcome]
    exact count.trans (Nat.zero_add _)

theorem select_counts_faults {selector : Selector}
    (tolerant : selector.settings.registry.faultPolicy = .tolerant)
    (input : PassInput) (scans : List Scan) (sources : Sources) :
    let reports := Nominator.reportInTurn input.device scans Nominator.all sources
    ∃ outcome, selector.select input scans sources = (.ok outcome, reports.2) ∧
      outcome.faultCount = ((selector.nominations input reports.1).filterMap fault?).length := by
  intro reports
  obtain ⟨-, -, outcome, -, selected, -, -, count, -⟩ :=
    select_of_tolerant tolerant input scans sources
  have lengths := validOnes_length (selector.nominations input reports.1)
  refine ⟨outcome, selected, Nat.add_right_cancel (count.trans ?_)⟩
  rw [← lengths, Nat.add_comm]

/-- A tolerant pass succeeds. Its candidates are the first valid reports of their keys, numbered in
order; every other count and the ranking of the outcome follow from them. -/
theorem select_ranks_first_valid_reports {settings : Settings} {selector : Selector}
    (accepted : ofSettings settings = .ok selector)
    (tolerant : settings.registry.faultPolicy = .tolerant)
    (input : PassInput) (scans : List Scan) (sources : Sources) :
    let reports := Nominator.reportInTurn input.device scans Nominator.all sources
    let reported := selector.nominations input reports.1
    let valid := validOnes reported
    let kept := firstPerKey valid
    ∃ registry log outcome,
      selector.nominateAll input scans (initialRegistry input.device) (FaultLog.empty .tolerant)
        sources Nominator.all = (.ok (registry, log), reports.2) ∧
      selector.select input scans sources = (.ok outcome, reports.2) ∧
      registry.candidates = (kept.zipIdx 1).map (fun (entry, serial) =>
        (initialRegistry input.device).candidateOf entry.2 entry.1 serial) ∧
      outcome.candidateCount = kept.length ∧
      outcome.faultCount + valid.length = reported.length ∧
      selector.Ranks registry.candidates outcome := by
  intro reports reported valid kept
  have policy : selector.settings.registry.faultPolicy = .tolerant := by
    rw [ofSettings_settings accepted, tolerant]
  obtain ⟨registry, log, outcome, registered, selected, candidates, count, faults, ranks⟩ :=
    select_of_tolerant policy input scans sources
  refine ⟨registry, log, outcome, registered, selected, ?_, count, faults, ranks⟩
  rw [candidates, filedOnes, initialRegistry_lastSerial]
  rfl

def sampleSources : Sources where
  store := (NetworkStore.empty.insert (Samples.network Network.noId "cafe" .unsecured)).2
  suggestions :=
    [Samples.suggestion "shop" .unsecured ⟨10001, "left"⟩ 1,
     Samples.suggestion "shop" .unsecured ⟨10002, "right"⟩ 2]
  providers := .empty

def sampleInput : PassInput where
  device := ⟨none, none, false, false⟩
  lastSelection := none
  now := ⟨0⟩
  history _ := none

def sampleScans : List Scan :=
  [Samples.scan "cafe" "00:00:00:00:00:01" .unsecured, Samples.scan "cafe" "nowhere" .unsecured,
   Samples.scan "shop" "00:00:00:00:00:02" .unsecured]

theorem select_ranks_first_valid_reports_sample :
    ∃ selector, ofSettings Settings.standard = .ok selector ∧
      Settings.standard.registry.faultPolicy = .tolerant ∧
      ∃ outcome left, selector.select sampleInput sampleScans sampleSources = (.ok outcome, left) ∧
        outcome.candidateCount = 2 ∧ outcome.faultCount = 1 := by
  have accepted : ofSettings Settings.standard =
      .ok ⟨.standard, .throughput, ⟨28800000000000⟩⟩ := by decide +kernel
  obtain ⟨registry, log, outcome, -, selected, -, count, faults, -⟩ :=
    select_ranks_first_valid_reports accepted rfl sampleInput sampleScans sampleSources
  refine ⟨_, accepted, rfl, outcome, _, selected, ?_, ?_⟩
  · rw [count]
    decide +kernel
  · refine Nat.add_right_cancel (faults.trans ?_)
    decide +kernel

end Selector

end WifiSelection
