import WifiSelection.Proofs.Pass.Meaning

/-!
The same pass under both fault policies. Nominators report the same either way and a registry without
faults comes out the same, so the policies part at the first faulty report: the tolerant pass notes
it and goes on, the picky one ends with it after the nominator that made it.
-/

namespace WifiSelection

def Settings.withPolicy (settings : Settings) (policy : FaultPolicy) : Settings :=
  { settings with registry := { settings.registry with faultPolicy := policy } }

namespace Selector

open Nomination

theorem registerAll_of_faultless (registry : Registry) {nominations : List Nomination}
    (faultless : nominations.findSome? fault? = none) :
    ∃ registered, ∀ log, registerAll registry log nominations = .ok (registered, log) := by
  induction nominations generalizing registry with
  | nil => exact ⟨registry, fun _ => rfl⟩
  | cons head rest ih =>
      rw [List.findSome?_cons] at faultless
      cases valid : head.fault? with
      | some fault =>
          rw [valid] at faultless
          cases faultless
      | none =>
          rw [valid] at faultless
          obtain ⟨filed, next, added⟩ := registry.add_of_faultless valid
          obtain ⟨registered, eq⟩ := ih next faultless
          refine ⟨registered, fun log => ?_⟩
          simp only [registerAll, added, eq]

theorem registerAll_of_fault (registry : Registry) {log : FaultLog} (picky : log.policy = .picky)
    {nominations : List Nomination} {fault : Fault}
    (faulty : nominations.findSome? fault? = some fault) :
    registerAll registry log nominations = .error fault := by
  induction nominations generalizing registry with
  | nil => cases faulty
  | cons head rest ih =>
      rw [List.findSome?_cons] at faulty
      cases checked : head.fault? with
      | some first =>
          rw [checked] at faulty
          cases faulty
          simp only [registerAll, Registry.add_of_faulty (fault?_eq_some_iff.mp checked),
            FaultLog.record, picky]
      | none =>
          rw [checked] at faulty
          obtain ⟨filed, next, added⟩ := registry.add_of_faultless checked
          simp only [registerAll, added]
          exact ih next faulty

section FirstFault

variable (selector : Selector) (input : PassInput)

def firstFault? (reports : List (Nominator × Connectable)) : Option (Nominator × Fault) :=
  reports.findSome? fun (nominator, report) =>
    (selector.nomination input nominator report).fault?.map (Prod.mk nominator)

theorem findSome?_nominations (reports : List (Nominator × Connectable)) :
    (selector.nominations input reports).findSome? fault? =
      (selector.firstFault? input reports).map Prod.snd := by
  rw [nominations, firstFault?, List.findSome?_map, List.map_findSome?]
  congr 1
  funext report
  cases faulty : (selector.nomination input report.1 report.2).fault? <;> simp [faulty]

theorem firstFault?_of_nominator (nominator : Nominator) (reports : List Connectable) :
    selector.firstFault? input (reports.map (Prod.mk nominator)) =
      ((reports.map (selector.nomination input nominator)).findSome? fault?).map
        (Prod.mk nominator) := by
  rw [firstFault?, List.findSome?_map, List.findSome?_map, List.map_findSome?]
  rfl

theorem nominateAll_of_fault {scans : List Scan} (registry : Registry) {log : FaultLog}
    (picky : log.policy = .picky) {sources : Sources} {nominators : List Nominator}
    {nominator : Nominator} {fault : Fault}
    (first : selector.firstFault? input
      (Nominator.reportInTurn input.device scans nominators sources).1 = some (nominator, fault)) :
    ∃ earlier later, nominators = earlier ++ nominator :: later ∧
      selector.nominateAll input scans registry log sources nominators =
        (.error fault,
          (Nominator.reportInTurn input.device scans (earlier ++ [nominator]) sources).2) := by
  induction nominators generalizing registry sources with
  | nil => cases first
  | cons head rest ih =>
      rcases run : head.nominate input.device scans sources with ⟨reports, next⟩
      have turn : Nominator.reportInTurn input.device scans (head :: rest) sources =
          (reports.map (Prod.mk head) ++
              (Nominator.reportInTurn input.device scans rest next).1,
            (Nominator.reportInTurn input.device scans rest next).2) := by
        rw [Nominator.reportInTurn, run]
      rw [turn, firstFault?, List.findSome?_append, ← firstFault?, ← firstFault?,
        firstFault?_of_nominator] at first
      cases faulty : (reports.map (selector.nomination input head)).findSome? fault? with
      | some own =>
          rw [faulty] at first
          cases first
          refine ⟨[], rest, rfl, ?_⟩
          simp only [nominateAll, run, registerAll_of_fault registry picky faulty,
            List.nil_append, Nominator.reportInTurn]
      | none =>
          -- The log is still as it was, so the rest is a picky pass of its own.
          rw [faulty] at first
          obtain ⟨registered, eq⟩ := registerAll_of_faultless registry faulty
          obtain ⟨earlier, later, rfl, stopped⟩ := ih registered first
          refine ⟨head :: earlier, later, rfl, ?_⟩
          simp only [nominateAll, run, eq, stopped, List.cons_append, Nominator.reportInTurn]

end FirstFault

def withPolicy (selector : Selector) (policy : FaultPolicy) : Selector :=
  { selector with settings := selector.settings.withPolicy policy }

theorem ofSettings_withPolicy {settings : Settings} {selector : Selector}
    (accepted : ofSettings settings = .ok selector) (policy : FaultPolicy) :
    ofSettings (settings.withPolicy policy) = .ok (selector.withPolicy policy) := by
  obtain ⟨valid, scorer, decay, parsed, ranged, rfl⟩ := ofSettings_eq_ok_iff.mp accepted
  exact ofSettings_eq_ok_iff.mpr ⟨valid, scorer, decay, parsed, ranged, rfl⟩

def NotesFirst (selector : Selector) (input : PassInput)
    (reports : List (Nominator × Connectable)) (nominator : Nominator) (fault : Fault) : Prop :=
  ∃ before report after registry, reports = before ++ (nominator, report) :: after ∧
    registerAll (initialRegistry input.device) (.empty .tolerant)
      (selector.nominations input before) = .ok (registry, .empty .tolerant) ∧
    registerAll (initialRegistry input.device) (.empty .tolerant)
      (selector.nominations input (before ++ [(nominator, report)])) =
        .ok (registry, (FaultLog.empty .tolerant).note fault)

theorem notesFirst_of_firstFault? {selector : Selector} {input : PassInput}
    {reports : List (Nominator × Connectable)} {nominator : Nominator} {fault : Fault}
    (first : selector.firstFault? input reports = some (nominator, fault)) :
    selector.NotesFirst input reports nominator fault := by
  obtain ⟨before, ⟨found, report⟩, after, rfl, faulty, faultless⟩ :=
    List.findSome?_eq_some_iff.mp first
  obtain ⟨own, checked, same⟩ := Option.map_eq_some_iff.mp faulty
  obtain ⟨rfl, rfl⟩ := Prod.mk.inj same
  have unnoted : (selector.nominations input before).findSome? fault? = none := by
    rw [findSome?_nominations, firstFault?, List.findSome?_eq_none_iff.mpr faultless]
    rfl
  obtain ⟨registry, eq⟩ := registerAll_of_faultless (initialRegistry input.device) unnoted
  refine ⟨before, report, after, registry, rfl, eq _, ?_⟩
  rw [nominations, List.map_append, ← nominations, registerAll_append, eq]
  simp only [List.map_cons, List.map_nil, registerAll,
    Registry.add_of_faulty (fault?_eq_some_iff.mp checked), FaultLog.record, FaultLog.empty]

theorem select_of_policies (selector : Selector) (input : PassInput) (scans : List Scan)
    (sources : Sources) :
    let reports := Nominator.reportInTurn input.device scans Nominator.all sources
    ∃ outcome,
      (selector.withPolicy .tolerant).select input scans sources = (.ok outcome, reports.2) ∧
      (outcome.faultCount = 0 →
        (selector.withPolicy .picky).select input scans sources = (.ok outcome, reports.2)) ∧
      (0 < outcome.faultCount → ∃ earlier nominator later fault,
        Nominator.all = earlier ++ nominator :: later ∧
        selector.NotesFirst input reports.1 nominator fault ∧
        (selector.withPolicy .picky).select input scans sources = (.error fault,
          (Nominator.reportInTurn input.device scans (earlier ++ [nominator]) sources).2)) := by
  intro reports
  have policy : (selector.withPolicy .tolerant).settings.registry.faultPolicy = .tolerant := rfl
  let reported := selector.nominations input reports.1
  obtain ⟨outcome, selected, faultCount⟩ := select_counts_faults policy input scans sources
  have counted : outcome.faultCount = (reported.filterMap fault?).length := faultCount
  have found : (selector.firstFault? input reports.1).map Prod.snd =
      (reported.filterMap fault?).head? := by
    rw [List.head?_filterMap]
    exact (selector.findSome?_nominations input reports.1).symm
  refine ⟨outcome, selected, ?_, ?_⟩
  · intro zero
    rw [counted, List.length_eq_zero_iff] at zero
    have faultless : reported.findSome? fault? = none := by
      rw [← List.head?_filterMap, zero]
      rfl
    obtain ⟨registered, eq⟩ := registerAll_of_faultless (initialRegistry input.device) faultless
    obtain ⟨tolerated, noted, passed, -, made⟩ := (select_eq_ok_iff ..).mp selected
    obtain ⟨rfl, rfl⟩ := Prod.mk.inj (Except.ok.inj ((eq (.empty .tolerant)).symm.trans passed))
    exact (select_eq_ok_iff ..).mpr ⟨registered, .empty .picky, eq _, rfl, made⟩
  · intro positive
    cases first : selector.firstFault? input reports.1 with
    | none =>
        rw [first, Option.map_none, eq_comm, List.head?_eq_none_iff] at found
        rw [counted, found] at positive
        cases positive
    | some pair =>
        obtain ⟨nominator, fault⟩ := pair
        have picky : (FaultLog.empty .picky).policy = .picky := rfl
        obtain ⟨earlier, later, order, stopped⟩ := nominateAll_of_fault
          (selector.withPolicy .picky) input (initialRegistry input.device) picky first
        refine ⟨earlier, nominator, later, fault, order, notesFirst_of_firstFault? first, ?_⟩
        have policy : (selector.withPolicy .picky).settings.registry.faultPolicy = .picky := rfl
        simp only [select, policy, stopped]

/-- Let a tolerant and a picky selector have the same settings otherwise. When the tolerant pass
counts no fault, the picky one comes to the same. Otherwise it ends with the first fault that the
tolerant pass notes, and no nominator runs after the one that made the faulty report. -/
theorem run_of_policies {settings : Settings} {selector : Selector}
    (accepted : ofSettings settings = .ok selector) (input : PassInput) (scans : List Scan)
    (sources : Sources) :
    let reports := Nominator.reportInTurn input.device scans Nominator.all sources
    ∃ outcome,
      run (settings.withPolicy .tolerant) input scans sources = (.ok outcome, reports.2) ∧
      (outcome.faultCount = 0 →
        run (settings.withPolicy .picky) input scans sources = (.ok outcome, reports.2)) ∧
      (0 < outcome.faultCount → ∃ earlier nominator later fault,
        Nominator.all = earlier ++ nominator :: later ∧
        selector.NotesFirst input reports.1 nominator fault ∧
        run (settings.withPolicy .picky) input scans sources = (.error (.rejected fault),
          (Nominator.reportInTurn input.device scans (earlier ++ [nominator]) sources).2)) := by
  intro reports
  obtain ⟨outcome, selected, faultless, faulty⟩ :=
    selector.select_of_policies input scans sources
  refine ⟨outcome, ?_, ?_, ?_⟩
  · simp only [run, ofSettings_withPolicy accepted, selected]
    rfl
  · intro zero
    simp only [run, ofSettings_withPolicy accepted, faultless zero]
    rfl
  · intro positive
    obtain ⟨earlier, nominator, later, fault, order, first, stopped⟩ := faulty positive
    refine ⟨earlier, nominator, later, fault, order, first, ?_⟩
    simp only [run, ofSettings_withPolicy accepted, stopped]

theorem run_of_policies_sample :
    ∃ selector, ofSettings Settings.standard = .ok selector ∧ ∃ outcome left,
      run (Settings.standard.withPolicy .tolerant) sampleInput sampleScans sampleSources =
        (.ok outcome, left) ∧ 0 < outcome.faultCount ∧ ∃ fault early,
      run (Settings.standard.withPolicy .picky) sampleInput sampleScans sampleSources =
        (.error (.rejected fault), early) ∧ early ≠ left := by
  have accepted : ofSettings Settings.standard =
      .ok ⟨.standard, .throughput, ⟨28800000000000⟩⟩ := by decide +kernel
  obtain ⟨outcome, tolerated, -, faulty⟩ :=
    run_of_policies accepted sampleInput sampleScans sampleSources
  have counted : (run (Settings.standard.withPolicy .tolerant) sampleInput sampleScans
      sampleSources).1.toOption.map Outcome.faultCount = some 1 := by decide +kernel
  rw [tolerated] at counted
  have positive : 0 < outcome.faultCount := by
    have one : outcome.faultCount = 1 := Option.some.inj counted
    omega
  obtain ⟨earlier, nominator, later, fault, -, -, stopped⟩ := faulty positive
  refine ⟨_, accepted, outcome, _, tolerated, positive, fault, _, stopped, ?_⟩
  have apart : (run (Settings.standard.withPolicy .picky) sampleInput sampleScans
      sampleSources).2 ≠ (run (Settings.standard.withPolicy .tolerant) sampleInput sampleScans
        sampleSources).2 := by decide +kernel
  rw [stopped, tolerated] at apart
  exact apart

end Selector

end WifiSelection
