import WifiSelection.Selector

/-!
The reports of a pass, apart from what becomes of them. Nominating never looks at the registry, so
a pass that succeeds is the reports of all nominators in turn and then their registration.
-/

namespace WifiSelection

namespace Nominator

def reportInTurn (device : DeviceState) (scans : List Scan) :
    List Nominator → Sources → List (Nominator × Connectable) × Sources
  | [], sources => ([], sources)
  | nominator :: rest, sources =>
    let (reports, sources) := nominator.nominate device scans sources
    let (later, sources) := reportInTurn device scans rest sources
    (reports.map (Prod.mk nominator) ++ later, sources)

end Nominator

namespace Selector

def nominations (selector : Selector) (input : PassInput)
    (reports : List (Nominator × Connectable)) : List Nomination :=
  reports.map fun (nominator, report) => selector.nomination input nominator report

theorem registerAll_append (registry : Registry) (log : FaultLog) (first second : List Nomination) :
    registerAll registry log (first ++ second) =
      match registerAll registry log first with
      | .error fault => .error fault
      | .ok (registry, log) => registerAll registry log second := by
  induction first generalizing registry log with
  | nil => rfl
  | cons head rest ih =>
      simp only [List.cons_append, registerAll]
      rcases registry.add log head with ⟨answer, next, nextLog⟩
      cases answer with
      | error fault => rfl
      | ok filed => exact ih next nextLog

theorem nominations_reportInTurn_cons (selector : Selector) (input : PassInput)
    (scans : List Scan) (nominator : Nominator) (rest : List Nominator) (sources : Sources) :
    let run := nominator.nominate input.device scans sources
    selector.nominations input
        (Nominator.reportInTurn input.device scans (nominator :: rest) sources).1 =
      run.1.map (selector.nomination input nominator) ++ selector.nominations input
        (Nominator.reportInTurn input.device scans rest run.2).1 := by
  simp [Nominator.reportInTurn, nominations]

theorem nominateAll_fst (selector : Selector) (input : PassInput) (scans : List Scan)
    (registry : Registry) (log : FaultLog) (sources : Sources) (nominators : List Nominator) :
    (selector.nominateAll input scans registry log sources nominators).1 =
      registerAll registry log (selector.nominations input
        (Nominator.reportInTurn input.device scans nominators sources).1) := by
  induction nominators generalizing registry log sources with
  | nil => rfl
  | cons nominator rest ih =>
      rw [nominations_reportInTurn_cons, registerAll_append, nominateAll]
      rcases nominator.nominate input.device scans sources with ⟨reports, next⟩
      cases registered : registerAll registry log
          (reports.map (selector.nomination input nominator)) with
      | error fault => simp only [registered]
      | ok filed =>
          simp only [registered]
          exact ih filed.1 filed.2 next

theorem nominateAll_eq_ok_iff (selector : Selector) (input : PassInput) (scans : List Scan)
    (registry : Registry) (log : FaultLog) (sources left : Sources) (nominators : List Nominator)
    (result : Registry × FaultLog) :
    selector.nominateAll input scans registry log sources nominators = (.ok result, left) ↔
      registerAll registry log (selector.nominations input
        (Nominator.reportInTurn input.device scans nominators sources).1) = .ok result ∧
      (Nominator.reportInTurn input.device scans nominators sources).2 = left := by
  induction nominators generalizing registry log sources with
  | nil => simp [nominateAll, Nominator.reportInTurn, nominations, registerAll]
  | cons nominator rest ih =>
      rw [nominations_reportInTurn_cons, registerAll_append, nominateAll, Nominator.reportInTurn]
      rcases nominator.nominate input.device scans sources with ⟨reports, next⟩
      cases registered : registerAll registry log
          (reports.map (selector.nomination input nominator)) with
      | error fault => simp [registered]
      | ok filed =>
          simp only [registered]
          exact ih filed.1 filed.2 next

theorem select_eq_ok_iff (selector : Selector) (input : PassInput) (scans : List Scan)
    (sources left : Sources) (outcome : Outcome) :
    selector.select input scans sources = (.ok outcome, left) ↔
      ∃ registry log, registerAll (initialRegistry input.device)
          (FaultLog.empty selector.settings.registry.faultPolicy) (selector.nominations input
            (Nominator.reportInTurn input.device scans Nominator.all sources).1) =
            .ok (registry, log) ∧
        (Nominator.reportInTurn input.device scans Nominator.all sources).2 = left ∧
        selector.outcome registry log = outcome := by
  rw [select]
  rcases passed : selector.nominateAll input scans (initialRegistry input.device)
    (FaultLog.empty selector.settings.registry.faultPolicy) sources Nominator.all with
    ⟨fault | ⟨registry, log⟩, changed⟩
  · constructor
    · intro impossible
      cases impossible
    · rintro ⟨registry, log, registered, stores, -⟩
      have contradiction := (nominateAll_eq_ok_iff _ _ _ _ _ _ _ _ _).mpr ⟨registered, stores⟩
      rw [passed] at contradiction
      cases contradiction
  · have ⟨registered, stores⟩ := (nominateAll_eq_ok_iff _ _ _ _ _ _ _ _ _).mp passed
    constructor
    · intro same
      injection same with sameOutcome sameStores
      injection sameOutcome with sameOutcome
      exact ⟨registry, log, registered, stores.trans sameStores, sameOutcome⟩
    · rintro ⟨otherRegistry, otherLog, otherRegistered, otherStores, rfl⟩
      rw [registered] at otherRegistered
      injection otherRegistered with same
      injection same with sameRegistry sameLog
      rw [← sameRegistry, ← sameLog, ← stores, otherStores]

theorem registerAll_of_select_error {selector : Selector} {input : PassInput} {scans : List Scan}
    {sources left : Sources} {fault : Fault}
    (failed : selector.select input scans sources = (.error fault, left)) :
    registerAll (initialRegistry input.device)
        (FaultLog.empty selector.settings.registry.faultPolicy) (selector.nominations input
          (Nominator.reportInTurn input.device scans Nominator.all sources).1) = .error fault := by
  rw [← nominateAll_fst]
  rw [select] at failed
  split at failed
  · cases failed
  next raised changed passed =>
    rw [passed]
    cases failed
    rfl

end Selector

end WifiSelection
