import Mathlib.Data.List.Induction
import WifiSelection.Proofs.Registry.Basic

/-!
A registry and its log over whole runs. What a step is at fault for lies in the step itself, so the
log is told by the steps since it was last cleared, and the registry never depends on the log: the
fault policies agree on everything but whether a fault is answered as an error.
-/

namespace WifiSelection

structure LoggedRegistry where
  registry : Registry
  log : FaultLog

namespace LoggedRegistry

inductive Step where
  | connect (networkId : Option Int32) (bssid : Option MacAddress)
  | add (nomination : Nomination)
  | remove (candidate : Candidate)
  | record (fault : Fault)
  | clear

namespace Step

def isClear : Step → Bool
  | clear => true
  | _ => false

def fault? : Step → Option Fault
  | add nomination => nomination.fault?
  | record fault => some fault
  | _ => none

end Step

def empty (policy : FaultPolicy) : LoggedRegistry :=
  ⟨.empty, .empty policy⟩

def take (held : LoggedRegistry) : Step → Except Fault (Option Bool) × LoggedRegistry
  | .connect networkId bssid =>
    (.ok none, { held with registry := held.registry.connectedTo networkId bssid })
  | .add nomination =>
    let (answer, registry, log) := held.registry.add held.log nomination
    (answer.map some, ⟨registry, log⟩)
  | .remove candidate =>
    let (answer, registry) := held.registry.remove candidate
    (.ok (some answer), { held with registry })
  | .record fault =>
    let (answer, log) := held.log.record fault
    (answer.map some, { held with log })
  | .clear => (.ok none, { held with log := held.log.clear })

def after (policy : FaultPolicy) (steps : List Step) : LoggedRegistry :=
  steps.foldl (fun held step => (held.take step).2) (empty policy)

def recentFaults (steps : List Step) : List Fault :=
  (steps.reverse.takeWhile fun step => !step.isClear).filterMap Step.fault?

section OneStep

variable {held other : LoggedRegistry} {step : Step} {nomination : Nomination} {fault : Fault}

theorem record_snd (log : FaultLog) (fault : Fault) : (log.record fault).2 = log.note fault := by
  cases policy : log.policy <;> simp only [FaultLog.record, policy]

theorem take_of_fault (faulty : step.fault? = some fault) :
    held.take step =
      ((held.log.record fault).1.map some, { held with log := held.log.note fault }) := by
  cases step with
  | add nomination =>
      have refused := Nomination.fault?_eq_some_iff.mp faulty
      simp only [take, Registry.add_of_faulty refused, record_snd]
  | record recorded =>
      cases faulty
      simp only [take, record_snd]
  | connect networkId bssid => cases faulty
  | remove candidate => cases faulty
  | clear => cases faulty

theorem take_of_faultless (registry : Registry) (faultless : step.fault? = none) :
    ∃ answer next, ∀ held : LoggedRegistry, held.registry = registry → held.take step =
      (.ok answer, ⟨next, if step.isClear then held.log.clear else held.log⟩) := by
  cases step with
  | connect networkId bssid =>
      refine ⟨none, registry.connectedTo networkId bssid, ?_⟩
      rintro held rfl
      rfl
  | add nomination =>
      obtain ⟨filed, next, added⟩ := registry.add_of_faultless faultless
      refine ⟨some filed, next, ?_⟩
      rintro held rfl
      simp only [take, added]
      rfl
  | remove candidate =>
      refine ⟨some (registry.remove candidate).1, (registry.remove candidate).2, ?_⟩
      rintro held rfl
      rfl
  | record recorded => cases faultless
  | clear =>
      refine ⟨none, registry, ?_⟩
      rintro held rfl
      rfl

theorem isClear_of_fault (faulty : step.fault? = some fault) : step.isClear = false := by
  cases step with
  | clear => cases faulty
  | _ => rfl

theorem take_registry_eq (same : held.registry = other.registry) (step : Step) :
    (held.take step).2.registry = (other.take step).2.registry := by
  cases faulty : step.fault? with
  | some fault =>
      rw [take_of_fault faulty, take_of_fault faulty]
      exact same
  | none =>
      obtain ⟨answer, next, taken⟩ := take_of_faultless other.registry faulty
      rw [taken held same, taken other rfl]

theorem take_answers {strict lenient : LoggedRegistry} (picky : strict.log.policy = .picky)
    (tolerant : lenient.log.policy = .tolerant) (same : lenient.registry = strict.registry)
    (step : Step) :
    (∀ fault, (strict.take step).1 = .error fault ↔ step.fault? = some fault) ∧
    (∀ fault, (strict.take step).1 = .error fault →
      (lenient.take step).1 = .ok (some false) ∧
        (lenient.take step).2.log.last = some fault) ∧
    (∀ answer, (strict.take step).1 = .ok answer → (lenient.take step).1 = .ok answer) := by
  cases faulty : step.fault? with
  | some own =>
      have raised : (strict.take step).1 = .error own := by
        rw [take_of_fault faulty, FaultLog.record, picky]
        rfl
      have skipped : (lenient.take step).1 = .ok (some false) := by
        rw [take_of_fault faulty, FaultLog.record, tolerant]
        rfl
      have noted : (lenient.take step).2.log.last = some own := by
        rw [take_of_fault faulty]
        rfl
      rw [raised]
      refine ⟨fun fault => by simp, fun fault same => ?_, fun answer impossible => ?_⟩
      · cases same
        exact ⟨skipped, noted⟩
      · cases impossible
  | none =>
      obtain ⟨answer, next, taken⟩ := take_of_faultless strict.registry faulty
      rw [taken strict rfl, taken lenient same]
      refine ⟨fun fault => by simp, fun fault impossible => ?_, fun other same => same⟩
      cases impossible

def Outranks (registered : Candidate) (nomination : Nomination) : Prop :=
  registered.evaluatorPriority < nomination.priority ∨
    (nomination.priority = registered.evaluatorPriority ∧
      nomination.score ≤ registered.evaluatorScore)

theorem isOutrankedBy_iff {registered : Candidate} :
    nomination.isOutrankedBy registered = true ↔ Outranks registered nomination := by
  simp only [Nomination.isOutrankedBy, Outranks, Bool.or_eq_true, Bool.and_eq_true,
    decide_eq_true_eq]

/-- The exits of a nomination: a fault goes to the log only, an outranked nomination nowhere, and
any other into the registry only. -/
structure TellsApart (held : LoggedRegistry) (nomination : Nomination) : Prop where
  faulty : ∀ fault, nomination.fault? = some fault →
    let next := (held.take (.add nomination)).2
    next.registry = held.registry ∧ next.log.count = held.log.count + 1 ∧
      next.log.last = some fault
  outranked : ∀ key registered, nomination.key? = .ok key →
    held.registry.get? key = some registered → Outranks registered nomination →
    held.take (.add nomination) = (.ok (some false), held)
  filed : ∀ key, nomination.key? = .ok key →
    (∀ registered, held.registry.get? key = some registered → ¬Outranks registered nomination) →
    held.take (.add nomination) = (.ok (some true), ⟨held.registry.file nomination key, held.log⟩)

theorem add_tellsApart (held : LoggedRegistry) (nomination : Nomination) :
    held.TellsApart nomination where
  faulty fault atFault := by
    have taken : held.take (.add nomination) = _ :=
      take_of_fault (show (Step.add nomination).fault? = some fault from atFault)
    rw [taken]
    exact ⟨rfl, rfl, rfl⟩
  outranked key registered valid found outranks := by
    rw [take, Registry.add_of_outranked valid found (isOutrankedBy_iff.mpr outranks)]
    rfl
  filed key valid unrivalled := by
    rw [take, Registry.add_of_unrivalled valid fun registered found => ?_]
    · rfl
    · rw [← Bool.not_eq_true, isOutrankedBy_iff]
      exact unrivalled registered found

end OneStep

section Runs

theorem after_concat (policy : FaultPolicy) (steps : List Step) (step : Step) :
    after policy (steps ++ [step]) = ((after policy steps).take step).2 := by
  simp [after]

theorem recentFaults_concat (steps : List Step) (step : Step) :
    recentFaults (steps ++ [step]) =
      if step.isClear then [] else step.fault?.toList ++ recentFaults steps := by
  rw [recentFaults, List.reverse_append, List.reverse_singleton, List.singleton_append,
    List.takeWhile_cons]
  cases cleared : step.isClear with
  | true => rfl
  | false => cases faulty : step.fault? <;> simp [recentFaults, faulty]

theorem log_after (policy : FaultPolicy) (steps : List Step) :
    (after policy steps).log =
      ⟨policy, (recentFaults steps).length, (recentFaults steps).head?⟩ := by
  induction steps using List.reverseRecOn with
  | nil => rfl
  | append_singleton steps step ih =>
      rw [after_concat, recentFaults_concat]
      cases faulty : step.fault? with
      | some fault =>
          simp [take_of_fault faulty, ih, isClear_of_fault faulty, FaultLog.note]
      | none =>
          obtain ⟨answer, next, taken⟩ := take_of_faultless (after policy steps).registry faulty
          rw [taken _ rfl, ih]
          cases step.isClear <;> rfl

theorem registry_after (policy other : FaultPolicy) (steps : List Step) :
    (after policy steps).registry = (after other steps).registry := by
  induction steps using List.reverseRecOn with
  | nil => rfl
  | append_singleton steps step ih =>
      rw [after_concat, after_concat, take_registry_eq ih]

/-- Under both policies a run leaves the same registry and a log with the same count and last fault,
and its answers are the same but for the faults, which only the picky policy raises. A nomination at
fault changes the log alone and an outranked one nothing, so the log, which holds the faults since
it was last cleared, tells the two apart. -/
theorem policies_agree (steps : List Step) (step : Step) :
    let tolerant := after .tolerant steps
    let picky := after .picky steps
    (tolerant.registry = picky.registry ∧ tolerant.log.count = picky.log.count ∧
      tolerant.log.last = picky.log.last) ∧
    (∀ fault, (picky.take step).1 = .error fault ↔ step.fault? = some fault) ∧
    (∀ fault, (picky.take step).1 = .error fault →
      (tolerant.take step).1 = .ok (some false) ∧
        (tolerant.take step).2.log.last = some fault) ∧
    (∀ answer, (picky.take step).1 = .ok answer → (tolerant.take step).1 = .ok answer) ∧
    ∀ policy,
      let held := after policy steps
      (∀ nomination, held.TellsApart nomination) ∧
        held.log.count = (recentFaults steps).length ∧
        held.log.last = (recentFaults steps).head? := by
  intro tolerant picky
  have tolerantLog : tolerant.log = _ := log_after .tolerant steps
  have pickyLog : picky.log = _ := log_after .picky steps
  have sameRegistry : tolerant.registry = picky.registry := registry_after .tolerant .picky steps
  obtain ⟨raises, skips, otherwise⟩ := take_answers (congrArg FaultLog.policy pickyLog)
    (congrArg FaultLog.policy tolerantLog) sameRegistry step
  refine ⟨⟨sameRegistry, ?_, ?_⟩, raises, skips, otherwise, fun policy => ?_⟩
  · rw [tolerantLog, pickyLog]
  · rw [tolerantLog, pickyLog]
  · have log := log_after policy steps
    exact ⟨add_tellsApart _, congrArg FaultLog.count log, congrArg FaultLog.last log⟩

end Runs

end LoggedRegistry

end WifiSelection
