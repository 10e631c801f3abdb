import WifiSelection.Proofs.Flags
import WifiSelection.Proofs.Pass.Meaning

/-!
What the connection of the device has to do with a pass. The nominators never look at it, and the
registry only writes it into the flags of candidates, so passes that differ in it alone come to the
same outcome up to the flags, unless the formula counts the current network.
-/

namespace WifiSelection

def DeviceState.withConnection (device : DeviceState) (networkId : Option Int32)
    (bssid : Option MacAddress) (connected : Bool) : DeviceState :=
  { device with currentNetworkId := networkId, currentBssid := bssid, connected := connected }

def PassInput.withConnection (input : PassInput) (networkId : Option Int32)
    (bssid : Option MacAddress) (connected : Bool) : PassInput :=
  { input with device := input.device.withConnection networkId bssid connected }

def Outcome.unflagged (outcome : Outcome) : Outcome :=
  { outcome with
    winners := outcome.winners.map Verdict.unflagged
    best := outcome.best.unflagged
    bestIsCurrentBssid := false }

namespace Nominator

variable (device : DeviceState) (networkId : Option Int32) (bssid : Option MacAddress)
  (connected : Bool)

theorem nominate_withConnection (nominator : Nominator) (scans : List Scan) (sources : Sources) :
    nominator.nominate (device.withConnection networkId bssid connected) scans sources =
      nominator.nominate device scans sources := by
  cases nominator <;> rfl

theorem reportInTurn_withConnection (scans : List Scan) (nominators : List Nominator)
    (sources : Sources) :
    reportInTurn (device.withConnection networkId bssid connected) scans nominators sources =
      reportInTurn device scans nominators sources := by
  induction nominators generalizing sources with
  | nil => rfl
  | cons nominator rest ih => simp only [reportInTurn, nominate_withConnection, ih]

end Nominator

namespace Selector

theorem registerAll_unflagged (registry : Registry) (log : FaultLog)
    (nominations : List Nomination) :
    registerAll registry.unflagged log nominations =
      (registerAll registry log nominations).map fun (registered, logged) =>
        (registered.unflagged, logged) := by
  induction nominations generalizing registry log with
  | nil => rfl
  | cons nomination rest ih =>
      rw [registerAll, registerAll, registry.add_unflagged]
      rcases registry.add log nomination with ⟨fault | filed, next, logged⟩
      · rfl
      · exact ih next logged

theorem initialRegistry_unflagged (device : DeviceState) :
    (initialRegistry device).unflagged = .empty := by
  rw [initialRegistry]
  split <;> rfl

theorem initialRegistry_of_disconnected {device : DeviceState} (apart : device.connected = false) :
    initialRegistry device = .empty := by
  simp [initialRegistry, apart]

theorem registerAll_of_connection {device : DeviceState} {log logged : FaultLog}
    {registry : Registry} {nominations : List Nomination}
    (registered : registerAll (initialRegistry device) log nominations = .ok (registry, logged)) :
    registerAll .empty log nominations = .ok (registry.unflagged, logged) := by
  rw [← initialRegistry_unflagged device, registerAll_unflagged, registered]
  rfl

section Outcomes

variable {selector : Selector} {registry : Registry}

def Overlooks (selector : Selector) (candidates : List Candidate) : Prop :=
  ∀ candidate ∈ candidates, selector.scorer.Overlooks selector.settings.scoring candidate

instance (candidates : List Candidate) : Decidable (selector.Overlooks candidates) :=
  inferInstanceAs (Decidable (∀ candidate ∈ candidates, _))

theorem outcome_unflagged (log : FaultLog) (overlooks : selector.Overlooks registry.candidates) :
    selector.outcome registry.unflagged log = (selector.outcome registry log).unflagged := by
  have winners : selector.scorer.winners selector.settings.scoring registry.unflagged.groups =
      (selector.scorer.winners selector.settings.scoring registry.groups).map
        Verdict.unflagged := by
    rw [Scorer.winners, Scorer.winners, Registry.groups_unflagged, List.map_map, List.map_map]
    refine List.map_congr_left fun group listed => ?_
    exact Scorer.winner_unflagged fun candidate member =>
      overlooks candidate (Registry.mem_of_mem_groups listed member)
  have unmarked : ∀ verdict : Verdict,
      verdict.unflagged.candidate.any Candidate.isCurrentBssid = false := by
    intro verdict
    rcases verdict with ⟨value, confidence, overridable, candidate⟩
    cases candidate <;> rfl
  simp only [outcome, winners, Verdict.best_unflagged, Registry.size_unflagged, unmarked]
  rfl

end Outcomes

section Connections

variable {selector : Selector} {input : PassInput} {scans : List Scan} {networkId : Option Int32}
  {bssid : Option MacAddress} {connected : Bool} {sources left otherLeft : Sources}
  {log logged otherLogged : FaultLog} {registry other : Registry}

theorem registries_of_connections
    (passed : selector.nominateAll input scans (initialRegistry input.device) log sources
      Nominator.all = (.ok (registry, logged), left))
    (otherPassed :
      let elsewhere := input.withConnection networkId bssid connected
      selector.nominateAll elsewhere scans (initialRegistry elsewhere.device) log sources
        Nominator.all = (.ok (other, otherLogged), otherLeft)) :
    registry.unflagged = other.unflagged ∧ logged = otherLogged ∧ left = otherLeft ∧
      (input.device.connected = false → connected = false → registry = other) := by
  let elsewhere := input.withConnection networkId bssid connected
  have reports : Nominator.reportInTurn elsewhere.device scans Nominator.all sources =
      Nominator.reportInTurn input.device scans Nominator.all sources :=
    Nominator.reportInTurn_withConnection input.device networkId bssid connected scans _ sources
  obtain ⟨registered, stores⟩ := (nominateAll_eq_ok_iff ..).mp passed
  obtain ⟨otherRegistered, otherStores⟩ := (nominateAll_eq_ok_iff ..).mp otherPassed
  rw [reports] at otherRegistered otherStores
  -- Without the flags both registrations are the one that starts from the empty registry.
  have agreed := (registerAll_of_connection registered).symm.trans
    (registerAll_of_connection otherRegistered)
  obtain ⟨sameRegistry, sameLog⟩ := Prod.mk.inj (Except.ok.inj agreed)
  refine ⟨sameRegistry, sameLog, stores.symm.trans otherStores, fun apart otherApart => ?_⟩
  have otherStart : initialRegistry elsewhere.device = .empty :=
    initialRegistry_of_disconnected otherApart
  rw [initialRegistry_of_disconnected apart] at registered
  rw [otherStart] at otherRegistered
  exact (Prod.mk.inj (Except.ok.inj (registered.symm.trans otherRegistered))).1

end Connections

/-- Let two passes differ in nothing but the connection of the device. They leave the same stores,
and their registries are the same but for the flags of a connection. The outcomes count the same
candidates and faults. As long as the formula does not count the current network, they are the same
but for the flags, and without a connection on either side they are the same altogether. -/
theorem select_of_connections {selector : Selector}
    (tolerant : selector.settings.registry.faultPolicy = .tolerant) (input : PassInput)
    (networkId : Option Int32) (bssid : Option MacAddress) (connected : Bool) (scans : List Scan)
    (sources : Sources) :
    let elsewhere := input.withConnection networkId bssid connected
    ∃ registry other log outcome otherOutcome left,
      selector.nominateAll input scans (initialRegistry input.device) (.empty .tolerant) sources
        Nominator.all = (.ok (registry, log), left) ∧
      selector.nominateAll elsewhere scans (initialRegistry elsewhere.device) (.empty .tolerant)
        sources Nominator.all = (.ok (other, log), left) ∧
      registry.unflagged = other.unflagged ∧
      selector.select input scans sources = (.ok outcome, left) ∧
      selector.select elsewhere scans sources = (.ok otherOutcome, left) ∧
      outcome.candidateCount = otherOutcome.candidateCount ∧
      outcome.faultCount = otherOutcome.faultCount ∧
      outcome.lastFault = otherOutcome.lastFault ∧
      (selector.Overlooks registry.candidates → selector.Overlooks other.candidates →
        outcome.unflagged = otherOutcome.unflagged) ∧
      (input.device.connected = false → connected = false → outcome = otherOutcome) := by
  intro elsewhere
  obtain ⟨registry, log, -, passed, -⟩ := select_of_tolerant tolerant input scans sources
  obtain ⟨other, otherLog, -, otherPassed, -⟩ :=
    select_of_tolerant tolerant elsewhere scans sources
  obtain ⟨sameRegistry, rfl, sameStores, disconnected⟩ :=
    registries_of_connections passed otherPassed
  rw [← sameStores] at otherPassed
  refine ⟨registry, other, log, selector.outcome registry log, selector.outcome other log, _, passed,
    otherPassed, sameRegistry, ?_, ?_, ?_, rfl, rfl, ?_, ?_⟩
  · simp only [select, tolerant, passed]
  · simp only [select, tolerant, otherPassed]
  · have size := registry.size_unflagged
    rw [sameRegistry, other.size_unflagged] at size
    exact size.symm
  · intro overlooks otherOverlooks
    rw [← outcome_unflagged log overlooks, ← outcome_unflagged log otherOverlooks, sameRegistry]
  · intro apart otherApart
    rw [disconnected apart otherApart]

theorem select_of_connections_sample :
    let selector : Selector := ⟨.standard, .throughput, ⟨28800000000000⟩⟩
    let elsewhere := sampleInput.withConnection (some 7) (some (.ofLast 1)) true
    selector.settings.registry.faultPolicy = .tolerant ∧ ∃ outcome otherOutcome left,
      selector.select sampleInput sampleScans sampleSources = (.ok outcome, left) ∧
      selector.select elsewhere sampleScans sampleSources = (.ok otherOutcome, left) ∧
      outcome ≠ otherOutcome ∧ outcome.unflagged = otherOutcome.unflagged := by
  intro selector elsewhere
  have tolerant : selector.settings.registry.faultPolicy = .tolerant := rfl
  obtain ⟨registry, other, log, outcome, otherOutcome, left, passed, otherPassed, -, selected,
    otherSelected, -, -, -, same, -⟩ := select_of_connections tolerant sampleInput (some 7)
      (some (.ofLast 1)) true sampleScans sampleSources
  have apart : (selector.select sampleInput sampleScans sampleSources).1.toOption ≠
      (selector.select elsewhere sampleScans sampleSources).1.toOption := by decide +kernel
  rw [selected, otherSelected] at apart
  have overlooks : ∀ input ∈ [sampleInput, elsewhere],
      ∀ result ∈ (selector.nominateAll input sampleScans (initialRegistry input.device)
        (.empty .tolerant) sampleSources Nominator.all).1.toOption,
          selector.Overlooks result.1.candidates := by
    decide +kernel
  refine ⟨tolerant, outcome, otherOutcome, left, selected, otherSelected, ?_, same ?_ ?_⟩
  · rintro rfl
    exact apart rfl
  · have here := overlooks sampleInput List.mem_cons_self
    rw [passed] at here
    exact here _ rfl
  · have there := overlooks elsewhere (List.mem_cons_of_mem _ List.mem_cons_self)
    rw [otherPassed] at there
    exact there _ rfl

end Selector

end WifiSelection
