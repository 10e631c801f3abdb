import WifiSelection.LastSelection
import WifiSelection.Nomination
import WifiSelection.Registry
import WifiSelection.Scoring

/-!
A selection pass, from scans to a ranked winner. All nominators run in turn and their reports are
registered; then each network's candidates are scored and the best of the winners is chosen. Under
the picky policy the first fault ends the pass after the nominator that reported it.
-/

namespace WifiSelection

inductive SelectionError where
  | rejected (fault : Fault)
  | unusable (error : SettingsError)
deriving DecidableEq, Repr

def SelectionError.message : SelectionError → String
  | rejected fault => "candidate rejected: " ++ fault.message
  | unusable error => "configuration error: " ++ error.message

structure PassInput where
  device : DeviceState
  lastSelection : Option LastSelection
  now : Timestamp
  history : MacAddress → Option SignalHistory

structure Outcome where
  /-- One verdict for each network, by ascending network id. -/
  winners : List Verdict
  best : Verdict
  bestIsCurrentBssid : Bool
  candidateCount : Nat
  faultCount : Nat
  lastFault : Option Fault
deriving DecidableEq, Repr

structure Selector where
  settings : Settings
  scorer : Scorer
  decay : Duration
deriving DecidableEq, Repr

namespace Selector

def ofSettings (settings : Settings) : Except SettingsError Selector := do
  settings.validate
  let scorer ← Scorer.parse settings.selection.scorer
  let minutes := settings.selection.decayMinutes
  match Duration.ofMinutes? minutes.toInt with
  | some decay => .ok ⟨settings, scorer, decay⟩
  | none => .error (.decayTooLong minutes)

def nomination (selector : Selector) (input : PassInput) (nominator : Nominator)
    (report : Connectable) : Nomination where
  scan := report.scan
  network := report.network
  priority := nominator.priority
  score := 0
  selectionWeight :=
    match input.lastSelection with
    | some selection => selection.weightOf report.network.id input.now selector.decay
    | none => .zero
  isMetered := report.network.metered
  history := report.scan.parseBssid.toOption.bind input.history

def registerAll (registry : Registry) (log : FaultLog) :
    List Nomination → Except Fault (Registry × FaultLog)
  | [] => .ok (registry, log)
  | nomination :: rest =>
    match registry.add log nomination with
    | (.error fault, _) => .error fault
    | (.ok _, registry, log) => registerAll registry log rest

def nominateAll (selector : Selector) (input : PassInput) (scans : List Scan)
    (registry : Registry) (log : FaultLog) (sources : Sources) :
    List Nominator → Except Fault (Registry × FaultLog) × Sources
  | [] => (.ok (registry, log), sources)
  | nominator :: rest =>
    let (reports, sources) := nominator.nominate input.device scans sources
    match registerAll registry log (reports.map (selector.nomination input nominator)) with
    | .error fault => (.error fault, sources)
    | .ok (registry, log) => nominateAll selector input scans registry log sources rest

def initialRegistry (device : DeviceState) : Registry :=
  if device.connected then
    Registry.empty.connectedTo device.currentNetworkId device.currentBssid
  else
    .empty

def outcome (selector : Selector) (registry : Registry) (log : FaultLog) : Outcome :=
  let winners := selector.scorer.winners selector.settings.scoring registry.groups
  let best := Verdict.best winners
  { winners
    best
    bestIsCurrentBssid := best.candidate.any Candidate.isCurrentBssid
    candidateCount := registry.size
    faultCount := log.count
    lastFault := log.last }

/-- Runs one pass. The stores keep what it changed also when it fails. -/
def select (selector : Selector) (input : PassInput) (scans : List Scan) (sources : Sources) :
    Except Fault Outcome × Sources :=
  let log := FaultLog.empty selector.settings.registry.faultPolicy
  match selector.nominateAll input scans (initialRegistry input.device) log sources
      Nominator.all with
  | (.ok (registry, log), sources) => (.ok (selector.outcome registry log), sources)
  | (.error fault, sources) => (.error fault, sources)

def run (settings : Settings) (input : PassInput) (scans : List Scan) (sources : Sources) :
    Except SelectionError Outcome × Sources :=
  match ofSettings settings with
  | .error error => (.error (.unusable error), sources)
  | .ok selector =>
    match selector.select input scans sources with
    | (.ok outcome, sources) => (.ok outcome, sources)
    | (.error fault, sources) => (.error (.rejected fault), sources)

end Selector

end WifiSelection
