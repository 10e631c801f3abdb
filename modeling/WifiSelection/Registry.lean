import WifiSelection.Candidate
import WifiSelection.Network

/-!
The registry of one selection pass. Nominated pairs are checked, and of several nominations with
one candidate key the best is kept: lowest priority first, then highest score, then earliest. The
registered candidates are listed by serial number and grouped by stored network. Every fault is
counted and the latest one kept; the policy only decides whether it is also raised as an error.
-/

namespace WifiSelection

namespace Sorting

def insert (precedes : α → α → Bool) (element : α) : List α → List α
  | [] => [element]
  | head :: tail =>
    if precedes element head then element :: head :: tail else head :: insert precedes element tail

def sort (precedes : α → α → Bool) : List α → List α
  | [] => []
  | head :: tail => insert precedes head (sort precedes tail)

end Sorting

inductive Fault where
  | malformedScan (reason : String)
  | malformedNetwork (networkId : Int32) (reason : String)
  | unparsableBssid (bssid : String)
  | identityMismatch (scan network : NetworkIdentity)
deriving DecidableEq, Repr

namespace Fault

def emptySsid (bssid : String) : Fault :=
  malformedScan ("empty SSID for BSSID " ++ bssid)

def missingId (networkId : Int32) (ssid : String) : Fault :=
  malformedNetwork networkId (ssid ++ " has no network id")

def message : Fault → String
  | malformedScan reason => "malformed scan result: " ++ reason
  | malformedNetwork networkId reason =>
    "malformed network config " ++ toString networkId.toInt ++ ": " ++ reason
  | unparsableBssid bssid => "unparsable BSSID '" ++ bssid ++ "'"
  | identityMismatch scan network =>
    "scan " ++ scan.display ++ " does not match network config " ++ network.display

end Fault

inductive FaultPolicy where
  /-- Skip the input. -/
  | tolerant
  /-- Raise the fault as an error. -/
  | picky
deriving DecidableEq, Repr, Inhabited

namespace FaultPolicy

def jsonName : FaultPolicy → String
  | tolerant => "tolerant"
  | picky => "picky"

instance : JsonForm FaultPolicy where
  toJson policy := .text policy.jsonName
  ofJson? := JsonForm.choice? ([tolerant, picky].map fun policy => (policy.jsonName, policy))

end FaultPolicy

structure FaultLog where
  policy : FaultPolicy
  count : Nat
  last : Option Fault
deriving DecidableEq, Repr, Inhabited

namespace FaultLog

def empty (policy : FaultPolicy) : FaultLog :=
  ⟨policy, 0, none⟩

def isEmpty (log : FaultLog) : Bool :=
  log.count = 0

def note (log : FaultLog) (fault : Fault) : FaultLog :=
  { log with count := log.count + 1, last := some fault }

/-- Logs a fault: under the tolerant policy nothing was added, under the picky one the fault is the
error. -/
def record (log : FaultLog) (fault : Fault) : Except Fault Bool × FaultLog :=
  match log.policy with
  | .tolerant => (.ok false, log.note fault)
  | .picky => (.error fault, log.note fault)

def clear (log : FaultLog) : FaultLog :=
  empty log.policy

end FaultLog

structure Nomination where
  scan : Scan
  network : Network
  priority : UInt32
  score : Int32
  /-- The weight of the user's last selection, moved into the unit interval on registration. -/
  selectionWeight : Binary64 := .zero
  /-- Metered for a reason other than the network's own mark. -/
  isMetered : Bool := false
  history : Option SignalHistory := none
deriving DecidableEq, Repr, Inhabited

namespace Nomination

/-- The key of the candidate that a nomination describes, or what is wrong with it. The identity of
a Passpoint network lies with its provider, so it need not agree with the scan's. -/
def key? (nomination : Nomination) : Except Fault CandidateKey :=
  let scan := nomination.scan
  let network := nomination.network
  if scan.ssid = "" then
    .error (.emptySsid scan.bssid)
  else if !network.hasId then
    .error (.missingId network.id network.ssid)
  else
    match scan.parseBssid with
    | .error error => .error (.unparsableBssid error.input)
    | .ok bssid =>
      if !network.isPasspoint && network.identity != scan.identity then
        .error (.identityMismatch scan.identity network.identity)
      else
        .ok ⟨scan.identity, bssid, network.id⟩

def isOutrankedBy (nomination : Nomination) (registered : Candidate) : Bool :=
  registered.evaluatorPriority < nomination.priority ||
    (nomination.priority = registered.evaluatorPriority &&
      nomination.score ≤ registered.evaluatorScore)

end Nomination

structure Registry where
  /-- One candidate for each key, in no particular order. -/
  entries : List Candidate
  currentNetworkId : Option Int32
  currentBssid : Option MacAddress
  lastSerial : Nat
deriving DecidableEq, Repr

namespace Registry

def empty : Registry := ⟨[], none, none, 0⟩

instance : Inhabited Registry := ⟨empty⟩

def connectedTo (registry : Registry) (networkId : Option Int32) (bssid : Option MacAddress) :
    Registry :=
  { registry with currentNetworkId := networkId, currentBssid := bssid }

def get? (registry : Registry) (key : CandidateKey) : Option Candidate :=
  registry.entries.find? fun entry => entry.key = key

def size (registry : Registry) : Nat :=
  registry.entries.length

def isEmpty (registry : Registry) : Bool :=
  registry.entries.isEmpty

def without (registry : Registry) (key : CandidateKey) : List Candidate :=
  registry.entries.filter fun entry => entry.key != key

def candidateOf (registry : Registry) (nomination : Nomination) (key : CandidateKey)
    (serial : Nat) : Candidate where
  key := key
  serial := serial
  rssi := nomination.scan.rssi
  frequency := nomination.scan.frequency
  predictedThroughput := nomination.scan.predictedThroughput
  evaluatorPriority := nomination.priority
  evaluatorScore := nomination.score
  isCurrentNetwork := registry.currentNetworkId = some key.networkId
  isCurrentBssid := registry.currentBssid = some key.bssid
  isOpenNetwork := key.identity.security.isOpen
  isMetered := nomination.network.metered || nomination.isMetered
  isEphemeral := nomination.network.ephemeral
  isPasspoint := nomination.network.isPasspoint
  lastSelectionWeight := nomination.selectionWeight.clamp .zero .one
  history := nomination.history

def file (registry : Registry) (nomination : Nomination) (key : CandidateKey) : Registry :=
  let serial := registry.lastSerial + 1
  { registry with
    entries := registry.without key ++ [registry.candidateOf nomination key serial]
    lastSerial := serial }

/-- Registers a nomination. The answer says whether it was filed or else outranked; a faulty
nomination goes to the log and leaves the registry as it was. -/
def add (registry : Registry) (log : FaultLog) (nomination : Nomination) :
    Except Fault Bool × Registry × FaultLog :=
  match nomination.key? with
  | .error fault =>
    let (answer, log) := log.record fault
    (answer, registry, log)
  | .ok key =>
    match registry.get? key with
    | some registered =>
      if nomination.isOutrankedBy registered then
        (.ok false, registry, log)
      else
        (.ok true, registry.file nomination key, log)
    | none => (.ok true, registry.file nomination key, log)

/-- Removes a candidate, if it is still registered as that very instance. -/
def remove (registry : Registry) (candidate : Candidate) : Bool × Registry :=
  match registry.get? candidate.key with
  | some registered =>
    if registered.isCopyOf candidate then
      (true, { registry with entries := registry.without candidate.key })
    else
      (false, registry)
  | none => (false, registry)

def candidates (registry : Registry) : List Candidate :=
  Sorting.sort (fun left right => left.serial ≤ right.serial) registry.entries

def networkIds (registry : Registry) : List Int32 :=
  Sorting.sort (fun left right => left ≤ right)
    (registry.candidates.map Candidate.networkId).eraseDups

/-- One group for each network with candidates, by ascending network id, its members in the order
of their registration. -/
def groups (registry : Registry) : List (List Candidate) :=
  registry.networkIds.map fun networkId =>
    registry.candidates.filter fun candidate => candidate.networkId = networkId

end Registry

end WifiSelection
