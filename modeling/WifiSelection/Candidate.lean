import WifiSelection.Json.Basic
import WifiSelection.Scan

/-!
Candidates for a connection: one access point paired with one stored network. A candidate is built
for one selection pass and never changed; a better nomination replaces it by a new one with a new
serial number. It may carry the signal strengths polled from its access point, kept as a count, a sum
and a sum of squares, with every figure computed in double precision in the order written here.
-/

namespace WifiSelection

structure SignalHistory where
  count : UInt32
  sum : Binary64
  sumOfSquares : Binary64
deriving DecidableEq, Repr, Inhabited

namespace SignalHistory

def countValue (history : SignalHistory) : Binary64 :=
  .ofInt history.count.toNat

def ofMoments (count : UInt32) (mean variance : Binary64) : SignalHistory :=
  let polls := Binary64.ofInt count.toNat
  ⟨count, mean * polls, (variance + mean * mean) * polls⟩

def mean? (history : SignalHistory) : Option Binary64 :=
  if history.count = 0 then none else some (history.sum / history.countValue)

def variance? (history : SignalHistory) : Option Binary64 :=
  history.mean?.map fun mean =>
    Binary64.maximum (history.sumOfSquares / history.countValue - mean * mean) Binary64.zero

def deviation? (history : SignalHistory) : Option Binary64 :=
  history.variance?.map Binary64.sqrt

def numericallyEqual (left right : SignalHistory) : Bool :=
  left.count == right.count && left.sum.numericallyEqual right.sum &&
    left.sumOfSquares.numericallyEqual right.sumOfSquares

instance : JsonForm SignalHistory where
  toJson history := .record
    [("count", JsonForm.toJson history.count),
     ("sum", JsonForm.toJson history.sum),
     ("sum_of_squares", JsonForm.toJson history.sumOfSquares)]
  ofJson? := JsonReader.run? do
    let count ← JsonReader.required "count"
    let sum ← JsonReader.required "sum"
    let sumOfSquares ← JsonReader.required "sum_of_squares"
    return ⟨count, sum, sumOfSquares⟩

end SignalHistory

structure CandidateKey where
  identity : NetworkIdentity
  bssid : MacAddress
  networkId : Int32
deriving DecidableEq, Repr, Inhabited

namespace CandidateKey

instance : Ord CandidateKey where
  compare left right :=
    ((compare left.identity right.identity).then (compare left.bssid right.bssid)).then
      (compare left.networkId right.networkId)

instance : JsonForm CandidateKey where
  toJson key := .record
    [("match_info", JsonForm.toJson key.identity),
     ("bssid", JsonForm.toJson key.bssid),
     ("network_id", JsonForm.toJson key.networkId)]
  ofJson? := JsonReader.run? do
    let identity ← JsonReader.required "match_info"
    let bssid ← JsonReader.required "bssid"
    let networkId ← JsonReader.required "network_id"
    return ⟨identity, bssid, networkId⟩

end CandidateKey

structure Candidate where
  key : CandidateKey
  /-- The number of the registration; zero before it. -/
  serial : Nat
  rssi : Int32
  frequency : Int32
  predictedThroughput : Int32
  /-- Rank of the nominating source, the lowest first. -/
  evaluatorPriority : UInt32
  evaluatorScore : Int32
  isCurrentNetwork : Bool
  isCurrentBssid : Bool
  isOpenNetwork : Bool
  isMetered : Bool
  isEphemeral : Bool
  isPasspoint : Bool
  lastSelectionWeight : Binary64
  history : Option SignalHistory
deriving DecidableEq, Repr, Inhabited

namespace Candidate

def networkId (candidate : Candidate) : Int32 :=
  candidate.key.networkId

def isCopyOf (left right : Candidate) : Bool :=
  left.serial == right.serial && left.key == right.key

def numericallyEqual (left right : Candidate) : Bool :=
  let plain (candidate : Candidate) : Candidate :=
    { candidate with lastSelectionWeight := .zero, history := none }
  let historiesEqual :=
    match left.history, right.history with
    | none, none => true
    | some left, some right => left.numericallyEqual right
    | _, _ => false
  plain left == plain right &&
    left.lastSelectionWeight.numericallyEqual right.lastSelectionWeight && historiesEqual

instance : JsonForm Candidate where
  toJson candidate := .record
    [("key", JsonForm.toJson candidate.key),
     ("serial", JsonForm.toJson candidate.serial),
     ("scan_rssi", JsonForm.toJson candidate.rssi),
     ("frequency_mhz", JsonForm.toJson candidate.frequency),
     ("predicted_throughput_mbps", JsonForm.toJson candidate.predictedThroughput),
     ("evaluator_priority", JsonForm.toJson candidate.evaluatorPriority),
     ("evaluator_score", JsonForm.toJson candidate.evaluatorScore),
     ("is_current_network", JsonForm.toJson candidate.isCurrentNetwork),
     ("is_current_bssid", JsonForm.toJson candidate.isCurrentBssid),
     ("is_open_network", JsonForm.toJson candidate.isOpenNetwork),
     ("is_metered", JsonForm.toJson candidate.isMetered),
     ("is_ephemeral", JsonForm.toJson candidate.isEphemeral),
     ("is_passpoint", JsonForm.toJson candidate.isPasspoint),
     ("last_selection_weight", JsonForm.toJson candidate.lastSelectionWeight),
     ("historical_signal_stats", JsonForm.toJson candidate.history)]
  ofJson? := JsonReader.run? do
    let key ← JsonReader.required "key"
    let serial ← JsonReader.defaulted "serial" 0
    let rssi ← JsonReader.required "scan_rssi"
    let frequency ← JsonReader.required "frequency_mhz"
    let predictedThroughput ← JsonReader.required "predicted_throughput_mbps"
    let evaluatorPriority ← JsonReader.required "evaluator_priority"
    let evaluatorScore ← JsonReader.required "evaluator_score"
    let isCurrentNetwork ← JsonReader.required "is_current_network"
    let isCurrentBssid ← JsonReader.defaulted "is_current_bssid" false
    let isOpenNetwork ← JsonReader.required "is_open_network"
    let isMetered ← JsonReader.required "is_metered"
    let isEphemeral ← JsonReader.required "is_ephemeral"
    let isPasspoint ← JsonReader.defaulted "is_passpoint" false
    let lastSelectionWeight ← JsonReader.required "last_selection_weight"
    let history ← JsonReader.defaulted "historical_signal_stats" none
    return { key, serial, rssi, frequency, predictedThroughput, evaluatorPriority, evaluatorScore,
             isCurrentNetwork, isCurrentBssid, isOpenNetwork, isMetered, isEphemeral, isPasspoint,
             lastSelectionWeight, history }

end Candidate

end WifiSelection
