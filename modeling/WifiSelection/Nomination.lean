import WifiSelection.Network
import WifiSelection.NetworkStore
import WifiSelection.Passpoint

/-!
Nomination: pairs of a scan and a stored network to which a connection is possible. Networks that the
user saved are reported as they are stored. Of the networks that apps suggest, Passpoint ones first,
each app has only those of its highest priority nominated, and each is stored, or enabled, at most
once in a run. The Passpoint networks of providers that the user installed come last, those of the
provider itself before those of roaming partners.
-/

namespace WifiSelection

structure Suggestion where
  network : Network
  app : App
  /-- Higher is preferred among the suggestions of the same app. -/
  priority : Int32
  untrusted : Bool
deriving DecidableEq, Repr, Inhabited

namespace Suggestion

instance : JsonForm Suggestion where
  toJson suggestion := .record
    [("config", JsonForm.toJson suggestion.network),
     ("app", JsonForm.toJson suggestion.app),
     ("priority", JsonForm.toJson suggestion.priority),
     ("untrusted", JsonForm.toJson suggestion.untrusted)]
  ofJson? := JsonReader.run? do
    let network ← JsonReader.required "config"
    let app ← JsonReader.required "app"
    let priority ← JsonReader.required "priority"
    let untrusted ← JsonReader.defaulted "untrusted" false
    return ⟨network, app, priority, untrusted⟩

end Suggestion

namespace Network

def asSuggestedBy (template : Network) (app : App) : Network :=
  { template with ephemeral := true, fromSuggestion := true, creator := app }

end Network

structure DeviceState where
  currentNetworkId : Option Int32
  currentBssid : Option MacAddress
  /-- Without a connection the current network and radio address do not count. -/
  connected : Bool
  untrustedAllowed : Bool
deriving DecidableEq, Repr, Inhabited

structure Sources where
  store : NetworkStore
  suggestions : List Suggestion
  providers : ProviderDirectory
deriving DecidableEq, Repr, Inhabited

structure Connectable where
  scan : Scan
  network : Network
deriving DecidableEq, Repr, Inhabited

namespace NetworkStore

def liveScans (store : NetworkStore) (scans : List Scan) : List Scan :=
  scans.filter fun scan => !store.isForgotten scan.ssid

def noteReport (store : NetworkStore) (report : Connectable) : NetworkStore :=
  store.noteScan report.network.id report.scan

end NetworkStore

namespace Nomination.Saved

def isEligible (network : Network) : Bool :=
  !network.isPasspoint && !network.ephemeral && !network.fromSuggestion && network.isEnabled

def report? (store : NetworkStore) (scan : Scan) : Option Connectable :=
  match store.get? scan.identity.storeKey with
  | some network => if isEligible network then some ⟨scan, network⟩ else none
  | none => none

def run (store : NetworkStore) (scans : List Scan) : List Connectable × NetworkStore :=
  let reports := scans.filterMap (report? store)
  (reports, reports.foldl NetworkStore.noteReport store)

end Nomination.Saved

structure SuggestionMatch where
  scan : Scan
  app : App
  priority : Int32
  network : Network
  /-- For a Passpoint suggestion, how its provider matched the scan. -/
  passpoint : Option PasspointKind
deriving DecidableEq, Repr, Inhabited

namespace Nomination.Suggested

def raise (app : App) (priority : Int32) : List (App × Int32) → List (App × Int32)
  | [] => [(app, priority)]
  | (head, mark) :: tail =>
    if head = app then
      (head, max mark priority) :: tail
    else
      (head, mark) :: raise app priority tail

def marks (entries : List (App × Int32)) : List (App × Int32) :=
  entries.foldl (fun found (app, priority) => raise app priority found) []

/-- The entries at the highest priority of their app, in their order. -/
def topPerApp (rank : α → App × Int32) (entries : List α) : List α :=
  let marks := marks (entries.map rank)
  entries.filter fun entry => marks.lookup (rank entry).1 = some (rank entry).2

def forScan (suggestions : List Suggestion) (scan : Scan) : List Suggestion :=
  suggestions.filter fun suggestion =>
    !suggestion.network.isPasspoint && suggestion.network.identity = scan.identity

def forProvider (suggestions : List Suggestion) (fqdn : String) : List Suggestion :=
  suggestions.filter fun suggestion => suggestion.network.fqdn = some fqdn

/-- Whether a suggestion may be nominated: it has to be trusted, unless untrusted ones are allowed,
and must not be for a network that the store has from elsewhere. -/
def isAdmissible (device : DeviceState) (store : NetworkStore) (suggestion : Suggestion) :
    Bool :=
  if suggestion.untrusted && !device.untrustedAllowed then
    false
  else
    match store.get? suggestion.network.storeKey with
    | some stored => stored.fromSuggestion
    | none => true

def passpointMatches (device : DeviceState) (sources : Sources) (scans : List Scan) :
    List SuggestionMatch :=
  (ProviderMatch.ofScans sources.providers.match? .app scans).flatMap fun found =>
    ((forProvider sources.suggestions found.provider.fqdn).filter
      (isAdmissible device sources.store)).map fun suggestion =>
        { scan := found.scan
          app := suggestion.app
          priority := suggestion.priority
          network := suggestion.network.forAccessPoint found.scan found.kind
          passpoint := some found.kind }

def plainMatches (device : DeviceState) (sources : Sources) (scans : List Scan) :
    List SuggestionMatch :=
  scans.flatMap fun scan =>
    ((forScan sources.suggestions scan).filter (isAdmissible device sources.store)).map
      fun suggestion =>
        { scan := scan
          app := suggestion.app
          priority := suggestion.priority
          network := suggestion.network
          passpoint := none }

def tier (device : DeviceState) (sources : Sources) (scans : List Scan) :
    List SuggestionMatch :=
  topPerApp (fun found => (found.app, found.priority))
    (passpointMatches device sources scans ++ plainMatches device sources scans)

/-- What became of each configuration key so far; no network stands for a failure. -/
abbrev Memory := List (String × Option Network)

def settle (memory : Memory) (store : NetworkStore) (found : SuggestionMatch) :
    Option Network × Memory × NetworkStore :=
  let key := found.network.storeKey
  match memory.lookup key with
  | some known => (known, memory, store)
  | none =>
    let (stored, store) := store.ensureReady (found.network.asSuggestedBy found.app) found.app
    (stored, (key, stored) :: memory, store)

/-- The network to report for a match. A stored Passpoint network serves every access point of its
provider, so it is filled in for the one at hand. -/
def reported (found : SuggestionMatch) (stored : Network) : Connectable where
  scan := found.scan
  network :=
    match found.passpoint with
    | some kind => stored.forAccessPoint found.scan kind
    | none => stored

def reportAll (memory : Memory) (store : NetworkStore) :
    List SuggestionMatch → List Connectable × NetworkStore
  | [] => ([], store)
  | found :: rest =>
    match settle memory store found with
    | (none, memory, store) => reportAll memory store rest
    | (some stored, memory, store) =>
      let report := reported found stored
      let (reports, store) := reportAll memory (store.noteReport report) rest
      (report :: reports, store)

def run (device : DeviceState) (sources : Sources) (scans : List Scan) :
    List Connectable × NetworkStore :=
  reportAll [] sources.store (tier device sources scans)

end Nomination.Suggested

namespace Nomination.Passpoint

/-- Stores and reports the networks of matches in turn. The stored network may carry the SSID of an
earlier match, so it is filled in again for the access point at hand. -/
def reportAll (store : NetworkStore) : List ProviderMatch → List Connectable × NetworkStore
  | [] => ([], store)
  | found :: rest =>
    let template := found.provider.network.forAccessPoint found.scan found.kind
    match store.ensureReady template .system with
    | (none, store) => reportAll store rest
    | (some stored, store) =>
      let report : Connectable := ⟨found.scan, stored.forAccessPoint found.scan found.kind⟩
      let (reports, store) := reportAll (store.noteReport report) rest
      (report :: reports, store)

def run (sources : Sources) (scans : List Scan) : List Connectable × Sources :=
  let providers := sources.providers.sweep
  let (reports, store) :=
    reportAll sources.store (ProviderMatch.ofScans providers.match? .user scans)
  (reports, { sources with store, providers })

end Nomination.Passpoint

inductive Nominator where
  | saved
  | suggestion
  | passpoint
deriving DecidableEq, Repr, Inhabited

namespace Nominator

def all : List Nominator :=
  [saved, suggestion, passpoint]

def priority : Nominator → UInt32
  | saved => 0
  | suggestion => 1
  | passpoint => 2

def label : Nominator → String
  | saved => "Saved"
  | suggestion => "Suggestion"
  | passpoint => "Passpoint"

def name (nominator : Nominator) : String :=
  nominator.label ++ "NetworkNominator"

def nominate (nominator : Nominator) (device : DeviceState) (scans : List Scan)
    (sources : Sources) : List Connectable × Sources :=
  let live := sources.store.liveScans scans
  match nominator with
  | saved =>
    let (reports, store) := Nomination.Saved.run sources.store live
    (reports, { sources with store })
  | suggestion =>
    let (reports, store) := Nomination.Suggested.run device sources live
    (reports, { sources with store })
  | passpoint => Nomination.Passpoint.run sources live

end Nominator

end WifiSelection
