import WifiSelection.Network
import WifiSelection.Scan

/-!
Passpoint providers, by the SSIDs that they match, the way one of them matches an access point, and
the network that comes of such a match.
-/

namespace WifiSelection

inductive PasspointKind where
  | roaming
  | home
deriving DecidableEq, Repr, Inhabited

namespace PasspointKind

def jsonName : PasspointKind → String
  | roaming => "roaming"
  | home => "home"

instance : JsonForm PasspointKind where
  toJson kind := .text kind.jsonName
  ofJson? := JsonForm.choice? ([roaming, home].map fun kind => (kind.jsonName, kind))

end PasspointKind

/-- An installed Passpoint provider. The SSID of its network is filled in from a matching scan. -/
structure Provider where
  fqdn : String
  network : Network
  fromSuggestion : Bool
deriving DecidableEq, Repr, Inhabited

namespace Provider

instance : JsonForm Provider where
  toJson provider := .record
    [("fqdn", JsonForm.toJson provider.fqdn),
     ("config", JsonForm.toJson provider.network),
     ("from_suggestion", JsonForm.toJson provider.fromSuggestion)]
  ofJson? := JsonReader.run? do
    let fqdn ← JsonReader.required "fqdn"
    let network ← JsonReader.required "config"
    let fromSuggestion ← JsonReader.defaulted "from_suggestion" false
    return ⟨fqdn, network, fromSuggestion⟩

end Provider

namespace Network

def forAccessPoint (template : Network) (scan : Scan) (kind : PasspointKind) : Network :=
  { template.withPlainSsid scan.ssid with homeProvider := kind = .home }

end Network

structure ProviderDirectory where
  entries : List (String × Provider × PasspointKind)
  sweeps : Nat
deriving DecidableEq, Repr

namespace ProviderDirectory

def empty : ProviderDirectory := ⟨[], 0⟩

instance : Inhabited ProviderDirectory := ⟨empty⟩

def add (directory : ProviderDirectory) (ssid : String) (provider : Provider)
    (kind : PasspointKind) : ProviderDirectory :=
  { directory with entries := directory.entries ++ [(ssid, provider, kind)] }

/-- The provider of an access point: the first at home, or else the first. -/
def match? (directory : ProviderDirectory) (scan : Scan) : Option (Provider × PasspointKind) :=
  let found := (directory.entries.filter fun entry => entry.1 = scan.ssid).map Prod.snd
  (found.find? fun (_, kind) => kind = .home).orElse fun _ => found.head?

def sweep (directory : ProviderDirectory) : ProviderDirectory :=
  { directory with sweeps := directory.sweeps + 1 }

end ProviderDirectory

inductive Installer where
  | user
  | app
deriving DecidableEq, Repr, Inhabited

namespace Installer

def installed (installer : Installer) (provider : Provider) : Bool :=
  match installer with
  | user => !provider.fromSuggestion
  | app => provider.fromSuggestion

end Installer

structure ProviderMatch where
  scan : Scan
  provider : Provider
  kind : PasspointKind
deriving DecidableEq, Repr, Inhabited

namespace ProviderMatch

def ofScan? (matcher : Scan → Option (Provider × PasspointKind)) (installer : Installer)
    (scan : Scan) : Option ProviderMatch :=
  if scan.interworking then
    match matcher scan with
    | some (provider, kind) =>
      if installer.installed provider then some ⟨scan, provider, kind⟩ else none
    | none => none
  else
    none

/-- The matches of all scans: those at home first, and scan order within each kind. -/
def ofScans (matcher : Scan → Option (Provider × PasspointKind)) (installer : Installer)
    (scans : List Scan) : List ProviderMatch :=
  let found := scans.filterMap (ofScan? matcher installer)
  found.filter (fun found => found.kind = .home) ++
    found.filter (fun found => found.kind = .roaming)

end ProviderMatch

end WifiSelection
