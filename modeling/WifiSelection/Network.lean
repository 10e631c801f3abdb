import WifiSelection.Json.Basic
import WifiSelection.Text

/-!
Configured networks, stored or about to be. A network has an identity, which it shares with scans:
an SSID, here without the double quotes that stored networks carry it in, and one of four security
classes. A network with a provider domain is a Passpoint network: it is stored under that domain,
since one provider covers many SSIDs.
-/

namespace WifiSelection

structure App where
  uid : UInt32
  package : String
deriving DecidableEq, Repr, Inhabited

namespace App

def systemUid : UInt32 := 1010

def system : App := ⟨systemUid, "system"⟩

def display (app : App) : String :=
  app.package ++ "(" ++ toString app.uid.toNat ++ ")"

instance : Ord App where
  compare left right := (compare left.uid right.uid).then (compare left.package right.package)

instance : JsonForm App where
  toJson app := .record
    [("uid", JsonForm.toJson app.uid), ("package", JsonForm.toJson app.package)]
  ofJson? := JsonReader.run? do
    let uid ← JsonReader.required "uid"
    let package ← JsonReader.required "package"
    return ⟨uid, package⟩

end App

inductive Security where
  | unsecured
  | wep
  | psk
  | eap
deriving DecidableEq, Repr, Inhabited

inductive KeyManagement where
  | unsecured
  | wpaPsk
  | wpaEap
  | ieee8021x
deriving DecidableEq, Repr, Inhabited

namespace Security

/-- The class of an access point: a pre-shared key goes before enterprise authentication, and that
before WEP. -/
def ofCapabilities (capabilities : String) : Security :=
  let text := capabilities.toList
  if Text.mentions ['P', 'S', 'K'] text then
    psk
  else if Text.mentions ['E', 'A', 'P'] text then
    eap
  else if Text.mentions ['W', 'E', 'P'] text then
    wep
  else
    unsecured

/-- The class of a configured network. A network without key management is a WEP network when it
has a key that is not empty. -/
def ofKeyManagement (allowed : List KeyManagement) (wepKeys : List String) : Security :=
  if allowed.contains .wpaPsk then
    psk
  else if allowed.contains .wpaEap || allowed.contains .ieee8021x then
    eap
  else if allowed.contains .unsecured && wepKeys.any (· != "") then
    wep
  else
    unsecured

def keySuffix : Security → String
  | unsecured => "NONE"
  | wep => "WEP"
  | psk => "WPA_PSK"
  | eap => "WPA_EAP"

def label : Security → String
  | unsecured => "OPEN"
  | wep => "WEP"
  | psk => "PSK"
  | eap => "EAP"

def isOpen (security : Security) : Bool :=
  security = unsecured

def rank : Security → Nat
  | unsecured => 0
  | wep => 1
  | psk => 2
  | eap => 3

instance : Ord Security := ⟨fun left right => compare left.rank right.rank⟩

def jsonName : Security → String
  | unsecured => "open"
  | wep => "wep"
  | psk => "psk"
  | eap => "eap"

instance : JsonForm Security where
  toJson security := .text security.jsonName
  ofJson? := JsonForm.choice? ([unsecured, wep, psk, eap].map fun security =>
    (security.jsonName, security))

end Security

namespace KeyManagement

def jsonName : KeyManagement → String
  | unsecured => "none"
  | wpaPsk => "wpa_psk"
  | wpaEap => "wpa_eap"
  | ieee8021x => "ieee8021x"

instance : JsonForm KeyManagement where
  toJson management := .text management.jsonName
  ofJson? := JsonForm.choice? ([unsecured, wpaPsk, wpaEap, ieee8021x].map fun management =>
    (management.jsonName, management))

end KeyManagement

namespace Ssid

def quote (ssid : String) : String :=
  "\"" ++ ssid ++ "\""

/-- An SSID without its surrounding double quotes, of which one pair is taken off. A single quote
character is no pair. -/
def unquote (ssid : String) : String :=
  match ssid.toList with
  | '"' :: rest =>
    match rest.reverse with
    | '"' :: inner => String.ofList inner.reverse
    | _ => ssid
  | _ => ssid

end Ssid

structure NetworkIdentity where
  ssid : String
  security : Security
deriving DecidableEq, Repr, Inhabited

namespace NetworkIdentity

def ofSsid (ssid : String) (security : Security) : NetworkIdentity :=
  ⟨Ssid.unquote ssid, security⟩

def storeKey (identity : NetworkIdentity) : String :=
  Ssid.quote identity.ssid ++ identity.security.keySuffix

def display (identity : NetworkIdentity) : String :=
  Ssid.quote identity.ssid ++ "/" ++ identity.security.label

instance : Ord NetworkIdentity where
  compare left right := (compare left.ssid right.ssid).then (compare left.security right.security)

instance : JsonForm NetworkIdentity where
  toJson identity := .record
    [("ssid", JsonForm.toJson identity.ssid),
     ("security_type", JsonForm.toJson identity.security)]
  ofJson? := JsonReader.run? do
    let ssid ← JsonReader.required "ssid"
    let security ← JsonReader.required "security_type"
    return ⟨ssid, security⟩

end NetworkIdentity

inductive NetworkStatus where
  | enabled
  | temporarilyDisabled
  | permanentlyDisabled
deriving DecidableEq, Repr, Inhabited

namespace NetworkStatus

def jsonName : NetworkStatus → String
  | enabled => "enabled"
  | temporarilyDisabled => "temporarily_disabled"
  | permanentlyDisabled => "permanently_disabled"

instance : JsonForm NetworkStatus where
  toJson status := .text status.jsonName
  ofJson? := JsonForm.choice? ([enabled, temporarilyDisabled, permanentlyDisabled].map
    fun status => (status.jsonName, status))

end NetworkStatus

structure Network where
  /-- `Network.noId` until the store gives one. -/
  id : Int32
  /-- In double quotes, or empty in the template of a Passpoint network. -/
  ssid : String
  keyManagement : List KeyManagement
  wepKeys : List String
  /-- The provider's domain of a Passpoint network. -/
  fqdn : Option String
  ephemeral : Bool
  fromSuggestion : Bool
  metered : Bool
  homeProvider : Bool
  status : NetworkStatus
  creator : App
deriving DecidableEq, Repr

namespace Network

def noId : Int32 := -1

def blank : Network where
  id := noId
  ssid := ""
  keyManagement := [.unsecured]
  wepKeys := []
  fqdn := none
  ephemeral := false
  fromSuggestion := false
  metered := false
  homeProvider := false
  status := .enabled
  creator := .system

instance : Inhabited Network := ⟨blank⟩

def security (network : Network) : Security :=
  .ofKeyManagement network.keyManagement network.wepKeys

def identity (network : Network) : NetworkIdentity :=
  .ofSsid network.ssid network.security

def isPasspoint (network : Network) : Bool :=
  network.fqdn.isSome

def isEnabled (network : Network) : Bool :=
  network.status = .enabled

def hasId (network : Network) : Bool :=
  network.id != noId

def plainSsid (network : Network) : String :=
  Ssid.unquote network.ssid

def withPlainSsid (network : Network) (ssid : String) : Network :=
  { network with ssid := Ssid.quote ssid }

def storeKey (network : Network) : String :=
  match network.fqdn with
  | some fqdn => fqdn ++ Security.eap.keySuffix
  | none => network.identity.storeKey

instance : JsonForm Network where
  toJson network := .record
    [("network_id", JsonForm.toJson network.id),
     ("ssid", JsonForm.toJson network.ssid),
     ("allowed_key_mgmt", JsonForm.toJson network.keyManagement),
     ("wep_keys", JsonForm.toJson network.wepKeys),
     ("fqdn", JsonForm.toJson network.fqdn),
     ("ephemeral", JsonForm.toJson network.ephemeral),
     ("from_suggestion", JsonForm.toJson network.fromSuggestion),
     ("metered", JsonForm.toJson network.metered),
     ("is_home_provider", JsonForm.toJson network.homeProvider),
     ("selection_status", JsonForm.toJson network.status),
     ("creator", JsonForm.toJson network.creator)]
  ofJson? := JsonReader.run? do
    let id ← JsonReader.defaulted "network_id" blank.id
    let ssid ← JsonReader.defaulted "ssid" blank.ssid
    let keyManagement ← JsonReader.defaulted "allowed_key_mgmt" blank.keyManagement
    let wepKeys ← JsonReader.defaulted "wep_keys" blank.wepKeys
    let fqdn ← JsonReader.defaulted "fqdn" blank.fqdn
    let ephemeral ← JsonReader.defaulted "ephemeral" blank.ephemeral
    let fromSuggestion ← JsonReader.defaulted "from_suggestion" blank.fromSuggestion
    let metered ← JsonReader.defaulted "metered" blank.metered
    let homeProvider ← JsonReader.defaulted "is_home_provider" blank.homeProvider
    let status ← JsonReader.defaulted "selection_status" blank.status
    let creator ← JsonReader.defaulted "creator" blank.creator
    return { id, ssid, keyManagement, wepKeys, fqdn, ephemeral, fromSuggestion, metered,
             homeProvider, status, creator }

end Network

end WifiSelection
