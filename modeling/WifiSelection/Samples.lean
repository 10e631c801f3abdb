import WifiSelection.Candidate
import WifiSelection.Passpoint
import WifiSelection.Nomination

/-!
Sample scans, networks, suggestions and candidates with ordinary values, for building small
scenarios.
-/

namespace WifiSelection

namespace Samples

def capabilities : Security → String
  | .unsecured => "[ESS]"
  | .wep => "[WEP][ESS]"
  | .psk => "[WPA2-PSK-CCMP][ESS]"
  | .eap => "[WPA2-EAP-CCMP][ESS]"

def keyManagement : Security → List KeyManagement × List String
  | .unsecured => ([.unsecured], [])
  | .wep => ([.unsecured], ["\"abcde\""])
  | .psk => ([.wpaPsk], [])
  | .eap => ([.wpaEap, .ieee8021x], [])

def scan (ssid bssid : String) (security : Security) : Scan where
  ssid := ssid
  bssid := bssid
  capabilities := capabilities security
  rssi := -60
  frequency := 2437
  predictedThroughput := 0
  interworking := false

def passpointScan (ssid bssid : String) : Scan :=
  { scan ssid bssid .eap with interworking := true }

def network (id : Int32) (ssid : String) (security : Security) : Network :=
  let (keyManagement, wepKeys) := keyManagement security
  { Network.blank.withPlainSsid ssid with id, keyManagement, wepKeys }

def suggestion (ssid : String) (security : Security) (app : App) (priority : Int32) :
    Suggestion where
  network := network Network.noId ssid security
  app := app
  priority := priority
  untrusted := false

def provider (fqdn : String) : Provider where
  fqdn := fqdn
  network := { Network.blank with fqdn := some fqdn, keyManagement := (keyManagement .eap).1 }
  fromSuggestion := false

def passpointSuggestion (fqdn : String) (app : App) (priority : Int32) : Suggestion where
  network := (provider fqdn).network
  app := app
  priority := priority
  untrusted := false

def candidate (ssid : String) (lastOctet : UInt8) (networkId : Int32) : Candidate where
  key := ⟨.ofSsid ssid .unsecured, .ofLast lastOctet, networkId⟩
  serial := 0
  rssi := -60
  frequency := 2437
  predictedThroughput := 0
  evaluatorPriority := 0
  evaluatorScore := 0
  isCurrentNetwork := false
  isCurrentBssid := false
  isOpenNetwork := true
  isMetered := false
  isEphemeral := false
  isPasspoint := false
  lastSelectionWeight := .zero
  history := none

end Samples

end WifiSelection
