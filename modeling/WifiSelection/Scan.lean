import WifiSelection.Json.Basic
import WifiSelection.Network
import WifiSelection.Text

/-!
Observations of access points. The radio address stays the text that was reported; whether it is
an address, six octets in hexadecimal groups with colons between them, is settled when the scan is
registered as a candidate.
-/

namespace WifiSelection

structure MacAddress where
  octets : List UInt8
  length_eq : octets.length = 6
deriving DecidableEq, Repr

structure MacAddressError where
  input : String
deriving DecidableEq, Repr

def MacAddressError.message (error : MacAddressError) : String :=
  "failed to parse MAC address from '" ++ error.input ++ "': expected aa:bb:cc:dd:ee:ff"

namespace MacAddress

def octet? : List Char → Option UInt8
  | [high, low] => do
    let high ← Text.hexDigit? high
    let low ← Text.hexDigit? low
    return UInt8.ofNat (high * 16 + low)
  | _ => none

def parse (text : String) : Except MacAddressError MacAddress :=
  match (Text.split ':' text.toList).mapM octet? with
  | some octets => if h : octets.length = 6 then .ok ⟨octets, h⟩ else .error ⟨text⟩
  | none => .error ⟨text⟩

def display (address : MacAddress) : String :=
  String.ofList ([':'].intercalate (address.octets.map fun octet => Text.hexDigits 2 octet.toNat))

def ofLast (last : UInt8) : MacAddress :=
  ⟨[0, 0, 0, 0, 0, last], rfl⟩

instance : Inhabited MacAddress := ⟨ofLast 0⟩

instance : Ord MacAddress := ⟨fun left right => compare left.octets right.octets⟩

instance : JsonForm MacAddress where
  toJson address := .text address.display
  ofJson?
    | .text text => (parse text).toOption
    | _ => none

end MacAddress

namespace Band

def start5Ghz : Int32 := 5000

def start6Ghz : Int32 := 5925

end Band

/-- One access point seen in a scan; `rssi` is in dBm, the frequency in MHz. -/
structure Scan where
  ssid : String
  bssid : String
  capabilities : String
  rssi : Int32
  frequency : Int32
  predictedThroughput : Int32
  interworking : Bool
deriving DecidableEq, Repr, Inhabited

namespace Scan

def security (scan : Scan) : Security :=
  Security.ofCapabilities scan.capabilities

def identity (scan : Scan) : NetworkIdentity :=
  .ofSsid scan.ssid scan.security

def parseBssid (scan : Scan) : Except MacAddressError MacAddress :=
  MacAddress.parse scan.bssid

def isAtLeast5Ghz (scan : Scan) : Bool :=
  Band.start5Ghz ≤ scan.frequency

def is6Ghz (scan : Scan) : Bool :=
  Band.start6Ghz ≤ scan.frequency

def tag (scan : Scan) : String :=
  scan.ssid ++ ":" ++ scan.bssid

instance : JsonForm Scan where
  toJson scan := .record
    [("ssid", JsonForm.toJson scan.ssid),
     ("bssid", JsonForm.toJson scan.bssid),
     ("capabilities", JsonForm.toJson scan.capabilities),
     ("rssi", JsonForm.toJson scan.rssi),
     ("frequency_mhz", JsonForm.toJson scan.frequency),
     ("predicted_throughput_mbps", JsonForm.toJson scan.predictedThroughput),
     ("is_interworking", JsonForm.toJson scan.interworking)]
  ofJson? := JsonReader.run? do
    let ssid ← JsonReader.required "ssid"
    let bssid ← JsonReader.required "bssid"
    let capabilities ← JsonReader.required "capabilities"
    let rssi ← JsonReader.required "rssi"
    let frequency ← JsonReader.required "frequency_mhz"
    let predictedThroughput ← JsonReader.defaulted "predicted_throughput_mbps" 0
    let interworking ← JsonReader.defaulted "is_interworking" false
    return { ssid, bssid, capabilities, rssi, frequency, predictedThroughput, interworking }

end Scan

end WifiSelection
