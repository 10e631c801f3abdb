import WifiSelection.Registry
import WifiSelection.Scan
import WifiSelection.Text

/-!
Settings of a selector, in four sections, and the checks on them. Every section and every field has a
default. The first failing check, in the order written here, is the error.
-/

namespace WifiSelection

/-- Parameters of the scoring formulas. Signal strengths are in dBm. -/
structure ScoringSettings where
  goodRssi24Ghz : Int32
  goodRssi5Ghz : Int32
  goodRssi6Ghz : Int32
  band5GhzAward : Int32
  securityAward : Int32
  lastSelectionAward : Int32
  throughputNumerator : Int32
  throughputDenominator : Int32
  throughputLimit : Int32
  currentNetworkBonus : Int32
  secureNetworkBonus : Int32
  unmeteredNetworkBonus : Int32
  savedNetworkBonus : Int32
  cutoffRssiMin : Int32
  cutoffRssiMax : Int32
deriving DecidableEq, Repr

namespace ScoringSettings

def standard : ScoringSettings where
  goodRssi24Ghz := -60
  goodRssi5Ghz := -57
  goodRssi6Ghz := -57
  band5GhzAward := 40
  securityAward := 80
  lastSelectionAward := 480
  throughputNumerator := 120
  throughputDenominator := 433
  throughputLimit := 200
  currentNetworkBonus := 20
  secureNetworkBonus := 40
  unmeteredNetworkBonus := 1000
  savedNetworkBonus := 500
  cutoffRssiMin := -90
  cutoffRssiMax := -80

instance : Inhabited ScoringSettings := ⟨standard⟩

def goodRssi (settings : ScoringSettings) (frequency : Int32) : Int32 :=
  if Band.start6Ghz ≤ frequency then
    settings.goodRssi6Ghz
  else if Band.start5Ghz ≤ frequency then
    settings.goodRssi5Ghz
  else
    settings.goodRssi24Ghz

end ScoringSettings

structure RegistrySettings where
  faultPolicy : FaultPolicy
deriving DecidableEq, Repr

structure SelectionSettings where
  scorer : String
  /-- Minutes from the user's selection until its bonus is gone. -/
  decayMinutes : Int64
deriving DecidableEq, Repr

structure ObservabilitySettings where
  logLevel : String
deriving DecidableEq, Repr

def RegistrySettings.standard : RegistrySettings := ⟨.tolerant⟩

def SelectionSettings.standard : SelectionSettings := ⟨"ThroughputScorer", 480⟩

def ObservabilitySettings.standard : ObservabilitySettings := ⟨"info"⟩

instance : Inhabited RegistrySettings := ⟨.standard⟩
instance : Inhabited SelectionSettings := ⟨.standard⟩
instance : Inhabited ObservabilitySettings := ⟨.standard⟩

structure Settings where
  scoring : ScoringSettings
  registry : RegistrySettings
  selection : SelectionSettings
  observability : ObservabilitySettings
deriving DecidableEq, Repr

namespace Settings

def standard : Settings := ⟨.standard, .standard, .standard, .standard⟩

instance : Inhabited Settings := ⟨standard⟩

end Settings

inductive RssiSetting where
  | good24Ghz
  | good5Ghz
  | good6Ghz
  | cutoffMin
  | cutoffMax
deriving DecidableEq, Repr

namespace RssiSetting

def all : List RssiSetting :=
  [good24Ghz, good5Ghz, good6Ghz, cutoffMin, cutoffMax]

def field : RssiSetting → String
  | good24Ghz => "scoring.good_rssi_24ghz"
  | good5Ghz => "scoring.good_rssi_5ghz"
  | good6Ghz => "scoring.good_rssi_6ghz"
  | cutoffMin => "scoring.cutoff_rssi_min"
  | cutoffMax => "scoring.cutoff_rssi_max"

def value (settings : ScoringSettings) : RssiSetting → Int32
  | good24Ghz => settings.goodRssi24Ghz
  | good5Ghz => settings.goodRssi5Ghz
  | good6Ghz => settings.goodRssi6Ghz
  | cutoffMin => settings.cutoffRssiMin
  | cutoffMax => settings.cutoffRssiMax

def isPlausible (rssi : Int32) : Bool :=
  -126 ≤ rssi && rssi ≤ 0

end RssiSetting

inductive SettingsError where
  | unreadable (path : String)
  | rssiOutOfRange (setting : RssiSetting)
  | cutoffsCrossed
  | denominatorNotPositive
  | scorerBlank
  | decayNotPositive
  | decayTooLong (minutes : Int64)
  | unknownScorer (identifier : String)
deriving DecidableEq, Repr

namespace SettingsError

def invalidValue? : SettingsError → Option (String × String)
  | unreadable _ => none
  | rssiOutOfRange setting => some (setting.field, "must be between -126 and 0 dBm")
  | cutoffsCrossed => some ("scoring.cutoff_rssi_min", "must not exceed scoring.cutoff_rssi_max")
  | denominatorNotPositive =>
    some ("scoring.throughput_bonus_denominator", "must be greater than 0")
  | scorerBlank => some ("selection.scorer", "must not be empty")
  | decayNotPositive => some ("selection.last_selection_decay_minutes", "must be greater than 0")
  | decayTooLong minutes =>
    some ("selection.last_selection_decay_minutes",
      toString minutes.toInt ++ " minutes is out of range")
  | unknownScorer _ => none

def message (error : SettingsError) : String :=
  match error with
  | unreadable path => "failed to parse config " ++ path
  | unknownScorer identifier => "unknown scorer identifier '" ++ identifier ++ "'"
  | _ =>
    match error.invalidValue? with
    | some (field, reason) => "invalid value for " ++ field ++ ": " ++ reason
    | none => ""

end SettingsError

namespace Settings

def validate (settings : Settings) : Except SettingsError Unit :=
  let scoring := settings.scoring
  match RssiSetting.all.find? fun setting => !RssiSetting.isPlausible (setting.value scoring) with
  | some setting => .error (.rssiOutOfRange setting)
  | none =>
    if scoring.cutoffRssiMax < scoring.cutoffRssiMin then
      .error .cutoffsCrossed
    else if scoring.throughputDenominator ≤ 0 then
      .error .denominatorNotPositive
    else if Text.trim settings.selection.scorer = "" then
      .error .scorerBlank
    else if settings.selection.decayMinutes ≤ 0 then
      .error .decayNotPositive
    else
      .ok ()

end Settings

end WifiSelection
