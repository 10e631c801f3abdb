import WifiSelection.Settings.Basic
import WifiSelection.Toml.Basic
import WifiSelection.Toml.Reader
import WifiSelection.Toml.Writer

/-!
Settings as TOML documents. Writing gives every field of every section; reading takes defaults for
what is missing and checks the result.
-/

namespace WifiSelection

instance : TomlForm FaultPolicy where
  ofToml? := TomlForm.choice? ([FaultPolicy.tolerant, FaultPolicy.picky].map fun policy =>
    (policy.jsonName, policy))

instance : TomlForm ScoringSettings where
  ofToml? := TomlReader.run? do
    let standard := ScoringSettings.standard
    let goodRssi24Ghz ← TomlReader.defaulted "good_rssi_24ghz" standard.goodRssi24Ghz
    let goodRssi5Ghz ← TomlReader.defaulted "good_rssi_5ghz" standard.goodRssi5Ghz
    let goodRssi6Ghz ← TomlReader.defaulted "good_rssi_6ghz" standard.goodRssi6Ghz
    let band5GhzAward ← TomlReader.defaulted "band_5ghz_award" standard.band5GhzAward
    let securityAward ← TomlReader.defaulted "security_award" standard.securityAward
    let lastSelectionAward ←
      TomlReader.defaulted "last_selection_award" standard.lastSelectionAward
    let throughputNumerator ←
      TomlReader.defaulted "throughput_bonus_numerator" standard.throughputNumerator
    let throughputDenominator ←
      TomlReader.defaulted "throughput_bonus_denominator" standard.throughputDenominator
    let throughputLimit ← TomlReader.defaulted "throughput_bonus_limit" standard.throughputLimit
    let currentNetworkBonus ←
      TomlReader.defaulted "current_network_bonus" standard.currentNetworkBonus
    let secureNetworkBonus ←
      TomlReader.defaulted "secure_network_bonus" standard.secureNetworkBonus
    let unmeteredNetworkBonus ←
      TomlReader.defaulted "unmetered_network_bonus" standard.unmeteredNetworkBonus
    let savedNetworkBonus ← TomlReader.defaulted "saved_network_bonus" standard.savedNetworkBonus
    let cutoffRssiMin ← TomlReader.defaulted "cutoff_rssi_min" standard.cutoffRssiMin
    let cutoffRssiMax ← TomlReader.defaulted "cutoff_rssi_max" standard.cutoffRssiMax
    return { goodRssi24Ghz, goodRssi5Ghz, goodRssi6Ghz, band5GhzAward, securityAward,
             lastSelectionAward, throughputNumerator, throughputDenominator, throughputLimit,
             currentNetworkBonus, secureNetworkBonus, unmeteredNetworkBonus, savedNetworkBonus,
             cutoffRssiMin, cutoffRssiMax }

instance : TomlForm RegistrySettings where
  ofToml? := TomlReader.run? do
    let faultPolicy ← TomlReader.defaulted "fault_policy" RegistrySettings.standard.faultPolicy
    return ⟨faultPolicy⟩

instance : TomlForm SelectionSettings where
  ofToml? := TomlReader.run? do
    let standard := SelectionSettings.standard
    let scorer ← TomlReader.defaulted "scorer" standard.scorer
    let decayMinutes ← TomlReader.defaulted "last_selection_decay_minutes" standard.decayMinutes
    return ⟨scorer, decayMinutes⟩

instance : TomlForm ObservabilitySettings where
  ofToml? := TomlReader.run? do
    let logLevel ← TomlReader.defaulted "log_level" ObservabilitySettings.standard.logLevel
    return ⟨logLevel⟩

instance : TomlForm Settings where
  ofToml? := TomlReader.run? do
    let scoring ← TomlReader.defaulted "scoring" ScoringSettings.standard
    let registry ← TomlReader.defaulted "registry" RegistrySettings.standard
    let selection ← TomlReader.defaulted "selection" SelectionSettings.standard
    let observability ← TomlReader.defaulted "observability" ObservabilitySettings.standard
    return ⟨scoring, registry, selection, observability⟩

namespace Settings

def integerLine (name : String) (value : Int) : String :=
  name ++ " = " ++ toString value ++ "\n"

def textLine (name text : String) : String :=
  name ++ " = " ++ Toml.Writer.string text ++ "\n"

def toToml (settings : Settings) : String :=
  let scoring := settings.scoring
  "[scoring]\n" ++
  integerLine "good_rssi_24ghz" scoring.goodRssi24Ghz.toInt ++
  integerLine "good_rssi_5ghz" scoring.goodRssi5Ghz.toInt ++
  integerLine "good_rssi_6ghz" scoring.goodRssi6Ghz.toInt ++
  integerLine "band_5ghz_award" scoring.band5GhzAward.toInt ++
  integerLine "security_award" scoring.securityAward.toInt ++
  integerLine "last_selection_award" scoring.lastSelectionAward.toInt ++
  integerLine "throughput_bonus_numerator" scoring.throughputNumerator.toInt ++
  integerLine "throughput_bonus_denominator" scoring.throughputDenominator.toInt ++
  integerLine "throughput_bonus_limit" scoring.throughputLimit.toInt ++
  integerLine "current_network_bonus" scoring.currentNetworkBonus.toInt ++
  integerLine "secure_network_bonus" scoring.secureNetworkBonus.toInt ++
  integerLine "unmetered_network_bonus" scoring.unmeteredNetworkBonus.toInt ++
  integerLine "saved_network_bonus" scoring.savedNetworkBonus.toInt ++
  integerLine "cutoff_rssi_min" scoring.cutoffRssiMin.toInt ++
  integerLine "cutoff_rssi_max" scoring.cutoffRssiMax.toInt ++
  "\n[registry]\n" ++
  textLine "fault_policy" settings.registry.faultPolicy.jsonName ++
  "\n[selection]\n" ++
  textLine "scorer" settings.selection.scorer ++
  integerLine "last_selection_decay_minutes" settings.selection.decayMinutes.toInt ++
  "\n[observability]\n" ++
  textLine "log_level" settings.observability.logLevel

def parseToml (text path : String) : Except SettingsError Settings :=
  match (Toml.ofText? text).bind TomlForm.ofToml? with
  | some (settings : Settings) =>
    match settings.validate with
    | .ok _ => .ok settings
    | .error error => .error error
  | none => .error (.unreadable path)

def ofToml (text : String) : Except SettingsError Settings :=
  parseToml text "<string>"

/-- The settings in a file, from its content if it could be read. The content has to be UTF-8. -/
def load (path : String) (content : Option ByteArray) : Except SettingsError Settings :=
  match content.bind String.fromUTF8? with
  | some text => parseToml text path
  | none => .error (.unreadable path)

end Settings

end WifiSelection
