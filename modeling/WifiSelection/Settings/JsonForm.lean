import WifiSelection.Settings.Basic

/-!
The JSON form of settings: a record of sections, in which every section and every field may be
left out.
-/

namespace WifiSelection

instance : JsonForm ScoringSettings where
  toJson settings := .record
    [("good_rssi_24ghz", JsonForm.toJson settings.goodRssi24Ghz),
     ("good_rssi_5ghz", JsonForm.toJson settings.goodRssi5Ghz),
     ("good_rssi_6ghz", JsonForm.toJson settings.goodRssi6Ghz),
     ("band_5ghz_award", JsonForm.toJson settings.band5GhzAward),
     ("security_award", JsonForm.toJson settings.securityAward),
     ("last_selection_award", JsonForm.toJson settings.lastSelectionAward),
     ("throughput_bonus_numerator", JsonForm.toJson settings.throughputNumerator),
     ("throughput_bonus_denominator", JsonForm.toJson settings.throughputDenominator),
     ("throughput_bonus_limit", JsonForm.toJson settings.throughputLimit),
     ("current_network_bonus", JsonForm.toJson settings.currentNetworkBonus),
     ("secure_network_bonus", JsonForm.toJson settings.secureNetworkBonus),
     ("unmetered_network_bonus", JsonForm.toJson settings.unmeteredNetworkBonus),
     ("saved_network_bonus", JsonForm.toJson settings.savedNetworkBonus),
     ("cutoff_rssi_min", JsonForm.toJson settings.cutoffRssiMin),
     ("cutoff_rssi_max", JsonForm.toJson settings.cutoffRssiMax)]
  ofJson? := JsonReader.run? do
    let standard := ScoringSettings.standard
    let goodRssi24Ghz ← JsonReader.defaulted "good_rssi_24ghz" standard.goodRssi24Ghz
    let goodRssi5Ghz ← JsonReader.defaulted "good_rssi_5ghz" standard.goodRssi5Ghz
    let goodRssi6Ghz ← JsonReader.defaulted "good_rssi_6ghz" standard.goodRssi6Ghz
    let band5GhzAward ← JsonReader.defaulted "band_5ghz_award" standard.band5GhzAward
    let securityAward ← JsonReader.defaulted "security_award" standard.securityAward
    let lastSelectionAward ←
      JsonReader.defaulted "last_selection_award" standard.lastSelectionAward
    let throughputNumerator ←
      JsonReader.defaulted "throughput_bonus_numerator" standard.throughputNumerator
    let throughputDenominator ←
      JsonReader.defaulted "throughput_bonus_denominator" standard.throughputDenominator
    let throughputLimit ← JsonReader.defaulted "throughput_bonus_limit" standard.throughputLimit
    let currentNetworkBonus ←
      JsonReader.defaulted "current_network_bonus" standard.currentNetworkBonus
    let secureNetworkBonus ←
      JsonReader.defaulted "secure_network_bonus" standard.secureNetworkBonus
    let unmeteredNetworkBonus ←
      JsonReader.defaulted "unmetered_network_bonus" standard.unmeteredNetworkBonus
    let savedNetworkBonus ← JsonReader.defaulted "saved_network_bonus" standard.savedNetworkBonus
    let cutoffRssiMin ← JsonReader.defaulted "cutoff_rssi_min" standard.cutoffRssiMin
    let cutoffRssiMax ← JsonReader.defaulted "cutoff_rssi_max" standard.cutoffRssiMax
    return { goodRssi24Ghz, goodRssi5Ghz, goodRssi6Ghz, band5GhzAward, securityAward,
             lastSelectionAward, throughputNumerator, throughputDenominator, throughputLimit,
             currentNetworkBonus, secureNetworkBonus, unmeteredNetworkBonus, savedNetworkBonus,
             cutoffRssiMin, cutoffRssiMax }

instance : JsonForm RegistrySettings where
  toJson settings := .record [("fault_policy", JsonForm.toJson settings.faultPolicy)]
  ofJson? := JsonReader.run? do
    let faultPolicy ← JsonReader.defaulted "fault_policy" RegistrySettings.standard.faultPolicy
    return ⟨faultPolicy⟩

instance : JsonForm SelectionSettings where
  toJson settings := .record
    [("scorer", JsonForm.toJson settings.scorer),
     ("last_selection_decay_minutes", JsonForm.toJson settings.decayMinutes)]
  ofJson? := JsonReader.run? do
    let standard := SelectionSettings.standard
    let scorer ← JsonReader.defaulted "scorer" standard.scorer
    let decayMinutes ← JsonReader.defaulted "last_selection_decay_minutes" standard.decayMinutes
    return ⟨scorer, decayMinutes⟩

instance : JsonForm ObservabilitySettings where
  toJson settings := .record [("log_level", JsonForm.toJson settings.logLevel)]
  ofJson? := JsonReader.run? do
    let logLevel ← JsonReader.defaulted "log_level" ObservabilitySettings.standard.logLevel
    return ⟨logLevel⟩

instance : JsonForm Settings where
  toJson settings := .record
    [("scoring", JsonForm.toJson settings.scoring),
     ("registry", JsonForm.toJson settings.registry),
     ("selection", JsonForm.toJson settings.selection),
     ("observability", JsonForm.toJson settings.observability)]
  ofJson? := JsonReader.run? do
    let scoring ← JsonReader.defaulted "scoring" ScoringSettings.standard
    let registry ← JsonReader.defaulted "registry" RegistrySettings.standard
    let selection ← JsonReader.defaulted "selection" SelectionSettings.standard
    let observability ← JsonReader.defaulted "observability" ObservabilitySettings.standard
    return ⟨scoring, registry, selection, observability⟩

end WifiSelection
