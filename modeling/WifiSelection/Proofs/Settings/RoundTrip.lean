import WifiSelection.Proofs.Settings.Checks
import WifiSelection.Proofs.Toml.Documents
import WifiSelection.Proofs.Integers
import WifiSelection.Settings.Toml

/-!
Settings survive their TOML document. It is made of plain chapters, one for each section, so it is
read as a table of tables, and every field finds its own value there and no default. What is read
passes the checks that the settings passed before.
-/

namespace WifiSelection

namespace TomlReader

variable [TomlForm β]

theorem run?_bind_defaulted (name : String) (default : β) (next : β → TomlReader α)
    (origin : TableOrigin) (members : Toml.Members) :
    run? (defaulted name default >>= next) (.table origin members) =
      (match members.lookup name with
        | some value => TomlForm.ofToml? value
        | none => some default).bind fun value => run? (next value) (.table origin members) := by
  change ((defaulted name default (.named members)).bind fun read =>
    next read.1 read.2).map Prod.fst = _
  simp only [defaulted]
  cases members.lookup name with
  | none => rfl
  | some value =>
      simp only
      cases read : (TomlForm.ofToml? value : Option β) <;> rfl

theorem run?_pure (value : α) (origin : TableOrigin) (members : Toml.Members) :
    run? (pure value) (.table origin members) = some value :=
  rfl

end TomlReader

open Toml

theorem isValue_int32 (value : Int32) :
    IsValue (toString value.toInt).toList (.integer value.toInt) := by
  have low := value.le_toInt
  have high := value.toInt_lt
  apply isValue_integer
  rw [Width.int64?, if_pos (by simp only [Width.maxSigned64]; omega)]
  rfl

theorem isValue_int64 (value : Int64) :
    IsValue (toString value.toInt).toList (.integer value.toInt) := by
  apply isValue_integer
  rw [Width.int64?_toInt]
  rfl

namespace ScoringSettings

def chapter (settings : ScoringSettings) : Chapter where
  name := "scoring"
  lines :=
    [⟨"good_rssi_24ghz", _, _, by decide, isValue_int32 settings.goodRssi24Ghz⟩,
     ⟨"good_rssi_5ghz", _, _, by decide, isValue_int32 settings.goodRssi5Ghz⟩,
     ⟨"good_rssi_6ghz", _, _, by decide, isValue_int32 settings.goodRssi6Ghz⟩,
     ⟨"band_5ghz_award", _, _, by decide, isValue_int32 settings.band5GhzAward⟩,
     ⟨"security_award", _, _, by decide, isValue_int32 settings.securityAward⟩,
     ⟨"last_selection_award", _, _, by decide, isValue_int32 settings.lastSelectionAward⟩,
     ⟨"throughput_bonus_numerator", _, _, by decide, isValue_int32 settings.throughputNumerator⟩,
     ⟨"throughput_bonus_denominator", _, _, by decide, isValue_int32 settings.throughputDenominator⟩,
     ⟨"throughput_bonus_limit", _, _, by decide, isValue_int32 settings.throughputLimit⟩,
     ⟨"current_network_bonus", _, _, by decide, isValue_int32 settings.currentNetworkBonus⟩,
     ⟨"secure_network_bonus", _, _, by decide, isValue_int32 settings.secureNetworkBonus⟩,
     ⟨"unmetered_network_bonus", _, _, by decide, isValue_int32 settings.unmeteredNetworkBonus⟩,
     ⟨"saved_network_bonus", _, _, by decide, isValue_int32 settings.savedNetworkBonus⟩,
     ⟨"cutoff_rssi_min", _, _, by decide, isValue_int32 settings.cutoffRssiMin⟩,
     ⟨"cutoff_rssi_max", _, _, by decide, isValue_int32 settings.cutoffRssiMax⟩]
  isName := by decide
  distinct := by simp

theorem ofToml?_chapter (settings : ScoringSettings) :
    TomlForm.ofToml? settings.chapter.member.2 = some settings := by
  have found := settings.chapter.lookup_name
  change TomlReader.run? _ (.table .heading (settings.chapter.lines.map Line.member)) = _
  generalize settings.chapter.lines.map Line.member = members at found ⊢
  simp only [chapter, List.forall_mem_cons] at found
  simp only [TomlReader.run?_bind_defaulted, TomlReader.run?_pure, found, TomlForm.ofToml?,
    Width.int32?_toInt, Option.bind_some]

end ScoringSettings

namespace RegistrySettings

def chapter (settings : RegistrySettings) : Chapter where
  name := "registry"
  lines := [⟨"fault_policy", _, _, by decide, isValue_string settings.faultPolicy.jsonName⟩]
  isName := by decide
  distinct := by simp

theorem ofToml?_chapter (settings : RegistrySettings) :
    TomlForm.ofToml? settings.chapter.member.2 = some settings := by
  obtain ⟨policy⟩ := settings
  cases policy <;> rfl

end RegistrySettings

namespace SelectionSettings

def chapter (settings : SelectionSettings) : Chapter where
  name := "selection"
  lines :=
    [⟨"scorer", _, _, by decide, isValue_string settings.scorer⟩,
     ⟨"last_selection_decay_minutes", _, _, by decide, isValue_int64 settings.decayMinutes⟩]
  isName := by decide
  distinct := by simp

theorem ofToml?_chapter (settings : SelectionSettings) :
    TomlForm.ofToml? settings.chapter.member.2 = some settings := by
  simp only [TomlForm.ofToml?, Chapter.member, chapter, TomlReader.run?_bind_defaulted,
    TomlReader.run?_pure, List.map, Line.member]
  simp [List.lookup_cons, Width.int64?_toInt]

end SelectionSettings

namespace ObservabilitySettings

def chapter (settings : ObservabilitySettings) : Chapter where
  name := "observability"
  lines := [⟨"log_level", _, _, by decide, isValue_string settings.logLevel⟩]
  isName := by decide
  distinct := by simp

theorem ofToml?_chapter (settings : ObservabilitySettings) :
    TomlForm.ofToml? settings.chapter.member.2 = some settings :=
  rfl

end ObservabilitySettings

namespace Settings

theorem toList_integerLine (name : String) (value : Int) :
    (integerLine name value).toList =
      name.toList ++ ' ' :: '=' :: ' ' :: ((toString value).toList ++ ['\n']) := by
  simp [integerLine]

theorem toList_textLine (name text : String) :
    (textLine name text).toList =
      name.toList ++ ' ' :: '=' :: ' ' :: ((Writer.string text).toList ++ ['\n']) := by
  simp [textLine]

def laterChapters (settings : Settings) : List Chapter :=
  [settings.registry.chapter, settings.selection.chapter, settings.observability.chapter]

theorem toList_toToml (settings : Settings) :
    settings.toToml.toList = settings.scoring.chapter.characters ++
      settings.laterChapters.flatMap fun chapter => '\n' :: chapter.characters := by
  have scoring : "[scoring]\n".toList = '[' :: ("scoring".toList ++ [']', '\n']) := by decide
  have registry : "\n[registry]\n".toList =
      '\n' :: '[' :: ("registry".toList ++ [']', '\n']) := by decide
  have selection : "\n[selection]\n".toList =
      '\n' :: '[' :: ("selection".toList ++ [']', '\n']) := by decide
  have observability : "\n[observability]\n".toList =
      '\n' :: '[' :: ("observability".toList ++ [']', '\n']) := by decide
  unfold toToml
  simp only [String.toList_append, scoring, registry, selection, observability, toList_integerLine,
    toList_textLine, laterChapters, List.flatMap_cons, List.flatMap_nil, Chapter.characters,
    ScoringSettings.chapter, RegistrySettings.chapter, SelectionSettings.chapter,
    ObservabilitySettings.chapter, Line.characters, List.append_assoc, List.cons_append,
    List.nil_append, List.append_nil]

theorem ofText?_toToml (settings : Settings) :
    Toml.ofText? settings.toToml = some (.table .heading
      ((settings.scoring.chapter :: settings.laterChapters).map Chapter.member)) :=
  ofText?_chapters settings.scoring.chapter settings.laterChapters
    (show ["scoring", "registry", "selection", "observability"].Nodup by decide)
    settings.toList_toToml

theorem ofToml?_chapters (settings : Settings) :
    TomlForm.ofToml? (.table .heading
      ((settings.scoring.chapter :: settings.laterChapters).map Chapter.member)) =
      some settings := by
  have tables : (settings.scoring.chapter :: settings.laterChapters).map Chapter.member =
      [("scoring", settings.scoring.chapter.member.2),
       ("registry", settings.registry.chapter.member.2),
       ("selection", settings.selection.chapter.member.2),
       ("observability", settings.observability.chapter.member.2)] := rfl
  rw [tables]
  change TomlReader.run? _ _ = _
  simp only [TomlReader.run?_bind_defaulted, TomlReader.run?_pure]
  simp [List.lookup_cons, ScoringSettings.ofToml?_chapter, RegistrySettings.ofToml?_chapter,
    SelectionSettings.ofToml?_chapter, ObservabilitySettings.ofToml?_chapter]

/-- Settings that pass their checks are the settings of their document. -/
theorem ofToml_toToml {settings : Settings} (valid : settings.validate = .ok ()) :
    ofToml settings.toToml = .ok settings := by
  have document := ofText?_toToml settings
  have fields := ofToml?_chapters settings
  rw [ofToml, parseToml, document, Option.bind_some, fields]
  simp only [valid]

theorem ofToml_toToml_quoted :
    let settings : Settings :=
      { Settings.standard with
        selection := ⟨"C:\\scorer \"ä\" 'it'\x00\r", 9223372036854775807⟩
        observability := ⟨"\n'''info'''\\\n\"\"\"\"\""⟩ }
    settings.validate = .ok () ∧ ofToml settings.toToml = .ok settings := by
  intro settings
  have valid : settings.validate = .ok () := by
    rw [validate_eq_ok_iff]
    decide +kernel
  exact ⟨valid, ofToml_toToml valid⟩

end Settings

end WifiSelection
