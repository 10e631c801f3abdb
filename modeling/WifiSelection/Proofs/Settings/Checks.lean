import Mathlib.Data.List.DropRight
import Mathlib.Tactic.SplitIfs
import WifiSelection.Scoring

/-!
What the single checks on settings accept: plausible signal strengths, values that are valid one by
one, and the identifier of a scorer with any blanks around it.
-/

namespace WifiSelection

namespace RssiSetting

theorem isPlausible_iff {rssi : Int32} :
    isPlausible rssi = true ↔ -126 ≤ rssi.toInt ∧ rssi.toInt ≤ 0 := by
  simp only [isPlausible, Bool.and_eq_true, decide_eq_true_eq, Int32.le_iff_toInt_le]
  rfl

theorem forall_isPlausible_iff {settings : ScoringSettings} :
    (∀ setting ∈ all, isPlausible (setting.value settings)) ↔
      ∀ rssi ∈ [settings.goodRssi24Ghz, settings.goodRssi5Ghz, settings.goodRssi6Ghz,
        settings.cutoffRssiMin, settings.cutoffRssiMax], -126 ≤ rssi.toInt ∧ rssi.toInt ≤ 0 := by
  have values : [settings.goodRssi24Ghz, settings.goodRssi5Ghz, settings.goodRssi6Ghz,
      settings.cutoffRssiMin, settings.cutoffRssiMax] = all.map (value settings) := rfl
  simp only [values, List.forall_mem_map, isPlausible_iff]

end RssiSetting

theorem Settings.validate_eq_ok_iff {settings : Settings} :
    settings.validate = .ok () ↔
      (∀ setting ∈ RssiSetting.all, RssiSetting.isPlausible (setting.value settings.scoring)) ∧
        settings.scoring.cutoffRssiMin ≤ settings.scoring.cutoffRssiMax ∧
        0 < settings.scoring.throughputDenominator ∧ Text.trim settings.selection.scorer ≠ "" ∧
        0 < settings.selection.decayMinutes := by
  simp only [validate]
  cases found : RssiSetting.all.find? fun setting =>
      !RssiSetting.isPlausible (setting.value settings.scoring) with
  | some setting =>
      have wrong := List.find?_some found
      have mem := List.mem_of_find?_eq_some found
      simp only [reduceCtorEq, false_iff]
      rintro ⟨inRange, -⟩
      simp [inRange setting mem] at wrong
  | none =>
      have inRange : ∀ setting ∈ RssiSetting.all,
          RssiSetting.isPlausible (setting.value settings.scoring) := by
        simpa using found
      have ordered : settings.scoring.cutoffRssiMin ≤ settings.scoring.cutoffRssiMax ↔
          ¬settings.scoring.cutoffRssiMax < settings.scoring.cutoffRssiMin := Int32.not_lt.symm
      have positive : 0 < settings.scoring.throughputDenominator ↔
          ¬settings.scoring.throughputDenominator ≤ 0 := Int32.not_le.symm
      have lasting : 0 < settings.selection.decayMinutes ↔
          ¬settings.selection.decayMinutes ≤ 0 := Int64.not_le.symm
      rw [ordered, positive, lasting]
      split_ifs <;> simp_all

namespace Text

def IsPadded (text word : String) : Prop :=
  ∃ before after : List Char, (∀ character ∈ before, isBlank character) ∧
    (∀ character ∈ after, isBlank character) ∧ text.toList = before ++ word.toList ++ after

variable {text word : String}

theorem toList_trim (text : String) :
    (trim text).toList = (text.toList.dropWhile isBlank).rdropWhile isBlank :=
  String.toList_ofList

theorem isPadded_trim (text : String) : IsPadded text (trim text) := by
  refine ⟨text.toList.takeWhile isBlank, (text.toList.dropWhile isBlank).rtakeWhile isBlank,
    fun _ => List.mem_takeWhile_imp, fun _ => List.mem_rtakeWhile_imp, ?_⟩
  rw [toList_trim, List.append_assoc, List.rdropWhile_append_rtakeWhile,
    List.takeWhile_append_dropWhile]

theorem IsPadded.trim_eq (padded : IsPadded text word) (nonempty : word ≠ "")
    (unbroken : ∀ character ∈ word.toList, ¬isBlank character) : trim text = word := by
  obtain ⟨before, after, blankBefore, blankAfter, characters⟩ := padded
  have filled : word.toList ≠ [] := mt String.toList_eq_nil_iff.mp nonempty
  have front : text.toList.dropWhile isBlank = word.toList ++ after := by
    rw [characters, List.append_assoc, List.dropWhile_append_of_pos blankBefore,
      List.dropWhile_eq_self_iff]
    intro positive
    rw [List.getElem_append_left (List.length_pos_iff.mpr filled)]
    exact unbroken _ (List.getElem_mem _)
  rw [← String.toList_inj, toList_trim, front, List.rdropWhile, List.reverse_append,
    List.dropWhile_append_of_pos fun character mem =>
      blankAfter character (List.mem_reverse.mp mem),
    ← List.rdropWhile, List.rdropWhile_eq_self_iff]
  exact fun filled => unbroken _ (List.getLast_mem filled)

end Text

namespace Scorer

variable {scorer : Scorer}

theorem ofIdentifier?_eq_some_iff {identifier : String} :
    ofIdentifier? identifier = some scorer ↔ scorer.identifier = identifier := by
  constructor
  · intro found
    have same := List.find?_some found
    exact of_decide_eq_true same
  · rintro rfl
    cases scorer <;> rfl

theorem parse_eq_ok_iff {text : String} :
    parse text = .ok scorer ↔ Text.IsPadded text scorer.identifier := by
  have parsed : parse text = .ok scorer ↔ scorer.identifier = Text.trim text := by
    rw [← ofIdentifier?_eq_some_iff, parse]
    cases ofIdentifier? (Text.trim text) <;> simp
  rw [parsed]
  constructor
  · exact fun identified => identified ▸ Text.isPadded_trim text
  · intro padded
    have nonempty : scorer.identifier ≠ "" := by
      cases scorer <;> decide
    have unbroken : scorer.identifier.toList.any Text.isBlank = false := by
      cases scorer <;> decide
    exact (padded.trim_eq nonempty (List.any_eq_false.mp unbroken)).symm

theorem exists_parse_iff {text : String} :
    (∃ scorer, parse text = .ok scorer) ↔
      ∃ identifier ∈ ["CompatibilityScorer", "ScoreCardBasedScorer", "ThroughputScorer"],
        Text.IsPadded text identifier := by
  have identifiers : ["CompatibilityScorer", "ScoreCardBasedScorer", "ThroughputScorer"] =
      all.map identifier := rfl
  have every : ∀ scorer, scorer ∈ all := by
    intro scorer
    cases scorer <;> decide
  simp only [parse_eq_ok_iff, identifiers, List.mem_map, every, true_and, exists_exists_eq_and]

theorem trim_ne_empty_of_parse {text : String} (parsed : parse text = .ok scorer) :
    Text.trim text ≠ "" := by
  intro blank
  rw [parse, blank] at parsed
  cases parsed

end Scorer

end WifiSelection
