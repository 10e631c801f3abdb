import WifiSelection.Proofs.Durations
import WifiSelection.Proofs.Pass.Meaning
import WifiSelection.Proofs.Scoring.Range
import WifiSelection.Proofs.Settings.Checks

/-!
A selector is made of the usable settings and of no others. What it computes from them later keeps
to its limits: decay time and elapsed time are counted in 64 bits, the decay time is at least a
minute, and a cutoff from history lies between the configured ones.
-/

namespace WifiSelection

structure Settings.IsUsable (settings : Settings) : Prop where
  strengths : ∀ rssi ∈ [settings.scoring.goodRssi24Ghz, settings.scoring.goodRssi5Ghz,
    settings.scoring.goodRssi6Ghz, settings.scoring.cutoffRssiMin, settings.scoring.cutoffRssiMax],
    -126 ≤ rssi.toInt ∧ rssi.toInt ≤ 0
  cutoffs : settings.scoring.cutoffRssiMin.toInt ≤ settings.scoring.cutoffRssiMax.toInt
  denominator : 0 < settings.scoring.throughputDenominator.toInt
  scorer : ∃ identifier ∈ ["CompatibilityScorer", "ScoreCardBasedScorer", "ThroughputScorer"],
    Text.IsPadded settings.selection.scorer identifier
  decay : 0 < settings.selection.decayMinutes.toInt
  decay_le : settings.selection.decayMinutes.toInt * 60 ≤ (2 ^ 63 - 1) / 1000

namespace Selector

variable {settings : Settings} {selector : Selector}

theorem isUsable_of_ofSettings (accepted : ofSettings settings = .ok selector) :
    settings.IsUsable := by
  obtain ⟨valid, scorer, decay, parsed, lasting, -⟩ := ofSettings_eq_ok_iff.mp accepted
  obtain ⟨strengths, cutoffs, denominator, -, positive⟩ := Settings.validate_eq_ok_iff.mp valid
  obtain ⟨⟨-, inRange⟩, -⟩ := Duration.ofMinutes?_eq_some_iff.mp lasting
  exact {
    strengths := RssiSetting.forall_isPlausible_iff.mp strengths
    cutoffs := Int32.le_iff_toInt_le.mp cutoffs
    denominator := Int32.lt_iff_toInt_lt.mp denominator
    scorer := Scorer.exists_parse_iff.mp ⟨scorer, parsed⟩
    decay := Int64.lt_iff_toInt_lt.mp positive
    decay_le := inRange }

theorem exists_ofSettings_of_isUsable (usable : settings.IsUsable) :
    ∃ selector, ofSettings settings = .ok selector := by
  obtain ⟨scorer, parsed⟩ := Scorer.exists_parse_iff.mpr usable.scorer
  have valid : settings.validate = .ok () := Settings.validate_eq_ok_iff.mpr
    ⟨RssiSetting.forall_isPlausible_iff.mpr usable.strengths,
      Int32.le_iff_toInt_le.mpr usable.cutoffs, Int32.lt_iff_toInt_lt.mpr usable.denominator,
      Scorer.trim_ne_empty_of_parse parsed, Int64.lt_iff_toInt_lt.mpr usable.decay⟩
  have low : -Duration.maxSeconds ≤ settings.selection.decayMinutes.toInt * 60 := by
    have positive := usable.decay
    have limit : 0 ≤ Duration.maxSeconds := by decide
    omega
  have lasting := Duration.ofMinutes?_eq_some_iff.mpr ⟨⟨low, usable.decay_le⟩, rfl⟩
  exact ⟨_, ofSettings_eq_ok_iff.mpr ⟨valid, scorer, _, parsed, lasting, rfl⟩⟩

theorem decay_milliseconds (accepted : ofSettings settings = .ok selector) :
    selector.decay.milliseconds = settings.selection.decayMinutes.toInt * 60000 := by
  obtain ⟨-, scorer, decay, -, lasting, rfl⟩ := ofSettings_eq_ok_iff.mp accepted
  obtain ⟨-, rfl⟩ := Duration.ofMinutes?_eq_some_iff.mp lasting
  have whole : settings.selection.decayMinutes.toInt * 60 * 1000000000 =
      settings.selection.decayMinutes.toInt * 60000 * 1000000 := by ring
  simp only [whole]
  exact Duration.milliseconds_ofMilliseconds _

/-- The settings that make a selector are the usable ones. Its decay time is a minute or more; that
time, and the time between any two moments, have a 64-bit count of milliseconds; and the cutoff from
thirty polls or more lies between the configured ones. -/
theorem ofSettings_accepts_usable (settings : Settings) :
    ((∃ selector, ofSettings settings = .ok selector) ↔ settings.IsUsable) ∧
      ∀ selector, ofSettings settings = .ok selector →
        selector.settings = settings ∧ 60000 ≤ selector.decay.milliseconds ∧
        Width.Gives (Width.int64? selector.decay.milliseconds) selector.decay.milliseconds ∧
        (∀ selectedAt now : Timestamp, selectedAt.IsRepresentable → now.IsRepresentable →
          Width.Gives (Width.int64? (now.since selectedAt).milliseconds)
            (now.since selectedAt).milliseconds) ∧
        ∀ history : SignalHistory, 30 ≤ history.count →
          settings.scoring.cutoffRssiMin.toInt ≤
              Scoring.ScoreCard.cutoff selector.settings.scoring (some history) ∧
            Scoring.ScoreCard.cutoff selector.settings.scoring (some history) ≤
              settings.scoring.cutoffRssiMax.toInt := by
  refine ⟨⟨fun ⟨_, accepted⟩ => isUsable_of_ofSettings accepted, exists_ofSettings_of_isUsable⟩,
    fun selector accepted => ?_⟩
  have usable := isUsable_of_ofSettings accepted
  refine ⟨ofSettings_settings accepted, ?_, ?_, ?_, ?_⟩
  · have positive := usable.decay
    rw [decay_milliseconds accepted]
    omega
  · obtain ⟨-, scorer, decay, -, lasting, rfl⟩ := ofSettings_eq_ok_iff.mp accepted
    exact (Duration.isRepresentable_of_ofMinutes? lasting).gives_milliseconds
  · intro selectedAt now selectedIn nowIn
    exact (Timestamp.since_isRepresentable nowIn selectedIn).gives_milliseconds
  · intro history many
    obtain ⟨suggested, found⟩ := Option.isSome_iff_exists.mp (Scoring.suggestedCutoff?_isSome many)
    have between := Scoring.cutoff_between settings.scoring
      ((Option.bind_some history Scoring.ScoreCard.suggestedCutoff?).trans found)
    rw [min_eq_left usable.cutoffs] at between
    rw [ofSettings_settings accepted]
    exact between

theorem ofSettings_accepts_usable_sample :
    let settings : Settings :=
      { Settings.standard with selection := ⟨" \tThroughputScorer\n", 153722867280912⟩ }
    settings.IsUsable ∧ ∃ selector, ofSettings settings = .ok selector ∧
      60000 ≤ selector.decay.milliseconds := by
  intro settings
  have accepted : ofSettings settings =
      .ok ⟨settings, .throughput, ⟨9223372036854720000000000⟩⟩ := by decide +kernel
  obtain ⟨acceptance, limits⟩ := ofSettings_accepts_usable settings
  exact ⟨acceptance.mp ⟨_, accepted⟩, _, accepted, (limits _ accepted).2.1⟩

example :
    let settings : Settings :=
      { Settings.standard with selection := ⟨"ThroughputScorer", 153722867280913⟩ }
    ofSettings settings = .error (.decayTooLong 153722867280913) := by
  decide +kernel

end Selector

end WifiSelection
