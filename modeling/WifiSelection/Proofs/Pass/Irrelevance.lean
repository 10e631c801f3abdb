import WifiSelection.Proofs.Pass.Requests
import WifiSelection.Proofs.Pass.Suggestions

/-!
What makes no difference to a pass. Every nominator leaves the scans of deleted networks out before
it does anything else, and none of them changes what is forgotten. Suggestions that are not
admissible when a pass starts are not offered, and a store never admits more than it did, so they
stay inadmissible while the nominators run.
-/

namespace WifiSelection

open Nomination

def NetworkStore.SameLive (store : NetworkStore) (left right : List Scan) : Prop :=
  store.liveScans left = store.liveScans right

theorem NetworkStore.sameLive_filter (store : NetworkStore) (scans : List Scan) :
    store.SameLive (scans.filter fun scan => scan.ssid ∉ store.forgottenSsids) scans := by
  simp only [SameLive, liveScans, isForgotten, List.filter_filter]
  apply List.filter_congr
  intro scan _
  by_cases forgotten : scan.ssid ∈ store.forgottenSsids
  · simp [forgotten]
  · simp [forgotten]

namespace Nominator

variable {device : DeviceState} {sources : Sources} {left right : List Scan}

theorem nominate_of_sameLive (nominator : Nominator) (same : sources.store.SameLive left right) :
    nominator.nominate device left sources = nominator.nominate device right sources := by
  rw [NetworkStore.SameLive] at same
  simp only [nominate, same]

theorem sameLive_nominate (nominator : Nominator) (device : DeviceState) (scans : List Scan)
    (same : sources.store.SameLive left right) :
    (nominator.nominate device scans sources).2.store.SameLive left right := by
  have rules := (nominator.nominate_asks device scans sources).sameRules
  rw [NetworkStore.SameLive, rules.liveScans_eq, rules.liveScans_eq]
  exact same

end Nominator

/-- Whatever each nominator makes of stores that are alike is the same in a view, and alike again. -/
def Nominator.KeepsAlike (device : DeviceState) (left right : List Scan) (alike : Sources → Prop)
    (view : Sources → Sources) : Prop :=
  ∀ (nominator : Nominator) (sources : Sources), alike sources →
    let run := nominator.nominate device right sources
    nominator.nominate device left (view sources) = (run.1, view run.2) ∧ alike run.2

namespace Selector

theorem nominateAll_congr (selector : Selector) (input : PassInput) {left right : List Scan}
    {alike : Sources → Prop} {view : Sources → Sources}
    (kept : Nominator.KeepsAlike input.device left right alike view)
    (registry : Registry) (log : FaultLog) {sources : Sources} (same : alike sources)
    (nominators : List Nominator) :
    let pass := selector.nominateAll input right registry log sources nominators
    selector.nominateAll input left registry log (view sources) nominators =
      (pass.1, view pass.2) := by
  induction nominators generalizing registry log sources with
  | nil => rfl
  | cons nominator rest ih =>
      obtain ⟨reported, next⟩ := kept nominator sources same
      rcases run : nominator.nominate input.device right sources with ⟨reports, changed⟩
      rw [run] at reported next
      simp only [nominateAll, run, reported]
      cases registerAll registry log (reports.map (selector.nomination input nominator)) with
      | error fault => rfl
      | ok filed => exact ih filed.1 filed.2 next

theorem select_congr (selector : Selector) (input : PassInput) {left right : List Scan}
    {alike : Sources → Prop} {view : Sources → Sources}
    (kept : Nominator.KeepsAlike input.device left right alike view)
    {sources : Sources} (same : alike sources) :
    let pass := selector.select input right sources
    selector.select input left (view sources) = (pass.1, view pass.2) := by
  intro pass
  have passed := selector.nominateAll_congr input kept (initialRegistry input.device)
    (FaultLog.empty selector.settings.registry.faultPolicy) same Nominator.all
  simp only [pass, select, passed]
  rcases selector.nominateAll input right (initialRegistry input.device)
    (FaultLog.empty selector.settings.registry.faultPolicy) sources Nominator.all with
    ⟨fault | ⟨registry, log⟩, last⟩
  · rfl
  · rfl

theorem select_of_sameLive (selector : Selector) (input : PassInput) {left right : List Scan}
    {sources : Sources} (same : sources.store.SameLive left right) :
    selector.select input left sources = selector.select input right sources :=
  -- Each nominator filters against a store that the one before changed, but not in what it forgot.
  selector.select_congr input
    (fun nominator _ same =>
      ⟨nominator.nominate_of_sameLive same, nominator.sameLive_nominate input.device right same⟩)
    same

/-- A pass without the scans of forgotten networks has the same outcome, or the same fault, as the
pass over all scans, and leaves the same stores. -/
theorem select_without_forgotten (selector : Selector) (input : PassInput) (scans : List Scan)
    (sources : Sources) :
    let live := scans.filter fun scan => scan.ssid ∉ sources.store.forgottenSsids
    selector.select input live sources = selector.select input scans sources :=
  selector.select_of_sameLive input (sources.store.sameLive_filter scans)

end Selector

namespace Nomination.Suggested

theorem Admissible.of_nominate {device : DeviceState} {scans : List Scan} {sources : Sources}
    {nominator : Nominator} {suggestion : Suggestion}
    (later : Admissible device (nominator.nominate device scans sources).2.store suggestion) :
    Admissible device sources.store suggestion := by
  have asks := nominator.nominate_asks device scans sources
  refine ⟨later.1, ?_⟩
  exact NetworkStore.admits_iff.mp (asks.admits_of_final (NetworkStore.admits_iff.mpr later.2))

def SameAdmissible (device : DeviceState) (store : NetworkStore) (left right : List Suggestion) :
    Prop :=
  (left.filter fun suggestion => Admissible device store suggestion) =
    right.filter fun suggestion => Admissible device store suggestion

theorem sameAdmissible_filter (device : DeviceState) (store : NetworkStore)
    (suggestions : List Suggestion) :
    SameAdmissible device store
      (suggestions.filter fun suggestion => Admissible device store suggestion) suggestions := by
  rw [SameAdmissible, List.filter_filter]
  simp only [Bool.and_self]

theorem SameAdmissible.narrow {device : DeviceState} {before after : NetworkStore}
    {left right : List Suggestion} (same : SameAdmissible device before left right)
    (narrower : ∀ suggestion, Admissible device after suggestion →
      Admissible device before suggestion) : SameAdmissible device after left right := by
  have twice : ∀ suggestions : List Suggestion,
      (suggestions.filter fun suggestion => Admissible device after suggestion) =
        (suggestions.filter fun suggestion => Admissible device before suggestion).filter
          fun suggestion => Admissible device after suggestion := by
    intro suggestions
    rw [List.filter_filter]
    apply List.filter_congr
    intro suggestion _
    by_cases now : Admissible device after suggestion
    · simp [now, narrower suggestion now]
    · simp [now]
  rw [SameAdmissible, twice left, twice right, same]

theorem SameAdmissible.nominate {device : DeviceState} {sources : Sources}
    {suggestions : List Suggestion}
    (same : SameAdmissible device sources.store suggestions sources.suggestions)
    (nominator : Nominator) (scans : List Scan) :
    let next := (nominator.nominate device scans sources).2
    SameAdmissible device next.store suggestions next.suggestions := by
  intro next
  have unchanged : next.suggestions = _ := nominator.nominate_suggestions device scans sources
  rw [unchanged]
  exact same.narrow fun _ later => later.of_nominate

end Nomination.Suggested

open Nomination.Suggested (SameAdmissible Admissible)

namespace Nominator

variable {device : DeviceState} {scans : List Scan} {sources : Sources}
  {suggestions : List Suggestion}

theorem suggestionTier_of_sameAdmissible
    (same : SameAdmissible device sources.store suggestions sources.suggestions) :
    suggestionTier device scans { sources with suggestions } =
      suggestionTier device scans sources := by
  have offers : Suggested.offers device scans { sources with suggestions } =
      Suggested.offers device scans sources := by
    simp only [Suggested.offers]
    rw [same]
  rw [suggestionTier, suggestionTier, Suggested.tier_eq_tops, Suggested.tier_eq_tops]
  simp only [Suggested.tops, offers]

theorem nominate_of_sameAdmissible (nominator : Nominator) (scans : List Scan)
    (same : SameAdmissible device sources.store suggestions sources.suggestions) :
    nominator.nominate device scans { sources with suggestions } =
      ((nominator.nominate device scans sources).1,
        { (nominator.nominate device scans sources).2 with suggestions }) := by
  cases nominator with
  | saved => rfl
  | passpoint => rfl
  | suggestion =>
      have ran : Suggested.run device { sources with suggestions } (sources.store.liveScans scans) =
          Suggested.run device sources (sources.store.liveScans scans) := by
        have tiers : Suggested.tier device { sources with suggestions }
            (sources.store.liveScans scans) =
              Suggested.tier device sources (sources.store.liveScans scans) :=
          suggestionTier_of_sameAdmissible same
        rw [Suggested.run, Suggested.run, tiers]
      simp only [nominate, ran]

end Nominator

namespace Selector

/-- A pass without the suggestions that are inadmissible at its start nominates the same
suggestions, has the same outcome or the same fault, and leaves the same stores. -/
theorem select_without_inadmissible (selector : Selector) (input : PassInput) (scans : List Scan)
    (sources : Sources) :
    let suggestions := sources.suggestions.filter fun suggestion =>
      Admissible input.device sources.store suggestion
    let pass := selector.select input scans sources
    selector.select input scans { sources with suggestions } =
        (pass.1, { pass.2 with suggestions }) ∧
      Nominator.suggestionTier input.device scans { sources with suggestions } =
        Nominator.suggestionTier input.device scans sources := by
  intro suggestions pass
  have same : SameAdmissible input.device sources.store suggestions sources.suggestions :=
    Suggested.sameAdmissible_filter input.device sources.store sources.suggestions
  refine ⟨?_, Nominator.suggestionTier_of_sameAdmissible same⟩
  -- That both lists have the same admissible suggestions is kept by every nominator.
  exact selector.select_congr input
    (fun nominator _ same =>
      ⟨nominator.nominate_of_sameAdmissible scans same, same.nominate nominator scans⟩)
    same

end Selector

end WifiSelection
