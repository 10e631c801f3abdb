import WifiSelection.Proofs.Pass.Meaning
import WifiSelection.Proofs.Pass.Requests

/-!
Saved and suggested networks are kept apart. A key that is nominated for a suggestion has no network
or a suggested one, and stays so while the nominator adds networks; so what it reports is suggested,
and with ids of their own the networks from elsewhere are neither tried nor changed.
-/

namespace WifiSelection

open NetworkStore (Asked IdsLast Spares)

namespace Nominator

open Nomination

section Suggestions

variable {device : DeviceState} {scans : List Scan} {sources : Sources}

theorem suggestion_asked {entry : Asked}
    (member : entry ∈ (suggestion.batch device scans sources).1) :
    entry.template.fromSuggestion = true ∧ sources.store.admits entry.key = true :=
  Suggested.admits_of_template_mem (Suggested.asked_template_mem member)

theorem suggestion_report {report : Connectable}
    (member : report ∈ (suggestion.nominate device scans sources).1) :
    ∃ entry ∈ (suggestion.batch device scans sources).1, ∃ network,
      entry.answer = some network ∧ report.network.id = network.id ∧
        report.network.fromSuggestion = network.fromSuggestion := by
  obtain ⟨reports, -⟩ := suggestion.nominate_eq device scans sources
  rw [reports] at member
  obtain ⟨⟨key, handled⟩, listed, rfl⟩ := List.mem_filterMap.mp member
  obtain ⟨found, -, same⟩ := List.mem_map.mp listed
  obtain ⟨network, answered, rfl⟩ := Option.map_eq_some_iff.mp (Prod.mk.inj same).2
  obtain ⟨entry, asked, -, answer⟩ := NetworkStore.answerTo_eq_some answered
  refine ⟨entry, asked, network, answer, ?_⟩
  cases offered : found.passpoint <;> simp [Suggested.reported, offered, Network.forAccessPoint,
    Network.withPlainSsid]

theorem suggestion_nominate_noted (device : DeviceState) (scans : List Scan) (sources : Sources)
    (reports : List Connectable) :
    (suggestion.nominate device scans
      { sources with store := sources.store.noteReports reports }).1 =
      (suggestion.nominate device scans sources).1 := by
  let tier := suggestionTier device scans sources
  have noting := sources.store.asks_noteReports reports
  have noted : (suggestion.nominate device scans
      { sources with store := sources.store.noteReports reports }).1 =
        (Suggested.reportAll [] (sources.store.noteReports reports) tier).1 :=
    congrArg Prod.fst (suggested_run_eq noting device scans)
  have plain : (suggestion.nominate device scans sources).1 =
      (Suggested.reportAll [] sources.store tier).1 := rfl
  rw [noted, plain, Suggested.reportAll_eq, Suggested.reportAll_eq,
    NetworkStore.readyAll_noteReports]

theorem mem_saved_of_pass {report : Connectable}
    (member : (saved, report) ∈ (reportInTurn device scans all sources).1) :
    report ∈ (saved.nominate device scans sources).1 := by
  simpa [all, reportInTurn] using member

theorem mem_suggestion_of_pass {report : Connectable}
    (member : (suggestion, report) ∈ (reportInTurn device scans all sources).1) :
    report ∈ (suggestion.nominate device scans sources).1 := by
  have listed : report ∈
      (suggestion.nominate device scans (saved.nominate device scans sources).2).1 := by
    simpa [all, reportInTurn] using member
  rw [← suggestion_nominate_noted device scans sources (saved.nominate device scans sources).1]
  exact listed

theorem key_ne_of_suggestion_asked {entry : Asked} {key : String} {network : Network}
    (member : entry ∈ (suggestion.batch device scans sources).1)
    (found : sources.store.get? key = some network) (own : network.fromSuggestion = false) :
    entry.key ≠ key := by
  rintro rfl
  have suggested := NetworkStore.admits_iff.mp (suggestion_asked member).2 network found
  rw [own] at suggested
  cases suggested

theorem id_ne_of_suggestion_asked {left : NetworkStore}
    (spares : Spares sources.store (suggestion.batch device scans sources).1 left)
    {entry : Asked} {key : String} {network stored : Network}
    (member : entry ∈ (suggestion.batch device scans sources).1)
    (found : sources.store.get? key = some network) (own : network.fromSuggestion = false)
    (foundStored : left.get? entry.key = some stored) : stored.id ≠ network.id := by
  intro sameId
  have kept : left.get? key = some network := by
    rw [spares.untouched key fun _ asked => key_ne_of_suggestion_asked asked found own]
    exact found
  have same := List.inj_on_of_nodup_map spares.numbered.distinct
    (NetworkStore.mem_of_lookup foundStored) (NetworkStore.mem_of_lookup kept) sameId
  apply key_ne_of_suggestion_asked member found own
  rw [← NetworkStore.storeKey_of_lookup foundStored, same, NetworkStore.storeKey_of_lookup kept]

theorem suggestion_tries (device : DeviceState) (scans : List Scan) (sources : Sources) :
    let left := (suggestion.nominate device scans sources).2.store
    ∃ tried, left.enableAttempts = sources.store.enableAttempts ++ tried ∧
      ∀ id ∈ tried, ∃ entry ∈ (suggestion.batch device scans sources).1, ∃ stored,
        left.get? entry.key = some stored ∧ stored.id = id := by
  intro left
  obtain ⟨tries, keys, tried, triedOnes⟩ := (suggestion.nominate_logs device scans sources).tried
  refine ⟨tries.map Prod.snd, tried, ?_⟩
  intro id member
  obtain ⟨⟨key, _⟩, isTried, rfl⟩ := List.mem_map.mp member
  obtain ⟨entry, asked, rfl⟩ :=
    List.mem_map.mp (keys.subset (List.mem_map_of_mem (f := Prod.fst) isTried))
  exact ⟨entry, asked, triedOnes _ _ isTried⟩

/-- While ids last, saved and suggested networks have nothing in common: what is reported as saved
is the user's own, what is reported as suggested is not, and suggestions leave alone every network
that the store has from elsewhere. -/
theorem saved_apart_from_suggestions (device : DeviceState) (scans : List Scan) (sources : Sources)
    (built : sources.store.Built) (distinct : (sources.store.networks.map Network.id).Nodup)
    (lasting : IdsLast sources.store (suggestion.nominate device scans sources).2.store) :
    let own := saved.nominate device scans sources
    let suggested := suggestion.nominate device scans sources
    let pass := reportInTurn device scans all sources
    (∀ report ∈ own.1, report.network.isEnabled = true ∧ report.network.isPasspoint = false ∧
        report.network.ephemeral = false ∧ report.network.fromSuggestion = false) ∧
      (∀ report ∈ suggested.1, report.network.fromSuggestion = true) ∧
      (∀ report other, (saved, report) ∈ pass.1 → (suggestion, other) ∈ pass.1 →
        report.network.id ≠ other.network.id) ∧
      ∃ tried, suggested.2.store.enableAttempts = sources.store.enableAttempts ++ tried ∧
        ∀ key network, sources.store.get? key = some network → network.fromSuggestion = false →
          network.id ∉ tried ∧ suggested.2.store.get? key = some network := by
  intro own suggested pass
  have asks := suggestion.nominate_asks device scans sources
  have spares := asks.spares ⟨distinct, built.id_lt⟩ lasting
  have eligible : ∀ report ∈ own.1, report.network.isEnabled = true ∧
      report.network.isPasspoint = false ∧ report.network.ephemeral = false ∧
        report.network.fromSuggestion = false := by
    intro report member
    obtain ⟨-, -, accepted⟩ := mem_saved_iff.mp member
    simp only [Saved.isEligible, Bool.and_eq_true, Bool.not_eq_true'] at accepted
    exact ⟨accepted.2, accepted.1.1.1, accepted.1.1.2, accepted.1.2⟩
  refine ⟨eligible, ?_, ?_, ?_⟩
  · intro report member
    obtain ⟨entry, asked, network, answered, -, same⟩ := suggestion_report member
    rw [same]
    exact asks.fromSuggestion (fun _ asked => suggestion_asked asked) entry asked network answered
  · intro report other isSaved isSuggested
    obtain ⟨-, found, -⟩ := mem_saved_iff.mp (mem_saved_of_pass isSaved)
    obtain ⟨-, -, -, ofUser⟩ := eligible report (mem_saved_of_pass isSaved)
    obtain ⟨entry, asked, network, answered, sameId, -⟩ :=
      suggestion_report (mem_suggestion_of_pass isSuggested)
    -- Both networks are stored in the end, under keys of which only the second was asked for.
    rw [sameId]
    exact (id_ne_of_suggestion_asked spares asked found ofUser
      (spares.given entry asked network answered)).symm
  · obtain ⟨tried, grown, triedOnes⟩ := suggestion_tries device scans sources
    refine ⟨tried, grown, fun key network found ofUser => ⟨?_, ?_⟩⟩
    · intro isTried
      obtain ⟨entry, asked, stored, foundStored, sameId⟩ := triedOnes network.id isTried
      exact id_ne_of_suggestion_asked spares asked found ofUser foundStored sameId
    · rw [spares.untouched key fun _ asked => key_ne_of_suggestion_asked asked found ofUser]
      exact found

end Suggestions

def contestedSources : Sources where
  store := (Selector.sampleSources.store.insert
    { (Samples.network Network.noId "shop" .unsecured).asSuggestedBy ⟨10002, "right"⟩ with
      status := .temporarilyDisabled }).2
  suggestions := Samples.suggestion "cafe" .unsecured ⟨10001, "left"⟩ 3 ::
    Selector.sampleSources.suggestions
  providers := .empty

def contestedRun : List Connectable × Sources :=
  suggestion.nominate Selector.sampleInput.device Selector.sampleScans contestedSources

def contestedPass : List (Nominator × Connectable) × Sources :=
  reportInTurn Selector.sampleInput.device Selector.sampleScans all contestedSources

theorem saved_apart_from_suggestions_sample :
    contestedSources.store.Built ∧ (contestedSources.store.networks.map Network.id).Nodup ∧
      IdsLast contestedSources.store contestedRun.2.store ∧
      (∃ report other, (saved, report) ∈ contestedPass.1 ∧ (suggestion, other) ∈ contestedPass.1 ∧
        report.network.id ≠ other.network.id) ∧
      ∃ tried, contestedRun.2.store.enableAttempts =
          contestedSources.store.enableAttempts ++ tried ∧ tried ≠ [] ∧
        ∀ key network, contestedSources.store.get? key = some network →
          network.fromSuggestion = false →
            network.id ∉ tried ∧ contestedRun.2.store.get? key = some network := by
  have built : contestedSources.store.Built := by
    refine .insert _ (.insert _ .empty ?_) ?_
    · decide +kernel
    · decide +kernel
  have distinct : (contestedSources.store.networks.map Network.id).Nodup := by decide +kernel
  have lasting : IdsLast contestedSources.store contestedRun.2.store := by
    rw [IdsLast]
    decide +kernel
  obtain ⟨-, -, apart, tried, grown, spared⟩ :=
    saved_apart_from_suggestions Selector.sampleInput.device Selector.sampleScans contestedSources
      built distinct lasting
  refine ⟨built, distinct, lasting, ?_, tried, grown, ?_, spared⟩
  · have reported : ∃ report other, (saved, report) ∈ contestedPass.1 ∧
        (suggestion, other) ∈ contestedPass.1 := by
      refine ⟨contestedPass.1[0].2, contestedPass.1[2].2, ?_, ?_⟩
      · decide +kernel
      · decide +kernel
    obtain ⟨report, other, isSaved, isSuggested⟩ := reported
    exact ⟨report, other, isSaved, isSuggested, apart report other isSaved isSuggested⟩
  · rintro rfl
    have attempted : contestedRun.2.store.enableAttempts ≠ [] := by decide +kernel
    exact attempted grown

end Nominator

end WifiSelection
