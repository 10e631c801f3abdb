import WifiSelection.Proofs.Pass.Runs
import WifiSelection.Samples

/-!
Requests that the store refuses. Nominated suggestions with the same key share the one answer to it.
Each match of a provider makes a request of its own: those with one key get the same answer, except
when the first of them adds a network that the store then fails to enable.
-/

namespace WifiSelection

open NetworkStore (Asked IdsLast)

namespace Nominator

open Nomination

variable {nominator : Nominator} {device : DeviceState} {scans : List Scan} {sources : Sources}
  {failed : Asked}

def Drops (nominator : Nominator) (device : DeviceState) (scans : List Scan) (sources : Sources)
    (failed : Asked) : Prop :=
  ∀ pair ∈ nominator.handled device scans sources, pair.1 = failed.key → pair.2 = none

theorem suggestion_drops (isAsked : failed ∈ (suggestion.batch device scans sources).1)
    (failure : failed.answer = none) : suggestion.Drops device scans sources failed := by
  have distinct : ((suggestion.batch device scans sources).1.map Asked.key).Nodup := by
    have keys := sources.store.readyAll_keys (suggestion.requests device scans sources)
    rw [requests, List.map_map] at keys
    rw [batch, requests, keys]
    exact firstOfEach_nodup _ (suggestionTier device scans sources)
  intro pair member sameKey
  obtain ⟨found, -, rfl⟩ := List.mem_map.mp member
  have given := NetworkStore.answerTo_of_nodup distinct isAsked
  rw [← sameKey, failure] at given
  exact congrArg (Option.map (Suggested.reported found)) given

theorem passpoint_drops (isAsked : failed ∈ (passpoint.batch device scans sources).1)
    (failure : failed.answer = none) (numbered : sources.store.Numbered)
    (lasting : IdsLast sources.store (passpoint.batch device scans sources).2)
    (enables : sources.store.Enables failed.key) :
    passpoint.Drops device scans sources failed := by
  have asks := sources.store.readyAll_asks (passpoint.requests device scans sources)
  have templates := passpoint_templates device scans sources
  intro pair member sameKey
  obtain ⟨⟨found, entry⟩, zipped, rfl⟩ := List.mem_map.mp member
  have entryKey : entry.key = failed.key :=
    (congrArg Network.storeKey (Passpoint.template_of_mem_zip templates zipped)).trans sameKey
  have answered : entry.answer = none :=
    (asks.same_answer numbered lasting (List.of_mem_zip zipped).2 isAsked entryKey enables).trans
      failure
  exact congrArg (Option.map (Passpoint.reported found)) answered

/-- What was asked for in vain is not reported for any match. Of the providers this needs a store
that can enable what it adds, unless it has nothing to add. -/
theorem nominate_drops_failures (isAsked : failed ∈ (nominator.batch device scans sources).1)
    (failure : failed.answer = none)
    (steady : nominator = .passpoint → sources.store.Numbered ∧
      IdsLast sources.store (nominator.nominate device scans sources).2.store ∧
      sources.store.Enables failed.key) :
    (nominator.nominate device scans sources).1 =
        (nominator.handled device scans sources).filterMap Prod.snd ∧
      nominator.Drops device scans sources failed := by
  obtain ⟨reports, left⟩ := nominator.nominate_eq device scans sources
  refine ⟨reports, ?_⟩
  cases nominator with
  | saved => cases isAsked
  | suggestion => exact suggestion_drops isAsked failure
  | passpoint =>
      obtain ⟨numbered, lasting, enables⟩ := steady rfl
      rw [left, NetworkStore.noteReports_eq] at lasting
      exact passpoint_drops isAsked failure numbered lasting enables

def hallSources (store : NetworkStore) : Sources where
  store := store
  suggestions := []
  providers := ProviderDirectory.empty.add "hall" (Samples.provider "roam.example") .home

def hallScans : List Scan :=
  [Samples.passpointScan "hall" "00:00:00:00:00:01",
    Samples.passpointScan "hall" "00:00:00:00:00:02"]

def disabledStore : NetworkStore :=
  { (NetworkStore.empty.insert { (Samples.provider "roam.example").network with
      status := .permanentlyDisabled }).2 with refusedIds := [0] }

theorem nominate_drops_failures_sample :
    let device : DeviceState := ⟨none, none, false, false⟩
    let sources := hallSources disabledStore
    ∃ failed ∈ (passpoint.batch device hallScans sources).1, failed.answer = none ∧
      sources.store.Numbered ∧
      IdsLast sources.store (passpoint.nominate device hallScans sources).2.store ∧
      sources.store.Enables failed.key ∧
      (passpoint.handled device hallScans sources).length = 2 ∧
      passpoint.Drops device hallScans sources failed := by
  intro device sources
  have refused : ((passpoint.batch device hallScans sources).1.any fun entry =>
      entry.answer.isNone && (sources.store.get? entry.key).isSome) = true := by decide +kernel
  obtain ⟨failed, isAsked, refusedHere⟩ := List.any_eq_true.mp refused
  rw [Bool.and_eq_true, Option.isNone_iff_eq_none] at refusedHere
  obtain ⟨failure, present⟩ := refusedHere
  have built : sources.store.Built := by
    refine .furnish _ _ _ _ _ _ _ (.insert _ .empty ?_)
    decide +kernel
  have distinct : (sources.store.networks.map Network.id).Nodup := by decide +kernel
  have numbered : sources.store.Numbered := ⟨distinct, built.id_lt⟩
  have lasting : IdsLast sources.store (passpoint.nominate device hallScans sources).2.store := by
    rw [IdsLast]
    decide +kernel
  have enables : sources.store.Enables failed.key := Or.inr (Or.inl present)
  exact ⟨failed, isAsked, failure, numbered, lasting, enables, by decide +kernel,
    (nominate_drops_failures isAsked failure fun _ => ⟨numbered, lasting, enables⟩).2⟩

/-- When the store adds a network and fails to enable it, the second match finds it stored. -/
theorem passpoint_reports_failed_network :
    ¬∀ (nominator : Nominator) (device : DeviceState) (scans : List Scan) (sources : Sources)
      (failed : Asked), failed ∈ (nominator.batch device scans sources).1 →
        failed.answer = none → nominator.Drops device scans sources failed := by
  intro drops
  let device : DeviceState := ⟨none, none, false, false⟩
  let sources := hallSources { NetworkStore.empty with refusesEnabling := true }
  have shown : ((passpoint.batch device hallScans sources).1.any fun entry =>
      entry.answer.isNone && (passpoint.handled device hallScans sources).any fun pair =>
        pair.1 = entry.key && pair.2.isSome) = true := by decide +kernel
  obtain ⟨failed, isAsked, reported⟩ := List.any_eq_true.mp shown
  rw [Bool.and_eq_true, Option.isNone_iff_eq_none, List.any_eq_true] at reported
  obtain ⟨failure, pair, member, hit⟩ := reported
  rw [Bool.and_eq_true, decide_eq_true_eq] at hit
  have dropped := drops passpoint device hallScans sources failed isAsked failure pair member hit.1
  rw [dropped] at hit
  cases hit.2

end Nominator

end WifiSelection
