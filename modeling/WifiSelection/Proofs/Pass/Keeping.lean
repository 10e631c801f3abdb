import WifiSelection.Proofs.Pass.Reports
import WifiSelection.Proofs.Pass.Runs

/-!
What a pass keeps of the store. The nominators that ran come to one batch of requests and the notes
of their reports, so the pass leaves every stored network under its key, as it was or enabled, and
saves new networks under other keys only, at most one under each.
-/

namespace WifiSelection

open NetworkStore (Request)

namespace Nominator

def requestsInTurn (device : DeviceState) (scans : List Scan) :
    List Nominator → Sources → List Request
  | [], _ => []
  | nominator :: rest, sources =>
    nominator.requests device scans sources ++
      requestsInTurn device scans rest (nominator.nominate device scans sources).2

theorem reportInTurn_store (device : DeviceState) (scans : List Scan)
    (nominators : List Nominator) (sources : Sources) :
    let run := reportInTurn device scans nominators sources
    run.2.store = (sources.store.readyAll
      (requestsInTurn device scans nominators sources)).2.noteReports (run.1.map Prod.snd) := by
  intro run
  induction nominators generalizing sources with
  | nil => rfl
  | cons nominator rest ih =>
      obtain ⟨reports, left⟩ := nominator.nominate_eq device scans sources
      let next := (nominator.nominate device scans sources).2
      have later : run.2.store = (next.store.readyAll
          (requestsInTurn device scans rest next)).2.noteReports
            ((reportInTurn device scans rest next).1.map Prod.snd) := ih next
      have noted : run.1.map Prod.snd = (nominator.nominate device scans sources).1 ++
          (reportInTurn device scans rest next).1.map Prod.snd := by
        have turn : run.1 = (nominator.nominate device scans sources).1.map (Prod.mk nominator) ++
            (reportInTurn device scans rest next).1 := rfl
        rw [turn, List.map_append, List.map_map]
        exact congrArg (· ++ _) (List.map_id _)
      rw [later, left, NetworkStore.readyAll_noteReports, noted, reports,
        NetworkStore.noteReports_append, requestsInTurn, NetworkStore.readyAll_append]
      rfl

end Nominator

namespace Selector

theorem nominateAll_stores (selector : Selector) (input : PassInput) (scans : List Scan)
    (registry : Registry) (log : FaultLog) (sources : Sources) (nominators : List Nominator) :
    let pass := selector.nominateAll input scans registry log sources nominators
    ∃ ran, ran <+: nominators ∧ (pass.1.isOk = true → ran = nominators) ∧
      pass.2 = (Nominator.reportInTurn input.device scans ran sources).2 := by
  intro pass
  induction nominators generalizing registry log sources with
  | nil => exact ⟨[], List.prefix_refl _, fun _ => rfl, rfl⟩
  | cons nominator rest ih =>
      rcases run : nominator.nominate input.device scans sources with ⟨reports, next⟩
      cases registered : registerAll registry log
          (reports.map (selector.nomination input nominator)) with
      | error fault =>
          have failed : pass = (.error fault, next) := by
            simp only [pass, nominateAll, run, registered]
          refine ⟨[nominator], List.prefix_append [nominator] rest, ?_, ?_⟩
          · intro succeeded
            rw [failed] at succeeded
            cases succeeded
          · simp only [failed, Nominator.reportInTurn, run]
      | ok filed =>
          obtain ⟨ran, isPrefix, complete, stores⟩ := ih filed.1 filed.2 next
          have continued : pass =
              selector.nominateAll input scans filed.1 filed.2 next rest := by
            simp only [pass, nominateAll, run, registered]
          refine ⟨nominator :: ran, ?_, ?_, ?_⟩
          · exact List.cons_prefix_cons.mpr ⟨rfl, isPrefix⟩
          · intro succeeded
            rw [continued] at succeeded
            rw [complete succeeded]
          · simp only [continued, stores, Nominator.reportInTurn, run]

theorem select_stores (selector : Selector) (input : PassInput) (scans : List Scan)
    (sources : Sources) :
    let pass := selector.select input scans sources
    ∃ ran, ran <+: Nominator.all ∧ (pass.1.isOk = true → ran = Nominator.all) ∧
      pass.2 = (Nominator.reportInTurn input.device scans ran sources).2 := by
  intro pass
  obtain ⟨ran, isPrefix, complete, stores⟩ := selector.nominateAll_stores input scans
    (initialRegistry input.device) (FaultLog.empty selector.settings.registry.faultPolicy) sources
    Nominator.all
  refine ⟨ran, isPrefix, ?_⟩
  rcases passed : selector.nominateAll input scans (initialRegistry input.device)
    (FaultLog.empty selector.settings.registry.faultPolicy) sources Nominator.all with
    ⟨fault | ⟨registry, log⟩, left⟩
  · have failed : pass = (.error fault, left) := by
      simp only [pass, select, passed]
    rw [passed] at complete stores
    rw [failed]
    exact ⟨complete, stores⟩
  · have succeeded : pass = (.ok (selector.outcome registry log), left) := by
      simp only [pass, select, passed]
    rw [passed] at complete stores
    rw [succeeded]
    exact ⟨complete, stores⟩

/-- Whatever becomes of a pass, every stored network stays under its key, as it was or enabled. Only
keys without a network get one, and each of them at most once in the whole pass. -/
theorem select_keeps_networks (selector : Selector) (input : PassInput) (scans : List Scan)
    (sources : Sources) :
    let pass := selector.select input scans sources
    let store := sources.store
    let left := pass.2.store
    (∀ key network, store.get? key = some network →
        ∃ kept, left.get? key = some kept ∧ network.Persists kept) ∧
      (∀ network ∈ left.networks, (∃ origin ∈ store.networks, origin.Persists network) ∨
        store.get? network.storeKey = none) ∧
      -- The log grows by the networks that were saved for the nominators that ran.
      ∃ ran, ran <+: Nominator.all ∧ (pass.1.isOk = true → ran = Nominator.all) ∧
        pass.2 = (Nominator.reportInTurn input.device scans ran sources).2 ∧
        let saved := store.additions (Nominator.requestsInTurn input.device scans ran sources)
        left.added = store.added ++ saved.map Prod.snd ∧ (saved.map Prod.fst).Nodup ∧
          ∀ key id creator, (key, id, creator) ∈ saved →
            store.get? key = none ∧ ∃ new, left.get? key = some new ∧ new.id = id := by
  intro pass store left
  obtain ⟨ran, isPrefix, complete, stores⟩ := selector.select_stores input scans sources
  let requests := Nominator.requestsInTurn input.device scans ran sources
  -- Notes of reports aside, the store that is left is the one that the requests leave.
  have batched : left = (store.readyAll requests).2.noteReports
      ((Nominator.reportInTurn input.device scans ran sources).1.map Prod.snd) := by
    rw [← Nominator.reportInTurn_store, ← stores]
  have noted := NetworkStore.noteReports_eq (store.readyAll requests).2
    ((Nominator.reportInTurn input.device scans ran sources).1.map Prod.snd)
  rw [batched, noted]
  refine ⟨?_, ?_, ran, isPrefix, complete, stores, store.readyAll_added requests,
    store.additions_nodup requests, fun _ _ _ saved => NetworkStore.additions_new saved⟩
  · intro key network found
    exact NetworkStore.kept_of_readyAll found requests
  · intro network member
    exact NetworkStore.mem_of_readyAll member

end Selector

end WifiSelection
