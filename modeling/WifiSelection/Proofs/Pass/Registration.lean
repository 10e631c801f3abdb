import WifiSelection.Proofs.Pass.Reports
import WifiSelection.Proofs.Registry.Basic
import WifiSelection.Proofs.Regrouping

/-!
Registering a list of nominations of which none beats an earlier one. Nothing is ever replaced, so
the registry ends with the first valid nomination of each key, in order.
-/

namespace WifiSelection

namespace Nomination

/-- The key of a valid nomination: the scan has an SSID and a readable radio address, the network is
stored, and unless it is a Passpoint network it has the identity of the scan. -/
def validKey? (nomination : Nomination) : Option CandidateKey :=
  let scan := nomination.scan
  let network := nomination.network
  if scan.ssid ≠ "" ∧ network.id ≠ Network.noId ∧
      (network.isPasspoint = true ∨ network.identity = scan.identity) then
    scan.parseBssid.toOption.map fun bssid => ⟨scan.identity, bssid, network.id⟩
  else
    none

theorem key?_eq_ok_iff {nomination : Nomination} {key : CandidateKey} :
    nomination.key? = .ok key ↔ nomination.validKey? = some key := by
  simp only [key?, validKey?, Network.hasId]
  cases nomination.scan.parseBssid <;> grind [Except.toOption]

theorem validKey?_eq_none {nomination : Nomination} {fault : Fault}
    (faulty : nomination.key? = .error fault) : nomination.validKey? = none := by
  rw [Option.eq_none_iff_forall_ne_some]
  intro key valid
  rw [key?_eq_ok_iff.mpr valid] at faulty
  cases faulty

def validOnes (nominations : List Nomination) : List (CandidateKey × Nomination) :=
  nominations.filterMap fun nomination => nomination.validKey?.map (·, nomination)

theorem validOnes_cons_of_valid {nomination : Nomination} {key : CandidateKey}
    (valid : nomination.validKey? = some key) (rest : List Nomination) :
    validOnes (nomination :: rest) = (key, nomination) :: validOnes rest := by
  simp [validOnes, valid]

theorem validOnes_cons_of_invalid {nomination : Nomination}
    (invalid : nomination.validKey? = none) (rest : List Nomination) :
    validOnes (nomination :: rest) = validOnes rest := by
  simp [validOnes, invalid]

theorem validOnes_length (nominations : List Nomination) :
    (validOnes nominations).length + (nominations.filterMap fault?).length =
      nominations.length := by
  induction nominations with
  | nil => rfl
  | cons head rest ih =>
      cases checked : head.key? with
      | error fault =>
          have faulty : head.fault? = some fault := fault?_eq_some_iff.mpr checked
          rw [validOnes_cons_of_invalid (validKey?_eq_none checked), List.filterMap_cons_some faulty]
          simp only [List.length_cons]
          omega
      | ok key =>
          have faultless : head.fault? = none := by
            rw [fault?, checked]
          rw [validOnes_cons_of_valid (key?_eq_ok_iff.mp checked),
            List.filterMap_cons_none faultless]
          simp only [List.length_cons]
          omega

def firstPerKey (entries : List (CandidateKey × Nomination)) : List (CandidateKey × Nomination) :=
  entries.eraseDupsBy fun later earlier => later.1 == earlier.1

theorem firstPerKey_cons (key : CandidateKey) (nomination : Nomination)
    (rest : List (CandidateKey × Nomination)) :
    firstPerKey ((key, nomination) :: rest) =
      (key, nomination) :: firstPerKey (rest.filter fun entry => entry.1 != key) :=
  firstOfEach_cons Prod.fst (key, nomination) rest

end Nomination

namespace Selector

open Nomination

def filedOnes (registry : Registry) (entries : List (CandidateKey × Nomination)) :
    List Candidate :=
  (entries.zipIdx (registry.lastSerial + 1)).map fun (entry, serial) =>
    registry.candidateOf entry.2 entry.1 serial

theorem filedOnes_cons (registry : Registry) (key : CandidateKey) (nomination : Nomination)
    (rest : List (CandidateKey × Nomination)) :
    filedOnes registry ((key, nomination) :: rest) =
      registry.candidateOf nomination key (registry.lastSerial + 1) ::
        filedOnes (registry.file nomination key) rest := by
  simp only [filedOnes, List.zipIdx_cons, List.map_cons, Registry.file_lastSerial]
  rfl

def KeepsFirst (registry : Registry) (log : FaultLog) (nominations : List Nomination) : Prop :=
  ∃ registered logged, registerAll registry log nominations = .ok (registered, logged) ∧
    registered.entries = registry.entries ++ filedOnes registry
      (firstPerKey ((validOnes nominations).filter fun entry => (registry.get? entry.1).isNone)) ∧
    logged.count + (validOnes nominations).length = log.count + nominations.length

theorem fault_of_registerAll (registry : Registry) (log : FaultLog) (nominations : List Nomination)
    {fault : Fault} :
    (registerAll registry log nominations = .error fault →
      ∃ nomination ∈ nominations, nomination.fault? = some fault) ∧
    (∀ registered logged, registerAll registry log nominations = .ok (registered, logged) →
      logged.last = some fault →
        log.last = some fault ∨ ∃ nomination ∈ nominations, nomination.fault? = some fault) := by
  induction nominations generalizing registry log with
  | nil =>
      refine ⟨fun impossible => (by cases impossible), fun registered logged eq noted => ?_⟩
      cases eq
      exact Or.inl noted
  | cons head rest ih =>
      have among : (∃ nomination ∈ rest, nomination.fault? = some fault) →
          ∃ nomination ∈ head :: rest, nomination.fault? = some fault :=
        fun ⟨nomination, member, faulty⟩ => ⟨nomination, List.mem_cons_of_mem _ member, faulty⟩
      cases checked : head.fault? with
      | none =>
          obtain ⟨filed, next, added⟩ := registry.add_of_faultless checked
          simp only [registerAll, added]
          obtain ⟨raised, noted⟩ := ih next log
          exact ⟨fun eq => among (raised eq), fun registered logged eq last =>
            (noted registered logged eq last).imp_right among⟩
      | some own =>
          simp only [registerAll, Registry.add_of_faulty (fault?_eq_some_iff.mp checked)]
          cases policy : log.policy with
          | picky =>
              simp only [FaultLog.record, policy]
              refine ⟨fun eq => ?_, fun registered logged impossible => (by cases impossible)⟩
              cases eq
              exact ⟨head, List.mem_cons_self, checked⟩
          | tolerant =>
              simp only [FaultLog.record, policy]
              obtain ⟨raised, noted⟩ := ih registry (log.note own)
              refine ⟨fun eq => among (raised eq), fun registered logged eq last => Or.inr ?_⟩
              rcases noted registered logged eq last with first | later
              · exact ⟨head, List.mem_cons_self, checked.trans first⟩
              · exact among later

section KeepsFirst

variable {registry : Registry} {log : FaultLog} {head : Nomination} {rest : List Nomination}
  {key : CandidateKey}

theorem keepsFirst_cons_of_faulty {fault : Fault} (tolerant : log.policy = .tolerant)
    (faulty : head.key? = .error fault) (later : KeepsFirst registry (log.note fault) rest) :
    KeepsFirst registry log (head :: rest) := by
  obtain ⟨registered, logged, eq, entries, count⟩ := later
  rw [KeepsFirst, registerAll, Registry.add_of_faulty faulty,
    validOnes_cons_of_invalid (validKey?_eq_none faulty)]
  refine ⟨registered, logged, ?_, entries, ?_⟩
  · simp only [FaultLog.record, tolerant]
    exact eq
  · simp only [FaultLog.note] at count
    simp only [List.length_cons]
    omega

theorem keepsFirst_cons_of_outranked {registered : Candidate} (valid : head.key? = .ok key)
    (found : registry.get? key = some registered)
    (outranked : head.isOutrankedBy registered = true) (later : KeepsFirst registry log rest) :
    KeepsFirst registry log (head :: rest) := by
  obtain ⟨registered, logged, eq, entries, count⟩ := later
  rw [KeepsFirst, registerAll, Registry.add_of_outranked valid found outranked,
    validOnes_cons_of_valid (key?_eq_ok_iff.mp valid)]
  refine ⟨registered, logged, eq, ?_, ?_⟩
  · rw [entries, List.filter_cons]
    simp [found]
  · simp only [List.length_cons]
    omega

theorem keepsFirst_cons_of_new (valid : head.key? = .ok key) (absent : registry.get? key = none)
    (later : KeepsFirst (registry.file head key) log rest) :
    KeepsFirst registry log (head :: rest) := by
  obtain ⟨registered, logged, eq, entries, count⟩ := later
  have unrivalled : ∀ registered, registry.get? key = some registered →
      head.isOutrankedBy registered = false := by
    simp [absent]
  rw [KeepsFirst, registerAll, Registry.add_of_unrivalled valid unrivalled,
    validOnes_cons_of_valid (key?_eq_ok_iff.mp valid)]
  refine ⟨registered, logged, eq, ?_, ?_⟩
  · rw [entries, Registry.file_entries, Registry.without_of_absent absent, List.filter_cons]
    simp only [absent, Option.isNone_none, if_true, firstPerKey_cons, filedOnes_cons,
      List.append_assoc, List.singleton_append, List.filter_filter]
    -- After filing, the keys without a candidate are those of before but this one.
    congr 5
    funext entry
    rw [Registry.file_get?]
    by_cases same : entry.1 = key <;> simp [same]
  · simp only [List.length_cons]
    omega

end KeepsFirst

/-- Under the tolerant policy, when no nomination beats a registered candidate or an earlier
nomination, the first of each key is kept. -/
theorem registerAll_keeps_first (registry : Registry) (log : FaultLog)
    (nominations : List Nomination) (tolerant : log.policy = .tolerant)
    (settled : ∀ nomination ∈ nominations, ∀ entry ∈ registry.entries,
      nomination.isOutrankedBy entry = true)
    (yielding : nominations.Pairwise fun earlier later => ¬later.Beats earlier) :
    KeepsFirst registry log nominations := by
  induction nominations generalizing registry log with
  | nil => exact ⟨registry, log, rfl, by simp [validOnes, firstPerKey, filedOnes], rfl⟩
  | cons head rest ih =>
      have restSettled := fun nomination member =>
        settled nomination (List.mem_cons_of_mem head member)
      obtain ⟨headYields, restYields⟩ := List.pairwise_cons.mp yielding
      cases valid : head.key? with
      | error fault =>
          exact keepsFirst_cons_of_faulty tolerant valid
            (ih registry (log.note fault) tolerant restSettled restYields)
      | ok key =>
          cases found : registry.get? key with
          | some registered =>
              have outranked := settled head List.mem_cons_self registered
                (Registry.get?_eq_some found).1
              exact keepsFirst_cons_of_outranked valid found outranked
                (ih registry log tolerant restSettled restYields)
          | none =>
              refine keepsFirst_cons_of_new valid found
                (ih (registry.file head key) log tolerant ?_ restYields)
              intro nomination member entry entryMember
              rw [Registry.file_entries, Registry.without_of_absent found, List.mem_append,
                List.mem_singleton] at entryMember
              rcases entryMember with old | rfl
              · exact restSettled nomination member entry old
              · rw [isOutrankedBy_candidateOf]
                exact headYields nomination member

end Selector

end WifiSelection
