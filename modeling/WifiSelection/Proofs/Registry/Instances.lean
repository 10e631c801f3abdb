import WifiSelection.Proofs.Registry.Survivors
import WifiSelection.Samples

/-!
Copies of candidates that were taken from a registry earlier in a run. Serial numbers are never
given twice, so a copy is told from whatever has its key later on: once its candidate was replaced
or taken out it is stale for good, and removing a stale copy does nothing.
-/

namespace WifiSelection

namespace Registry

def Files (registry : Registry) (step : Step) (key : CandidateKey) : Prop :=
  ∃ log nomination, step = .add log nomination ∧ nomination.key? = .ok key ∧
    (registry.add log nomination).1 = .ok true

/-- From one position of a run up to another nothing is filed under a key and nothing taken out. -/
def Untouched (steps : List Step) (first last : Nat) (key : CandidateKey) : Prop :=
  ∀ position step, first ≤ position → position < last → steps[position]? = some step →
    ¬(after (steps.take position)).Files step key ∧
      ¬(after (steps.take position)).TakesOut step key

def filings (registry : Registry) : List Step → Nat
  | [] => 0
  | .add log nomination :: rest =>
    let (answer, next, _) := registry.add log nomination
    (if answer = .ok true then 1 else 0) + next.filings rest
  | step :: rest => (registry.apply step).filings rest

section OneStep

variable {registry : Registry} {step : Step} {copy : Candidate}

theorem apply_cases (registry : Registry) (step : Step) :
    (∃ nomination key, registry.apply step = registry.file nomination key ∧
      ∀ other, (registry.Files step other ↔ other = key) ∧ ¬registry.TakesOut step other) ∨
    (∃ key, registry.apply step = { registry with entries := registry.without key } ∧
      ∀ other, ¬registry.Files step other ∧ (registry.TakesOut step other ↔ other = key)) ∨
    ((registry.apply step).entries = registry.entries ∧
      (registry.apply step).lastSerial = registry.lastSerial ∧
      ∀ other, ¬registry.Files step other ∧ ¬registry.TakesOut step other) := by
  cases step with
  | connect networkId bssid =>
      exact .inr (.inr ⟨rfl, rfl, fun other => by simp [Files, TakesOut]⟩)
  | add log nomination =>
      have stays (other : CandidateKey) : ¬registry.TakesOut (.add log nomination) other := by
        rintro ⟨candidate, impossible, -⟩
        cases impossible
      rcases add_cases registry log nomination with
        ⟨fault, faulty, eq⟩ | ⟨key, registered, -, -, -, eq⟩ | ⟨key, valid, -, eq⟩
      · refine .inr (.inr ⟨by rw [apply, eq], by rw [apply, eq], fun other => ⟨?_, stays other⟩⟩)
        rintro ⟨_, _, same, valid, -⟩
        cases same
        rw [faulty] at valid
        cases valid
      · refine .inr (.inr ⟨by rw [apply, eq], by rw [apply, eq], fun other => ⟨?_, stays other⟩⟩)
        rintro ⟨_, _, same, -, answered⟩
        cases same
        rw [eq] at answered
        cases answered
      · refine .inl ⟨nomination, key, by rw [apply, eq], fun other => ⟨?_, stays other⟩⟩
        constructor
        · rintro ⟨_, _, same, otherValid, -⟩
          cases same
          rw [valid] at otherValid
          exact (Except.ok.inj otherValid).symm
        · rintro rfl
          exact ⟨log, nomination, rfl, valid, by rw [eq]⟩
  | remove candidate =>
      have filesNot (other : CandidateKey) : ¬registry.Files (.remove candidate) other := by
        rintro ⟨log, nomination, impossible, -⟩
        cases impossible
      rcases remove_cases registry candidate with taken | kept
      · refine .inr (.inl ⟨candidate.key, by rw [apply, taken], fun other => ⟨filesNot other, ?_⟩⟩)
        constructor
        · rintro ⟨_, same, sameKey, -⟩
          cases same
          exact sameKey.symm
        · rintro rfl
          exact ⟨candidate, rfl, rfl, by rw [taken]⟩
      · refine .inr (.inr ⟨by rw [apply, kept], by rw [apply, kept], fun other =>
          ⟨filesNot other, ?_⟩⟩)
        rintro ⟨_, same, -, answered⟩
        cases same
        rw [kept] at answered
        cases answered

/-- The serial number of a copy was given, and not to any other entry. -/
structure Remembers (registry : Registry) (copy : Candidate) : Prop where
  given : copy.serial ≤ registry.lastSerial
  unique : ∀ entry ∈ registry.entries, entry.serial = copy.serial → entry = copy

theorem IsConsistent.remembers (consistent : registry.IsConsistent)
    (held : copy ∈ registry.entries) : registry.Remembers copy :=
  ⟨consistent.serial_le copy held, fun _ member same =>
    consistent.serial_injective member held same⟩

theorem Remembers.ne_candidateOf (remembers : registry.Remembers copy) (nomination : Nomination)
    (key : CandidateKey) :
    registry.candidateOf nomination key (registry.lastSerial + 1) ≠ copy := by
  intro same
  have given := remembers.given
  rw [← same, candidateOf_serial] at given
  omega

theorem Remembers.apply (remembers : registry.Remembers copy) (step : Step) :
    (registry.apply step).Remembers copy := by
  rcases registry.apply_cases step with
    ⟨nomination, key, eq, -⟩ | ⟨key, eq, -⟩ | ⟨entries, lastSerial, -⟩
  · rw [eq]
    refine ⟨Nat.le_succ_of_le remembers.given, fun entry member same => ?_⟩
    rcases List.mem_append.mp member with old | new
    · exact remembers.unique entry (mem_without.mp old).1 same
    · -- The serial number of what is filed now is above that of the copy.
      have given := remembers.given
      rw [← same, List.mem_singleton.mp new, candidateOf_serial] at given
      omega
  · rw [eq]
    exact ⟨remembers.given, fun entry member => remembers.unique entry (mem_without.mp member).1⟩
  · refine ⟨lastSerial ▸ remembers.given, ?_⟩
    rw [entries]
    exact remembers.unique

theorem Remembers.mem_apply_iff (remembers : registry.Remembers copy) (step : Step) :
    copy ∈ (registry.apply step).entries ↔
      copy ∈ registry.entries ∧ ¬registry.Files step copy.key ∧
        ¬registry.TakesOut step copy.key := by
  rcases registry.apply_cases step with
    ⟨nomination, key, eq, told⟩ | ⟨key, eq, told⟩ | ⟨entries, -, told⟩
  · obtain ⟨files, stays⟩ := told copy.key
    have different := (remembers.ne_candidateOf nomination key).symm
    rw [eq, file_entries, List.mem_append, List.mem_singleton, mem_without, files]
    simp [different, stays]
  · obtain ⟨filesNot, takes⟩ := told copy.key
    rw [eq, takes]
    simp [mem_without, filesNot]
  · rw [entries]
    simp [told copy.key]

theorem Remembers.remove_eq (remembers : registry.Remembers copy)
    (consistent : registry.IsConsistent) :
    registry.remove copy =
      (decide (copy ∈ registry.entries),
        { registry with entries := registry.entries.erase copy }) := by
  by_cases held : copy ∈ registry.entries
  · have found := consistent.get?_eq_some_iff.mpr ⟨held, rfl⟩
    have erased : registry.entries.erase copy = registry.without copy.key := by
      rw [consistent.keys_nodup.of_map.erase_eq_filter]
      apply List.filter_congr
      intro entry member
      rw [Bool.eq_iff_iff, bne_iff_ne, bne_iff_ne, not_iff_not]
      exact ⟨congrArg Candidate.key,
        List.inj_on_of_nodup_map consistent.keys_nodup member held⟩
    simp [remove, found, Candidate.isCopyOf, held, erased]
  · rw [List.erase_of_not_mem held, decide_eq_false held, remove]
    split
    next registered found =>
      have stale : registered.isCopyOf copy = false := by
        rw [Candidate.isCopyOf, Bool.and_eq_false_iff, beq_eq_false_iff_ne]
        refine .inl fun same => held ?_
        obtain ⟨member, -⟩ := get?_eq_some found
        exact remembers.unique registered member same ▸ member
      simp [stale]
    next => rfl

end OneStep

section Runs

variable {steps : List Step} {copy : Candidate}

theorem foldl_lastSerial (registry : Registry) (steps : List Step) :
    (steps.foldl apply registry).lastSerial = registry.lastSerial + registry.filings steps := by
  induction steps generalizing registry with
  | nil => rfl
  | cons step rest ih =>
      rw [List.foldl_cons, ih]
      cases step with
      | connect networkId bssid => rfl
      | add log nomination =>
          rcases add_cases registry log nomination with
            ⟨fault, -, eq⟩ | ⟨key, registered, -, -, -, eq⟩ | ⟨key, -, -, eq⟩
          · simp only [apply, filings, eq, record_ne_ok_true, if_false, Nat.zero_add]
          · simp [apply, filings, eq]
          · simp [apply, filings, eq, Nat.add_assoc]
      | remove candidate =>
          have kept : (registry.apply (.remove candidate)).lastSerial = registry.lastSerial := by
            rcases remove_cases registry candidate with eq | eq <;> rw [apply, eq]
          rw [kept]
          rfl

theorem after_lastSerial_mono (steps : List Step) {first last : Nat} (order : first ≤ last) :
    (after (steps.take first)).lastSerial ≤ (after (steps.take last)).lastSerial := by
  have whole := List.take_append_drop first (steps.take last)
  rw [List.take_take, Nat.min_eq_left order] at whole
  have grown := foldl_lastSerial (after (steps.take first)) ((steps.take last).drop first)
  rw [after, ← List.foldl_append, whole] at grown
  exact Nat.le.intro grown.symm

theorem after_take_succ (steps : List Step) (position : Nat) :
    after (steps.take (position + 1)) =
      match steps[position]? with
      | some step => (after (steps.take position)).apply step
      | none => after (steps.take position) := by
  rw [List.take_add_one]
  cases steps[position]? with
  | none => rw [Option.toList_none, List.append_nil]
  | some step => rw [Option.toList_some, after_concat]

theorem forall_entries_after {property : Candidate → Prop}
    (filed : ∀ registry nomination key,
      property (candidateOf registry nomination key (registry.lastSerial + 1)))
    (steps : List Step) : ∀ entry ∈ (after steps).entries, property entry := by
  induction steps using List.reverseRecOn with
  | nil => exact fun _ member => absurd member List.not_mem_nil
  | append_singleton steps step ih =>
      intro entry member
      rw [after_concat] at member
      rcases (after steps).apply_cases step with
        ⟨nomination, key, eq, -⟩ | ⟨key, eq, -⟩ | ⟨entries, -, -⟩
      · rw [eq, file_entries, List.mem_append, List.mem_singleton] at member
        rcases member with old | rfl
        · exact ih entry (mem_without.mp old).1
        · exact filed (after steps) nomination key
      · rw [eq] at member
        exact ih entry (mem_without.mp member).1
      · rw [entries] at member
        exact ih entry member

theorem serial_pos_after (steps : List Step) :
    ∀ entry ∈ (after steps).entries, 0 < entry.serial :=
  forall_entries_after (fun registry _ _ => Nat.succ_pos registry.lastSerial) steps

theorem untouched_succ {first last : Nat} (order : first ≤ last) (key : CandidateKey) :
    Untouched steps first (last + 1) key ↔ Untouched steps first last key ∧
      ∀ step, steps[last]? = some step → ¬(after (steps.take last)).Files step key ∧
        ¬(after (steps.take last)).TakesOut step key := by
  constructor
  · intro untouched
    exact ⟨fun position step above below => untouched position step above (Nat.lt_succ_of_lt below),
      fun step found => untouched last step order (Nat.lt_succ_self last) found⟩
  · rintro ⟨untouched, atLast⟩ position step above below found
    rcases Nat.lt_succ_iff_lt_or_eq.mp below with earlier | rfl
    · exact untouched position step above earlier found
    · exact atLast step found

theorem mem_after_take_iff {first last : Nat} (taken : copy ∈ (after (steps.take first)).entries)
    (order : first ≤ last) :
    (after (steps.take last)).Remembers copy ∧
      (copy ∈ (after (steps.take last)).entries ↔ Untouched steps first last copy.key) := by
  induction last, order using Nat.le_induction with
  | base =>
      refine ⟨(isConsistent_after _).remembers taken, fun _ position step above below => ?_,
        fun _ => taken⟩
      omega
  | succ last order ih =>
      obtain ⟨remembers, memIff⟩ := ih
      rw [untouched_succ order, after_take_succ, ← memIff]
      cases steps[last]? with
      | none => exact ⟨remembers, by simp⟩
      | some step =>
          refine ⟨remembers.apply step, ?_⟩
          simp [remembers.mem_apply_iff step]

/-- In every registry that a run brings about, entries are found under their own keys and have
serial numbers of their own, of which one is given for each nomination filed. A copy that was taken
earlier in the run is removed if nothing was filed or taken out under its key since, and then just
its entry goes; otherwise removing it changes nothing. -/
theorem after_tells_instances (steps : List Step) :
    (∀ key entry, (after steps).get? key = some entry ↔
      entry ∈ (after steps).entries ∧ entry.key = key) ∧
    (∀ entry ∈ (after steps).entries, 0 < entry.serial ∧ entry.serial ≤ (after steps).lastSerial) ∧
    ((after steps).entries.map Candidate.serial).Nodup ∧
    (after steps).lastSerial = empty.filings steps ∧
    (∀ first last, first ≤ last →
      (after (steps.take first)).lastSerial ≤ (after (steps.take last)).lastSerial) ∧
    ∀ first last copy, first ≤ last → (after (steps.take first)).get? copy.key = some copy →
      let registry := after (steps.take last)
      ((registry.remove copy).1 = true ↔ Untouched steps first last copy.key) ∧
      ((registry.remove copy).1 = true → copy ∈ registry.entries ∧
        (registry.remove copy).2 = { registry with entries := registry.entries.erase copy }) ∧
      ((registry.remove copy).1 = false → (registry.remove copy).2 = registry) := by
  have consistent := isConsistent_after steps
  refine ⟨fun key entry => consistent.get?_eq_some_iff, ?_, ?_, ?_,
    fun first last => after_lastSerial_mono steps, ?_⟩
  · intro entry member
    exact ⟨serial_pos_after steps entry member, consistent.serial_le entry member⟩
  · exact consistent.serials_nodup
  · exact (foldl_lastSerial empty steps).trans (Nat.zero_add _)
  · intro first last copy order taken registry
    obtain ⟨remembers, memIff⟩ := mem_after_take_iff (get?_eq_some taken).1 order
    rw [← memIff, remembers.remove_eq (isConsistent_after _), decide_eq_true_eq,
      decide_eq_false_iff_not]
    refine ⟨Iff.rfl, fun held => ⟨held, rfl⟩, fun stale => ?_⟩
    simp only [List.erase_of_not_mem stale, registry]

example :
    let home : Step := .add (.empty .tolerant)
      { scan := Samples.scan "home" "00:00:00:00:00:01" .unsecured
        network := Samples.network 7 "home" .unsecured
        priority := 0
        score := 0 }
    ∃ copy ∈ (after [home]).entries,
      ((after [home]).remove copy).1 = true ∧
        ((after [home, .remove copy, home]).get? copy.key).map Candidate.serial = some 2 ∧
        ((after [home, .remove copy, home]).remove copy).1 = false := by
  decide +kernel

end Runs

end Registry

end WifiSelection
