import Mathlib.Data.Set.Card
import WifiSelection.Proofs.Registry.Basic

/-!
Registries over whole runs. Of the valid nominations made for a key since its candidate was last
taken out, the registry holds the best: lowest priority, then highest score, then earliest. The
held candidates are listed in the order in which the nominations that they come from were made.
-/

namespace WifiSelection

namespace Registry

/-- What can be done to a registry. Nominations may come with any log. -/
inductive Step where
  | connect (networkId : Option Int32) (bssid : Option MacAddress)
  | add (log : FaultLog) (nomination : Nomination)
  | remove (candidate : Candidate)

def apply (registry : Registry) : Step → Registry
  | .connect networkId bssid => registry.connectedTo networkId bssid
  | .add log nomination => (registry.add log nomination).2.1
  | .remove candidate => (registry.remove candidate).2

def after (steps : List Step) : Registry :=
  steps.foldl apply empty

def TakesOut (registry : Registry) (step : Step) (key : CandidateKey) : Prop :=
  ∃ candidate, step = .remove candidate ∧ candidate.key = key ∧
    (registry.remove candidate).1 = true

structure Bid where
  position : Nat
  key : CandidateKey
  nomination : Nomination

/-- A valid nomination that was made after the last removal of its key's candidate. -/
structure Contends (steps : List Step) (bid : Bid) : Prop where
  made : ∃ log, steps[bid.position]? = some (.add log bid.nomination)
  valid : bid.nomination.key? = .ok bid.key
  lasting : ∀ later step, bid.position < later → steps[later]? = some step →
    ¬(after (steps.take later)).TakesOut step bid.key

/-- Of the nominations that contend for its key, the one of lowest priority, among those of highest
score, and among those the earliest. -/
structure Survives (steps : List Step) (bid : Bid) : Prop where
  contends : Contends steps bid
  lowest : ∀ rival, Contends steps rival → rival.key = bid.key →
    bid.nomination.priority ≤ rival.nomination.priority
  highest : ∀ rival, Contends steps rival → rival.key = bid.key →
    rival.nomination.priority = bid.nomination.priority →
    rival.nomination.score ≤ bid.nomination.score
  earliest : ∀ rival, Contends steps rival → rival.key = bid.key →
    rival.nomination.priority = bid.nomination.priority →
    rival.nomination.score = bid.nomination.score → bid.position ≤ rival.position

def candidateAt (steps : List Step) (bid : Bid) : Candidate :=
  let registry := after (steps.take bid.position)
  registry.candidateOf bid.nomination bid.key (registry.lastSerial + 1)

@[simp] theorem candidateAt_key (steps : List Step) (bid : Bid) :
    (candidateAt steps bid).key = bid.key := rfl

theorem after_concat (steps : List Step) (step : Step) :
    after (steps ++ [step]) = (after steps).apply step := by
  simp [after]

theorem isConsistent_after (steps : List Step) : (after steps).IsConsistent := by
  induction steps using List.reverseRecOn with
  | nil => exact isConsistent_empty
  | append_singleton steps step ih =>
      rw [after_concat]
      cases step with
      | connect networkId bssid => exact ih.connectedTo networkId bssid
      | add log nomination => exact ih.add log nomination
      | remove candidate => exact ih.remove candidate

theorem getElem?_concat_eq_some {steps : List Step} {step found : Step} {position : Nat} :
    (steps ++ [step])[position]? = some found ↔
      steps[position]? = some found ∨ (position = steps.length ∧ step = found) := by
  rcases Nat.lt_trichotomy position steps.length with before | same | beyond
  · rw [List.getElem?_append_left before]
    simp [Nat.ne_of_lt before]
  · subst same
    simp
  · have outside : steps[position]? = none := List.getElem?_eq_none (Nat.le_of_lt beyond)
    have outsideToo : (steps ++ [step])[position]? = none :=
      List.getElem?_eq_none (by simpa using beyond)
    simp [outside, outsideToo, Nat.ne_of_gt beyond]

theorem Contends.position_lt {steps : List Step} {bid : Bid} (contends : Contends steps bid) :
    bid.position < steps.length := by
  obtain ⟨log, made⟩ := contends.made
  exact (List.getElem?_eq_some_iff.mp made).1

/-- What contends after one more step: what did before and was not taken out now, and the step's
own nomination. -/
theorem contends_concat {steps : List Step} {step : Step} {bid : Bid} :
    Contends (steps ++ [step]) bid ↔
      (Contends steps bid ∧ ¬(after steps).TakesOut step bid.key) ∨
        (bid.position = steps.length ∧ bid.nomination.key? = .ok bid.key ∧
          ∃ log, step = .add log bid.nomination) := by
  constructor
  · rintro ⟨⟨log, made⟩, valid, lasting⟩
    rcases getElem?_concat_eq_some.mp made with earlier | ⟨last, same⟩
    · left
      have before := (List.getElem?_eq_some_iff.mp earlier).1
      refine ⟨⟨⟨log, earlier⟩, valid, ?_⟩, ?_⟩
      · intro later removal order found
        have bound := (List.getElem?_eq_some_iff.mp found).1
        have kept := lasting later removal order (getElem?_concat_eq_some.mpr (.inl found))
        rwa [List.take_append_of_le_length (Nat.le_of_lt bound)] at kept
      · have kept := lasting steps.length step before (getElem?_concat_eq_some.mpr (.inr ⟨rfl, rfl⟩))
        rwa [List.take_left] at kept
    · exact .inr ⟨last, valid, log, same⟩
  · rintro (⟨contends, kept⟩ | ⟨last, valid, log, same⟩)
    · obtain ⟨log, made⟩ := contends.made
      refine ⟨⟨log, getElem?_concat_eq_some.mpr (.inl made)⟩, contends.valid, ?_⟩
      intro later removal order found
      rcases getElem?_concat_eq_some.mp found with earlier | ⟨final, sameStep⟩
      · have bound := (List.getElem?_eq_some_iff.mp earlier).1
        rw [List.take_append_of_le_length (Nat.le_of_lt bound)]
        exact contends.lasting later removal order earlier
      · rw [final, List.take_left, ← sameStep]
        exact kept
    · refine ⟨⟨log, getElem?_concat_eq_some.mpr (.inr ⟨last, same⟩)⟩, valid, ?_⟩
      intro later removal order found
      have bound := (List.getElem?_eq_some_iff.mp found).1
      simp only [List.length_append, List.length_singleton] at bound
      omega

theorem candidateAt_concat {steps : List Step} {bid : Bid} (step : Step)
    (before : bid.position ≤ steps.length) :
    candidateAt (steps ++ [step]) bid = candidateAt steps bid := by
  simp only [candidateAt, List.take_append_of_le_length before]

theorem survives_iff {steps : List Step} {bid : Bid} :
    Survives steps bid ↔ Contends steps bid ∧ ∀ rival, Contends steps rival →
      rival.key = bid.key → ¬rival.nomination.Beats bid.nomination ∧
        (bid.nomination.Beats rival.nomination ∨ bid.position ≤ rival.position) := by
  constructor
  · rintro ⟨contends, lowest, highest, earliest⟩
    refine ⟨contends, fun rival rivalContends same => ?_⟩
    have low := lowest rival rivalContends same
    have high := highest rival rivalContends same
    have early := earliest rival rivalContends same
    simp only [Nomination.Beats]
    grind
  · rintro ⟨contends, best⟩
    refine ⟨contends, ?_, ?_, ?_⟩ <;> intro rival rivalContends same <;>
      have judged := best rival rivalContends same <;>
      simp only [Nomination.Beats] at judged <;> grind

theorem Survives.unique {steps : List Step} {left right : Bid}
    (leftSurvives : Survives steps left) (rightSurvives : Survives steps right)
    (same : left.key = right.key) : left = right := by
  have leftBest := (survives_iff.mp leftSurvives).2 right rightSurvives.contends same.symm
  have rightBest := (survives_iff.mp rightSurvives).2 left leftSurvives.contends same
  have position : left.position = right.position := by
    rcases leftBest.2 with beats | before
    · exact (rightBest.1 beats).elim
    · rcases rightBest.2 with beats | after
      · exact (leftBest.1 beats).elim
      · omega
  obtain ⟨leftLog, leftMade⟩ := leftSurvives.contends.made
  obtain ⟨rightLog, rightMade⟩ := rightSurvives.contends.made
  rw [position, rightMade] at leftMade
  cases left
  cases right
  simp_all

/-- The survivors of a run by position, with the candidates that the registry made of them. -/
structure IsTrail (steps : List Step) (trail : List Bid) : Prop where
  ascending : trail.Pairwise fun left right => left.position < right.position
  mem_iff : ∀ bid, bid ∈ trail ↔ Survives steps bid
  covers : ∀ bid, Contends steps bid → ∃ survivor ∈ trail, survivor.key = bid.key
  entries : (after steps).entries = trail.map (candidateAt steps)

theorem IsTrail.position_lt {steps : List Step} {trail : List Bid} (isTrail : IsTrail steps trail)
    {bid : Bid} (member : bid ∈ trail) : bid.position < steps.length :=
  ((isTrail.mem_iff bid).mp member).contends.position_lt

theorem IsTrail.get?_eq {steps : List Step} {trail : List Bid} (isTrail : IsTrail steps trail)
    {bid : Bid} (member : bid ∈ trail) :
    (after steps).get? bid.key = some (candidateAt steps bid) := by
  rw [(isConsistent_after steps).get?_eq_some_iff, isTrail.entries]
  exact ⟨List.mem_map_of_mem member, rfl⟩

theorem IsTrail.exists_of_get? {steps : List Step} {trail : List Bid}
    (isTrail : IsTrail steps trail) {key : CandidateKey} {entry : Candidate}
    (found : (after steps).get? key = some entry) :
    ∃ bid ∈ trail, bid.key = key ∧ candidateAt steps bid = entry := by
  obtain ⟨member, same⟩ := get?_eq_some found
  rw [isTrail.entries] at member
  obtain ⟨bid, bidMember, rfl⟩ := List.mem_map.mp member
  exact ⟨bid, bidMember, same, rfl⟩

theorem map_candidateAt_concat {steps : List Step} {trail : List Bid} (step : Step)
    (before : ∀ bid ∈ trail, bid.position < steps.length) :
    trail.map (candidateAt (steps ++ [step])) = trail.map (candidateAt steps) :=
  List.map_congr_left fun bid member => candidateAt_concat step (Nat.le_of_lt (before bid member))

theorem IsTrail.of_same {steps : List Step} {trail : List Bid} {step : Step}
    (isTrail : IsTrail steps trail)
    (same : ∀ bid, Contends (steps ++ [step]) bid ↔ Contends steps bid)
    (entries : ((after steps).apply step).entries = (after steps).entries) :
    IsTrail (steps ++ [step]) trail where
  ascending := isTrail.ascending
  mem_iff bid := by
    rw [isTrail.mem_iff, survives_iff, survives_iff]
    simp only [same]
  covers bid contends := isTrail.covers bid ((same bid).mp contends)
  entries := by
    rw [after_concat, entries, isTrail.entries,
      map_candidateAt_concat step fun bid => isTrail.position_lt]

theorem contends_add {steps : List Step} {log : FaultLog} {nomination : Nomination}
    {key : CandidateKey} (valid : nomination.key? = .ok key) (bid : Bid) :
    Contends (steps ++ [.add log nomination]) bid ↔
      Contends steps bid ∨ bid = ⟨steps.length, key, nomination⟩ := by
  rw [contends_concat]
  constructor
  · rintro (⟨contends, -⟩ | ⟨last, bidValid, otherLog, same⟩)
    · exact .inl contends
    · injection same with sameLog sameNomination
      rw [← sameNomination, valid] at bidValid
      injection bidValid with sameKey
      right
      cases bid
      simp_all
  · rintro (contends | rfl)
    · exact .inl ⟨contends, by rintro ⟨candidate, impossible, -⟩; cases impossible⟩
    · exact .inr ⟨rfl, valid, log, rfl⟩

theorem IsTrail.of_outranked {steps : List Step} {trail : List Bid} {log : FaultLog}
    {nomination : Nomination} {key : CandidateKey} {registered : Candidate}
    (isTrail : IsTrail steps trail) (valid : nomination.key? = .ok key)
    (found : (after steps).get? key = some registered)
    (outranked : nomination.isOutrankedBy registered = true) :
    IsTrail (steps ++ [.add log nomination]) trail := by
  obtain ⟨holder, holderMember, holderKey, rfl⟩ := isTrail.exists_of_get? found
  have holderSurvives := (isTrail.mem_iff holder).mp holderMember
  have notBeaten := (Nomination.isOutrankedBy_candidateOf _ _ _ _ _).mp outranked
  have before := isTrail.position_lt holderMember
  refine ⟨isTrail.ascending, fun bid => ?_, fun bid contends => ?_, ?_⟩
  · rw [isTrail.mem_iff]
    constructor
    · intro survives
      rw [survives_iff]
      simp only [contends_add valid]
      refine ⟨.inl survives.contends, ?_⟩
      rintro rival (rivalContends | rfl) same
      · exact (survives_iff.mp survives).2 rival rivalContends same
      · have isHolder := holderSurvives.unique survives (holderKey.trans same)
        subst isHolder
        exact ⟨notBeaten, .inr (Nat.le_of_lt before)⟩
    · intro survives
      rw [survives_iff] at survives
      simp only [contends_add valid] at survives
      obtain ⟨contends | rfl, best⟩ := survives
      · exact survives_iff.mpr ⟨contends, fun rival rivalContends =>
          best rival (.inl rivalContends)⟩
      · have judged := best holder (.inl holderSurvives.contends) holderKey
        rcases judged.2 with beats | impossible
        · exact (notBeaten beats).elim
        · simp only at impossible
          omega
  · rcases (contends_add valid bid).mp contends with old | rfl
    · exact isTrail.covers bid old
    · exact ⟨holder, holderMember, holderKey⟩
  · rw [after_concat, map_candidateAt_concat _ fun bid => isTrail.position_lt, ← isTrail.entries]
    simp only [apply, add_of_outranked valid found outranked]

theorem IsTrail.beats_of_unrivalled {steps : List Step} {trail : List Bid} {nomination : Nomination}
    {key : CandidateKey} (isTrail : IsTrail steps trail)
    (unrivalled : ∀ registered, (after steps).get? key = some registered →
      nomination.isOutrankedBy registered = false)
    {rival : Bid} (contends : Contends steps rival) (same : rival.key = key) :
    nomination.Beats rival.nomination := by
  obtain ⟨holder, holderMember, holderKey⟩ := isTrail.covers rival contends
  have holderSurvives := (isTrail.mem_iff holder).mp holderMember
  have found := isTrail.get?_eq holderMember
  rw [holderKey, same] at found
  have above := unrivalled _ found
  rw [← Bool.not_eq_true, candidateAt, Nomination.isOutrankedBy_candidateOf, not_not] at above
  exact above.trans ((survives_iff.mp holderSurvives).2 rival contends holderKey.symm).1

theorem survives_add_iff {steps : List Step} {log : FaultLog} {nomination : Nomination}
    {key : CandidateKey} (valid : nomination.key? = .ok key)
    (beatsAll : ∀ rival, Contends steps rival → rival.key = key →
      nomination.Beats rival.nomination) (bid : Bid) :
    Survives (steps ++ [.add log nomination]) bid ↔
      Survives steps bid ∧ bid.key ≠ key ∨ bid = ⟨steps.length, key, nomination⟩ := by
  constructor
  · intro survives
    rw [survives_iff] at survives
    simp only [contends_add valid] at survives
    obtain ⟨contends | rfl, best⟩ := survives
    · left
      refine ⟨survives_iff.mpr ⟨contends, fun rival rivalContends =>
        best rival (.inl rivalContends)⟩, fun same => ?_⟩
      exact (best _ (.inr rfl) same.symm).1 (beatsAll bid contends same)
    · exact .inr rfl
  · rintro (⟨survives, other⟩ | rfl) <;> rw [survives_iff] <;> simp only [contends_add valid]
    · refine ⟨.inl survives.contends, ?_⟩
      rintro rival (rivalContends | rfl) same
      · exact (survives_iff.mp survives).2 rival rivalContends same
      · exact (other same.symm).elim
    · refine ⟨.inr trivial, ?_⟩
      rintro rival (rivalContends | rfl) same
      · have beats := beatsAll rival rivalContends same
        exact ⟨beats.asymm, .inl beats⟩
      · exact ⟨fun beats => beats.asymm beats, .inr (Nat.le_refl _)⟩

theorem IsTrail.of_filed {steps : List Step} {trail : List Bid} {log : FaultLog}
    {nomination : Nomination} {key : CandidateKey} (isTrail : IsTrail steps trail)
    (valid : nomination.key? = .ok key)
    (unrivalled : ∀ registered, (after steps).get? key = some registered →
      nomination.isOutrankedBy registered = false) :
    IsTrail (steps ++ [.add log nomination])
      (trail.filter (fun bid => bid.key != key) ++ [⟨steps.length, key, nomination⟩]) := by
  refine ⟨?_, fun bid => ?_, fun bid contends => ?_, ?_⟩
  · rw [List.pairwise_append]
    refine ⟨isTrail.ascending.sublist List.filter_sublist, List.pairwise_singleton _ _, ?_⟩
    intro left leftMember right rightMember
    rw [List.mem_singleton.mp rightMember]
    exact isTrail.position_lt (List.mem_of_mem_filter leftMember)
  · rw [List.mem_append, List.mem_filter, List.mem_singleton, isTrail.mem_iff, bne_iff_ne]
    exact (survives_add_iff valid (fun _ => isTrail.beats_of_unrivalled unrivalled) bid).symm
  · rcases (contends_add valid bid).mp contends with old | rfl
    · obtain ⟨holder, holderMember, holderKey⟩ := isTrail.covers bid old
      by_cases same : holder.key = key
      · exact ⟨_, List.mem_append_right _ (List.mem_singleton_self _), same.symm.trans holderKey⟩
      · exact ⟨holder, List.mem_append_left _
          (List.mem_filter.mpr ⟨holderMember, bne_iff_ne.mpr same⟩), holderKey⟩
    · exact ⟨_, List.mem_append_right _ (List.mem_singleton_self _), rfl⟩
  · rw [after_concat, List.map_append, map_candidateAt_concat _ fun bid member =>
      isTrail.position_lt (List.mem_of_mem_filter member)]
    simp only [apply, add_of_unrivalled valid unrivalled, file_entries, without, isTrail.entries,
      List.filter_map, List.map_singleton, candidateAt, List.take_left]
    rfl

theorem IsTrail.of_taken {steps : List Step} {trail : List Bid} {candidate : Candidate}
    (isTrail : IsTrail steps trail)
    (taken : (after steps).remove candidate =
      (true, { after steps with entries := (after steps).without candidate.key })) :
    IsTrail (steps ++ [.remove candidate])
      (trail.filter fun bid => bid.key != candidate.key) := by
  have contendsIff (bid : Bid) : Contends (steps ++ [.remove candidate]) bid ↔
      Contends steps bid ∧ bid.key ≠ candidate.key := by
    rw [contends_concat]
    constructor
    · rintro (⟨contends, kept⟩ | ⟨-, -, log, impossible⟩)
      · exact ⟨contends, fun same => kept ⟨candidate, rfl, same.symm, by rw [taken]⟩⟩
      · cases impossible
    · rintro ⟨contends, other⟩
      refine .inl ⟨contends, ?_⟩
      rintro ⟨removed, same, removedKey, -⟩
      injection same with same
      exact other (by rw [same, removedKey])
  refine ⟨isTrail.ascending.sublist List.filter_sublist, fun bid => ?_, fun bid contends => ?_, ?_⟩
  · rw [List.mem_filter, isTrail.mem_iff, bne_iff_ne, survives_iff, survives_iff]
    simp only [contendsIff]
    constructor
    · rintro ⟨⟨contends, best⟩, other⟩
      exact ⟨⟨contends, other⟩, fun rival rivalContends => best rival rivalContends.1⟩
    · rintro ⟨⟨contends, other⟩, best⟩
      exact ⟨⟨contends, fun rival rivalContends same =>
        best rival ⟨rivalContends, same ▸ other⟩ same⟩, other⟩
  · obtain ⟨old, other⟩ := (contendsIff bid).mp contends
    obtain ⟨holder, holderMember, holderKey⟩ := isTrail.covers bid old
    exact ⟨holder, List.mem_filter.mpr ⟨holderMember, bne_iff_ne.mpr (holderKey ▸ other)⟩, holderKey⟩
  · rw [after_concat, map_candidateAt_concat _ fun bid member =>
      isTrail.position_lt (List.mem_of_mem_filter member)]
    simp only [apply, taken, without, isTrail.entries, List.filter_map]
    rfl

theorem contends_add_of_faulty {steps : List Step} {log : FaultLog} {nomination : Nomination}
    {fault : Fault} (faulty : nomination.key? = .error fault) (bid : Bid) :
    Contends (steps ++ [.add log nomination]) bid ↔ Contends steps bid := by
  rw [contends_concat]
  constructor
  · rintro (⟨contends, -⟩ | ⟨-, valid, otherLog, same⟩)
    · exact contends
    · injection same with sameLog sameNomination
      rw [← sameNomination, faulty] at valid
      cases valid
  · exact fun contends => .inl ⟨contends, by rintro ⟨candidate, impossible, -⟩; cases impossible⟩

theorem contends_remove_of_kept {steps : List Step} {candidate : Candidate}
    (kept : (after steps).remove candidate = (false, after steps)) (bid : Bid) :
    Contends (steps ++ [.remove candidate]) bid ↔ Contends steps bid := by
  rw [contends_concat]
  constructor
  · rintro (⟨contends, -⟩ | ⟨-, -, log, impossible⟩)
    · exact contends
    · cases impossible
  · refine fun contends => .inl ⟨contends, ?_⟩
    rintro ⟨removed, same, -, answered⟩
    injection same with same
    rw [← same, kept] at answered
    cases answered

theorem exists_trail (steps : List Step) : ∃ trail, IsTrail steps trail := by
  induction steps using List.reverseRecOn with
  | nil =>
      have nothing (bid : Bid) : ¬Contends [] bid := fun contends =>
        Nat.not_lt_zero _ contends.position_lt
      exact ⟨[], List.Pairwise.nil,
        fun bid => ⟨fun member => (List.not_mem_nil member).elim,
          fun survives => (nothing bid survives.contends).elim⟩,
        fun bid contends => (nothing bid contends).elim, rfl⟩
  | append_singleton steps step ih =>
      obtain ⟨trail, isTrail⟩ := ih
      cases step with
      | connect networkId bssid =>
          refine ⟨trail, isTrail.of_same (fun bid => ?_) rfl⟩
          simp [contends_concat, TakesOut]
      | add log nomination =>
          rcases add_cases (after steps) log nomination with
            ⟨fault, faulty, eq⟩ | ⟨key, registered, valid, found, outranked, -⟩ |
              ⟨key, valid, unrivalled, -⟩
          · exact ⟨trail, isTrail.of_same (contends_add_of_faulty faulty) (by rw [apply, eq])⟩
          · exact ⟨trail, isTrail.of_outranked valid found outranked⟩
          · exact ⟨_, isTrail.of_filed valid unrivalled⟩
      | remove candidate =>
          rcases remove_cases (after steps) candidate with taken | kept
          · exact ⟨_, isTrail.of_taken taken⟩
          · exact ⟨trail, isTrail.of_same (contends_remove_of_kept kept) (by rw [apply, kept])⟩

theorem get?_after_eq_none_iff (steps : List Step) (key : CandidateKey) :
    (after steps).get? key = none ↔ ∀ bid, Contends steps bid → bid.key ≠ key := by
  obtain ⟨trail, isTrail⟩ := exists_trail steps
  constructor
  · rintro absent bid contends rfl
    obtain ⟨holder, member, same⟩ := isTrail.covers bid contends
    have held := isTrail.get?_eq member
    rw [same, absent] at held
    cases held
  · intro uncontended
    cases found : (after steps).get? key with
    | none => rfl
    | some entry =>
        obtain ⟨bid, member, same, -⟩ := isTrail.exists_of_get? found
        exact (uncontended bid ((isTrail.mem_iff bid).mp member).contends same).elim

theorem exists_survivor {steps : List Step} {bid : Bid} (contends : Contends steps bid) :
    ∃ holder, Survives steps holder ∧ holder.key = bid.key ∧
      (after steps).get? bid.key = some (candidateAt steps holder) := by
  obtain ⟨trail, isTrail⟩ := exists_trail steps
  obtain ⟨holder, member, same⟩ := isTrail.covers bid contends
  exact ⟨holder, (isTrail.mem_iff holder).mp member, same, same ▸ isTrail.get?_eq member⟩

theorem record_ne_ok_true (log : FaultLog) (fault : Fault) : (log.record fault).1 ≠ .ok true := by
  cases policy : log.policy <;> simp [FaultLog.record, policy]

theorem add_eq_ok_true_iff (steps : List Step) (log : FaultLog) (nomination : Nomination) :
    ((after steps).add log nomination).1 = .ok true ↔
      ∃ key, Survives (steps ++ [.add log nomination]) ⟨steps.length, key, nomination⟩ := by
  obtain ⟨trail, isTrail⟩ := exists_trail steps
  rcases add_cases (after steps) log nomination with
    ⟨fault, faulty, eq⟩ | ⟨key, registered, valid, found, outranked, eq⟩ |
      ⟨key, valid, unrivalled, eq⟩
  · rw [eq]
    refine ⟨fun answered => (record_ne_ok_true log fault answered).elim, ?_⟩
    rintro ⟨key, survives⟩
    have valid := survives.contends.valid
    rw [faulty] at valid
    cases valid
  · rw [eq]
    constructor
    · intro answered
      cases answered
    · rintro ⟨other, survives⟩
      have member := ((isTrail.of_outranked valid found outranked).mem_iff _).mpr survives
      exact (Nat.lt_irrefl _ (isTrail.position_lt member)).elim
  · rw [eq]
    refine ⟨fun _ => ⟨key, ?_⟩, fun _ => rfl⟩
    apply ((isTrail.of_filed valid unrivalled).mem_iff _).mp
    exact List.mem_append_right _ (List.mem_singleton_self _)

theorem size_after (steps : List Step) :
    (after steps).size = {key | ∃ bid, Survives steps bid ∧ bid.key = key}.ncard := by
  obtain ⟨trail, isTrail⟩ := exists_trail steps
  have keys : (after steps).entries.map Candidate.key = trail.map Bid.key := by
    rw [isTrail.entries, List.map_map]
    rfl
  have nodup := (isConsistent_after steps).keys_nodup
  have survivorKeys : {key | ∃ bid, Survives steps bid ∧ bid.key = key} =
      ↑((after steps).entries.map Candidate.key).toFinset := by
    ext key
    simp [keys, isTrail.mem_iff]
  rw [survivorKeys, Set.ncard_coe_finset, List.toFinset_card_of_nodup nodup, List.length_map, size]

def nominationsOf (steps : List Step) : List Nomination :=
  steps.filterMap fun step =>
    match step with
    | .add _ nomination => some nomination
    | _ => none

theorem mem_nominationsOf {steps : List Step} {nomination : Nomination} :
    nomination ∈ nominationsOf steps ↔ ∃ log, .add log nomination ∈ steps := by
  rw [nominationsOf, List.mem_filterMap]
  constructor
  · rintro ⟨step, member, found⟩
    cases step with
    | connect networkId bssid => cases found
    | add log made =>
        injection found with same
        exact ⟨log, same ▸ member⟩
    | remove candidate => cases found
  · rintro ⟨log, member⟩
    exact ⟨_, member, rfl⟩

theorem Contends.mem_nominationsOf {steps : List Step} {bid : Bid}
    (contends : Contends steps bid) : bid.nomination ∈ nominationsOf steps := by
  obtain ⟨log, made⟩ := contends.made
  exact Registry.mem_nominationsOf.mpr ⟨log, List.mem_of_getElem? made⟩

theorem exists_contends {steps : List Step} {nomination : Nomination} {key : CandidateKey}
    (noRemovals : ∀ candidate, Step.remove candidate ∉ steps)
    (member : nomination ∈ nominationsOf steps) (valid : nomination.key? = .ok key) :
    ∃ position, Contends steps ⟨position, key, nomination⟩ := by
  obtain ⟨log, stepMember⟩ := mem_nominationsOf.mp member
  obtain ⟨position, made⟩ := List.mem_iff_getElem?.mp stepMember
  refine ⟨position, ⟨log, made⟩, valid, ?_⟩
  rintro later step - found ⟨candidate, rfl, -⟩
  exact noRemovals candidate (List.mem_of_getElem? found)

def standing (candidate : Candidate) : UInt32 × Int32 :=
  (candidate.evaluatorPriority, candidate.evaluatorScore)

theorem standing_get?_of_perm {steps others : List Step}
    (noRemovals : ∀ candidate, Step.remove candidate ∉ steps)
    (noOtherRemovals : ∀ candidate, Step.remove candidate ∉ others)
    (same : (nominationsOf steps).Perm (nominationsOf others)) (key : CandidateKey) :
    ((after steps).get? key).map standing = ((after others).get? key).map standing := by
  obtain ⟨trail, isTrail⟩ := exists_trail steps
  obtain ⟨otherTrail, isOtherTrail⟩ := exists_trail others
  cases found : (after steps).get? key with
  | none =>
      cases otherFound : (after others).get? key with
      | none => rfl
      | some entry =>
          obtain ⟨bid, member, sameKey, -⟩ := isOtherTrail.exists_of_get? otherFound
          have contends := ((isOtherTrail.mem_iff bid).mp member).contends
          obtain ⟨position, mirrored⟩ := exists_contends noRemovals
            (same.symm.subset contends.mem_nominationsOf) contends.valid
          obtain ⟨holder, -, -, held⟩ := exists_survivor mirrored
          rw [sameKey, found] at held
          cases held
  | some entry =>
      obtain ⟨bid, member, rfl, rfl⟩ := isTrail.exists_of_get? found
      have survives := (isTrail.mem_iff bid).mp member
      obtain ⟨position, mirrored⟩ := exists_contends noOtherRemovals
        (same.subset survives.contends.mem_nominationsOf) survives.contends.valid
      obtain ⟨holder, holderSurvives, holderKey, held⟩ := exists_survivor mirrored
      obtain ⟨back, returned⟩ := exists_contends noRemovals
        (same.symm.subset holderSurvives.contends.mem_nominationsOf) holderSurvives.contends.valid
      have notBeaten := ((survives_iff.mp holderSurvives).2 _ mirrored holderKey.symm).1
      have notBeating := ((survives_iff.mp survives).2 _ returned holderKey).1
      rw [held, Option.map_some, Option.map_some]
      simp only [Nomination.Beats] at notBeaten notBeating
      simp only [standing, candidateAt, candidateOf_evaluatorPriority, candidateOf_evaluatorScore]
      grind

/-- A registry after any run of steps holds, for each key, the candidate of the best nomination that
contends for it; each step's answer, the size and the listing agree with that, and without removals
the order of nominations does not matter. -/
theorem after_holds_survivors (steps : List Step) :
    (∀ key, (after steps).get? key = none ↔ ∀ bid, Contends steps bid → bid.key ≠ key) ∧
    (∀ key, (∃ bid, Contends steps bid ∧ bid.key = key) →
      ∃ bid, (Survives steps bid ∧ bid.key = key) ∧
        (∀ other, Survives steps other → other.key = key → other = bid) ∧
        (after steps).get? key = some (candidateAt steps bid)) ∧
    (∀ position log nomination, steps[position]? = some (.add log nomination) →
      (((after (steps.take position)).add log nomination).1 = .ok true ↔
        ∃ key, Survives (steps.take (position + 1)) ⟨position, key, nomination⟩)) ∧
    (after steps).size = {key | ∃ bid, Survives steps bid ∧ bid.key = key}.ncard ∧
    (∃ trail : List Bid, trail.Pairwise (fun left right => left.position < right.position) ∧
      (∀ bid, bid ∈ trail ↔ Survives steps bid) ∧
      (after steps).candidates = trail.map (candidateAt steps)) ∧
    (∀ others, (∀ candidate, Step.remove candidate ∉ steps) →
      (∀ candidate, Step.remove candidate ∉ others) →
      (nominationsOf steps).Perm (nominationsOf others) → ∀ key,
        ((after steps).get? key).map standing = ((after others).get? key).map standing) := by
  refine ⟨get?_after_eq_none_iff steps, ?_, ?_, size_after steps, ?_,
    fun others noRemovals noOtherRemovals same key =>
      standing_get?_of_perm noRemovals noOtherRemovals same key⟩
  · rintro key ⟨bid, contends, rfl⟩
    obtain ⟨holder, survives, same, held⟩ := exists_survivor contends
    exact ⟨holder, ⟨survives, same⟩, fun other otherSurvives otherSame =>
      otherSurvives.unique survives (otherSame.trans same.symm), held⟩
  · intro position log nomination made
    have bound := (List.getElem?_eq_some_iff.mp made).1
    have length : (steps.take position).length = position :=
      List.length_take_of_le (Nat.le_of_lt bound)
    have next : steps.take (position + 1) = steps.take position ++ [.add log nomination] := by
      rw [List.take_add_one, made]
      rfl
    have answer := add_eq_ok_true_iff (steps.take position) log nomination
    rwa [length, ← next] at answer
  · obtain ⟨trail, isTrail⟩ := exists_trail steps
    exact ⟨trail, isTrail.ascending, isTrail.mem_iff,
      (isConsistent_after steps).candidates_eq.trans isTrail.entries⟩

end Registry

end WifiSelection
