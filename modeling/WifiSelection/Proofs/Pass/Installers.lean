import WifiSelection.Proofs.Pass.Matching

/-!
How the matches of scans are shared out. Matches at home come first and scan order is kept within
each kind, as a stable sort by kind would have it. Each match falls to who installed its provider:
to the user's own nomination or to the one of suggestions, never to both and never to neither.
-/

namespace WifiSelection

namespace ProviderMatch

variable {matcher : Scan → Option (Provider × PasspointKind)} {installer : Installer}
  {scans : List Scan}

def offer? (matcher : Scan → Option (Provider × PasspointKind)) (scan : Scan) :
    Option ProviderMatch :=
  if scan.interworking then
    (matcher scan).map fun (provider, kind) => ⟨scan, provider, kind⟩
  else
    none

def mayPrecede (left right : ProviderMatch) : Bool :=
  left.kind = .home || right.kind = .roaming

theorem ofScan?_eq (matcher : Scan → Option (Provider × PasspointKind)) (installer : Installer)
    (scan : Scan) : ofScan? matcher installer scan =
      (offer? matcher scan).filter fun offer => installer.installed offer.provider := by
  rw [ofScan?, offer?]
  cases scan.interworking with
  | false => rfl
  | true => cases matcher scan <;> rfl

theorem filterMap_ofScan? (matcher : Scan → Option (Provider × PasspointKind))
    (installer : Installer) (scans : List Scan) :
    scans.filterMap (ofScan? matcher installer) =
      (scans.filterMap (offer? matcher)).filter fun offer =>
        installer.installed offer.provider := by
  rw [List.filter_filterMap]
  exact List.filterMap_congr fun scan _ => ofScan?_eq matcher installer scan

theorem eq_home_append_roaming {sorted : List ProviderMatch}
    (ordered : sorted.Pairwise fun earlier later => mayPrecede earlier later = true) :
    sorted = sorted.filter (fun found => found.kind = .home) ++
      sorted.filter (fun found => found.kind = .roaming) := by
  induction ordered with
  | nil => rfl
  | @cons head tail first _ ih =>
      cases kind : head.kind with
      | home => simpa [kind] using ih
      | roaming =>
          have allRoaming : ∀ found ∈ tail, found.kind = .roaming := by
            intro found member
            have later := first found member
            simpa [mayPrecede, kind] using later
          have noneHome : tail.filter (fun found => found.kind = .home) = [] := by
            rw [List.filter_eq_nil_iff]
            intro found member
            simp [allRoaming found member]
          rw [noneHome, List.nil_append] at ih
          simp only [List.filter_cons, kind, reduceCtorEq, decide_false, decide_true, if_true,
            noneHome]
          simp [← ih]

theorem mayPrecede_of_kind_eq {left right : ProviderMatch} (same : left.kind = right.kind) :
    mayPrecede left right = true := by
  rw [mayPrecede, same]
  cases right.kind <;> rfl

theorem mayPrecede_trans (left middle right : ProviderMatch)
    (first : mayPrecede left middle = true) (second : mayPrecede middle right = true) :
    mayPrecede left right = true := by
  rw [mayPrecede] at first second ⊢
  cases kind : middle.kind <;> simp_all

theorem mayPrecede_total (left right : ProviderMatch) :
    (mayPrecede left right || mayPrecede right left) = true := by
  rw [mayPrecede, mayPrecede]
  cases left.kind <;> cases right.kind <;> rfl

theorem filter_kind_mergeSort (found : List ProviderMatch) (kind : PasspointKind) :
    (found.mergeSort mayPrecede).filter (fun offer => offer.kind = kind) =
      found.filter fun offer => offer.kind = kind := by
  have alike : (found.filter fun offer => offer.kind = kind).Pairwise fun earlier later =>
      mayPrecede earlier later = true := by
    refine List.Pairwise.imp_of_mem ?_ (List.pairwise_of_forall fun _ _ => trivial)
    intro earlier later earlierMember laterMember _
    have earlierKind := of_decide_eq_true (List.mem_filter.mp earlierMember).2
    have laterKind := of_decide_eq_true (List.mem_filter.mp laterMember).2
    exact mayPrecede_of_kind_eq (earlierKind.trans laterKind.symm)
  have kept := (List.sublist_mergeSort mayPrecede_trans mayPrecede_total alike
    List.filter_sublist).filter fun offer => offer.kind = kind
  simp only [List.filter_filter, Bool.and_self] at kept
  have lengths := ((List.mergeSort_perm found mayPrecede).filter
    fun offer => offer.kind = kind).length_eq
  exact (kept.eq_of_length lengths.symm).symm

theorem ofScans_eq_mergeSort (matcher : Scan → Option (Provider × PasspointKind))
    (installer : Installer) (scans : List Scan) : ofScans matcher installer scans =
      (scans.filterMap (ofScan? matcher installer)).mergeSort mayPrecede := by
  have ordered := List.pairwise_mergeSort mayPrecede_trans mayPrecede_total
    (scans.filterMap (ofScan? matcher installer))
  rw [eq_home_append_roaming ordered, filter_kind_mergeSort, filter_kind_mergeSort]
  rfl

theorem ofScans_perm (matcher : Scan → Option (Provider × PasspointKind)) (installer : Installer)
    (scans : List Scan) :
    (ofScans matcher installer scans).Perm ((scans.filterMap (offer? matcher)).filter fun offer =>
      installer.installed offer.provider) := by
  rw [ofScans_eq_mergeSort, filterMap_ofScan?]
  exact List.mergeSort_perm _ _

theorem ofScans_pairwise (matcher : Scan → Option (Provider × PasspointKind))
    (installer : Installer) (scans : List Scan) :
    (ofScans matcher installer scans).Pairwise fun earlier later =>
      mayPrecede earlier later = true := by
  rw [ofScans_eq_mergeSort]
  exact List.pairwise_mergeSort mayPrecede_trans mayPrecede_total _

theorem filter_kind_ofScans (matcher : Scan → Option (Provider × PasspointKind))
    (installer : Installer) (scans : List Scan) (kind : PasspointKind) :
    (ofScans matcher installer scans).filter (fun found => found.kind = kind) =
      scans.filterMap fun scan => (offer? matcher scan).filter fun offer =>
        installer.installed offer.provider && offer.kind = kind := by
  rw [ofScans_eq_mergeSort, filter_kind_mergeSort, filterMap_ofScan?, List.filter_filter,
    List.filter_filterMap]
  simp only [Bool.and_comm]

theorem map_scan_offers (matcher : Scan → Option (Provider × PasspointKind)) (scans : List Scan) :
    (scans.filterMap (offer? matcher)).map ProviderMatch.scan =
      scans.filter fun scan => scan.interworking && (matcher scan).isSome := by
  rw [List.map_filterMap, ← List.filterMap_eq_filter]
  refine List.filterMap_congr fun scan _ => ?_
  rw [offer?, Option.guard]
  cases scan.interworking with
  | false => rfl
  | true => cases matcher scan <;> rfl

theorem ofScans_append_perm (matcher : Scan → Option (Provider × PasspointKind))
    (scans : List Scan) : (ofScans matcher .user scans ++ ofScans matcher .app scans).Perm
      (scans.filterMap (offer? matcher)) := by
  refine ((ofScans_perm matcher .user scans).append (ofScans_perm matcher .app scans)).trans ?_
  have parted := List.filter_append_perm
    (fun offer : ProviderMatch => Installer.installed .user offer.provider)
    (scans.filterMap (offer? matcher))
  simpa [Installer.installed] using parted

theorem installed_of_mem_ofScans {found : ProviderMatch}
    (member : found ∈ ofScans matcher installer scans) :
    installer.installed found.provider = true := by
  obtain ⟨scan, -, offered⟩ := mem_ofScans.mp member
  exact (ofScan?_eq_some_iff.mp offered).2.1

theorem scan_ne_of_mem_ofScans {own suggested : ProviderMatch}
    (ownMember : own ∈ ofScans matcher .user scans)
    (suggestedMember : suggested ∈ ofScans matcher .app scans) : own.scan ≠ suggested.scan := by
  intro same
  have ownMatched := matched_of_mem_ofScans ownMember
  rw [same, matched_of_mem_ofScans suggestedMember] at ownMatched
  obtain ⟨sameProvider, -⟩ := Prod.mk.inj (Option.some.inj ownMatched)
  have byUser := installed_of_mem_ofScans ownMember
  have byApp := installed_of_mem_ofScans suggestedMember
  rw [sameProvider] at byApp
  simp_all [Installer.installed]

end ProviderMatch

namespace Nomination.Suggested

open ProviderMatch (ofScans)

variable {device : DeviceState} {sources : Sources} {scans : List Scan}

theorem exists_offer_of_mem_passpointMatches {found : SuggestionMatch}
    (member : found ∈ passpointMatches device sources scans) :
    ∃ offer ∈ ofScans sources.providers.match? .app scans, offer.scan = found.scan := by
  obtain ⟨offer, offered, made⟩ := List.mem_flatMap.mp member
  obtain ⟨suggestion, -, rfl⟩ := List.mem_map.mp made
  exact ⟨offer, offered, rfl⟩

theorem exists_match_of_admissible {offer : ProviderMatch} {suggestion : Suggestion}
    (offered : offer ∈ ofScans sources.providers.match? .app scans)
    (listed : suggestion ∈ forProvider sources.suggestions offer.provider.fqdn)
    (admissible : isAdmissible device sources.store suggestion = true) :
    ∃ found ∈ passpointMatches device sources scans, found.scan = offer.scan ∧
      found.app = suggestion.app ∧ found.passpoint = some offer.kind := by
  refine ⟨_, List.mem_flatMap.mpr ⟨offer, offered, List.mem_map_of_mem ?_⟩, rfl, rfl, rfl⟩
  exact List.mem_filter.mpr ⟨listed, admissible⟩

end Nomination.Suggested

namespace ProviderMatch

open Nomination.Suggested

/-- The matches of an installer are a stable sort of the matches that scans have with its providers:
those at home come first, and of each kind there are exactly the matches that interworking scans
have, once for each scan in the list and in its order. Both installers together have every matched
scan once, and no scan is matched for both. So no scan is nominated from a provider of the user as
well as from a suggested one, and a matched scan that is not nominated from the former is
nominated for every admissible suggestion of its provider. -/
theorem ofScans_share_out (matcher : Scan → Option (Provider × PasspointKind))
    (scans : List Scan) :
    (∀ installer : Installer,
      ofScans matcher installer scans =
          (scans.filterMap (ofScan? matcher installer)).mergeSort mayPrecede ∧
        (ofScans matcher installer scans).Pairwise (fun earlier later =>
          earlier.kind = .home ∨ later.kind = .roaming) ∧
        ∀ kind : PasspointKind,
          (ofScans matcher installer scans).filter (fun found => found.kind = kind) =
            scans.filterMap fun scan => (offer? matcher scan).filter fun offer =>
              installer.installed offer.provider && offer.kind = kind) ∧
      ((ofScans matcher .user scans ++ ofScans matcher .app scans).map ProviderMatch.scan).Perm
        (scans.filter fun scan => scan.interworking && (matcher scan).isSome) ∧
      (∀ own ∈ ofScans matcher .user scans, ∀ suggested ∈ ofScans matcher .app scans,
        own.scan ≠ suggested.scan) ∧
      ∀ (device : DeviceState) (sources : Sources),
        let own := ofScans sources.providers.match? .user scans
        let suggested := passpointMatches device sources scans
        (∀ offer ∈ own, ∀ found ∈ suggested, offer.scan ≠ found.scan) ∧
          ∀ offer ∈ scans.filterMap (offer? sources.providers.match?), offer ∈ own ∨
            ∀ suggestion ∈ forProvider sources.suggestions offer.provider.fqdn,
              isAdmissible device sources.store suggestion = true →
                ∃ found ∈ suggested, found.scan = offer.scan ∧ found.app = suggestion.app ∧
                  found.passpoint = some offer.kind := by
  refine ⟨fun installer => ⟨ofScans_eq_mergeSort matcher installer scans, ?_,
    filter_kind_ofScans matcher installer scans⟩, ?_,
    fun own ownMember suggested => scan_ne_of_mem_ofScans ownMember, fun device sources => ⟨?_, ?_⟩⟩
  · refine (ofScans_pairwise matcher installer scans).imp fun ordered => ?_
    simpa [mayPrecede] using ordered
  · rw [← map_scan_offers]
    exact (ofScans_append_perm matcher scans).map _
  · intro offer offered found member
    obtain ⟨other, otherOffered, same⟩ := exists_offer_of_mem_passpointMatches member
    rw [← same]
    exact scan_ne_of_mem_ofScans offered otherOffered
  · intro offer matched
    have shared := (ofScans_append_perm sources.providers.match? scans).mem_iff.mpr matched
    rcases List.mem_append.mp shared with own | suggested
    · exact Or.inl own
    · exact Or.inr fun suggestion listed admissible =>
        exists_match_of_admissible suggested listed admissible

end ProviderMatch

end WifiSelection
