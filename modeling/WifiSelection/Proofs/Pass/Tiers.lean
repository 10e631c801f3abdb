import Mathlib.Data.List.Basic
import Mathlib.Data.List.Induction
import WifiSelection.Nomination
import WifiSelection.Proofs.Integers
import WifiSelection.Samples

/-!
The entries at the top priority of their app. An entry is kept exactly when no entry of its app has
a higher priority, so leaving out entries that were not kept anyway keeps the same ones, and the
entries of one app make no difference to those of another.
-/

namespace WifiSelection

namespace Nomination.Suggested

theorem lookup_raise_self (app : App) (priority : Int32) (found : List (App × Int32)) :
    (raise app priority found).lookup app =
      some (((found.lookup app).map fun mark => max mark priority).getD priority) := by
  induction found with
  | nil => simp [raise]
  | cons entry tail ih =>
      obtain ⟨head, mark⟩ := entry
      rw [raise]
      by_cases same : head = app
      · simp [same]
      · have apart : (app == head) = false := beq_eq_false_iff_ne.mpr (Ne.symm same)
        rw [if_neg same, List.lookup_cons, List.lookup_cons, apart]
        exact ih

theorem lookup_raise_of_ne {app key : App} (apart : key ≠ app) (priority : Int32)
    (found : List (App × Int32)) : (raise app priority found).lookup key = found.lookup key := by
  have unequal : (key == app) = false := beq_eq_false_iff_ne.mpr apart
  induction found with
  | nil => simp [raise, List.lookup_cons, unequal]
  | cons entry tail ih =>
      obtain ⟨head, mark⟩ := entry
      rw [raise]
      split
      next same => rw [List.lookup_cons, List.lookup_cons, same, unequal]
      next => rw [List.lookup_cons, List.lookup_cons, ih]

theorem marks_concat (earlier : List (App × Int32)) (app : App) (priority : Int32) :
    marks (earlier ++ [(app, priority)]) = raise app priority (marks earlier) := by
  rw [marks, List.foldl_append]
  rfl

/-- Without a mark there is no entry of the app; otherwise the mark is the highest priority of its
entries. -/
def Marks (entries : List (App × Int32)) (app : App) : Option Int32 → Prop
  | none => ∀ priority, (app, priority) ∉ entries
  | some mark => (app, mark) ∈ entries ∧ ∀ priority, (app, priority) ∈ entries → priority ≤ mark

theorem Marks.concat_self {earlier : List (App × Int32)} {app : App} {mark : Option Int32}
    (marked : Marks earlier app mark) (priority : Int32) :
    Marks (earlier ++ [(app, priority)]) app
      (some ((mark.map fun mark => max mark priority).getD priority)) := by
  cases mark with
  | none =>
      refine ⟨List.mem_append_right _ List.mem_cons_self, fun other member => ?_⟩
      rcases List.mem_append.mp member with old | new
      · exact absurd old (marked other)
      · cases List.mem_singleton.mp new
        exact Int32.le_refl _
  | some mark =>
      obtain ⟨attained, bound⟩ := marked
      rw [Option.map_some, Option.getD_some]
      constructor
      · rcases max_eq_or mark priority with same | same
        · rw [same]
          exact List.mem_append_left _ attained
        · rw [same]
          exact List.mem_append_right _ List.mem_cons_self
      · intro other member
        rw [Int32.le_iff_toInt_le, toInt_max]
        rcases List.mem_append.mp member with old | new
        · have below := Int32.le_iff_toInt_le.mp (bound other old)
          omega
        · cases List.mem_singleton.mp new
          omega

theorem Marks.concat_of_ne {earlier : List (App × Int32)} {app other : App} {mark : Option Int32}
    (marked : Marks earlier app mark) (apart : app ≠ other) (priority : Int32) :
    Marks (earlier ++ [(other, priority)]) app mark := by
  have unchanged : ∀ found, (app, found) ∈ earlier ++ [(other, priority)] ↔
      (app, found) ∈ earlier := by
    simp [apart]
  cases mark with
  | none => exact fun found member => marked found ((unchanged found).mp member)
  | some mark =>
      obtain ⟨attained, bound⟩ := marked
      exact ⟨(unchanged mark).mpr attained,
        fun found member => bound found ((unchanged found).mp member)⟩

theorem lookup_marks (entries : List (App × Int32)) (app : App) :
    Marks entries app ((marks entries).lookup app) := by
  induction entries using List.reverseRecOn with
  | nil => exact fun _ => List.not_mem_nil
  | append_singleton earlier last ih =>
      obtain ⟨lastApp, lastPriority⟩ := last
      rw [marks_concat]
      by_cases same : app = lastApp
      · subst same
        rw [lookup_raise_self]
        exact ih.concat_self lastPriority
      · rw [lookup_raise_of_ne same]
        exact ih.concat_of_ne same lastPriority

section Top

variable {rank : α → App × Int32} {entries : List α} {entry : α}

/-- No entry of the same app has a higher priority. -/
def IsTop (rank : α → App × Int32) (entries : List α) (entry : α) : Prop :=
  ∀ other ∈ entries, (rank other).1 = (rank entry).1 → (rank other).2 ≤ (rank entry).2

instance (rank : α → App × Int32) (entries : List α) : DecidablePred (IsTop rank entries) :=
  fun entry => inferInstanceAs (Decidable (∀ other ∈ entries,
    (rank other).1 = (rank entry).1 → (rank other).2 ≤ (rank entry).2))

theorem lookup_marks_of_mem (rank : α → App × Int32) (member : entry ∈ entries) :
    ∃ top ∈ entries, (rank top).1 = (rank entry).1 ∧ IsTop rank entries top ∧
      (marks (entries.map rank)).lookup (rank entry).1 = some (rank top).2 := by
  have marked := lookup_marks (entries.map rank) (rank entry).1
  cases found : (marks (entries.map rank)).lookup (rank entry).1 with
  | none =>
      rw [found] at marked
      exact absurd (List.mem_map_of_mem member) (marked (rank entry).2)
  | some mark =>
      rw [found] at marked
      obtain ⟨top, topMember, topRank⟩ := List.mem_map.mp marked.1
      refine ⟨top, topMember, by rw [topRank], ?_, by rw [topRank]⟩
      intro other otherMember sameApp
      rw [topRank] at sameApp ⊢
      apply marked.2
      rw [← sameApp]
      exact List.mem_map_of_mem otherMember

theorem exists_isTop (rank : α → App × Int32) (member : entry ∈ entries) :
    ∃ top ∈ entries, (rank top).1 = (rank entry).1 ∧ IsTop rank entries top := by
  obtain ⟨top, topMember, sameApp, isTop, -⟩ := lookup_marks_of_mem rank member
  exact ⟨top, topMember, sameApp, isTop⟩

theorem lookup_marks_eq_iff (member : entry ∈ entries) :
    (marks (entries.map rank)).lookup (rank entry).1 = some (rank entry).2 ↔
      IsTop rank entries entry := by
  obtain ⟨top, topMember, sameApp, isTop, found⟩ := lookup_marks_of_mem rank member
  rw [found, Option.some.injEq]
  constructor
  · intro samePriority other otherMember otherApp
    rw [← samePriority]
    exact isTop other otherMember (otherApp.trans sameApp.symm)
  · intro entryTop
    exact Int32.le_antisymm (entryTop top topMember sameApp) (isTop entry member sameApp.symm)

theorem topPerApp_eq_filter (rank : α → App × Int32) (entries : List α) :
    topPerApp rank entries = entries.filter fun entry => IsTop rank entries entry := by
  apply List.filter_congr
  intro entry member
  exact decide_eq_decide.mpr (lookup_marks_eq_iff member)

theorem mem_topPerApp : entry ∈ topPerApp rank entries ↔
    entry ∈ entries ∧ IsTop rank entries entry := by
  rw [topPerApp_eq_filter, List.mem_filter, decide_eq_true_eq]

theorem topPerApp_filter (keep : α → Bool)
    (tops : ∀ entry ∈ topPerApp rank entries, keep entry = true) :
    topPerApp rank (entries.filter keep) = topPerApp rank entries := by
  rw [topPerApp_eq_filter, topPerApp_eq_filter, List.filter_filter]
  apply List.filter_congr
  intro entry member
  rw [Bool.eq_iff_iff, Bool.and_eq_true, decide_eq_true_eq, decide_eq_true_eq]
  constructor
  · rintro ⟨keptTop, kept⟩ other otherMember sameApp
    obtain ⟨top, topMember, topApp, isTop⟩ := exists_isTop rank member
    have topKept := tops top (mem_topPerApp.mpr ⟨topMember, isTop⟩)
    have below := keptTop top (List.mem_filter.mpr ⟨topMember, topKept⟩) topApp
    exact Int32.le_trans (isTop other otherMember (sameApp.trans topApp.symm)) below
  · intro isTop
    refine ⟨fun other otherMember => isTop other (List.mem_filter.mp otherMember).1, ?_⟩
    exact tops entry (mem_topPerApp.mpr ⟨member, isTop⟩)

theorem isTop_congr {others : List α} (same : ∀ entry, entry ∈ entries ↔ entry ∈ others) :
    IsTop rank entries entry ↔ IsTop rank others entry :=
  ⟨fun isTop other member => isTop other ((same other).mpr member),
    fun isTop other member => isTop other ((same other).mp member)⟩

theorem topPerApp_topPerApp (rank : α → App × Int32) (entries : List α) :
    topPerApp rank (topPerApp rank entries) = topPerApp rank entries := by
  have kept : topPerApp rank (entries.filter fun entry => IsTop rank entries entry) =
      topPerApp rank entries :=
    topPerApp_filter _ fun entry member => decide_eq_true (mem_topPerApp.mp member).2
  rwa [← topPerApp_eq_filter] at kept

theorem isTop_filter_app_iff {app : App} (ofApp : (rank entry).1 = app) :
    IsTop rank (entries.filter fun entry => (rank entry).1 = app) entry ↔
      IsTop rank entries entry := by
  constructor
  · intro isTop other member sameApp
    have kept : other ∈ entries.filter fun entry => (rank entry).1 = app :=
      List.mem_filter.mpr ⟨member, decide_eq_true (sameApp.trans ofApp)⟩
    exact isTop other kept sameApp
  · intro isTop other member
    exact isTop other (List.mem_filter.mp member).1

theorem filter_topPerApp (rank : α → App × Int32) (entries : List α) (app : App) :
    (topPerApp rank entries).filter (fun entry => (rank entry).1 = app) =
      topPerApp rank (entries.filter fun entry => (rank entry).1 = app) := by
  rw [topPerApp_eq_filter, topPerApp_eq_filter, List.filter_comm]
  apply List.filter_congr
  intro entry member
  have ofApp := of_decide_eq_true (List.mem_filter.mp member).2
  exact decide_eq_decide.mpr (isTop_filter_app_iff ofApp).symm

end Top

/-- Of the suggestions that scans offer, exactly those are kept, in their order, that no suggestion
of the same app exceeds in priority. Keeping them again changes nothing, every app keeps one, and
what is kept of an app depends on that app's own suggestions alone. -/
theorem topPerApp_keeps_tops (found : List SuggestionMatch) :
    let top := topPerApp fun offer : SuggestionMatch => (offer.app, offer.priority)
    top found = found.filter (fun offer => ∀ other ∈ found, other.app = offer.app →
        other.priority ≤ offer.priority) ∧
      top (top found) = top found ∧
      (∀ offer ∈ found, ∃ kept ∈ top found, kept.app = offer.app) ∧
      ∀ app : App, (top found).filter (fun offer => offer.app = app) =
          top (found.filter fun offer => offer.app = app) ∧
        ∀ others : List SuggestionMatch,
          others.filter (fun offer => offer.app = app) =
              found.filter (fun offer => offer.app = app) →
            (top others).filter (fun offer => offer.app = app) =
              (top found).filter (fun offer => offer.app = app) := by
  intro top
  have alone : ∀ (offers : List SuggestionMatch) (app : App),
      (top offers).filter (fun offer => offer.app = app) =
        top (offers.filter fun offer => offer.app = app) := fun offers app =>
    filter_topPerApp (fun offer : SuggestionMatch => (offer.app, offer.priority)) offers app
  refine ⟨topPerApp_eq_filter _ found, topPerApp_topPerApp _ found, ?_, ?_⟩
  · intro offer member
    obtain ⟨kept, listed, sameApp, isTop⟩ :=
      exists_isTop (fun offer : SuggestionMatch => (offer.app, offer.priority)) member
    exact ⟨kept, mem_topPerApp.mpr ⟨listed, isTop⟩, sameApp⟩
  · intro app
    refine ⟨alone found app, fun others same => ?_⟩
    rw [alone, alone, same]

def sharedUserOffers (priorities : List (String × Int32)) : List SuggestionMatch :=
  priorities.map fun (package, priority) =>
    { scan := Samples.scan "cafe" "00:00:00:00:00:01" .unsecured
      app := ⟨10001, package⟩
      priority := priority
      network := Samples.network Network.noId "cafe" .unsecured
      passpoint := none }

theorem topPerApp_keeps_tops_shared_user :
    let top := topPerApp fun offer : SuggestionMatch => (offer.app, offer.priority)
    let found := sharedUserOffers [("mail", -5), ("maps", 7), ("mail", -3), ("mail", -3)]
    let others := sharedUserOffers [("mail", -5), ("mail", -3), ("maps", -9), ("mail", -3)]
    let mail : App := ⟨10001, "mail"⟩
    others.filter (fun offer => offer.app = mail) = found.filter (fun offer => offer.app = mail) ∧
      (top others).filter (fun offer => offer.app = mail) =
        (top found).filter (fun offer => offer.app = mail) ∧
      top found = sharedUserOffers [("maps", 7), ("mail", -3), ("mail", -3)] := by
  intro top found others mail
  have same : others.filter (fun offer => offer.app = mail) =
      found.filter (fun offer => offer.app = mail) := by decide
  obtain ⟨kept, -, -, alone⟩ := topPerApp_keeps_tops found
  refine ⟨same, (alone mail).2 others same, kept.trans ?_⟩
  decide

end Nomination.Suggested

end WifiSelection
