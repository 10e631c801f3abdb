import WifiSelection.LastSelection
import WifiSelection.Proofs.Integers

/-!
Whole milliseconds of durations. They keep the order, and those of a representable duration fit into
64 bits, as do those between any two representable moments.
-/

namespace WifiSelection

namespace Duration

theorem milliseconds_mono {left right : Duration} (ordered : left.nanoseconds ≤ right.nanoseconds) :
    left.milliseconds ≤ right.milliseconds :=
  Int.tdiv_le_tdiv (by decide) ordered

theorem milliseconds_ofMilliseconds (count : Int) : (ofMilliseconds count).milliseconds = count :=
  Int.mul_tdiv_cancel count (by decide)

theorem milliseconds_nonneg {duration : Duration} (nonneg : 0 ≤ duration.nanoseconds) :
    0 ≤ duration.milliseconds :=
  Int.tdiv_nonneg nonneg (by decide)

theorem milliseconds_nonpos {duration : Duration} (nonpos : duration.nanoseconds ≤ 0) :
    duration.milliseconds ≤ 0 := by
  have none : duration.nanoseconds ≤ (ofMilliseconds 0).nanoseconds := nonpos
  exact (milliseconds_mono none).trans (milliseconds_ofMilliseconds 0).le

theorem le_milliseconds_iff {duration : Duration} {count : Int} (positive : 0 < count) :
    count ≤ duration.milliseconds ↔ count * 1000000 ≤ duration.nanoseconds := by
  constructor
  · intro whole
    by_contra short
    have nonneg : 0 ≤ duration.nanoseconds := by
      by_contra negative
      have none := milliseconds_nonpos (Int.le_of_not_le negative)
      omega
    rw [milliseconds, Int.tdiv_eq_ediv_of_nonneg nonneg] at whole
    omega
  · intro long
    have above : (ofMilliseconds count).nanoseconds ≤ duration.nanoseconds := long
    exact (milliseconds_ofMilliseconds count).ge.trans (milliseconds_mono above)

theorem milliseconds_pos_iff {duration : Duration} :
    0 < duration.milliseconds ↔ 1000000 ≤ duration.nanoseconds :=
  le_milliseconds_iff Int.one_pos

/-- Of at most as many milliseconds as 64 bits with a sign can count, in either direction. -/
def IsRepresentable (duration : Duration) : Prop :=
  -(Width.maxSigned64 : Int) * 1000000 ≤ duration.nanoseconds ∧
    duration.nanoseconds ≤ (Width.maxSigned64 : Int) * 1000000

instance (duration : Duration) : Decidable duration.IsRepresentable :=
  inferInstanceAs (Decidable (_ ∧ _))

namespace IsRepresentable

variable {duration : Duration}

theorem milliseconds_bounds (representable : duration.IsRepresentable) :
    -(Width.maxSigned64 : Int) ≤ duration.milliseconds ∧
      duration.milliseconds ≤ Width.maxSigned64 := by
  have low : (ofMilliseconds (-(Width.maxSigned64 : Int))).nanoseconds ≤ duration.nanoseconds :=
    representable.1
  have high : duration.nanoseconds ≤ (ofMilliseconds Width.maxSigned64).nanoseconds :=
    representable.2
  constructor
  · exact (milliseconds_ofMilliseconds _).ge.trans (milliseconds_mono low)
  · exact (milliseconds_mono high).trans (milliseconds_ofMilliseconds _).le

theorem gives_milliseconds (representable : duration.IsRepresentable) :
    Width.Gives (Width.int64? duration.milliseconds) duration.milliseconds := by
  have bounds := representable.milliseconds_bounds
  have limit : (Width.maxSigned64 : Int) = 2 ^ 63 - 1 := rfl
  exact Width.gives_int64? (by omega) (by omega)

end IsRepresentable

theorem ofMinutes?_eq_some_iff {minutes : Int} {duration : Duration} :
    ofMinutes? minutes = some duration ↔
      (-maxSeconds ≤ minutes * 60 ∧ minutes * 60 ≤ maxSeconds) ∧
        duration = ⟨minutes * 60 * 1000000000⟩ := by
  rw [ofMinutes?]
  split
  next inRange => rw [and_iff_right inRange, Option.some_inj, eq_comm]
  next outside => simp only [reduceCtorEq, outside, false_and]

theorem isRepresentable_of_ofMinutes? {minutes : Int} {decay : Duration}
    (lasting : ofMinutes? minutes = some decay) : decay.IsRepresentable := by
  obtain ⟨⟨low, high⟩, rfl⟩ := ofMinutes?_eq_some_iff.mp lasting
  have limit : maxSeconds = (2 ^ 63 - 1) / 1000 := rfl
  have signed : (Width.maxSigned64 : Int) = 2 ^ 63 - 1 := rfl
  rw [IsRepresentable]
  simp only
  omega

end Duration

theorem Timestamp.since_isRepresentable {now earlier : Timestamp} (nowIn : now.IsRepresentable)
    (earlierIn : earlier.IsRepresentable) : (now.since earlier).IsRepresentable := by
  obtain ⟨nowLow, nowHigh⟩ := nowIn
  obtain ⟨earlierLow, earlierHigh⟩ := earlierIn
  have limit : (Width.maxSigned64 : Int) = 2 ^ 63 - 1 := rfl
  have elapsed : (now.since earlier).nanoseconds = now.nanoseconds - earlier.nanoseconds := rfl
  rw [Duration.IsRepresentable, elapsed]
  omega

end WifiSelection
