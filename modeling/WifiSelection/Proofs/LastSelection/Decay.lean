import Mathlib.Tactic.Linarith
import Mathlib.Tactic.NormNum
import Mathlib.Tactic.Positivity
import WifiSelection.Proofs.LastSelection.Units

/-!
The weight of the last selection is a proper decay. In exact numbers it falls from one to zero over
the decay time, and so do the doubles, which stay close to the exact weights. Only a decay time of
less than a millisecond has no such weight: it is more than zero, and yet the rule divides by zero.
-/

namespace WifiSelection

namespace LastSelection

open Binary64

/-- The weight left after some time, computed over exact numbers. There is none where the rule
divides by zero. -/
def exactWeight? (elapsed decay : Duration) : Option ℚ :=
  if decay.nanoseconds ≤ 0 then
    some 0
  else if decay.milliseconds = 0 then
    none
  else
    some (max 0 (min 1 (1 - (max elapsed.milliseconds 0 : Int) / (decay.milliseconds : Int))))

/-- A weight falls from one to zero over a decay time. Without a decay time it is zero. -/
structure FallsOver (decay : Duration) (weight : Duration → ℚ) : Prop where
  nonneg : ∀ elapsed, 0 ≤ weight elapsed
  le_one : ∀ elapsed, weight elapsed ≤ 1
  without_decay : decay.nanoseconds ≤ 0 → ∀ elapsed, weight elapsed = 0
  at_start : 0 < decay.nanoseconds → ∀ elapsed, elapsed.nanoseconds ≤ 0 → weight elapsed = 1
  at_end : 0 < decay.nanoseconds → ∀ elapsed, decay.nanoseconds ≤ elapsed.nanoseconds →
    weight elapsed = 0
  falls : ∀ earlier later, earlier.nanoseconds ≤ later.nanoseconds →
    weight later ≤ weight earlier

namespace FallsOver

variable {decay : Duration}

theorem of_nonpos (nonpos : decay.nanoseconds ≤ 0) : FallsOver decay fun _ => 0 where
  nonneg _ := le_rfl
  le_one _ := zero_le_one
  without_decay _ _ := rfl
  at_start lasting := absurd nonpos (Int.not_le.mpr lasting)
  at_end _ _ _ := rfl
  falls _ _ _ := le_rfl

theorem of_milliseconds (left : Nat → ℚ) {milliseconds : Nat} (start : left 0 = 1)
    (finish : ∀ passed, milliseconds ≤ passed → left passed = 0) (antitone : Antitone left)
    (whole : decay.milliseconds = milliseconds) (positive : 0 < milliseconds) :
    FallsOver decay fun elapsed => left elapsed.milliseconds.toNat where
  nonneg elapsed := by
    have final := finish (max elapsed.milliseconds.toNat milliseconds) (Nat.le_max_right _ _)
    exact final.ge.trans (antitone (Nat.le_max_left _ _))
  le_one elapsed := (antitone (Nat.zero_le _)).trans start.le
  without_decay nonpos := by
    have nothing := Duration.milliseconds_nonpos nonpos
    omega
  at_start _ elapsed early := by
    rw [Int.toNat_of_nonpos (Duration.milliseconds_nonpos early), start]
  at_end _ elapsed late := by
    have passed := Duration.milliseconds_mono late
    exact finish _ (by omega)
  falls earlier later ordered :=
    antitone (Int.toNat_le_toNat (Duration.milliseconds_mono ordered))

end FallsOver

def leftShare (decay passed : Nat) : ℚ :=
  max 0 (min 1 (1 - passed / decay))

section Shares

variable {decay passed : Nat}

theorem leftShare_zero (decay : Nat) : leftShare decay 0 = 1 := by
  simp [leftShare]

theorem leftShare_antitone (decay : Nat) : Antitone (leftShare decay) := by
  intro earlier later ordered
  have share : (earlier / decay : ℚ) ≤ later / decay :=
    div_le_div_of_nonneg_right (Nat.cast_le.mpr ordered) (Nat.cast_nonneg decay)
  exact max_le_max_left 0 (min_le_min_left 1 (sub_le_sub_left share 1))

theorem leftShare_of_ended (positive : 0 < decay) (ended : decay ≤ passed) :
    leftShare decay passed = 0 := by
  have unit : (0 : ℚ) < decay := Nat.cast_pos.mpr positive
  have share : (1 : ℚ) ≤ passed / decay := (one_le_div unit).mpr (Nat.cast_le.mpr ended)
  rw [leftShare, max_eq_left]
  exact (min_le_right _ _).trans (sub_nonpos.mpr share)

theorem leftShare_of_within (positive : 0 < decay) (within : passed ≤ decay) :
    leftShare decay passed = ((decay - passed : Int) : ℚ) / decay := by
  have unit : (0 : ℚ) < decay := Nat.cast_pos.mpr positive
  have nonneg : (0 : ℚ) ≤ passed / decay := by positivity
  have share : (passed / decay : ℚ) ≤ 1 := (div_le_one unit).mpr (Nat.cast_le.mpr within)
  rw [leftShare, min_eq_right (by linarith), max_eq_right (by linarith)]
  push_cast
  rw [sub_div, div_self unit.ne']

theorem toRational_leftUnits_zero (decay : Nat) :
    (finite false (leftUnits 0 decay)).toRational = 1 := by
  have one : (unitsPerOne : ℚ) ≠ 0 := Nat.cast_ne_zero.mpr unitsPerOne_pos.ne'
  rw [leftUnits_zero]
  exact div_self one

theorem toRational_leftUnits_of_ended (positive : 0 < decay) (ended : decay ≤ passed) :
    (finite false (leftUnits passed decay)).toRational = 0 := by
  rw [leftUnits_of_ended positive ended]
  exact zero_div _

theorem toRational_leftUnits_antitone (positive : 0 < decay) :
    Antitone fun passed => (finite false (leftUnits passed decay)).toRational := by
  intro earlier later ordered
  have units := leftUnits_antitone positive ordered
  exact div_le_div_of_nonneg_right (Int.cast_le.mpr (Int.ofNat_le.mpr units))
    (Nat.cast_nonneg unitsPerOne)

theorem weightMargin_div : (weightMargin / (2 * unitsPerOne) : ℚ) = 1 / 2 ^ 50 := by
  have one : (0 : ℚ) < unitsPerOne := Nat.cast_pos.mpr unitsPerOne_pos
  have units : (2 ^ 53 * weightMargin : ℚ) = 16 * unitsPerOne := by
    exact_mod_cast weightMargin_eq
  rw [div_eq_div_iff (mul_pos two_pos one).ne' (by positivity)]
  linear_combination units / 8

theorem toRational_leftUnits_near (positive : 0 < decay) (small : decay < powerOfTwo 100) :
    |(finite false (leftUnits passed decay)).toRational - leftShare decay passed| ≤
      1 / 2 ^ 50 := by
  rcases Nat.le_total passed decay with within | ended
  · have close := (leftUnits_approximates positive small within).abs_sub_le positive
    rw [leftShare_of_within positive within]
    exact close.trans weightMargin_div.le
  · rw [toRational_leftUnits_of_ended positive ended, leftShare_of_ended positive ended, sub_zero,
      abs_zero]
    positivity

end Shares

variable {elapsed decay : Duration}

theorem leftShare_fallsOver {milliseconds : Nat} (whole : decay.milliseconds = milliseconds)
    (positive : 0 < milliseconds) :
    FallsOver decay fun elapsed => leftShare milliseconds elapsed.milliseconds.toNat :=
  .of_milliseconds _ (leftShare_zero milliseconds)
    (fun _ ended => leftShare_of_ended positive ended) (leftShare_antitone milliseconds) whole
    positive

theorem leftUnits_fallsOver {milliseconds : Nat} (whole : decay.milliseconds = milliseconds)
    (positive : 0 < milliseconds) : FallsOver decay fun elapsed =>
      (finite false (leftUnits elapsed.milliseconds.toNat milliseconds)).toRational :=
  .of_milliseconds (fun passed => (finite false (leftUnits passed milliseconds)).toRational)
    (toRational_leftUnits_zero milliseconds)
    (fun _ ended => toRational_leftUnits_of_ended positive ended)
    (toRational_leftUnits_antitone positive) whole positive

theorem exactWeight?_eq {milliseconds : Nat} (whole : decay.milliseconds = milliseconds)
    (positive : 0 < milliseconds) :
    exactWeight? elapsed decay = some (leftShare milliseconds elapsed.milliseconds.toNat) := by
  have lasting : ¬decay.nanoseconds ≤ 0 := by
    have long := Duration.milliseconds_pos_iff.mp (whole ▸ Int.natCast_pos.mpr positive)
    omega
  rw [exactWeight?, if_neg lasting, if_neg (by omega), ← Int.ofNat_toNat, whole, leftShare,
    Int.cast_natCast, Int.cast_natCast]

theorem decayedWeight_of_momentary (elapsed : Duration) (none : decay.milliseconds = 0)
    (lasting : 0 < decay.nanoseconds) :
    decayedWeight elapsed decay = if elapsed.nanoseconds < 1000000 then nan else zero := by
  have nothing : ofInt 0 = finite false 0 := by decide +kernel
  rw [decayedWeight, if_neg (Int.not_le.mpr lasting), none, ← Int.ofNat_toNat,
    ofInt_eq_convertedUnits]
  change (one - div _ _).clamp zero one = _
  split
  next early =>
    have passed : elapsed.milliseconds ≤ 0 :=
      Int.not_lt.mp (mt Duration.milliseconds_pos_iff.mp (Int.not_le.mpr early))
    rw [Int.toNat_of_nonpos passed]
    decide +kernel
  next late =>
    have passed : 0 < elapsed.milliseconds := Duration.milliseconds_pos_iff.mpr (Int.not_lt.mp late)
    have positive := convertedUnits_pos (Int.pos_iff_toNat_pos.mp passed)
    have quotient : div (ofUnits false (convertedUnits elapsed.milliseconds.toNat)) (ofInt 0) =
        infinite false := by
      rw [nothing, ofUnits]
      split
      · rw [div, if_pos rfl, if_neg positive.ne']
        rfl
      · rfl
    rw [quotient, clamp_one_sub_infinite]

/-- Without a decay time, or with one of a millisecond or more, the rule never divides by zero. The
exact weight falls from one to zero over the decay time; and so does the double, which is a plain
number within `2⁻⁵⁰` of the exact weight. With a shorter decay time the rule always divides by zero,
and what it gives is no number until a millisecond has passed. -/
theorem weight_falls_over (decay : Duration) (representable : decay.IsRepresentable) :
    (decay.nanoseconds ≤ 0 ∨ 1000000 ≤ decay.nanoseconds →
      (∃ weight, (∀ elapsed, exactWeight? elapsed decay = some (weight elapsed)) ∧
        FallsOver decay weight ∧
        ∀ elapsed, |(decayedWeight elapsed decay).toRational - weight elapsed| ≤ 1 / 2 ^ 50) ∧
      (∀ elapsed, (decayedWeight elapsed decay).IsPlain) ∧
      FallsOver decay fun elapsed => (decayedWeight elapsed decay).toRational) ∧
    (0 < decay.nanoseconds → decay.nanoseconds < 1000000 → ∀ elapsed,
      exactWeight? elapsed decay = none ∧
        decayedWeight elapsed decay = if elapsed.nanoseconds < 1000000 then nan else zero) := by
  refine ⟨?_, ?_⟩
  · rintro (nonpos | long)
    · have doubles : ∀ elapsed, decayedWeight elapsed decay = zero := fun _ => if_pos nonpos
      have nothing : zero.toRational = 0 := zero_div _
      simp only [doubles, nothing]
      refine ⟨⟨fun _ => 0, fun _ => if_pos nonpos, .of_nonpos nonpos, fun _ => ?_⟩, fun _ => ?_,
        .of_nonpos nonpos⟩
      · rw [sub_zero, abs_zero]
        positivity
      · exact .finite nofun
    · have whole := Duration.milliseconds_pos_iff.mpr long
      obtain ⟨milliseconds, count⟩ := Int.eq_ofNat_of_zero_le whole.le
      have positive : 0 < milliseconds := by omega
      have small : milliseconds < powerOfTwo 100 := by
        have bounds := representable.milliseconds_bounds
        have limit : Width.maxSigned64 < powerOfTwo 100 := by decide
        omega
      have doubles : ∀ elapsed, decayedWeight elapsed decay =
          finite false (leftUnits elapsed.milliseconds.toNat milliseconds) :=
        fun _ => decayedWeight_eq count positive small
      simp only [doubles]
      refine ⟨⟨fun elapsed => leftShare milliseconds elapsed.milliseconds.toNat,
        fun _ => exactWeight?_eq count positive, leftShare_fallsOver count positive,
        fun _ => toRational_leftUnits_near positive small⟩, fun _ => .finite nofun,
        leftUnits_fallsOver count positive⟩
  · intro lasting short elapsed
    have none : decay.milliseconds = 0 := by
      have nonneg := Duration.milliseconds_nonneg lasting.le
      have whole := mt Duration.milliseconds_pos_iff.mp (Int.not_le.mpr short)
      omega
    refine ⟨?_, decayedWeight_of_momentary elapsed none lasting⟩
    rw [exactWeight?, if_neg (Int.not_le.mpr lasting), if_pos none]

theorem weight_falls_over_sample :
    Duration.IsRepresentable ⟨3999999⟩ ∧ exactWeight? ⟨1999999⟩ ⟨3999999⟩ = some (2 / 3) ∧
      |(decayedWeight ⟨1999999⟩ ⟨3999999⟩).toRational - 2 / 3| ≤ 1 / 2 ^ 50 := by
  have representable : Duration.IsRepresentable ⟨3999999⟩ := by decide
  have exact : exactWeight? ⟨1999999⟩ ⟨3999999⟩ = some (2 / 3) := by
    have left : leftShare 3 1 = 2 / 3 := by norm_num [leftShare]
    exact (exactWeight?_eq rfl (by decide)).trans (congrArg some left)
  obtain ⟨⟨weight, weights, -, near⟩, -⟩ :=
    (weight_falls_over ⟨3999999⟩ representable).1 (.inr (by decide))
  have share : weight ⟨1999999⟩ = 2 / 3 := Option.some_inj.mp ((weights _).symm.trans exact)
  exact ⟨representable, exact, share ▸ near ⟨1999999⟩⟩

/-- The decay time is more than zero, and yet the weight at its start is not one. -/
theorem weight_of_momentary_decay :
    (0 : Int) < (⟨999999⟩ : Duration).nanoseconds ∧ exactWeight? ⟨0⟩ ⟨999999⟩ = none ∧
      decayedWeight ⟨0⟩ ⟨999999⟩ = nan := by
  refine ⟨by decide, rfl, ?_⟩
  decide +kernel

end LastSelection

end WifiSelection
