import Mathlib.Algebra.Order.Ring.Int
import WifiSelection.Numbers

/-!
Integers of fixed width. The integer of a value is in the range of its type and gives the value
back; an operation on 64-bit integers has a result only within 64 bits, and a division none by zero.
-/

namespace WifiSelection

theorem toInt_succ {id : Int32} (small : id.toInt < Int32.maxValue.toInt) :
    (id + 1).toInt = id.toInt + 1 := by
  have lower := id.le_toInt
  have bound : Int32.maxValue.toInt = 2147483647 := rfl
  rw [Int32.toInt_add, Int32.toInt_one]
  exact Int.bmod_eq_of_le (by omega) (by omega)

theorem max_eq_or (left right : Int32) : max left right = left ∨ max left right = right := by
  have eq : max left right = if left ≤ right then right else left := rfl
  rw [eq]
  split
  · exact Or.inr rfl
  · exact Or.inl rfl

theorem toInt_max (left right : Int32) : (max left right).toInt = max left.toInt right.toInt := by
  have eq : max left right = if left ≤ right then right else left := rfl
  rw [eq]
  split
  next ordered =>
    rw [Int32.le_iff_toInt_le] at ordered
    omega
  next unordered =>
    rw [Int32.le_iff_toInt_le] at unordered
    omega

theorem toInt_min (left right : Int32) : (min left right).toInt = min left.toInt right.toInt := by
  have eq : min left right = if left ≤ right then left else right := rfl
  rw [eq]
  split
  next ordered =>
    rw [Int32.le_iff_toInt_le] at ordered
    omega
  next unordered =>
    rw [Int32.le_iff_toInt_le] at unordered
    omega

theorem toInt_lt_maxValue {id : Int32} (apart : id ≠ Int32.maxValue) :
    id.toInt < Int32.maxValue.toInt := by
  rw [← Int32.lt_iff_toInt_lt]
  exact Int32.lt_of_le_of_ne (Int32.le_maxValue id) apart

namespace Width

theorem int32?_toInt (value : Int32) : int32? value.toInt = some value := by
  have low := value.le_toInt
  have high := value.toInt_lt
  rw [int32?, if_pos (by omega), Int32.ofInt_toInt]

theorem int64?_toInt (value : Int64) : int64? value.toInt = some value := by
  have low := value.le_toInt
  have high := value.toInt_lt
  rw [int64?, if_pos (by simp only [maxSigned64]; omega), Int64.ofInt_toInt]

theorem uint32?_toNat (value : UInt32) : uint32? value.toNat = some value := by
  have high := value.toNat_lt
  rw [uint32?, if_pos (by omega), Int.toNat_natCast, UInt32.ofNat_toNat]

theorem toInt_min (left right : Int64) : (min left right).toInt = min left.toInt right.toInt := by
  have eq : min left right = if left ≤ right then left else right := rfl
  rw [eq]
  split
  next ordered =>
    rw [Int64.le_iff_toInt_le] at ordered
    omega
  next unordered =>
    rw [Int64.le_iff_toInt_le] at unordered
    omega

def sum? (left right : Int64) : Option Int64 :=
  int64? (left.toInt + right.toInt)

def difference? (left right : Int64) : Option Int64 :=
  int64? (left.toInt - right.toInt)

def product? (left right : Int64) : Option Int64 :=
  int64? (left.toInt * right.toInt)

def quotient? (left right : Int64) : Option Int64 :=
  if right = 0 then none else int64? (left.toInt.tdiv right.toInt)

/-- A computation runs through and comes to an integer. -/
def Gives (computation : Option Int64) (value : Int) : Prop :=
  computation.map Int64.toInt = some value

section Gives

variable {left right found : Int64} {leftValue rightValue value : Int}

theorem Gives.bind {computation : Option Int64} {next : Int64 → Option Int64} {result : Int}
    (gives : Gives computation value)
    (later : ∀ found : Int64, found.toInt = value → Gives (next found) result) :
    Gives (computation >>= next) result := by
  obtain ⟨found, rfl, same⟩ := Option.map_eq_some_iff.mp gives
  exact later found same

theorem gives_some (same : found.toInt = value) : Gives (some found) value :=
  congrArg some same

theorem gives_int64? (low : -2 ^ 63 ≤ value) (high : value < 2 ^ 63) :
    Gives (int64? value) value := by
  have limit : (maxSigned64 : Int) = 2 ^ 63 - 1 := rfl
  rw [int64?, if_pos (by omega)]
  exact gives_some (Int64.toInt_ofInt_of_le low high)

theorem gives_sum? (leftEq : left.toInt = leftValue) (rightEq : right.toInt = rightValue)
    (low : -2 ^ 63 ≤ leftValue + rightValue) (high : leftValue + rightValue < 2 ^ 63) :
    Gives (sum? left right) (leftValue + rightValue) := by
  subst leftEq rightEq
  exact gives_int64? low high

theorem gives_difference? (leftEq : left.toInt = leftValue) (rightEq : right.toInt = rightValue)
    (low : -2 ^ 63 ≤ leftValue - rightValue) (high : leftValue - rightValue < 2 ^ 63) :
    Gives (difference? left right) (leftValue - rightValue) := by
  subst leftEq rightEq
  exact gives_int64? low high

theorem gives_product? (leftEq : left.toInt = leftValue) (rightEq : right.toInt = rightValue)
    (low : -2 ^ 63 ≤ leftValue * rightValue) (high : leftValue * rightValue < 2 ^ 63) :
    Gives (product? left right) (leftValue * rightValue) := by
  subst leftEq rightEq
  exact gives_int64? low high

theorem gives_quotient? (leftEq : left.toInt = leftValue) (rightEq : right.toInt = rightValue)
    (nonzero : rightValue ≠ 0) (low : -2 ^ 63 ≤ leftValue.tdiv rightValue)
    (high : leftValue.tdiv rightValue < 2 ^ 63) :
    Gives (quotient? left right) (leftValue.tdiv rightValue) := by
  subst leftEq rightEq
  have divisor : right ≠ 0 := by
    rintro rfl
    exact nonzero rfl
  rw [quotient?, if_neg divisor]
  exact gives_int64? low high

end Gives

end Width

end WifiSelection
