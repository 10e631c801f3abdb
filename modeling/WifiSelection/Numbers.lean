/-!
Numbers of fixed width, and double precision numbers, held exactly. A finite number is a sign and a
whole number of units of `2⁻¹⁰⁷⁴`, the least positive double, so each operation is integer arithmetic
on units followed by one rounding to 53 significant bits, a tie going to the even neighbour.
-/

namespace WifiSelection

namespace Width

def maxSigned64 : Nat := 9223372036854775807

def maxUnsigned64 : Nat := 18446744073709551615

def int32? (value : Int) : Option Int32 :=
  if -2147483648 ≤ value ∧ value ≤ 2147483647 then some (Int32.ofInt value) else none

def int64? (value : Int) : Option Int64 :=
  if -(maxSigned64 : Int) - 1 ≤ value ∧ value ≤ maxSigned64 then
    some (Int64.ofInt value)
  else
    none

def uint8? (value : Int) : Option UInt8 :=
  if 0 ≤ value ∧ value ≤ 255 then some (UInt8.ofNat value.toNat) else none

def uint32? (value : Int) : Option UInt32 :=
  if 0 ≤ value ∧ value ≤ 4294967295 then some (UInt32.ofNat value.toNat) else none

def count? (value : Int) : Option Nat :=
  if 0 ≤ value ∧ value ≤ maxUnsigned64 then some value.toNat else none

end Width

/-- A double precision number. NaNs are not told apart, and a zero keeps its sign. -/
inductive Binary64 where
  | nan
  | infinite (negative : Bool)
  | finite (negative : Bool) (units : Nat)
deriving DecidableEq, Repr, Inhabited

namespace Binary64

def powerOfTwo (exponent : Nat) : Nat :=
  Nat.pow 2 exponent

def powerOfTen (exponent : Nat) : Nat :=
  Nat.pow 10 exponent

def unitsPerOne : Nat := powerOfTwo 1074

/-- A magnitude of this many units, `2¹⁰²⁴`, is too large for a finite number. -/
def unitsLimit : Nat := powerOfTwo 2098

def signedUnits (negative : Bool) (units : Nat) : Int :=
  if negative then -(units : Int) else units

def nearestQuotient (numerator denominator : Nat) : Nat :=
  let quotient := numerator / denominator
  let doubledRest := 2 * (numerator % denominator)
  if denominator < doubledRest ∨ (doubledRest = denominator ∧ quotient % 2 = 1) then
    quotient + 1
  else
    quotient

/-- The spacing of representable magnitudes around a whole magnitude: below `2⁵³` units every
count is representable, and the spacing doubles with the magnitude from there. -/
def spacing (units : Nat) : Nat :=
  powerOfTwo (Nat.log2 units - 52)

def nearestUnits (numerator denominator : Nat) : Nat :=
  let step := spacing (numerator / denominator)
  nearestQuotient numerator (denominator * step) * step

def ofUnits (negative : Bool) (units : Nat) : Binary64 :=
  if units < unitsLimit then finite negative units else infinite negative

def ofQuotient (negative : Bool) (numerator denominator : Nat) : Binary64 :=
  ofUnits negative (nearestUnits numerator denominator)

def ofInt (value : Int) : Binary64 :=
  ofQuotient (value < 0) (value.natAbs * unitsPerOne) 1

/-- The double nearest to `digits · 10 ^ exponent`. Exponents far outside the range of doubles are
settled without forming the power. -/
def ofDecimal (negative : Bool) (digits : Nat) (exponent : Int) : Binary64 :=
  if digits = 0 then
    finite negative 0
  else if 400 < exponent then
    infinite negative
  else if 0 ≤ exponent then
    ofQuotient negative (digits * powerOfTen exponent.toNat * unitsPerOne) 1
  else if exponent < -(400 + (Nat.log2 digits : Int)) then
    finite negative 0
  else
    ofQuotient negative (digits * unitsPerOne) (powerOfTen (-exponent).toNat)

def zero : Binary64 := finite false 0

def one : Binary64 := ofInt 1

def negativeInfinity : Binary64 := infinite true

def isNaN : Binary64 → Bool
  | nan => true
  | _ => false

def neg : Binary64 → Binary64
  | nan => nan
  | infinite negative => infinite !negative
  | finite negative units => finite (!negative) units

def add : Binary64 → Binary64 → Binary64
  | nan, _ => nan
  | _, nan => nan
  | infinite left, infinite right => if left = right then infinite left else nan
  | infinite left, finite _ _ => infinite left
  | finite _ _, infinite right => infinite right
  | finite leftSign leftUnits, finite rightSign rightUnits =>
    let total := signedUnits leftSign leftUnits + signedUnits rightSign rightUnits
    if total = 0 then
      finite (leftSign && rightSign) 0
    else
      ofQuotient (total < 0) total.natAbs 1

def sub (left right : Binary64) : Binary64 :=
  add left (neg right)

def mul : Binary64 → Binary64 → Binary64
  | nan, _ => nan
  | _, nan => nan
  | infinite left, infinite right => infinite (left != right)
  | infinite left, finite right units => if units = 0 then nan else infinite (left != right)
  | finite left units, infinite right => if units = 0 then nan else infinite (left != right)
  | finite leftSign leftUnits, finite rightSign rightUnits =>
    ofQuotient (leftSign != rightSign) (leftUnits * rightUnits) unitsPerOne

def div : Binary64 → Binary64 → Binary64
  | nan, _ => nan
  | _, nan => nan
  | infinite _, infinite _ => nan
  | infinite left, finite right _ => infinite (left != right)
  | finite left _, infinite right => finite (left != right) 0
  | finite leftSign leftUnits, finite rightSign rightUnits =>
    if rightUnits = 0 then
      if leftUnits = 0 then nan else infinite (leftSign != rightSign)
    else
      ofQuotient (leftSign != rightSign) (leftUnits * unitsPerOne) rightUnits

instance : Neg Binary64 := ⟨neg⟩
instance : Add Binary64 := ⟨add⟩
instance : Sub Binary64 := ⟨sub⟩
instance : Mul Binary64 := ⟨mul⟩
instance : Div Binary64 := ⟨div⟩

/-- The whole part of a square root, one binary digit for each level of `depth`; exact for numbers
below `4 ^ depth`. -/
def wholeRoot : Nat → Nat → Nat
  | 0, _ => 0
  | depth + 1, square =>
    let root := 2 * wholeRoot depth (square / 4)
    if (root + 1) * (root + 1) ≤ square then root + 1 else root

/-- The representable magnitude nearest to a square root. The root of a double is never midway
between two doubles, so no tie arises. -/
def nearestRoot (units : Nat) : Nat :=
  let square := units * unitsPerOne
  let step := powerOfTwo (Nat.log2 square / 2 - 52)
  let root := wholeRoot 54 (square / (step * step))
  let middle := (2 * root + 1) * step
  (if middle * middle < 4 * square then root + 1 else root) * step

def sqrt : Binary64 → Binary64
  | nan => nan
  | infinite negative => if negative then nan else infinite false
  | finite negative units =>
    if units = 0 then
      finite negative 0
    else if negative then
      nan
    else
      ofUnits false (nearestRoot units)

def less : Binary64 → Binary64 → Bool
  | nan, _ => false
  | _, nan => false
  | infinite left, infinite right => left && !right
  | infinite left, finite _ _ => left
  | finite _ _, infinite right => !right
  | finite leftSign leftUnits, finite rightSign rightUnits =>
    signedUnits leftSign leftUnits < signedUnits rightSign rightUnits

def numericallyEqual : Binary64 → Binary64 → Bool
  | infinite left, infinite right => left == right
  | finite leftSign leftUnits, finite rightSign rightUnits =>
    signedUnits leftSign leftUnits == signedUnits rightSign rightUnits
  | _, _ => false

/-- The larger number; a NaN gives way to the other, and of equal numbers the right one is
returned. -/
def maximum (left right : Binary64) : Binary64 :=
  if right.isNaN || less right left then left else right

def minimum (left right : Binary64) : Binary64 :=
  if right.isNaN || less left right then left else right

def clamp (value low high : Binary64) : Binary64 :=
  if less value low then low else if less high value then high else value

/-- The whole part toward zero, held within the signed 64-bit range; a NaN has whole part zero. -/
def truncate : Binary64 → Int
  | nan => 0
  | infinite negative => if negative then -(Width.maxSigned64 : Int) - 1 else Width.maxSigned64
  | finite negative units =>
    let whole : Int := (units / unitsPerOne : Nat)
    if negative then
      max (-whole) (-(Width.maxSigned64 : Int) - 1)
    else
      min whole Width.maxSigned64

/-- The interchange bits: sign, biased exponent, fraction. Every NaN is written as the quiet one. -/
def toBits : Binary64 → UInt64
  | nan => 0x7ff8000000000000
  | infinite negative => withSign negative 0x7ff0000000000000
  | finite negative units =>
    let fractions := powerOfTwo 52
    if units < fractions then
      withSign negative units
    else
      let exponent := Nat.log2 units - 51
      withSign negative (exponent * fractions + (units / spacing units - fractions))
where
  withSign (negative : Bool) (magnitude : Nat) : UInt64 :=
    UInt64.ofNat (if negative then powerOfTwo 63 + magnitude else magnitude)

end Binary64

end WifiSelection
