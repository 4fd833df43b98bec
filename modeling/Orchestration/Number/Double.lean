/-!
# Binary numbers with 53 bits

Numbers that are not integers have 53 significant bits and a bounded exponent.  They are kept as
an integer mantissa with a power of two, so that every rule on them is exact arithmetic with
natural numbers: what does not fit goes to the nearest number that does.

Main definitions:

- `Double.ofRatio`: the number nearest to a quotient.
- `Double.ofDecimal`: the number nearest to a decimal one.
- `Double.nearestWord`: the nearest integer of 64 bits.
-/

namespace Orchestration

/-- A number with 53 significant bits.  `finite negative m e` is `m * 2 ^ e` with a sign, where `m`
has exactly 53 bits unless `e` is the least exponent. -/
inductive Double where
  | nan
  | infinite (negative : Bool)
  | finite (negative : Bool) (mantissa : Nat) (exponent : Int)
  deriving DecidableEq, Repr, Inhabited

namespace Double

/-- The exponent of the smallest numbers. -/
def leastExponent : Int :=
  -1074

/-- The exponent of the largest numbers. -/
def greatestExponent : Int :=
  971

/-- The integer nearest to a quotient; an exact half goes to the even neighbour. -/
def nearestQuotient (num den : Nat) : Nat :=
  let q := num / den
  let r := num % den
  if 2 * r < den ∨ (2 * r = den ∧ q % 2 = 0) then q else q + 1

/-- The number zero with a sign. -/
def zero (negative : Bool) : Double :=
  .finite negative 0 leastExponent

/-- The number nearest to a quotient, with a sign; what is too large is infinite. -/
def ofRatio (negative : Bool) (num den : Nat) : Double :=
  if num = 0 then zero negative
  else
    let shifted (e : Int) : Nat × Nat := (num <<< (-e).toNat, den <<< e.toNat)
    let e : Int := (num.log2 : Int) - den.log2 - 53
    let e := if (shifted e).2 <<< 53 ≤ (shifted e).1 then e + 1 else e
    let e := max e leastExponent
    let m := nearestQuotient (shifted e).1 (shifted e).2
    let (m, e) := if m = 1 <<< 53 then (1 <<< 52, e + 1) else (m, e)
    if greatestExponent < e then .infinite negative else .finite negative m e

/-- The number nearest to a natural number. -/
def ofNat (n : Nat) : Double :=
  ofRatio false n 1

/-- The number nearest to `digits * 10 ^ exponent`.  Far beyond the largest number, and far below
the smallest, the powers of ten are not worked out. -/
def ofDecimal (negative : Bool) (digits : Nat) (exponent : Int) : Double :=
  if digits = 0 then zero negative
  else if 400 < exponent then .infinite negative
  else if exponent < 0 ∧ digits.log2 + 3 * exponent < leastExponent - 8 then zero negative
  else ofRatio negative (digits * Nat.pow 10 exponent.toNat) (Nat.pow 10 (-exponent).toNat)

/-- The size of a finite number as a quotient. -/
def ratio (mantissa : Nat) (exponent : Int) : Nat × Nat :=
  (mantissa <<< exponent.toNat, 1 <<< (-exponent).toNat)

/-- The product of two sizes. -/
def scaleBy (factor : Nat × Nat) : Double → Double
  | .finite negative m e =>
    let (num, den) := ratio m e
    ofRatio negative (num * factor.1) (den * factor.2)
  | d => d

/-- The number nearest to a power of ten, as a quotient. -/
def powerOfTen (k : Nat) : Nat × Nat :=
  match ofNat (Nat.pow 10 k) with
  | .finite _ m e => ratio m e
  | _ => (Nat.pow 10 k, 1)

/-- A number times a power of ten. -/
def timesPowerOfTen (k : Nat) (d : Double) : Double :=
  d.scaleBy (powerOfTen k)

/-- A number over a power of ten. -/
def overPowerOfTen (k : Nat) (d : Double) : Double :=
  d.scaleBy (powerOfTen k).swap

/-- The number with the other sign. -/
def neg : Double → Double
  | .nan => .nan
  | .infinite negative => .infinite !negative
  | .finite negative m e => .finite (!negative) m e

/-- Whether a number is zero, with either sign. -/
def isZero : Double → Bool
  | .finite _ m _ => m = 0
  | _ => false

/-- Whether a number is infinite. -/
def isInfinite : Double → Bool
  | .infinite _ => true
  | _ => false

/-- The nearest integer of 64 bits; a half goes up.  There are none below zero, and nothing is
nearer to what is no number than zero. -/
def nearestWord : Double → UInt64
  | .nan => 0
  | .infinite negative => if negative then 0 else UInt64.ofNat (UInt64.size - 1)
  | .finite negative m e =>
    if negative then 0
    else
      let (num, den) := ratio m e
      UInt64.ofNat (min (UInt64.size - 1) ((2 * num + den) / (2 * den)))

end Double
end Orchestration
