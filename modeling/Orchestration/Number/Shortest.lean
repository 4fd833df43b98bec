import Orchestration.Number.Double
import Orchestration.Text.Numeral

/-!
# Shortest decimal text

A number with 53 bits is written with the fewest decimal digits that lie nearer to it than to any
other such number.  An exponent is never written: zeros fill the places up to the point.

Main definitions: `Double.shortestDecimal`, `Double.render`.
-/

namespace Orchestration
namespace Double

/-- The decimals that stand for `m * 2 ^ e`: all between two bounds, which count themselves when
`m` is even.  The value and the bounds are multiples of a quarter of the unit `2 ^ e`. -/
structure Neighbourhood where
  low : Nat
  value : Nat
  high : Nat
  exponent : Int
  closed : Bool

/-- What stands for a finite number.  Below a power of two the next number is nearer. -/
def neighbourhood (mantissa : Nat) (exponent : Int) : Neighbourhood :=
  let below := if mantissa = 1 <<< 52 ∧ leastExponent < exponent then 1 else 2
  { low := 4 * mantissa - below, value := 4 * mantissa, high := 4 * mantissa + 2
    exponent := exponent - 2, closed := mantissa % 2 = 0 }

/-- The multiple of a power of ten that stands for a number and is nearest to it, a half going up,
if there is any. -/
def Neighbourhood.multiple? (n : Neighbourhood) (power : Int) : Option Nat :=
  let scale := Nat.pow 10 (-power).toNat <<< n.exponent.toNat
  let unit := Nat.pow 10 power.toNat <<< (-n.exponent).toNat
  let value := n.value * scale
  let q := value / unit
  let inside (k : Nat) : Bool :=
    let x := k * unit
    if n.closed then n.low * scale ≤ x ∧ x ≤ n.high * scale
    else n.low * scale < x ∧ x < n.high * scale
  let nearer := if 2 * (value % unit) < unit then q else q + 1
  if inside nearer then some nearer
  else if inside q then some q
  else if inside (q + 1) then some (q + 1)
  else none

/-- The shortest decimal that stands for a finite number other than zero: its digits, and the power
of ten that they count.  The largest power with a multiple that will do has the fewest digits. -/
def shortestDecimal (mantissa : Nat) (exponent : Int) : Nat × Int :=
  let n := neighbourhood mantissa exponent
  let powers : List Int := (List.range 640).map (fun (k : Nat) => 310 - (k : Int))
  (powers.findSome? (fun p => (n.multiple? p).map (·, p))).getD (0, 0)

/-- A decimal without an exponent. -/
def positional (digits : Nat) (power : Int) : String :=
  let text := Nat.toDigits 10 digits
  if 0 ≤ power then String.ofList (text ++ List.replicate power.toNat '0')
  else
    let places := (-power).toNat
    let padded := List.replicate (places + 1 - text.length) '0' ++ text
    String.ofList (padded.take (padded.length - places) ++
      '.' :: padded.drop (padded.length - places))

/-- The text of a number. -/
def render : Double → String
  | .nan => "NaN"
  | .infinite negative => if negative then "-inf" else "inf"
  | .finite negative m e =>
    let size := if m = 0 then "0" else (fun d => positional d.1 d.2) (shortestDecimal m e)
    if negative then "-" ++ size else size

end Double
end Orchestration
