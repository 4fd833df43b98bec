import Orchestration.Json.Value
import Orchestration.Text.Numeral

/-!
# Reading JSON numbers

The digits of a number go into a word of 64 bits as long as they fit.  A number without point and
exponent whose digits all fit is an integer; every other one is the word as a number with 53 bits,
scaled by the power of ten that the point, the exponent and the digits left over add up to.  A
number that is too large is refused.

Main definitions: `JsonText.number?`.
-/

namespace Orchestration
namespace JsonText

/-- Takes digits into a word as long as they fit: the word, and the digits that are left over. -/
def fillWord (word : Nat) : List Nat → Nat × List Nat
  | [] => (word, [])
  | d :: ds => if 10 * word + d < UInt64.size then fillWord (10 * word + d) ds else (word, d :: ds)

/-- A number times a power of ten, in steps of at most 308 places; none if it becomes too large. -/
def scaled? (d : Double) (exponent : Int) : Option Double :=
  if exponent < -308 then
    if d.isZero then some d else scaled? (d.overPowerOfTen 308) (exponent + 308)
  else if exponent < 0 then some (d.overPowerOfTen (-exponent).toNat)
  else if exponent ≤ 308 then
    let d := d.timesPowerOfTen exponent.toNat
    if d.isInfinite then none else some d
  else if d.isZero then some d
  else none
termination_by (-exponent).toNat
decreasing_by omega

/-- The exponent of a number as it is written: its sign and its digits. -/
structure Exponent where
  negative : Bool
  digits : List Nat

/-- The fraction of a number, if a point follows; it has at least one digit. -/
def fraction? : List Char → Option (Option (List Nat) × List Char)
  | '.' :: cs =>
    match Numeral.spanDigits cs with
    | ([], _) => none
    | (ds, rest) => some (some ds, rest)
  | cs => some (none, cs)

/-- The exponent of a number, if a mark for it follows; it has at least one digit. -/
def exponent? (cs : List Char) : Option (Option Exponent × List Char) :=
  let digits (negative : Bool) (cs : List Char) : Option (Option Exponent × List Char) :=
    match Numeral.spanDigits cs with
    | ([], _) => none
    | (ds, rest) => some (some ⟨negative, ds⟩, rest)
  match cs with
  | c :: rest =>
    if c = 'e' ∨ c = 'E' then
      match rest with
      | '-' :: rest => digits true rest
      | '+' :: rest => digits false rest
      | rest => digits false rest
    else some (none, cs)
  | [] => some (none, [])

/-- The number of the exponent. -/
def Exponent.value (e : Exponent) : Int :=
  if e.negative then -(Numeral.value e.digits : Int) else Numeral.value e.digits

/-- An integer with a sign.  Zero below zero, and what has more than 63 bits below zero, is not kept
as an integer. -/
def integer (negative : Bool) (word : Nat) : Json :=
  if !negative then .int word
  else if word = 0 ∨ UInt64.size / 2 < word then .real (Double.ofNat word).neg
  else .int (-(word : Int))

/-- The number that the parts of a numeral make.  An exponent of more than 31 bits leaves only zero,
or is refused. -/
def assemble? (negative : Bool) (whole : List Nat) (fraction : Option (List Nat))
    (exponent : Option Exponent) : Option Json :=
  let (word, beyond) := fillWord 0 whole
  if beyond.isEmpty && fraction.isNone && exponent.isNone then some (integer negative word)
  else
    let digits := fraction.getD []
    let (word, left) := fillWord word digits
    let places : Int := (beyond.length : Int) + left.length - digits.length
    let power : Int := (exponent.map Exponent.value).getD 0
    let size : Option Double :=
      if power.natAbs < UInt32.size / 2 then scaled? (Double.ofNat word) (places + power)
      else if word ≠ 0 ∧ 0 < power then none
      else some (Double.zero false)
    size.map (fun d => .real (if negative then d.neg else d))

/-- The number that starts a text, behind its sign. -/
def unsigned? (negative : Bool) (cs : List Char) : Option (Json × List Char) := do
  let (whole, rest) := Numeral.spanDigits cs
  match whole with
  | [] => none
  | d :: more =>
    if d = 0 ∧ more ≠ [] then none
    else
      let (fraction, rest) ← fraction? rest
      let (exponent, rest) ← exponent? rest
      return (← assemble? negative whole fraction exponent, rest)

/-- The number that starts a text. -/
def number? : List Char → Option (Json × List Char)
  | '-' :: cs => unsigned? true cs
  | cs => unsigned? false cs

end JsonText
end Orchestration
