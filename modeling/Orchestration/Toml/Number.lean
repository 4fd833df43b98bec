import Orchestration.Json.Parser
import Orchestration.Toml.Line

/-!
# Numbers of TOML

An integer has 64 bits, in base ten with a sign or in another base without one.  A number with a
fraction or an exponent, or the words for infinity and for no number, is a number with 53 bits; one
above all others is refused unless it is written as infinity.  Single underscores may stand between
digits.

Main definitions: `Toml.number?`.
-/

namespace Orchestration
namespace Toml

/-- The rest of a run of digits; an underscore has to be followed by a digit. -/
def moreDigits? (isDigit : Char → Bool) : List Char → Option (List Char × List Char)
  | [] => some ([], [])
  | ['_'] => none
  | '_' :: c :: cs =>
    if isDigit c then (moreDigits? isDigit cs).map (fun r => (c :: r.1, r.2)) else none
  | c :: cs =>
    if isDigit c then (moreDigits? isDigit cs).map (fun r => (c :: r.1, r.2))
    else some ([], c :: cs)

/-- The run of digits that starts a text, without its underscores. -/
def digits? (isDigit : Char → Bool) : List Char → Option (List Char × List Char)
  | [] => none
  | c :: cs =>
    if isDigit c then (moreDigits? isDigit cs).map (fun r => (c :: r.1, r.2)) else none

/-- The value of digits in a base. -/
def valueIn (base : Nat) (ds : List Char) : Nat :=
  ds.foldl (fun n c => base * n + (JsonText.hexDigit? c).getD 0) 0

/-- An integer in the range of the format. -/
def ranged? (n : Int) : Option Json :=
  if Int64.minValue.toInt ≤ n ∧ n ≤ Int64.maxValue.toInt then some (.int n) else none

/-- An integer in a base other than ten, behind the mark for it. -/
def based? (base : Nat) (cs : List Char) : Option (Json × List Char) := do
  let isDigit (c : Char) : Bool := ((JsonText.hexDigit? c).map (decide <| · < base)).getD false
  let (ds, rest) ← digits? isDigit cs
  return (← ranged? (valueIn base ds : Nat), rest)

/-- The digits in front of the point: a zero stands alone. -/
def whole? : List Char → Option (List Char × List Char)
  | '0' :: cs => some (['0'], cs)
  | cs => digits? Char.isDigit cs

/-- The digits behind a point, if there is one. -/
def fraction? : List Char → Option (Option (List Char) × List Char)
  | '.' :: cs => (digits? Char.isDigit cs).map (fun r => (some r.1, r.2))
  | cs => some (none, cs)

/-- The exponent behind a mark for it, if there is one. -/
def exponent? : List Char → Option (Option Int × List Char)
  | [] => some (none, [])
  | c :: cs =>
    if c = 'e' ∨ c = 'E' then
      let (sign, cs) : Int × List Char :=
        match cs with
        | '-' :: cs => (-1, cs)
        | '+' :: cs => (1, cs)
        | cs => (1, cs)
      (digits? Char.isDigit cs).map (fun r => (some (sign * valueIn 10 r.1), r.2))
    else some (none, c :: cs)

/-- A number in base ten behind its sign; one without fraction and exponent is an integer. -/
def decimal? (negative : Bool) (cs : List Char) : Option (Json × List Char) := do
  let (whole, rest) ← whole? cs
  let (fraction, rest) ← fraction? rest
  let (exponent, rest) ← exponent? rest
  if fraction.isNone && exponent.isNone then
    let n : Int := valueIn 10 whole
    return (← ranged? (if negative then -n else n), rest)
  else
    let fs := fraction.getD []
    let d := Double.ofDecimal negative (valueIn 10 (whole ++ fs)) (exponent.getD 0 - fs.length)
    if d = .infinite false then none else some (.real d, rest)

/-- A number behind its sign. -/
def signed? (negative : Bool) : List Char → Option (Json × List Char)
  | 'i' :: 'n' :: 'f' :: rest => some (.real (.infinite negative), rest)
  | 'n' :: 'a' :: 'n' :: rest => some (.real .nan, rest)
  | cs => decimal? negative cs

/-- The number that starts a text. -/
def number? : List Char → Option (Json × List Char)
  | '-' :: cs => signed? true cs
  | '+' :: cs => signed? false cs
  | '0' :: 'x' :: cs => based? 16 cs
  | '0' :: 'o' :: cs => based? 8 cs
  | '0' :: 'b' :: cs => based? 2 cs
  | cs => signed? false cs

end Toml
end Orchestration
