import Orchestration.Json.Number
import Orchestration.Text.Lower

/-!
# Settings in the environment

A variable belongs to the settings when its name starts with the stem, whatever its case.  Two
underscores in its name stand for the dot of a path.  Its text stands for a truth value or a number
where it reads as one.

Main definitions: `Environment.value`, `Environment.fields`.
-/

namespace Orchestration
namespace Environment

/-- What the names of all variables of the settings start with. -/
def stem : String :=
  "bosun_"

/-- The digits of an integer behind an optional sign. -/
def integer? (s : String) : Option Int :=
  let digits (cs : List Char) : Option Nat :=
    match Numeral.spanDigits cs with
    | (d :: ds, []) => some (Numeral.value (d :: ds))
    | _ => none
  let n : Option Int :=
    match s.toList with
    | '-' :: cs => (digits cs).map (fun n => -(n : Int))
    | '+' :: cs => (digits cs).map (fun n => (n : Int))
    | cs => (digits cs).map (fun n => (n : Int))
  n.bind (fun n => if Int64.minValue.toInt ≤ n ∧ n ≤ Int64.maxValue.toInt then some n else none)

/-- A number behind its sign: a word for what is infinite or no number, or digits before or after a
point with an optional exponent. -/
def unsigned? (negative : Bool) (cs : List Char) : Option Double :=
  let word := (String.ofList cs).toLower
  if word = "inf" ∨ word = "infinity" then some (.infinite negative)
  else if word = "nan" then some .nan
  else
    let (whole, rest) := Numeral.spanDigits cs
    let (fraction, rest) :=
      match rest with
      | '.' :: rest => Numeral.spanDigits rest
      | rest => ([], rest)
    if whole.isEmpty && fraction.isEmpty then none
    else do
      let (exponent, rest) ← JsonText.exponent? rest
      let power := (exponent.map JsonText.Exponent.value).getD 0
      if rest.isEmpty then
        some (.ofDecimal negative (Numeral.value (whole ++ fraction)) (power - fraction.length))
      else none

/-- A number with an optional sign. -/
def number? (s : String) : Option Double :=
  match s.toList with
  | '-' :: cs => unsigned? true cs
  | '+' :: cs => unsigned? false cs
  | cs => unsigned? false cs

/-- What the text of a variable stands for. -/
def value (text : String) : Json :=
  match text.toLower with
  | "true" => .bool true
  | "false" => .bool false
  | _ =>
    match integer? text with
    | some n => .int n
    | none => ((number? text).map Json.real).getD (.str text)

/-- The values that the variables of the settings add, in their order. -/
def fields (vars : List (String × String)) : List (String × Json) :=
  vars.filterMap fun v =>
    let name := Lower.text v.1
    if stem.toList.isPrefixOf name.toList then
      let rest := String.ofList (name.toList.drop stem.length)
      some (".".intercalate (rest.splitOn "__"), value v.2)
    else none

end Environment

end Orchestration
