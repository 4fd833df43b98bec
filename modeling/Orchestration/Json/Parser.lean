import Orchestration.Json.Number

/-!
# Reading JSON text

A strict reader: one document, with nothing but white space around it.  A repeated field keeps its
last value, and an escaped character outside the basic plane is written as a surrogate pair.  Arrays
and objects stand in each other up to a fixed depth.

Main definitions:

- `Json.parse?`: the document that a text holds, if it holds exactly one.
- `JsonText.value?`: the document that starts a text, and what follows it.
-/

namespace Orchestration
namespace JsonText

/-- White space between tokens. -/
def isSpace (c : Char) : Bool :=
  c == ' ' || c == '\n' || c == '\r' || c == '\t'

/-- Drops the white space in front of a text. -/
def skipSpace (cs : List Char) : List Char :=
  cs.dropWhile isSpace

/-- The value of a hexadecimal digit. -/
def hexDigit? (c : Char) : Option Nat :=
  if '0' ≤ c ∧ c ≤ '9' then some (c.toNat - '0'.toNat)
  else if 'a' ≤ c ∧ c ≤ 'f' then some (c.toNat - 'a'.toNat + 10)
  else if 'A' ≤ c ∧ c ≤ 'F' then some (c.toNat - 'A'.toNat + 10)
  else none

/-- The four hexadecimal digits of an escape. -/
def hexUnit? : List Char → Option (Nat × List Char)
  | a :: b :: c :: d :: rest => do
    let a ← hexDigit? a
    let b ← hexDigit? b
    let c ← hexDigit? c
    let d ← hexDigit? d
    return (((a * 16 + b) * 16 + c) * 16 + d, rest)
  | _ => none

/-- The character behind `\u`: one unit, or a high surrogate followed by an escaped low one. -/
def escapedUnit? (cs : List Char) : Option (Char × List Char) := do
  let (high, rest) ← hexUnit? cs
  if 0xD800 ≤ high ∧ high ≤ 0xDBFF then
    match rest with
    | '\\' :: 'u' :: rest =>
      let (low, rest) ← hexUnit? rest
      if 0xDC00 ≤ low ∧ low ≤ 0xDFFF then
        return (Char.ofNat (0x10000 + (high - 0xD800) * 0x400 + (low - 0xDC00)), rest)
      else none
    | _ => none
  else if 0xDC00 ≤ high ∧ high ≤ 0xDFFF then none
  else return (Char.ofNat high, rest)

/-- The character that stands behind a backslash. -/
def escaped? : List Char → Option (Char × List Char)
  | '"' :: rest => some ('"', rest)
  | '\\' :: rest => some ('\\', rest)
  | '/' :: rest => some ('/', rest)
  | 'b' :: rest => some ('\x08', rest)
  | 'f' :: rest => some ('\x0c', rest)
  | 'n' :: rest => some ('\n', rest)
  | 'r' :: rest => some ('\r', rest)
  | 't' :: rest => some ('\t', rest)
  | 'u' :: rest => escapedUnit? rest
  | _ => none

/-- The rest of a string behind its opening quote; `seen` holds its characters in reverse. -/
def string? : Nat → List Char → List Char → Option (String × List Char)
  | 0, _, _ => none
  | _ + 1, _, [] => none
  | fuel + 1, seen, c :: cs =>
    if c = '"' then some (String.ofList seen.reverse, cs)
    else if c = '\\' then
      match escaped? cs with
      | some (e, rest) => string? fuel (e :: seen) rest
      | none => none
    else if c.toNat < 0x20 then none
    else string? fuel (c :: seen) cs

/-- How many arrays and objects may stand in each other. -/
def maxDepth : Nat :=
  127

mutual

/-- The document that starts a text, with arrays and objects in it up to a depth. -/
def value? : Nat → Nat → List Char → Option (Json × List Char)
  | 0, _, _ => none
  | fuel + 1, depth, cs =>
    match skipSpace cs with
    | 'n' :: 'u' :: 'l' :: 'l' :: rest => some (.null, rest)
    | 't' :: 'r' :: 'u' :: 'e' :: rest => some (.bool true, rest)
    | 'f' :: 'a' :: 'l' :: 's' :: 'e' :: rest => some (.bool false, rest)
    | '"' :: rest => (string? (rest.length + 1) [] rest).map (fun r => (.str r.1, r.2))
    | '[' :: rest =>
      match depth with
      | 0 => none
      | depth + 1 =>
        match skipSpace rest with
        | ']' :: rest => some (.arr [], rest)
        | rest => items? fuel depth [] rest
    | '{' :: rest =>
      match depth with
      | 0 => none
      | depth + 1 =>
        match skipSpace rest with
        | '}' :: rest => some (.obj [], rest)
        | rest => members? fuel depth [] rest
    | rest => number? rest

/-- The rest of an array; `seen` holds its items in reverse. -/
def items? : Nat → Nat → List Json → List Char → Option (Json × List Char)
  | 0, _, _, _ => none
  | fuel + 1, depth, seen, cs =>
    match value? fuel depth cs with
    | none => none
    | some (j, rest) =>
      match skipSpace rest with
      | ',' :: rest => items? fuel depth (j :: seen) rest
      | ']' :: rest => some (.arr (j :: seen).reverse, rest)
      | _ => none

/-- The rest of an object behind the fields already seen. -/
def members? : Nat → Nat → List (String × Json) → List Char → Option (Json × List Char)
  | 0, _, _, _ => none
  | fuel + 1, depth, seen, cs =>
    match skipSpace cs with
    | '"' :: rest =>
      match string? (rest.length + 1) [] rest with
      | none => none
      | some (name, rest) =>
        match skipSpace rest with
        | ':' :: rest =>
          match value? fuel depth rest with
          | none => none
          | some (j, rest) =>
            let seen := Json.setField name j seen
            match skipSpace rest with
            | ',' :: rest => members? fuel depth seen rest
            | '}' :: rest => some (.obj seen, rest)
            | _ => none
        | _ => none
    | _ => none

end

end JsonText

namespace Json

/-- The document that a text holds, if it holds exactly one. -/
def parse? (text : String) : Option Json :=
  let cs := text.toList
  match JsonText.value? (2 * cs.length + 2) JsonText.maxDepth cs with
  | some (j, rest) => if JsonText.skipSpace rest = [] then some j else none
  | none => none

end Json
end Orchestration
