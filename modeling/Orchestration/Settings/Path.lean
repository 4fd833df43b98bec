import Orchestration.Text.Numeral

/-!
# Paths to settings

A name in a settings layer may be a path: a first name, and behind it the names of fields, each
behind a dot, and the places of items, each in brackets.  A place below zero counts from the end of
its list.

Main definitions: `SettingPath.parse?`, `SettingPath.ofName`.
-/

namespace Orchestration

/-- One step into a document. -/
inductive PathStep where
  | field (name : String)
  | item (index : Int)
  deriving DecidableEq, Repr

/-- A path to a setting: its first name, and the steps behind it. -/
structure SettingPath where
  head : String
  steps : List PathStep := []
  deriving DecidableEq, Repr

namespace SettingPath

/-- Whether a character may stand in a name of a path. -/
def isNameChar (c : Char) : Bool :=
  c.isAlphanum || c = ' ' || c = '_' || c = '-'

/-- The name that starts a text; it has at least one character. -/
def name? (cs : List Char) : Option (String × List Char) :=
  match cs.takeWhile isNameChar with
  | [] => none
  | name => some (String.ofList name, cs.dropWhile isNameChar)

/-- Drops blanks and tabs in front of a text. -/
def skipSpace (cs : List Char) : List Char :=
  cs.dropWhile (fun c => c = ' ' ∨ c = '\t')

/-- The integer of at most 64 bits that starts a text, with its sign. -/
def index? (cs : List Char) : Option (Int × List Char) :=
  let signed (sign : Int) (cs : List Char) : Option (Int × List Char) :=
    match Numeral.spanDigits cs with
    | ([], _) => none
    | (ds, rest) =>
      let n := sign * Numeral.value ds
      if Int64.minValue.toInt ≤ n ∧ n ≤ Int64.maxValue.toInt then some (n, rest) else none
  match cs with
  | '-' :: cs => signed (-1) cs
  | cs => signed 1 cs

/-- The step that starts a text. -/
def step? : List Char → Option (PathStep × List Char)
  | '.' :: cs => (name? cs).map (fun r => (.field r.1, r.2))
  | '[' :: cs => do
    let (i, rest) ← index? (skipSpace cs)
    match skipSpace rest with
    | ']' :: rest => some (.item i, rest)
    | _ => none
  | _ => none

/-- The steps that make up a text. -/
def steps? : Nat → List Char → Option (List PathStep)
  | _, [] => some []
  | 0, _ => none
  | fuel + 1, cs => do
    let (step, rest) ← step? cs
    return step :: (← steps? fuel rest)

/-- Reads a path. -/
def parse? (s : String) : Option SettingPath := do
  let (head, rest) ← name? s.toList
  return ⟨head, ← steps? rest.length rest⟩

/-- The path that a name stands for.  A name that is no path stands for itself. -/
def ofName (s : String) : SettingPath :=
  (parse? s).getD { head := s }

end SettingPath
end Orchestration
