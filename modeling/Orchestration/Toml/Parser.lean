import Orchestration.Toml.Key
import Orchestration.Toml.Moment
import Orchestration.Toml.Number
import Orchestration.Toml.Table

/-!
# Reading TOML

Settings files may be written as tables of keys and values.  A document is a sequence of lines: a
key with its value, or the header of the table to which the following keys belong.  Values are
strings, numbers, truth values, moments, arrays and tables on one line; arrays may go over several
lines.  A mark of the byte order in front of the document is dropped.

Main definitions: `Toml.parse?`.
-/

namespace Orchestration
namespace Toml

/-- A moment or a number at the start of a text; a moment is kept as its text. -/
def momentOrNumber? (cs : List Char) : Option (Json × List Char) :=
  match moment? cs with
  | some (text, rest) => some (.str text, rest)
  | none => number? cs

/-- How many arrays and inline tables may stand in each other. -/
def maxDepth : Nat :=
  79

mutual

/-- The value that starts a text, with arrays and tables in it up to a depth. -/
def value? : Nat → Nat → List Char → Option (Json × List Char)
  | 0, _, _ => none
  | fuel + 1, depth, cs =>
    match cs with
    | '"' :: _ => (string? cs).map (fun r => (.str r.1, r.2))
    | '\'' :: _ => (string? cs).map (fun r => (.str r.1, r.2))
    | '[' :: rest =>
      match depth with
      | 0 => none
      | depth + 1 => items? fuel depth [] rest
    | '{' :: rest =>
      match depth with
      | 0 => none
      | depth + 1 =>
        match skipSpace rest with
        | '}' :: rest => some (.obj [], rest)
        | rest => members? fuel depth [] rest
    | 't' :: 'r' :: 'u' :: 'e' :: rest => some (.bool true, rest)
    | 'f' :: 'a' :: 'l' :: 's' :: 'e' :: rest => some (.bool false, rest)
    | cs => momentOrNumber? cs

/-- The rest of an array; `seen` holds its items in reverse. -/
def items? : Nat → Nat → List Json → List Char → Option (Json × List Char)
  | 0, _, _, _ => none
  | fuel + 1, depth, seen, cs =>
    match skipLines? cs.length cs with
    | none => none
    | some (']' :: rest) => some (.arr seen.reverse, rest)
    | some cs =>
      match value? fuel depth cs with
      | none => none
      | some (j, rest) =>
        match skipLines? rest.length rest with
        | some (',' :: rest) => items? fuel depth (j :: seen) rest
        | some (']' :: rest) => some (.arr (j :: seen).reverse, rest)
        | _ => none

/-- The rest of an inline table behind the entries already seen. -/
def members? : Nat → Nat → Entries → List Char → Option (Json × List Char)
  | 0, _, _, _ => none
  | fuel + 1, depth, seen, cs =>
    match key? cs with
    | some (key, '=' :: rest) =>
      match value? fuel depth (skipSpace rest) with
      | none => none
      | some (j, rest) =>
        match seen.insert? key j with
        | none => none
        | some seen =>
          match skipSpace rest with
          | ',' :: rest => members? fuel depth seen rest
          | '}' :: rest => some (.obj (Entries.toFields seen), rest)
          | _ => none
    | _ => none

end

namespace Document

/-- Reads one line. -/
def line? (d : Document) (cs : List Char) : Option (Document × List Char) := do
  match cs with
  | '[' :: '[' :: rest =>
    match ← key? rest with
    | (path, ']' :: ']' :: rest) => return (← d.openItem? path, ← endLine? rest)
    | _ => none
  | '[' :: rest =>
    match ← key? rest with
    | (path, ']' :: rest) => return (← d.openTable? path, ← endLine? rest)
    | _ => none
  | cs =>
    match ← key? cs with
    | (key, '=' :: rest) =>
      let (j, rest) ← value? (2 * rest.length + 2) maxDepth (skipSpace rest)
      return (← d.insert? key j, ← endLine? rest)
    | _ => none

/-- Reads line after line. -/
def lines? : Nat → Document → List Char → Option Document
  | 0, _, _ => none
  | fuel + 1, d, cs =>
    match skipLines? cs.length cs with
    | none => none
    | some [] => some d
    | some cs =>
      match d.line? cs with
      | some (d, rest) => lines? fuel d rest
      | none => none

end Document

/-- The fields of the document that a text holds. -/
def parse? (text : String) : Option (List (String × Json)) := do
  let cs := match text.toList with
    | '\ufeff' :: cs => cs
    | cs => cs
  (← Document.lines? (cs.length + 1) {} cs).fields?

end Toml
end Orchestration
