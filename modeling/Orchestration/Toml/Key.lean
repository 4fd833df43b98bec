import Orchestration.Toml.Quoted

/-!
# Keys of TOML

A key is one or more parts with dots between them.  A part is bare, or a string on one line.

Main definitions: `Toml.key?`.
-/

namespace Orchestration
namespace Toml

/-- Whether a character may stand in a part that is not quoted. -/
def isKeyChar (c : Char) : Bool :=
  c.isAlphanum || c = '_' || c = '-'

/-- One part of a key. -/
def keyPart? : List Char → Option (String × List Char)
  | '"' :: cs => lineString? ('"' :: cs)
  | '\'' :: cs => lineString? ('\'' :: cs)
  | cs =>
    match cs.takeWhile isKeyChar with
    | [] => none
    | part => some (String.ofList part, cs.dropWhile isKeyChar)

/-- The parts of a key, and what follows it behind white space. -/
def keyParts? : Nat → List Char → Option (List String × List Char)
  | 0, _ => none
  | fuel + 1, cs => do
    let (part, rest) ← keyPart? (skipSpace cs)
    match skipSpace rest with
    | '.' :: rest =>
      let (parts, rest) ← keyParts? fuel rest
      return (part :: parts, rest)
    | rest => return ([part], rest)

/-- How many parts a key may have. -/
def maxKeyParts : Nat :=
  79

/-- The key that starts a text. -/
def key? (cs : List Char) : Option (List String × List Char) := do
  let (parts, rest) ← keyParts? (cs.length + 1) cs
  if parts.length ≤ maxKeyParts then some (parts, rest) else none

end Toml
end Orchestration
