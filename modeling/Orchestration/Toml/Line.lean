/-!
# Lines of TOML

A document is a sequence of lines.  A line may end in a comment, which holds no control characters
but tabs.

Main definitions: `Toml.endLine?`, `Toml.skipLines?`.
-/

namespace Orchestration
namespace Toml

/-- White space inside a line. -/
def isSpace (c : Char) : Bool :=
  c == ' ' || c == '\t'

/-- Drops the white space in front of a text, within its line. -/
def skipSpace (cs : List Char) : List Char :=
  cs.dropWhile isSpace

/-- Whether a character is a tab, or no control character. -/
def isPlain (c : Char) : Bool :=
  c == '\t' || (0x20 ≤ c.toNat && c.toNat ≠ 0x7F)

/-- What follows a line end at the start of a text. -/
def newline? : List Char → Option (List Char)
  | '\n' :: rest => some rest
  | '\r' :: '\n' :: rest => some rest
  | _ => none

/-- What follows the end of a line or of the whole text. -/
def lineEnd? : List Char → Option (List Char)
  | [] => some []
  | cs => newline? cs

/-- Drops a comment in front of a text. -/
def skipComment : List Char → List Char
  | '#' :: cs => cs.dropWhile isPlain
  | cs => cs

/-- Goes to the next line; nothing but a comment may be left on this one. -/
def endLine? (cs : List Char) : Option (List Char) :=
  lineEnd? (skipComment (skipSpace cs))

/-- Drops line ends, white space and comments in front of a text. -/
def skipLines? : Nat → List Char → Option (List Char)
  | 0, cs => some cs
  | fuel + 1, cs =>
    match skipSpace cs with
    | '#' :: rest => (lineEnd? (rest.dropWhile isPlain)).bind (skipLines? fuel)
    | rest =>
      match newline? rest with
      | some rest => skipLines? fuel rest
      | none => some rest

end Toml
end Orchestration
