import Orchestration.Json.Parser
import Orchestration.Toml.Line

/-!
# Strings of TOML

A string stands between quotes.  With double quotes a backslash starts an escape; with single quotes
every character stands for itself.  A string between three quotes may go over several lines: a line
end behind the opening quotes is dropped, other line ends are single characters, and one or two
quotes may stand in the string, also right before its end.  A backslash at the end of a line drops
that end and all white space behind it.

Main definitions: `Toml.string?`, `Toml.lineString?`.
-/

namespace Orchestration
namespace Toml

/-- The value of hexadecimal digits. -/
def hexValue? (cs : List Char) : Option Nat :=
  cs.foldlM (fun n c => (JsonText.hexDigit? c).map (16 * n + ·)) 0

/-- The character that is written by its number, with so many digits. -/
def codePoint? (width : Nat) (cs : List Char) : Option (Char × List Char) := do
  let digits := cs.take width
  if digits.length ≠ width then none
  let n ← hexValue? digits
  if n.isValidChar then some (Char.ofNat n, cs.drop width) else none

/-- The character that stands behind a backslash. -/
def escaped? : List Char → Option (Char × List Char)
  | '"' :: rest => some ('"', rest)
  | '\\' :: rest => some ('\\', rest)
  | 'b' :: rest => some ('\x08', rest)
  | 'f' :: rest => some ('\x0c', rest)
  | 'n' :: rest => some ('\n', rest)
  | 'r' :: rest => some ('\r', rest)
  | 't' :: rest => some ('\t', rest)
  | 'u' :: rest => codePoint? 4 rest
  | 'U' :: rest => codePoint? 8 rest
  | _ => none

/-- The rest of a string on one line with escapes; `seen` holds its characters in reverse. -/
def basicString? : Nat → List Char → List Char → Option (String × List Char)
  | 0, _, _ => none
  | _ + 1, _, [] => none
  | fuel + 1, seen, c :: cs =>
    if c = '"' then some (String.ofList seen.reverse, cs)
    else if c = '\\' then
      match escaped? cs with
      | some (e, rest) => basicString? fuel (e :: seen) rest
      | none => none
    else if isPlain c then basicString? fuel (c :: seen) cs
    else none

/-- The rest of a string on one line without escapes. -/
def literalString? (cs : List Char) : Option (String × List Char) :=
  let (text, rest) := (cs.takeWhile (· ≠ '\''), cs.dropWhile (· ≠ '\''))
  match rest with
  | _ :: rest => if text.all isPlain then some (String.ofList text, rest) else none
  | [] => none

/-- A string on one line. -/
def lineString? : List Char → Option (String × List Char)
  | '"' :: cs => basicString? (cs.length + 1) [] cs
  | '\'' :: cs => literalString? cs
  | _ => none

/-- What follows a line end behind a backslash, without the white space and line ends there. -/
def foldedLine? (cs : List Char) : Option (List Char) :=
  let isBlank (c : Char) : Bool := isSpace c || c = '\n'
  let rec skip : List Char → List Char
    | '\r' :: '\n' :: rest => skip rest
    | c :: rest => if isBlank c then skip rest else c :: rest
    | [] => []
  (newline? (skipSpace cs)).map skip

/-- The rest of a string over several lines, up to three of the given quotes; `seen` holds its
characters in reverse. -/
def multiline? (quote : Char) (escapes : Bool) :
    Nat → List Char → List Char → Option (String × List Char)
  | 0, _, _ => none
  | _ + 1, _, [] => none
  | fuel + 1, seen, c :: cs =>
    if c = quote then
      let quotes := ((c :: cs).takeWhile (· = quote)).length
      if quotes < 3 then multiline? quote escapes fuel (c :: seen) cs
      else
        let inside := min 2 (quotes - 3)
        some (String.ofList (List.replicate inside quote ++ seen).reverse,
          (c :: cs).drop (inside + 3))
    else if escapes && c = '\\' then
      match foldedLine? cs with
      | some rest => multiline? quote escapes fuel seen rest
      | none =>
        match escaped? cs with
        | some (e, rest) => multiline? quote escapes fuel (e :: seen) rest
        | none => none
    else
      match newline? (c :: cs) with
      | some rest => multiline? quote escapes fuel ('\n' :: seen) rest
      | none => if isPlain c then multiline? quote escapes fuel (c :: seen) cs else none

/-- A string over several lines, behind its opening quotes. -/
def openedMultiline? (quote : Char) (escapes : Bool) (cs : List Char) :
    Option (String × List Char) :=
  let cs := (newline? cs).getD cs
  multiline? quote escapes (cs.length + 1) [] cs

/-- The string that starts a text. -/
def string? : List Char → Option (String × List Char)
  | '"' :: '"' :: '"' :: cs => openedMultiline? '"' true cs
  | '\'' :: '\'' :: '\'' :: cs => openedMultiline? '\'' false cs
  | cs => lineString? cs

end Toml
end Orchestration
