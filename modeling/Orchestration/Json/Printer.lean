import Orchestration.Json.Value
import Orchestration.Number.Shortest

/-!
# Writing JSON text

A document on one line.  Fields keep their order; only the characters that JSON does not allow
inside a string are escaped.  A number that JSON has no numeral for is written as `null`.
-/

namespace Orchestration
namespace JsonText

/-- A control character as an escape of four hexadecimal digits. -/
def unitEscape (c : Char) : String :=
  let n := c.toNat
  "\\u" ++ String.ofList
    [Nat.digitChar (n / 4096 % 16), Nat.digitChar (n / 256 % 16), Nat.digitChar (n / 16 % 16),
      Nat.digitChar (n % 16)]

/-- A character as it stands inside a string. -/
def escape (c : Char) : String :=
  if c = '"' then "\\\""
  else if c = '\\' then "\\\\"
  else if c.toNat < 0x20 ∨ c.toNat = 0x7F then unitEscape c
  else c.toString

/-- A string with its quotes. -/
def quote (s : String) : String :=
  s.toList.foldl (fun acc c => acc ++ escape c) "\"" ++ "\""

end JsonText

namespace Json

mutual

/-- Appends the text of a document to a text. -/
def write (acc : String) : Json → String
  | .null => acc ++ "null"
  | .bool true => acc ++ "true"
  | .bool false => acc ++ "false"
  | .int n => acc ++ toString n
  | .real (.finite negative m e) => acc ++ (Double.finite negative m e).render
  | .real _ => acc ++ "null"
  | .str s => acc ++ JsonText.quote s
  | .arr items => writeItems (acc ++ "[") items ++ "]"
  | .obj fields => writeFields (acc ++ "\x7b") fields ++ "\x7d"

/-- Appends the items of an array, with commas between them. -/
def writeItems (acc : String) : List Json → String
  | [] => acc
  | [j] => write acc j
  | j :: rest => writeItems (write acc j ++ ",") rest

/-- Appends the fields of an object, with commas between them. -/
def writeFields (acc : String) : List (String × Json) → String
  | [] => acc
  | [(name, j)] => write (acc ++ JsonText.quote name ++ ":") j
  | (name, j) :: rest => writeFields (write (acc ++ JsonText.quote name ++ ":") j ++ ",") rest

end

/-- The text of a document. -/
def render (j : Json) : String :=
  j.write ""

end Json
end Orchestration
