import Orchestration.Json.Codec

/-!
# Universally unique identifiers

A UUID is its 32 hexadecimal digits.  It is written in lower case with hyphens after the digits
8, 12, 16 and 20; it is read in that form in either case, without any hyphen, in braces, or
behind `urn:uuid:`.

Main definitions: `Uuid.parse?`, `Uuid.render`.
-/

namespace Orchestration

/-- A UUID: 32 hexadecimal digits. -/
structure Uuid where
  digits : List (Fin 16)
  length_digits : digits.length = 32
  deriving DecidableEq

namespace Uuid

/-- The value of a hexadecimal digit in either case. -/
def digit? (c : Char) : Option (Fin 16) :=
  if '0' ≤ c ∧ c ≤ '9' then some (Fin.ofNat 16 (c.toNat - '0'.toNat))
  else if 'a' ≤ c ∧ c ≤ 'f' then some (Fin.ofNat 16 (c.toNat - 'a'.toNat + 10))
  else if 'A' ≤ c ∧ c ≤ 'F' then some (Fin.ofNat 16 (c.toNat - 'A'.toNat + 10))
  else none

/-- The UUID of exactly 32 digits. -/
def ofDigits? (cs : List Char) : Option Uuid :=
  (cs.mapM digit?).bind fun ds => if h : ds.length = 32 then some ⟨ds, h⟩ else none

/-- The digits of the form with hyphens. -/
def hyphenated? (cs : List Char) : Option Uuid :=
  if cs.length = 36 ∧ cs[8]? = some '-' ∧ cs[13]? = some '-' ∧ cs[18]? = some '-' ∧
      cs[23]? = some '-' then
    ofDigits? (cs.take 8 ++ (cs.drop 9).take 4 ++ (cs.drop 14).take 4 ++ (cs.drop 19).take 4 ++
      cs.drop 24)
  else none

/-- Reads a UUID in any of its forms. -/
def parse? (s : String) : Option Uuid :=
  let cs := s.toList
  if cs.length = 32 then ofDigits? cs
  else if cs.length = 36 then hyphenated? cs
  else if cs.length = 38 ∧ cs.head? = some '\x7b' ∧ cs.getLast? = some '\x7d' then
    hyphenated? (cs.drop 1).dropLast
  else if cs.length = 45 ∧ cs.take 9 = "urn:uuid:".toList then hyphenated? (cs.drop 9)
  else none

/-- The form in lower case with hyphens. -/
def render (u : Uuid) : String :=
  let cs := u.digits.map (fun d => Nat.digitChar d.val)
  String.ofList (cs.take 8 ++ '-' :: (cs.drop 8).take 4 ++ '-' :: (cs.drop 12).take 4 ++ '-' ::
    (cs.drop 16).take 4 ++ '-' :: cs.drop 20)

instance : Wire Uuid where
  encode u := .str u.render
  decodeIn
    | _, .str s => parse? s
    | _, _ => none

end Uuid
end Orchestration
