import Orchestration.Collection.SortedMap
import Orchestration.Json.Value
import Orchestration.Text.Numeral

/-!
# Values as JSON documents

`Wire α` pairs the document that a value is written as with a strict reader.  Readers refuse a
document as a whole and say nothing about the reason.

* An integer is read only from an integer in its range, a truth value only from a truth value, a
  text only from a text.
* A member of a closed enumeration is its name (`Named`), which may also be the name of a single
  empty field.
* A record is an object.  Fields that it does not know are ignored; a missing field is an error
  unless it has a default or is optional.  A record may also be given as the array of its fields
  in their order, where only fields with a default may be left off at the end.
* A tagged record carries the name of its case in the field `type`.
* A set is an array, read in any order and written sorted.  A map with integer keys is an object
  whose keys are canonical numerals.

The case of a tagged record may stand behind its fields, so the record is taken in as a whole before
its fields are read.  What is read from there follows slightly different rules (`ReadingMode`).

Main definitions: `Wire`, `LawfulWire` (what is written reads back), `Named`, `Fields`.
-/

namespace Orchestration

/-- Where a value is read from: a document itself, or what a tagged record was taken in as.  From
there the case of a tagged record may be given by its number, a member of an enumeration may carry
an empty object, and a key, which is a text by then, does not count as an integer. -/
inductive ReadingMode where
  | direct
  | buffered
  deriving DecidableEq, Repr

/-- A type whose values are written as JSON documents and read back. -/
class Wire (α : Type) where
  encode : α → Json
  decodeIn : ReadingMode → Json → Option α

export Wire (encode decodeIn)

/-- Reads a value from a document. -/
def decode {α : Type} [Wire α] (j : Json) : Option α :=
  decodeIn .direct j

/-- Every written value reads back, wherever it is read from. -/
class LawfulWire (α : Type) [Wire α] : Prop where
  decodeIn_encode (mode : ReadingMode) (a : α) : decodeIn mode (encode a) = some a

export LawfulWire (decodeIn_encode)

/-- A closed enumeration: its members in their order, each with a name of its own. -/
class Named (α : Type) where
  members : List α
  name : α → String

/-- The names of the members of an enumeration, in their order. -/
def Named.names (α : Type) [Named α] : List String :=
  (Named.members (α := α)).map Named.name

/-- The member with a name. -/
def Named.ofName? {α : Type} [Named α] (s : String) : Option α :=
  Named.members.find? (fun a => Named.name a == s)

namespace Wire

/-- A truth value is read neither from a number nor from a text. -/
instance : Wire Bool where
  encode := .bool
  decodeIn
    | _, .bool b => some b
    | _, _ => none

/-- A text is read from a text only. -/
instance : Wire String where
  encode := .str
  decodeIn
    | _, .str s => some s
    | _, _ => none

/-- A natural number below a bound. -/
def decodeBelow (bound : Nat) : Json → Option Nat
  | .int n => if 0 ≤ n ∧ n < bound then some n.toNat else none
  | _ => none

/-- A port number is an integer from its range. -/
instance : Wire UInt16 where
  encode n := .int n.toNat
  decodeIn _ j := (decodeBelow UInt16.size j).map UInt16.ofNat

/-- So is a number of 32 bits. -/
instance : Wire UInt32 where
  encode n := .int n.toNat
  decodeIn _ j := (decodeBelow UInt32.size j).map UInt32.ofNat

/-- So is one of 64 bits. -/
instance : Wire UInt64 where
  encode n := .int n.toNat
  decodeIn _ j := (decodeBelow UInt64.size j).map UInt64.ofNat

/-- So is one with a sign. -/
instance : Wire Int64 where
  encode n := .int n.toInt
  decodeIn
    | _, .int n =>
      if Int64.minValue.toInt ≤ n ∧ n ≤ Int64.maxValue.toInt then some (Int64.ofInt n) else none
    | _, _ => none

/-- A missing value is `null`, and nothing else is missing. -/
instance {α : Type} [Wire α] : Wire (Option α) where
  encode
    | none => .null
    | some a => encode a
  decodeIn
    | _, .null => some none
    | mode, j => (decodeIn mode j).map some

/-- A list is read as a whole: every item has to be one. -/
instance {α : Type} [Wire α] : Wire (List α) where
  encode l := .arr (l.map encode)
  decodeIn
    | mode, .arr items => items.mapM (decodeIn mode)
    | _, _ => none

/-- A member of an enumeration is its name, or the only field of an object with nothing in it. -/
instance (priority := low) {α : Type} [Named α] : Wire α where
  encode a := .str (Named.name a)
  decodeIn
    | _, .str s => Named.ofName? s
    | _, .obj [(s, .null)] => Named.ofName? s
    | .buffered, .obj [(s, .obj [])] => Named.ofName? s
    | _, _ => none

/-- A set is written as the list of its items, which may come in any order and more than once. -/
instance {α : Type} [Ord α] [Std.TransOrd α] [Std.LawfulEqOrd α] [Wire α] :
    Wire (SortedSet α) where
  encode s := encode s.toList
  decodeIn mode j := (decodeIn mode j).map SortedSet.ofList

/-- A map from texts, as an object. -/
instance {β : Type} [Wire β] : Wire (SortedMap String β) where
  encode m := .obj (m.entries.map (fun e => (e.1, encode e.2)))
  decodeIn
    | mode, .obj fields =>
      (fields.mapM (fun f => (decodeIn mode f.2).map (f.1, ·))).map SortedMap.ofList
    | _, _ => none

/-- The key of a map with integer keys. -/
def decodeKey (mode : ReadingMode) (s : String) : Option UInt32 :=
  match mode with
  | .direct =>
    (Numeral.ofCanonical? s).bind fun n => if n < UInt32.size then some (UInt32.ofNat n) else none
  | .buffered => none

/-- A map from integers, as an object with numerals for keys. -/
instance {β : Type} [Wire β] : Wire (SortedMap UInt32 β) where
  encode m := .obj (m.entries.map (fun e => (Numeral.canonical e.1.toNat, encode e.2)))
  decodeIn
    | mode, .obj fields =>
      (fields.mapM (fun f : String × Json => do
        let k ← decodeKey mode f.1
        let v ← decodeIn mode f.2
        return (k, v))).map SortedMap.ofList
    | _, _ => none

end Wire

/-- The fields of a record under reading.  In a positional record the fields came without names,
in the record's order. -/
structure Fields where
  mode : ReadingMode
  get : String → Option Json
  positional : Bool

namespace Fields

/-- The fields of a document that stands for a record with the given field names. -/
def of? (mode : ReadingMode) (names : List String) : Json → Option Fields
  | .obj fields => some ⟨mode, fun n => Json.field? n fields, false⟩
  | .arr items =>
    if items.length ≤ names.length then
      some ⟨mode, fun n => Json.field? n (names.zip items), true⟩
    else none
  | _ => none

/-- A field that has to be there. -/
def required {α : Type} [Wire α] (f : Fields) (name : String) : Option α :=
  (f.get name).bind (decodeIn f.mode)

/-- A field that has a value of its own when it is missing. -/
def withDefault {α : Type} [Wire α] (f : Fields) (name : String) (default : α) : Option α :=
  match f.get name with
  | none => some default
  | some j => decodeIn f.mode j

/-- A field that may be missing from an object, though not from an array of fields. -/
def optional {α : Type} [Wire α] (f : Fields) (name : String) : Option (Option α) :=
  match f.get name with
  | none => if f.positional then none else some none
  | some j => decodeIn f.mode j

end Fields

namespace Json

/-- The case that a tag stands for, of those with the given names. -/
def case? (mode : ReadingMode) (names : List String) : Json → Option String
  | .str tag => some tag
  | .int n =>
    match mode with
    | .direct => none
    | .buffered => if 0 ≤ n then names[n.toNat]? else none
  | _ => none

/-- The case of a tagged record, of those with the given names, and the document that holds its
fields. -/
def tagged? (mode : ReadingMode) (names : List String) : Json → Option (String × Json)
  | .obj fields => do
    let tag ← field? "type" fields
    return (← case? mode names tag, .obj fields)
  | .arr (tag :: rest) => (case? mode names tag).map (·, .arr rest)
  | _ => none

/-- A tagged record. -/
def tagged (tag : String) (fields : List (String × Json)) : Json :=
  .obj (("type", .str tag) :: fields)

/-- The tag of a tagged record is found in front, and the whole record is kept. -/
@[simp]
theorem tagged?_tagged (mode : ReadingMode) (names : List String) (tag : String)
    (fields : List (String × Json)) :
    tagged? mode names (tagged tag fields) = some (tag, tagged tag fields) := by
  simp [tagged, tagged?, case?]

end Json
end Orchestration
