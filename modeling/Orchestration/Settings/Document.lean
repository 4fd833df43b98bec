import Orchestration.Json.Value
import Orchestration.Settings.Path
import Orchestration.Text.Lower

/-!
# Settings documents

Settings come in layers, each of which is a table.  The values of a later layer are laid over an
earlier one: tables are merged field by field, and everything else is replaced, lists included.  The
names of fields are kept in lower case.

Main definitions:

- `SettingsDocument.layValue`: lays a value over another.
- `SettingsDocument.layAt?`: lays a value over what stands at the end of a path.
- `SettingsDocument.layTable?`: lays the values of a layer over a document.
-/

namespace Orchestration
namespace SettingsDocument

mutual

/-- Lays a value over what stood in its place.  A table without fields leaves it as it was. -/
def layValue (under : Option Json) : Json → Json
  | .obj [] => under.getD (.obj [])
  | .obj fields =>
    match under with
    | some (.obj old) => .obj (layFields old fields)
    | _ => .obj (layFields [] fields)
  | j => j

/-- Lays fields over those of a table. -/
def layFields (old : List (String × Json)) : List (String × Json) → List (String × Json)
  | [] => old
  | (name, j) :: rest =>
    let name := Lower.text name
    layFields (Json.setField name (layValue (Json.field? name old) j) old) rest

end

/-- The fields of a table; whatever else stands in its place has none. -/
def tableOf : Option Json → List (String × Json)
  | some (.obj fields) => fields
  | _ => []

/-- The items of a list; whatever else stands in its place has none. -/
def listOf : Option Json → List Json
  | some (.arr items) => items
  | _ => []

/-- The number of items that a list has room for. -/
def maxItems : Nat :=
  UInt32.size

/-- The place of an item in a list, counted from the end when it is below zero.  None lies before
the start of the list, or beyond the room for it. -/
def place? (index : Int) (length : Nat) : Option Nat :=
  let place := if index < 0 then length + index else index
  if 0 ≤ place ∧ place < maxItems then some place.toNat else none

/-- Lays a value over what stands at the end of a path.  Whatever is no table gives way to one where
a field is asked for, and whatever is no list where an item is; a list is filled up to the item with
`null`.  An item is replaced as a whole.  There is no outcome when an item is out of reach. -/
def layAt? (j : Json) : List PathStep → Option Json → Option Json
  | [], under => some (layValue under j)
  | .field name :: steps, under =>
    let name := Lower.text name
    let fields := tableOf under
    (layAt? j steps (Json.field? name fields)).map (fun i => .obj (Json.setField name i fields))
  | .item index :: steps, under => do
    let items := listOf under
    let place ← place? index items.length
    let items := items ++ List.replicate (place + 1 - items.length) .null
    let i ← if steps.isEmpty then some j else layAt? j steps items[place]?
    return .arr (items.set place i)

/-- Lays the values of a layer over a document, each at the path that its name stands for. -/
def layTable? (under : Json) (fields : List (String × Json)) : Option Json :=
  fields.foldlM
    (fun doc (name, j) =>
      let path := SettingPath.ofName name
      layAt? j (.field path.head :: path.steps) (some doc))
    under

mutual

/-- A table without the lists in it that have no items. -/
def withoutEmptyLists : Json → Json
  | .obj fields => .obj (dropEmptyLists fields)
  | j => j

/-- The fields that are not lists without items. -/
def dropEmptyLists : List (String × Json) → List (String × Json)
  | [] => []
  | (_, .arr []) :: rest => dropEmptyLists rest
  | (name, j) :: rest => (name, withoutEmptyLists j) :: dropEmptyLists rest

end

end SettingsDocument
end Orchestration
