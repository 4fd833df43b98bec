import Orchestration.Json.Parser
import Orchestration.Settings.Document
import Orchestration.Settings.Environment
import Orchestration.Settings.Lenient
import Orchestration.Toml.Parser

/-!
# Loading settings

Settings are made of three layers: the values that everything has of its own, a file, and the
variables of the environment.  A later layer wins over an earlier one.

A file is read in the format that its name ends in.  There need not be a file, and one in another
format counts as missing; a file that cannot be read as its format is an error.

Main definitions: `Settings.load`.
-/

namespace Orchestration

/-- A settings file: its name, and its text if it exists. -/
structure SettingsFile where
  name : String
  content : Option String

/-- Why settings cannot be loaded: the file cannot be read in its format, a name leads to an item
out of reach, or a field does not have a value of its type. -/
inductive SettingsError where
  | unreadableFile
  | itemOutOfReach
  | mistypedField
  deriving DecidableEq, Repr

namespace SettingsFile

/-- What follows the last dot of a file's name; a name that starts with its only dot has no
ending. -/
def ending (f : SettingsFile) : Option String :=
  match ((f.name.splitOn "/").getLastD "").splitOn "." with
  | [] => none
  | [_] => none
  | ["", _] => none
  | parts => parts.getLast?

mutual

/-- A document in which integers of more than 63 bits are numbers with 53 bits. -/
def signedIntegers : Json → Json
  | .int n => if Int64.maxValue.toInt < n then .real (Double.ofNat n.toNat) else .int n
  | .arr items => .arr (signedItems items)
  | .obj fields => .obj (signedFields fields)
  | j => j

/-- The same for the items of a list. -/
def signedItems : List Json → List Json
  | [] => []
  | j :: rest => signedIntegers j :: signedItems rest

/-- The same for the fields of a table. -/
def signedFields : List (String × Json) → List (String × Json)
  | [] => []
  | (name, j) :: rest => (name, signedIntegers j) :: signedFields rest

end

/-- The fields that a file adds; an error when its text cannot be read. -/
def fields (f : SettingsFile) : Except SettingsError (List (String × Json)) :=
  match f.content, f.ending with
  | some text, some "json" =>
    match Json.parse? text with
    | some (.obj fields) => .ok (signedFields fields)
    | _ => .error .unreadableFile
  | some text, some "toml" =>
    match Toml.parse? text with
    | some fields => .ok fields
    | none => .error .unreadableFile
  | _, _ => .ok []

end SettingsFile

namespace Settings

/-- The layer of the values that everything has of its own.  A list without items is no value. -/
def defaults : Json :=
  SettingsDocument.withoutEmptyLists (encode ({} : EngineSettings))

/-- Loads the settings of an engine from a file and the variables of the environment. -/
def load (file : Option SettingsFile) (vars : List (String × String)) :
    Except SettingsError EngineSettings := do
  let fromFile ← match file with
    | some f => f.fields
    | none => .ok []
  let doc := SettingsDocument.layTable? defaults (fromFile ++ Environment.fields vars)
  match doc with
  | none => .error .itemOutOfReach
  | some doc =>
    match LenientReader.read? doc with
    | some settings => .ok settings
    | none => .error .mistypedField

end Settings
end Orchestration
