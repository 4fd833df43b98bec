import Orchestration.Json.Codec
import Orchestration.Text.Blank

/-!
# Identifiers

Deployables (applications and local services) are identified by a text that is made of their name
and version; their instances and the executors that run them have texts of their own.  Every kind
of identifier is a type of its own, ordered by code point.

Main results: the order of each kind is transitive, and identifiers that compare equal are equal.
-/

namespace Orchestration

/-- Identifies an application or a local service. -/
structure DeployableId where
  text : String
  deriving DecidableEq, Repr, Inhabited

/-- Identifies one running unit of an application, a local service or a task. -/
structure InstanceId where
  text : String
  deriving DecidableEq, Repr, Inhabited

/-- Identifies an executor node. -/
structure ExecutorId where
  text : String
  deriving DecidableEq, Repr, Inhabited

namespace DeployableId

/-- Identifiers are ordered by their texts. -/
instance : Ord DeployableId :=
  ⟨compareOn (·.text)⟩

instance : Std.TransOrd DeployableId :=
  inferInstanceAs (Std.TransCmp (compareOn DeployableId.text))

instance : Std.LawfulEqOrd DeployableId where
  eq_of_compare {a b} h := by
    cases a; cases b
    exact congrArg _ (Std.LawfulEqOrd.eq_of_compare (α := String) h)

/-- An identifier is a text, which may be any. -/
instance : Wire DeployableId where
  encode i := .str i.text
  decodeIn mode j := (decodeIn mode j).map DeployableId.mk

/-- The identifier of a name and a version. -/
def ofNameVersion (name version : String) : DeployableId :=
  ⟨name ++ "-" ++ version⟩

/-- Whether nothing but blank characters is in an identifier. -/
def isBlank (i : DeployableId) : Bool :=
  Blank.isBlankText i.text

end DeployableId

namespace InstanceId

/-- Instances are listed by the texts of their identifiers. -/
instance : Ord InstanceId :=
  ⟨compareOn (·.text)⟩

instance : Std.TransOrd InstanceId :=
  inferInstanceAs (Std.TransCmp (compareOn InstanceId.text))

instance : Std.LawfulEqOrd InstanceId where
  eq_of_compare {a b} h := by
    cases a; cases b
    exact congrArg _ (Std.LawfulEqOrd.eq_of_compare (α := String) h)

/-- The identifier of an instance is a text, too. -/
instance : Wire InstanceId where
  encode i := .str i.text
  decodeIn mode j := (decodeIn mode j).map InstanceId.mk

/-- What every generated instance identifier starts with; a random UUID follows. -/
def generatedStem : String :=
  "AI-"

/-- The number of characters of a generated instance identifier. -/
def generatedLength : Nat :=
  generatedStem.length + 36

end InstanceId

namespace ExecutorId

/-- Executors are listed by the texts of their identifiers. -/
instance : Ord ExecutorId :=
  ⟨compareOn (·.text)⟩

instance : Std.TransOrd ExecutorId :=
  inferInstanceAs (Std.TransCmp (compareOn ExecutorId.text))

instance : Std.LawfulEqOrd ExecutorId where
  eq_of_compare {a b} h := by
    cases a; cases b
    exact congrArg _ (Std.LawfulEqOrd.eq_of_compare (α := String) h)

/-- So is that of an executor. -/
instance : Wire ExecutorId where
  encode i := .str i.text
  decodeIn mode j := (decodeIn mode j).map ExecutorId.mk

end ExecutorId

/-- The key under which a task run is registered: its source application and its task id. -/
def runTaskId (source task : String) : String :=
  source ++ "-" ++ task

end Orchestration
