import Orchestration.Number.Double

/-!
# JSON values

The documents that specifications, records, operations and events are written as.  Integers and
numbers with a fraction or an exponent are kept apart, because a count is never read from `1.0`.
-/

namespace Orchestration

/-- A JSON document.  A number that is not kept as an integer is `real`. -/
inductive Json where
  | null
  | bool (b : Bool)
  | int (n : Int)
  | real (d : Double)
  | str (s : String)
  | arr (items : List Json)
  | obj (fields : List (String × Json))
  deriving Inhabited

namespace Json

/-- The value of the first field with a name. -/
def field? (name : String) : List (String × Json) → Option Json
  | [] => none
  | (n, j) :: rest => if n = name then some j else field? name rest

/-- Among no fields none is found. -/
@[simp]
theorem field?_nil (name : String) : field? name [] = none :=
  rfl

/-- The first field of a name is found. -/
@[simp]
theorem field?_cons_self (name : String) (j : Json) (rest : List (String × Json)) :
    field? name ((name, j) :: rest) = some j := by
  simp [field?]

/-- A field of another name is passed over. -/
theorem field?_cons_of_ne {n name : String} (j : Json) (rest : List (String × Json))
    (h : n ≠ name) : field? name ((n, j) :: rest) = field? name rest := by
  simp [field?, h]

/-- A field of an object; `null` for a missing field and for a document that is no object. -/
def get (j : Json) (name : String) : Json :=
  match j with
  | .obj fields => (field? name fields).getD .null
  | _ => .null

/-- Puts a field into an object's fields, in the place of a field of the same name. -/
def setField (name : String) (j : Json) : List (String × Json) → List (String × Json)
  | [] => [(name, j)]
  | (n, i) :: rest => if n = name then (n, j) :: rest else (n, i) :: setField name j rest

end Json
end Orchestration
