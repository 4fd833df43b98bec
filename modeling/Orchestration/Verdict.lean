import Orchestration.Json.Codec

/-!
# Verdicts

The outcome of admission.  The constructors below never leave the list of messages empty.

Main results:

- `Verdict.messages_ofErrors_ne_nil`: a verdict over a list of errors has a message.
- `Verdict.isSuccess_ofErrors`: it is a success exactly when there was no error.
-/

namespace Orchestration

/-- Whether an operation was admitted. -/
inductive VerdictStatus where
  | success
  | failure
  deriving DecidableEq, Repr

instance : Named VerdictStatus where
  members := [.success, .failure]
  name
    | .success => "SUCCESS"
    | .failure => "FAILURE"

/-- The outcome of admission with the messages for the client. -/
structure Verdict where
  status : VerdictStatus
  messages : List String
  deriving DecidableEq, Repr

namespace Verdict

instance : Wire Verdict where
  encode v := .obj [("status", encode v.status), ("messages", encode v.messages)]
  decodeIn mode j := do
    let f ← Fields.of? mode ["status", "messages"] j
    return {
      status := ← f.required "status"
      messages := ← f.required "messages" }

/-- The verdict on what was admitted. -/
def success : Verdict :=
  ⟨.success, ["Success"]⟩

/-- A refusal with one message. -/
def failure (message : String) : Verdict :=
  ⟨.failure, [message]⟩

/-- A refusal with all its messages; a general one stands in for none. -/
def failures (messages : List String) : Verdict :=
  if messages.isEmpty then failure "Validation failed" else ⟨.failure, messages⟩

/-- A success when there are no errors, a refusal that names all of them otherwise. -/
def ofErrors (errors : List String) : Verdict :=
  if errors.isEmpty then success else failures errors

/-- Whether the operation was admitted. -/
def isSuccess (v : Verdict) : Bool :=
  v.status = .success

/-- A success is one. -/
@[simp]
theorem isSuccess_success : success.isSuccess = true :=
  rfl

/-- A refusal is none. -/
@[simp]
theorem isSuccess_failure (message : String) : (failure message).isSuccess = false :=
  rfl

/-- With an error there is a refusal that names all of them. -/
theorem ofErrors_cons (e : String) (es : List String) :
    ofErrors (e :: es) = ⟨.failure, e :: es⟩ :=
  rfl

/-- A verdict over a list of errors is a success exactly when the list is empty. -/
theorem isSuccess_ofErrors (errors : List String) :
    (ofErrors errors).isSuccess = true ↔ errors = [] := by
  cases errors with
  | nil => simp [ofErrors]
  | cons e es => simp [ofErrors_cons, isSuccess]

/-- A verdict over a list of errors has a message. -/
theorem messages_ofErrors_ne_nil (errors : List String) : (ofErrors errors).messages ≠ [] := by
  cases errors with
  | nil => simp [ofErrors, success]
  | cons e es => simp [ofErrors_cons]

end Verdict
end Orchestration
