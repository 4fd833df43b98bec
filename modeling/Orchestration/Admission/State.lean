import Orchestration.Identity
import Orchestration.Text.Listing
import Orchestration.Verdict

/-!
# Admission by state

An operation is admitted only in the states that allow it.  A refusal lists the allowed kinds of
operations by name.

Main results:

- `Admission.byState_eq_none_iff`: an operation goes through exactly when the state allows it.
- `Admission.isSuccess_of_byState`: what is said of any other one is a refusal.
-/

namespace Orchestration
namespace Admission

/-- Refuses a kind of operation that a state does not allow.  `label` says what kind of entity
the identifier stands for. -/
def byState {τ : Type} [DecidableEq τ] [Named τ] (id : DeployableId) (label stateName : String)
    (kind : τ) (allowed : List τ) : Option Verdict :=
  if allowed.contains kind then none
  else if allowed.isEmpty then
    some (.failure ("No operations allowed for " ++ id.text ++ " as it is in " ++ stateName ++
      " state"))
  else
    let names := (allowed.map Named.name).mergeSort (fun a b => (compare a b).isLE)
    some (.failure ("Only " ++ Listing.bracketed names ++ " allowed for " ++ label ++ " " ++
      id.text ++ " as it is in " ++ stateName ++ " state"))

section ByState

variable {τ : Type} [DecidableEq τ] [Named τ] {id : DeployableId} {label stateName : String}
variable {kind : τ} {allowed : List τ}

/-- A kind of operation goes through exactly when the state allows it. -/
theorem byState_eq_none_iff : byState id label stateName kind allowed = none ↔ kind ∈ allowed := by
  unfold byState
  by_cases hmem : kind ∈ allowed
  · simp [hmem]
  · cases hempty : allowed.isEmpty <;> simp [hmem]

/-- What is said of any other kind is a refusal. -/
theorem isSuccess_of_byState {refusal : Verdict}
    (h : byState id label stateName kind allowed = some refusal) : refusal.isSuccess = false := by
  unfold byState at h
  split at h
  · cases h
  · split at h <;> cases h <;> rfl

end ByState

end Admission
end Orchestration
