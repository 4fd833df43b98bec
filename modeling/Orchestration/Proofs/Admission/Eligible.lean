import Orchestration.Application.Admission
import Orchestration.LocalService.Admission

/-!
# Operations that a state allows

An operation is eligible when its target has an identifier and is registered in a state that allows
operations of its kind.  What is left to be reviewed of it is what it asks for.

Main results:

- `Application.review_of_eligible`, `LocalService.review_of_eligible`: the review of an eligible
  operation is that of what it asks for.
-/

namespace Orchestration

namespace Application

/-- An operation whose target is in a state that allows it. -/
def Eligible (stateOf : DeployableId → Option ApplicationState) (op : ApplicationOperation) :
    Prop :=
  op.appId.isBlank = false ∧ ∃ s, stateOf op.appId = some s ∧ op.opType ∈ allowed s

/-- Nothing but what an eligible operation asks for is left to be reviewed. -/
theorem review_of_eligible {stateOf : DeployableId → Option ApplicationState}
    {op : ApplicationOperation} (h : Eligible stateOf op) (settings : AdmissionSettings)
    (w : ApplicationStores) :
    review settings stateOf w op = reviewInState settings true w op := by
  obtain ⟨hid, s, hstate, hmem⟩ := h
  have hgate : Admission.byState op.appId "app" (Named.name s) op.opType (allowed s) = none :=
    Admission.byState_eq_none_iff.2 hmem
  unfold review
  simp only [hid, hstate, Bool.false_eq_true, if_false]
  cases op with
  | create => rfl
  | _ =>
      simp only [ApplicationOperation.opType] at hgate ⊢
      rw [hgate]

end Application

namespace LocalService

/-- An operation whose target is in a state that allows it. -/
def Eligible (stateOf : DeployableId → Option LocalServiceState) (op : LocalServiceOperation) :
    Prop :=
  op.serviceId.isBlank = false ∧ ∃ s, stateOf op.serviceId = some s ∧ op.opType ∈ allowed s

/-- Nothing but what an eligible operation asks for is left to be reviewed. -/
theorem review_of_eligible {stateOf : DeployableId → Option LocalServiceState}
    {op : LocalServiceOperation} (h : Eligible stateOf op) (settings : AdmissionSettings)
    (w : LocalServiceStores) :
    review settings stateOf w op = reviewInState settings true w op := by
  obtain ⟨hid, s, hstate, hmem⟩ := h
  have hgate : Admission.byState op.serviceId "local service" (Named.name s) op.opType
      (allowed s) = none := Admission.byState_eq_none_iff.2 hmem
  unfold review
  simp only [hid, hstate, Bool.false_eq_true, if_false]
  cases op with
  | create => rfl
  | _ =>
      simp only [LocalServiceOperation.opType] at hgate ⊢
      rw [hgate]

end LocalService
end Orchestration
