import Orchestration.Admission.Spec
import Orchestration.Admission.State
import Orchestration.LocalService.Stores

/-!
# Admission of local service operations

Every operation is checked against the state of its service; operations on single instances are
checked against the records of these instances.

Main definitions: `LocalService.allowed`, `LocalService.review`.
-/

namespace Orchestration
namespace LocalService

/-- The kinds of operations that a state allows. -/
def allowed : LocalServiceState → List LocalServiceOperationType
  | .emergencyDeactivationRequested => [.deactivate]
  | .inactive =>
    [.activate, .deployTestInstance, .adjustInstances, .destroy, .updateInstanceCount]
  | .configTesting =>
    [.activate, .deactivate, .adjustInstances, .replaceInstances, .restart, .stopInstances]
  | .active =>
    [.deactivate, .updateInstanceCount, .adjustInstances, .replaceInstances, .restart,
      .stopInstances]
  | .init | .activationRequested | .configTestingRequested | .destroyRequested
  | .deactivationRequested | .updatingInstancesCount | .adjustingInstances
  | .replacingInstances | .stoppingInstances | .destroyed => []

/-- The requested instances that have no healthy record. -/
def notHealthy (w : LocalServiceStores) (id : DeployableId) (ids : SortedSet InstanceId) :
    List InstanceId :=
  ids.toList.filter (fun i =>
    match w.instances.root.get id i with
    | some r => r.state != .healthy
    | none => true)

/-- Whether the instances of a request are all healthy; `complaint` starts the refusal. -/
def reviewHealthy (w : LocalServiceStores) (id : DeployableId) (ids : SortedSet InstanceId)
    (complaint : String) : Verdict :=
  match notHealthy w id ids with
  | [] => .success
  | missing => .failure (complaint ++ Listing.bracketed (missing.map (·.text)))

/-- Whether the number of instances may be changed: not for services at host level. -/
def reviewCountUpdate (w : LocalServiceStores) (id : DeployableId) : Verdict :=
  let refusal : Verdict :=
    .failure "Update is allowed for services that do not have Host Level option set"
  match w.record? id with
  | some r => if r.spec.placementPolicy.isHostLevel then refusal else .success
  | none => refusal

/-- What an admitted state leaves to be checked of an operation. -/
def reviewInState (settings : AdmissionSettings) (known : Bool) (w : LocalServiceStores)
    (op : LocalServiceOperation) : Verdict :=
  match op with
  | .create spec _ _ =>
    if known then .failure ("Local service " ++ op.serviceId.text ++ " already exists")
    else spec.review settings
  | .updateInstanceCount id _ _ => reviewCountUpdate w id
  | .replaceInstances id ids _ _ =>
    reviewHealthy w id ids "There are no replaceable healthy instances with ids: "
  | .stopInstances id ids _ => reviewHealthy w id ids "There are no healthy instances with ids: "
  | .activate .. | .deactivate .. | .deployTestInstance .. | .adjustInstances .. | .restart ..
  | .destroy .. => .success

/-- Whether an operation is admitted, given the states of the registered services. -/
def review (settings : AdmissionSettings) (stateOf : DeployableId → Option LocalServiceState)
    (w : LocalServiceStores) (op : LocalServiceOperation) : Verdict :=
  let id := op.serviceId
  if id.isBlank then .failure "No local service id found in operation"
  else
    match op.opType, stateOf id with
    | .create, state => reviewInState settings state.isSome w op
    | _, none => .failure ("No state found for local service: " ++ id.text)
    | kind, some state =>
      match Admission.byState id "local service" (Named.name state) kind (allowed state) with
      | some refusal => refusal
      | none => reviewInState settings true w op

end LocalService
end Orchestration
