import Orchestration.Admission.Capacity
import Orchestration.Admission.Spec
import Orchestration.Admission.State
import Orchestration.Application.Stores

/-!
# Admission of application operations

Every operation is checked against the state of its application, and an operation that adds
instances against the free capacity of the cluster as well.

Main definitions: `Application.allowed`, `Application.review`.
-/

namespace Orchestration
namespace Application

/-- The kinds of operations that a state allows. -/
def allowed : ApplicationState → List ApplicationOperationType
  | .monitoring => [.startInstances, .scaleInstances, .destroy, .recover]
  | .running =>
    [.startInstances, .stopInstances, .scaleInstances, .replaceInstances, .suspend, .recover]
  | .scalingRequested => [.scaleInstances]
  | .init | .outageDetected | .stopInstancesRequested | .replaceInstancesRequested
  | .destroyRequested | .destroyed | .failed => []

/-- Whether the cluster can take new instances of an application. -/
def reviewNew (w : ApplicationStores) (id : DeployableId) (n : UInt64) : Verdict :=
  if Cluster.count w.cluster true = 0 then .failure "No executors on cluster"
  else
    match w.record? id with
    | none => .failure ("No spec found for app " ++ id.text)
    | some r => .ofErrors (Capacity.shortages w.cluster r.spec.resources n)

/-- The number of instances that run or are on their way to run. -/
def runningCount (w : ApplicationStores) (id : DeployableId) : UInt64 :=
  UInt64.ofNat (Instances.count w.instances.root w.now id InstanceState.runningStates)

/-- Whether an application may be scaled: down always, up as far as the cluster can take it. -/
def reviewScale (w : ApplicationStores) (id : DeployableId) (required : UInt64) : Verdict :=
  let running := runningCount w id
  if required ≤ running then .success else reviewNew w id (required - running)

/-- The requested instances that are not active, sorted and without repetition. -/
def notActive (w : ApplicationStores) (id : DeployableId) (ids : List InstanceId) :
    List InstanceId :=
  let active := (Instances.active w.instances.root w.now id).map (·.instanceId)
  (SortedSet.ofList (ids.filter (fun i => !active.contains i))).toList

/-- Whether instances may be stopped: all of them have to be active. -/
def reviewStop (w : ApplicationStores) (id : DeployableId) (ids : List InstanceId) : Verdict :=
  match notActive w id ids with
  | [] => .success
  | missing =>
    .failure ("App " ++ id.text ++ " does not have any instances with the following ids: " ++
      Listing.commaSeparated (missing.map (·.text)))

/-- The requested instances that have no healthy record. -/
def notHealthy (w : ApplicationStores) (id : DeployableId) (ids : SortedSet InstanceId) :
    List InstanceId :=
  ids.toList.filter (fun i =>
    match w.instances.root.get id i with
    | some r => r.state != .healthy
    | none => true)

/-- Whether instances may be replaced: all of them have to be healthy. -/
def reviewReplace (w : ApplicationStores) (id : DeployableId) (ids : SortedSet InstanceId) :
    Verdict :=
  match notHealthy w id ids with
  | [] => .success
  | missing =>
    .failure ("There are no replaceable healthy instances with ids: " ++
      Listing.bracketed (missing.map (·.text)))

/-- What an admitted state leaves to be checked of an operation. -/
def reviewInState (settings : AdmissionSettings) (known : Bool) (w : ApplicationStores)
    (op : ApplicationOperation) : Verdict :=
  match op with
  | .create spec _ _ =>
    if known then .failure ("App " ++ op.appId.text ++ " already exists") else spec.review settings
  | .startInstances id n _ => reviewNew w id n
  | .stopInstances id ids _ _ => reviewStop w id ids
  | .scale id required _ => reviewScale w id required
  | .replaceInstances id ids _ _ => reviewReplace w id ids
  | .suspend .. | .recover .. | .destroy .. => .success

/-- Whether an operation is admitted, given the states of the registered applications. -/
def review (settings : AdmissionSettings) (stateOf : DeployableId → Option ApplicationState)
    (w : ApplicationStores) (op : ApplicationOperation) : Verdict :=
  let id := op.appId
  if id.isBlank then .failure "no app id found in operation"
  else
    match op.opType, stateOf id with
    | .create, state => reviewInState settings state.isSome w op
    | _, none => .failure ("No state found for app: " ++ id.text)
    | kind, some state =>
      match Admission.byState id "app" (Named.name state) kind (allowed state) with
      | some refusal => refusal
      | none => reviewInState settings true w op

end Application
end Orchestration
