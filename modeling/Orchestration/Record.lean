import Orchestration.Operation
import Orchestration.State
import Orchestration.Time.Timestamp

/-!
# Records

What the durable store holds: the desired state of applications and local services, and the
reported state of their instances and of task runs.  A record carries the moment it was last
written; one that was written more than a minute ago counts as stale.

Main results:

- `InstanceRecord.isStale_withState`: a record that was just written is not stale.
-/

namespace Orchestration

/-- The nanoseconds after which a record counts as stale. -/
def staleAge : Int :=
  60 * 1000000000

/-- Whether something written at one moment is stale at another. -/
def isStaleAt (now updated : Timestamp) : Bool :=
  staleAge < now.unixNanos - updated.unixNanos

/-- What was updated just now is not stale. -/
@[simp]
theorem isStaleAt_self (now : Timestamp) : isStaleAt now now = false := by
  simp [isStaleAt, staleAge]

/-- The error message of a record whose instance was not heard of for too long. -/
def lostMessage : String :=
  "Instance lost"

/-- The desired state of an application. -/
structure ApplicationRecord where
  appId : DeployableId
  spec : ApplicationSpec
  instances : UInt64
  created : Timestamp
  updated : Timestamp

namespace ApplicationRecord

instance : Wire ApplicationRecord where
  encode r := .obj [
    ("app_id", encode r.appId), ("spec", encode r.spec), ("instances", encode r.instances),
    ("created", encode r.created), ("updated", encode r.updated)]
  decodeIn mode j := do
    let f ← Fields.of? mode ["app_id", "spec", "instances", "created", "updated"] j
    return {
      appId := ← f.required "app_id"
      spec := ← f.required "spec"
      instances := ← f.required "instances"
      created := ← f.required "created"
      updated := ← f.required "updated" }

/-- The first record of an application. -/
def ofSpec (now : Timestamp) (spec : ApplicationSpec) (instances : UInt64) : ApplicationRecord :=
  ⟨spec.id, spec, instances, now, now⟩

/-- The record with another desired number of instances. -/
def withInstances (r : ApplicationRecord) (now : Timestamp) (n : UInt64) : ApplicationRecord :=
  { r with instances := n, updated := now }

end ApplicationRecord

/-- The desired state of a local service. -/
structure LocalServiceRecord where
  serviceId : DeployableId
  spec : LocalServiceSpec
  instancesPerHost : UInt32
  activationState : ActivationState
  created : Timestamp
  updated : Timestamp

namespace LocalServiceRecord

instance : Wire LocalServiceRecord where
  encode r := .obj [
    ("service_id", encode r.serviceId), ("spec", encode r.spec),
    ("instances_per_host", encode r.instancesPerHost),
    ("activation_state", encode r.activationState),
    ("created", encode r.created), ("updated", encode r.updated)]
  decodeIn mode j := do
    let f ← Fields.of? mode
      ["service_id", "spec", "instances_per_host", "activation_state", "created", "updated"] j
    return {
      serviceId := ← f.required "service_id"
      spec := ← f.required "spec"
      instancesPerHost := ← f.required "instances_per_host"
      activationState := ← f.required "activation_state"
      created := ← f.required "created"
      updated := ← f.required "updated" }

/-- The first record of a local service, which is not active yet. -/
def ofSpec (now : Timestamp) (spec : LocalServiceSpec) (instancesPerHost : UInt32) :
    LocalServiceRecord :=
  ⟨spec.id, spec, instancesPerHost, .inactive, now, now⟩

/-- The record with another activation state. -/
def withActivationState (r : LocalServiceRecord) (now : Timestamp) (s : ActivationState) :
    LocalServiceRecord :=
  { r with activationState := s, updated := now }

/-- The record with another number of instances on every executor. -/
def withInstancesPerHost (r : LocalServiceRecord) (now : Timestamp) (n : UInt32) :
    LocalServiceRecord :=
  { r with instancesPerHost := n, updated := now }

end LocalServiceRecord

/-- What an instance is an instance of. -/
inductive OwnerKind where
  | application
  | localService
  deriving DecidableEq, Repr

namespace OwnerKind

/-- The field that names the owner. -/
def idField : OwnerKind → String
  | .application => "app_id"
  | .localService => "service_id"

/-- The field that holds the name of the owner. -/
def nameField : OwnerKind → String
  | .application => "app_name"
  | .localService => "service_name"

end OwnerKind

/-- One instance of an application or of a local service. -/
structure InstanceRecord where
  owner : DeployableId
  ownerName : String
  instanceId : InstanceId
  executorId : ExecutorId
  hostname : String
  resources : List ResourceAllocation := []
  state : InstanceState
  errorMessage : Option String := none
  created : Timestamp
  updated : Timestamp

namespace InstanceRecord

/-- The document of an instance of an owner of the given kind. -/
def encodeFor (kind : OwnerKind) (r : InstanceRecord) : Json :=
  .obj [
    (kind.idField, encode r.owner), (kind.nameField, encode r.ownerName),
    ("instance_id", encode r.instanceId), ("executor_id", encode r.executorId),
    ("hostname", encode r.hostname), ("resources", encode r.resources),
    ("state", encode r.state), ("error_message", encode r.errorMessage),
    ("created", encode r.created), ("updated", encode r.updated)]

/-- Reads an instance of an owner of the given kind. -/
def decodeFor (kind : OwnerKind) (j : Json) : Option InstanceRecord := do
  let f ← Fields.of? .direct [kind.idField, kind.nameField, "instance_id", "executor_id",
    "hostname", "resources", "state", "error_message", "created", "updated"] j
  return {
    owner := ← f.required kind.idField
    ownerName := ← f.required kind.nameField
    instanceId := ← f.required "instance_id"
    executorId := ← f.required "executor_id"
    hostname := ← f.required "hostname"
    resources := ← f.withDefault "resources" []
    state := ← f.required "state"
    errorMessage := ← f.withDefault "error_message" none
    created := ← f.required "created"
    updated := ← f.required "updated" }

/-- Whether the instance was not heard of for too long. -/
def isStale (r : InstanceRecord) (now : Timestamp) : Bool :=
  isStaleAt now r.updated

/-- The record with another state and error message. -/
def withState (r : InstanceRecord) (now : Timestamp) (s : InstanceState)
    (message : Option String) : InstanceRecord :=
  { r with state := s, errorMessage := message, updated := now }

/-- The record of an instance that was given up. -/
def asLost (r : InstanceRecord) (now : Timestamp) : InstanceRecord :=
  r.withState now .lost (some lostMessage)

/-- A record that was just written is not stale. -/
@[simp]
theorem isStale_withState (r : InstanceRecord) (now : Timestamp) (s : InstanceState)
    (message : Option String) : (r.withState now s message).isStale now = false := by
  simp [isStale, withState]

end InstanceRecord

/-- How a task run ended. -/
inductive TaskResultStatus where
  | successful
  | failed
  | cancelled
  | lost
  deriving DecidableEq, Repr

instance : Named TaskResultStatus where
  members := [.successful, .failed, .cancelled, .lost]
  name
    | .successful => "SUCCESSFUL"
    | .failed => "FAILED"
    | .cancelled => "CANCELLED"
    | .lost => "LOST"

/-- The result of a task run. -/
structure TaskResult where
  status : TaskResultStatus
  exitCode : Int64
  deriving DecidableEq, Repr

instance : Wire TaskResult where
  encode r := .obj [("status", encode r.status), ("exit_code", encode r.exitCode)]
  decodeIn mode j := do
    let f ← Fields.of? mode ["status", "exit_code"] j
    return {
      status := ← f.required "status"
      exitCode := ← f.required "exit_code" }

/-- One task run. -/
structure TaskRecord where
  sourceAppName : String
  taskId : String
  instanceId : InstanceId
  executorId : ExecutorId
  hostname : String
  resources : List ResourceAllocation := []
  state : TaskState
  result : Option TaskResult := none
  errorMessage : Option String := none
  created : Timestamp
  updated : Timestamp

namespace TaskRecord

instance : Wire TaskRecord where
  encode r := .obj [
    ("source_app_name", encode r.sourceAppName), ("task_id", encode r.taskId),
    ("instance_id", encode r.instanceId), ("executor_id", encode r.executorId),
    ("hostname", encode r.hostname), ("resources", encode r.resources),
    ("state", encode r.state), ("result", encode r.result),
    ("error_message", encode r.errorMessage),
    ("created", encode r.created), ("updated", encode r.updated)]
  decodeIn mode j := do
    let f ← Fields.of? mode ["source_app_name", "task_id", "instance_id", "executor_id", "hostname",
      "resources", "state", "result", "error_message", "created", "updated"] j
    return {
      sourceAppName := ← f.required "source_app_name"
      taskId := ← f.required "task_id"
      instanceId := ← f.required "instance_id"
      executorId := ← f.required "executor_id"
      hostname := ← f.required "hostname"
      resources := ← f.withDefault "resources" []
      state := ← f.required "state"
      result := ← f.withDefault "result" none
      errorMessage := ← f.withDefault "error_message" none
      created := ← f.required "created"
      updated := ← f.required "updated" }

/-- Whether the task was not heard of for too long. -/
def isStale (r : TaskRecord) (now : Timestamp) : Bool :=
  isStaleAt now r.updated

/-- The record of a task run that was given up. -/
def asLost (r : TaskRecord) (now : Timestamp) : TaskRecord :=
  { r with
    state := .lost, result := some ⟨.lost, -1⟩, errorMessage := some lostMessage, updated := now }

end TaskRecord
end Orchestration
