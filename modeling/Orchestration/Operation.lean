import Orchestration.Spec.Deployable

/-!
# Operations

The commands that clients send.  Every operation names its target and says how the cluster work
that follows from it is to be carried out.
-/

namespace Orchestration

/-- What happens to the other jobs of an operation when one of them fails. -/
inductive FailureStrategy where
  | stop
  | continueOn
  deriving DecidableEq, Repr

instance : Named FailureStrategy where
  members := [.stop, .continueOn]
  name
    | .stop => "STOP"
    | .continueOn => "CONTINUE"

/-- How cluster work is carried out. -/
structure ClusterOpSpec where
  timeoutMs : UInt64 := 300000
  parallelism : UInt32 := 1
  failureStrategy : FailureStrategy := .stop
  deriving DecidableEq, Repr

namespace ClusterOpSpec

instance : Wire ClusterOpSpec where
  encode s := .obj [
    ("timeout_ms", encode s.timeoutMs), ("parallelism", encode s.parallelism),
    ("failure_strategy", encode s.failureStrategy)]
  decodeIn mode j := do
    let f ← Fields.of? mode ["timeout_ms", "parallelism", "failure_strategy"] j
    return {
      timeoutMs := ← f.required "timeout_ms"
      parallelism := ← f.required "parallelism"
      failureStrategy := ← f.required "failure_strategy" }

end ClusterOpSpec

/-- The kinds of application operations. -/
inductive ApplicationOperationType where
  | create
  | startInstances
  | stopInstances
  | scaleInstances
  | replaceInstances
  | suspend
  | recover
  | destroy
  deriving DecidableEq, Repr

instance : Named ApplicationOperationType where
  members := [.create, .startInstances, .stopInstances, .scaleInstances, .replaceInstances,
    .suspend, .recover, .destroy]
  name
    | .create => "CREATE"
    | .startInstances => "START_INSTANCES"
    | .stopInstances => "STOP_INSTANCES"
    | .scaleInstances => "SCALE_INSTANCES"
    | .replaceInstances => "REPLACE_INSTANCES"
    | .suspend => "SUSPEND"
    | .recover => "RECOVER"
    | .destroy => "DESTROY"

/-- A command for an application. -/
inductive ApplicationOperation where
  | create (spec : ApplicationSpec) (instances : UInt64) (opSpec : ClusterOpSpec)
  | startInstances (appId : DeployableId) (instances : UInt64) (opSpec : ClusterOpSpec)
  | stopInstances (appId : DeployableId) (instanceIds : List InstanceId) (skipRespawn : Bool)
      (opSpec : ClusterOpSpec)
  | scale (appId : DeployableId) (requiredInstances : UInt64) (opSpec : ClusterOpSpec)
  | replaceInstances (appId : DeployableId) (instanceIds : SortedSet InstanceId)
      (stopFirst : Bool) (opSpec : ClusterOpSpec)
  | suspend (appId : DeployableId) (opSpec : Option ClusterOpSpec)
  | recover (appId : DeployableId)
  | destroy (appId : DeployableId) (opSpec : ClusterOpSpec)

namespace ApplicationOperation

/-- The names of the application operations, in their order. -/
def caseNames : List String :=
  ["CREATE", "START_INSTANCES", "STOP_INSTANCES", "SCALE", "REPLACE_INSTANCES", "SUSPEND",
    "RECOVER", "DESTROY"]

instance : Wire ApplicationOperation where
  encode
    | .create spec instances opSpec => .tagged "CREATE" [
        ("spec", encode spec), ("instances", encode instances), ("op_spec", encode opSpec)]
    | .startInstances appId instances opSpec => .tagged "START_INSTANCES" [
        ("app_id", encode appId), ("instances", encode instances), ("op_spec", encode opSpec)]
    | .stopInstances appId instanceIds skipRespawn opSpec => .tagged "STOP_INSTANCES" [
        ("app_id", encode appId), ("instance_ids", encode instanceIds),
        ("skip_respawn", encode skipRespawn), ("op_spec", encode opSpec)]
    | .scale appId requiredInstances opSpec => .tagged "SCALE" [
        ("app_id", encode appId), ("required_instances", encode requiredInstances),
        ("op_spec", encode opSpec)]
    | .replaceInstances appId instanceIds stopFirst opSpec => .tagged "REPLACE_INSTANCES" [
        ("app_id", encode appId), ("instance_ids", encode instanceIds),
        ("stop_first", encode stopFirst), ("op_spec", encode opSpec)]
    | .suspend appId opSpec => .tagged "SUSPEND" [
        ("app_id", encode appId), ("op_spec", encode opSpec)]
    | .recover appId => .tagged "RECOVER" [("app_id", encode appId)]
    | .destroy appId opSpec => .tagged "DESTROY" [
        ("app_id", encode appId), ("op_spec", encode opSpec)]
  decodeIn mode j := do
    let (tag, j) ← j.tagged? mode caseNames
    match tag with
    | "CREATE" =>
      let f ← Fields.of? .buffered ["spec", "instances", "op_spec"] j
      return .create (← f.required "spec") (← f.required "instances") (← f.required "op_spec")
    | "START_INSTANCES" =>
      let f ← Fields.of? .buffered ["app_id", "instances", "op_spec"] j
      return .startInstances (← f.required "app_id") (← f.required "instances")
        (← f.required "op_spec")
    | "STOP_INSTANCES" =>
      let f ← Fields.of? .buffered ["app_id", "instance_ids", "skip_respawn", "op_spec"] j
      return .stopInstances (← f.required "app_id") (← f.required "instance_ids")
        (← f.withDefault "skip_respawn" false) (← f.required "op_spec")
    | "SCALE" =>
      let f ← Fields.of? .buffered ["app_id", "required_instances", "op_spec"] j
      return .scale (← f.required "app_id") (← f.required "required_instances")
        (← f.required "op_spec")
    | "REPLACE_INSTANCES" =>
      let f ← Fields.of? .buffered ["app_id", "instance_ids", "stop_first", "op_spec"] j
      return .replaceInstances (← f.required "app_id")
        (← f.withDefault "instance_ids" (∅ : SortedSet InstanceId))
        (← f.withDefault "stop_first" false) (← f.required "op_spec")
    | "SUSPEND" =>
      let f ← Fields.of? .buffered ["app_id", "op_spec"] j
      return .suspend (← f.required "app_id") (← f.withDefault "op_spec" none)
    | "RECOVER" =>
      let f ← Fields.of? .buffered ["app_id"] j
      return .recover (← f.required "app_id")
    | "DESTROY" =>
      let f ← Fields.of? .buffered ["app_id", "op_spec"] j
      return .destroy (← f.required "app_id") (← f.required "op_spec")
    | _ => none

/-- The kind of an operation. -/
def opType : ApplicationOperation → ApplicationOperationType
  | .create .. => .create
  | .startInstances .. => .startInstances
  | .stopInstances .. => .stopInstances
  | .scale .. => .scaleInstances
  | .replaceInstances .. => .replaceInstances
  | .suspend .. => .suspend
  | .recover .. => .recover
  | .destroy .. => .destroy

/-- The target of an operation; a creation is aimed at the application that its spec defines. -/
def appId : ApplicationOperation → DeployableId
  | .create spec _ _ => spec.id
  | .startInstances appId _ _ => appId
  | .stopInstances appId _ _ _ => appId
  | .scale appId _ _ => appId
  | .replaceInstances appId _ _ _ => appId
  | .suspend appId _ => appId
  | .recover appId => appId
  | .destroy appId _ => appId

/-- How the work of an operation is carried out, if the operation says so. -/
def opSpec? : ApplicationOperation → Option ClusterOpSpec
  | .create _ _ opSpec => some opSpec
  | .startInstances _ _ opSpec => some opSpec
  | .stopInstances _ _ _ opSpec => some opSpec
  | .scale _ _ opSpec => some opSpec
  | .replaceInstances _ _ _ opSpec => some opSpec
  | .suspend _ opSpec => opSpec
  | .recover _ => none
  | .destroy _ opSpec => some opSpec

end ApplicationOperation

/-- The kinds of local service operations. -/
inductive LocalServiceOperationType where
  | create
  | activate
  | deactivate
  | deployTestInstance
  | adjustInstances
  | updateInstanceCount
  | replaceInstances
  | stopInstances
  | restart
  | destroy
  deriving DecidableEq, Repr

instance : Named LocalServiceOperationType where
  members := [.create, .activate, .deactivate, .deployTestInstance, .adjustInstances,
    .updateInstanceCount, .replaceInstances, .stopInstances, .restart, .destroy]
  name
    | .create => "CREATE"
    | .activate => "ACTIVATE"
    | .deactivate => "DEACTIVATE"
    | .deployTestInstance => "DEPLOY_TEST_INSTANCE"
    | .adjustInstances => "ADJUST_INSTANCES"
    | .updateInstanceCount => "UPDATE_INSTANCE_COUNT"
    | .replaceInstances => "REPLACE_INSTANCES"
    | .stopInstances => "STOP_INSTANCES"
    | .restart => "RESTART"
    | .destroy => "DESTROY"

/-- A command for a local service. -/
inductive LocalServiceOperation where
  | create (spec : LocalServiceSpec) (instancesPerHost : UInt32) (opSpec : ClusterOpSpec)
  | activate (serviceId : DeployableId) (opSpec : ClusterOpSpec)
  | deactivate (serviceId : DeployableId) (opSpec : ClusterOpSpec)
  | deployTestInstance (serviceId : DeployableId) (opSpec : ClusterOpSpec)
  | adjustInstances (serviceId : DeployableId) (opSpec : ClusterOpSpec)
  | updateInstanceCount (serviceId : DeployableId) (instancesPerHost : UInt32)
      (opSpec : ClusterOpSpec)
  | replaceInstances (serviceId : DeployableId) (instanceIds : SortedSet InstanceId)
      (stopFirst : Bool) (opSpec : ClusterOpSpec)
  | stopInstances (serviceId : DeployableId) (instanceIds : SortedSet InstanceId)
      (opSpec : ClusterOpSpec)
  | restart (serviceId : DeployableId) (stopFirst : Bool) (opSpec : ClusterOpSpec)
  | destroy (serviceId : DeployableId) (opSpec : ClusterOpSpec)

namespace LocalServiceOperation

/-- The names of the local service operations, in their order. -/
def caseNames : List String :=
  ["CREATE", "ACTIVATE", "DEACTIVATE", "DEPLOY_TEST_INSTANCE", "ADJUST_INSTANCES",
    "UPDATE_INSTANCE_COUNT", "REPLACE_INSTANCES", "STOP_INSTANCES", "RESTART", "DESTROY"]

instance : Wire LocalServiceOperation where
  encode
    | .create spec instancesPerHost opSpec => .tagged "CREATE" [
        ("spec", encode spec), ("instances_per_host", encode instancesPerHost),
        ("op_spec", encode opSpec)]
    | .activate serviceId opSpec => .tagged "ACTIVATE" [
        ("service_id", encode serviceId), ("op_spec", encode opSpec)]
    | .deactivate serviceId opSpec => .tagged "DEACTIVATE" [
        ("service_id", encode serviceId), ("op_spec", encode opSpec)]
    | .deployTestInstance serviceId opSpec => .tagged "DEPLOY_TEST_INSTANCE" [
        ("service_id", encode serviceId), ("op_spec", encode opSpec)]
    | .adjustInstances serviceId opSpec => .tagged "ADJUST_INSTANCES" [
        ("service_id", encode serviceId), ("op_spec", encode opSpec)]
    | .updateInstanceCount serviceId instancesPerHost opSpec => .tagged "UPDATE_INSTANCE_COUNT" [
        ("service_id", encode serviceId), ("instances_per_host", encode instancesPerHost),
        ("op_spec", encode opSpec)]
    | .replaceInstances serviceId instanceIds stopFirst opSpec => .tagged "REPLACE_INSTANCES" [
        ("service_id", encode serviceId), ("instance_ids", encode instanceIds),
        ("stop_first", encode stopFirst), ("op_spec", encode opSpec)]
    | .stopInstances serviceId instanceIds opSpec => .tagged "STOP_INSTANCES" [
        ("service_id", encode serviceId), ("instance_ids", encode instanceIds),
        ("op_spec", encode opSpec)]
    | .restart serviceId stopFirst opSpec => .tagged "RESTART" [
        ("service_id", encode serviceId), ("stop_first", encode stopFirst),
        ("op_spec", encode opSpec)]
    | .destroy serviceId opSpec => .tagged "DESTROY" [
        ("service_id", encode serviceId), ("op_spec", encode opSpec)]
  decodeIn mode j := do
    let (tag, j) ← j.tagged? mode caseNames
    match tag with
    | "CREATE" =>
      let f ← Fields.of? .buffered ["spec", "instances_per_host", "op_spec"] j
      return .create (← f.required "spec") (← f.required "instances_per_host")
        (← f.required "op_spec")
    | "ACTIVATE" =>
      let f ← Fields.of? .buffered ["service_id", "op_spec"] j
      return .activate (← f.required "service_id") (← f.required "op_spec")
    | "DEACTIVATE" =>
      let f ← Fields.of? .buffered ["service_id", "op_spec"] j
      return .deactivate (← f.required "service_id") (← f.required "op_spec")
    | "DEPLOY_TEST_INSTANCE" =>
      let f ← Fields.of? .buffered ["service_id", "op_spec"] j
      return .deployTestInstance (← f.required "service_id") (← f.required "op_spec")
    | "ADJUST_INSTANCES" =>
      let f ← Fields.of? .buffered ["service_id", "op_spec"] j
      return .adjustInstances (← f.required "service_id") (← f.required "op_spec")
    | "UPDATE_INSTANCE_COUNT" =>
      let f ← Fields.of? .buffered ["service_id", "instances_per_host", "op_spec"] j
      return .updateInstanceCount (← f.required "service_id") (← f.required "instances_per_host")
        (← f.required "op_spec")
    | "REPLACE_INSTANCES" =>
      let f ← Fields.of? .buffered ["service_id", "instance_ids", "stop_first", "op_spec"] j
      return .replaceInstances (← f.required "service_id")
        (← f.withDefault "instance_ids" (∅ : SortedSet InstanceId))
        (← f.withDefault "stop_first" false) (← f.required "op_spec")
    | "STOP_INSTANCES" =>
      let f ← Fields.of? .buffered ["service_id", "instance_ids", "op_spec"] j
      return .stopInstances (← f.required "service_id") (← f.required "instance_ids")
        (← f.required "op_spec")
    | "RESTART" =>
      let f ← Fields.of? .buffered ["service_id", "stop_first", "op_spec"] j
      return .restart (← f.required "service_id") (← f.withDefault "stop_first" false)
        (← f.required "op_spec")
    | "DESTROY" =>
      let f ← Fields.of? .buffered ["service_id", "op_spec"] j
      return .destroy (← f.required "service_id") (← f.required "op_spec")
    | _ => none

/-- The kind of an operation. -/
def opType : LocalServiceOperation → LocalServiceOperationType
  | .create .. => .create
  | .activate .. => .activate
  | .deactivate .. => .deactivate
  | .deployTestInstance .. => .deployTestInstance
  | .adjustInstances .. => .adjustInstances
  | .updateInstanceCount .. => .updateInstanceCount
  | .replaceInstances .. => .replaceInstances
  | .stopInstances .. => .stopInstances
  | .restart .. => .restart
  | .destroy .. => .destroy

/-- The target of an operation; a creation is aimed at the service that its spec defines. -/
def serviceId : LocalServiceOperation → DeployableId
  | .create spec _ _ => spec.id
  | .activate serviceId _ => serviceId
  | .deactivate serviceId _ => serviceId
  | .deployTestInstance serviceId _ => serviceId
  | .adjustInstances serviceId _ => serviceId
  | .updateInstanceCount serviceId _ _ => serviceId
  | .replaceInstances serviceId _ _ _ => serviceId
  | .stopInstances serviceId _ _ => serviceId
  | .restart serviceId _ _ => serviceId
  | .destroy serviceId _ => serviceId

/-- How the work of an operation is carried out. -/
def opSpec : LocalServiceOperation → ClusterOpSpec
  | .create _ _ opSpec => opSpec
  | .activate _ opSpec => opSpec
  | .deactivate _ opSpec => opSpec
  | .deployTestInstance _ opSpec => opSpec
  | .adjustInstances _ opSpec => opSpec
  | .updateInstanceCount _ _ opSpec => opSpec
  | .replaceInstances _ _ _ opSpec => opSpec
  | .stopInstances _ _ opSpec => opSpec
  | .restart _ _ opSpec => opSpec
  | .destroy _ opSpec => opSpec

end LocalServiceOperation

/-- A command for a task. -/
inductive TaskOperation where
  | create (spec : TaskSpec) (opSpec : ClusterOpSpec)
  | kill (sourceAppName taskId : String) (opSpec : ClusterOpSpec)

namespace TaskOperation

/-- The names of the task operations, in their order. -/
def caseNames : List String :=
  ["CREATE", "KILL"]

instance : Wire TaskOperation where
  encode
    | .create spec opSpec => .tagged "CREATE" [
        ("spec", encode spec), ("op_spec", encode opSpec)]
    | .kill source task opSpec => .tagged "KILL" [
        ("source_app_name", encode source), ("task_id", encode task), ("op_spec", encode opSpec)]
  decodeIn mode j := do
    let (tag, j) ← j.tagged? mode caseNames
    match tag with
    | "CREATE" =>
      let f ← Fields.of? .buffered ["spec", "op_spec"] j
      return .create (← f.required "spec") (← f.required "op_spec")
    | "KILL" =>
      let f ← Fields.of? .buffered ["source_app_name", "task_id", "op_spec"] j
      return .kill (← f.required "source_app_name") (← f.required "task_id")
        (← f.required "op_spec")
    | _ => none

end TaskOperation
end Orchestration
