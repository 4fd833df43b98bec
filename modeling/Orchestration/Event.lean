import Orchestration.Record
import Orchestration.Text.Uuid

/-!
# Lifecycle events

What the engines publish about the deployables and tasks that they look after.
-/

namespace Orchestration

/-- How much attention an event asks for. -/
inductive EventSeverity where
  | info
  | warning
  | error
  deriving DecidableEq, Repr

instance : Named EventSeverity where
  members := [.info, .warning, .error]
  name
    | .info => "info"
    | .warning => "warning"
    | .error => "error"

/-- A step in the lifecycle of an application, a local service or a task. -/
inductive LifecycleEvent where
  | applicationStateChange (appId : DeployableId) (name version : String)
      (state : ApplicationState)
  | localServiceStateChange (serviceId : DeployableId) (name version : String)
      (state : LocalServiceState)
  | taskStateChange (sourceAppName taskId : String) (state : TaskState)
  | taskCompleted (sourceAppName taskId : String)
  deriving DecidableEq, Repr

namespace LifecycleEvent

/-- The names of the events, in their order. -/
def caseNames : List String :=
  ["application_state_change", "local_service_state_change", "task_state_change",
    "task_completed"]

instance : Wire LifecycleEvent where
  encode
    | .applicationStateChange appId name version state => .tagged "application_state_change" [
        ("app_id", encode appId), ("name", encode name), ("version", encode version),
        ("state", encode state)]
    | .localServiceStateChange serviceId name version state =>
      .tagged "local_service_state_change" [
        ("service_id", encode serviceId), ("name", encode name), ("version", encode version),
        ("state", encode state)]
    | .taskStateChange source task state => .tagged "task_state_change" [
        ("source_app_name", encode source), ("task_id", encode task), ("state", encode state)]
    | .taskCompleted source task => .tagged "task_completed" [
        ("source_app_name", encode source), ("task_id", encode task)]
  decodeIn mode j := do
    let (tag, j) ← j.tagged? mode caseNames
    match tag with
    | "application_state_change" =>
      let f ← Fields.of? .buffered ["app_id", "name", "version", "state"] j
      return .applicationStateChange (← f.required "app_id") (← f.required "name")
        (← f.required "version") (← f.required "state")
    | "local_service_state_change" =>
      let f ← Fields.of? .buffered ["service_id", "name", "version", "state"] j
      return .localServiceStateChange (← f.required "service_id") (← f.required "name")
        (← f.required "version") (← f.required "state")
    | "task_state_change" =>
      let f ← Fields.of? .buffered ["source_app_name", "task_id", "state"] j
      return .taskStateChange (← f.required "source_app_name") (← f.required "task_id")
        (← f.required "state")
    | "task_completed" =>
      let f ← Fields.of? .buffered ["source_app_name", "task_id"] j
      return .taskCompleted (← f.required "source_app_name") (← f.required "task_id")
    | _ => none

/-- A failed application is an error and a lost task a warning; all else is information. -/
def severity : LifecycleEvent → EventSeverity
  | .applicationStateChange _ _ _ .failed => .error
  | .taskStateChange _ _ .lost => .warning
  | _ => .info

/-- What an event is about: the deployable, or the task with its source. -/
def subject : LifecycleEvent → String
  | .applicationStateChange appId _ _ _ => appId.text
  | .localServiceStateChange serviceId _ _ _ => serviceId.text
  | .taskStateChange source task _ => source ++ "/" ++ task
  | .taskCompleted source task => source ++ "/" ++ task

end LifecycleEvent

/-- An event with what its delivery needs. -/
structure EventEnvelope where
  id : Uuid
  timestamp : Timestamp
  severity : EventSeverity
  event : LifecycleEvent

instance : Wire EventEnvelope where
  encode e := .obj [
    ("id", encode e.id), ("timestamp", encode e.timestamp), ("severity", encode e.severity),
    ("event", encode e.event)]
  decodeIn mode j := do
    let f ← Fields.of? mode ["id", "timestamp", "severity", "event"] j
    return {
      id := ← f.required "id"
      timestamp := ← f.required "timestamp"
      severity := ← f.required "severity"
      event := ← f.required "event" }

end Orchestration
