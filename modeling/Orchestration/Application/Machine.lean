import Orchestration.Lifecycle.Kind

/-!
# The application machine

The states of an application, the action that runs in each, and where it may lead.  In the two
waiting states the routing action turns the pending operation into the state that deals with it;
the operation stays pending for the action of that state.  A repeated creation is acknowledged and
dropped.

Main definitions: `Application.blueprint`, `Application.route`.
-/

namespace Orchestration

/-- The actions of the application machine. -/
inductive ApplicationAction where
  | create
  | route
  | recover
  | scale
  | replaceInstances
  | stopInstances
  | destroy
  deriving DecidableEq, Repr

instance : Named ApplicationAction where
  members := [.create, .route, .recover, .scale, .replaceInstances, .stopInstances, .destroy]
  name
    | .create => "CREATE"
    | .route => "ROUTE"
    | .recover => "RECOVER"
    | .scale => "SCALE"
    | .replaceInstances => "REPLACE_INSTANCES"
    | .stopInstances => "STOP_INSTANCES"
    | .destroy => "DESTROY"

namespace Application

/-- What engines call the actors of applications. -/
def jobType : String :=
  "APPLICATION"

/-- The transitions of an application. -/
def transitions : List (Transition ApplicationState ApplicationAction) := [
  ⟨.init, .create, [.monitoring, .running]⟩,
  ⟨.monitoring, .route, [.monitoring, .outageDetected, .scalingRequested, .destroyRequested]⟩,
  ⟨.running, .route, [.running, .outageDetected, .scalingRequested, .stopInstancesRequested,
    .replaceInstancesRequested]⟩,
  ⟨.outageDetected, .recover, [.scalingRequested]⟩,
  ⟨.scalingRequested, .scale, [.monitoring, .running, .scalingRequested]⟩,
  ⟨.replaceInstancesRequested, .replaceInstances, [.monitoring, .running]⟩,
  ⟨.stopInstancesRequested, .stopInstances, [.monitoring, .running]⟩,
  ⟨.destroyRequested, .destroy, [.destroyed]⟩]

/-- The blueprint of an application. -/
def blueprint : Blueprint ApplicationState ApplicationAction where
  table := transitions
  isPaused := ApplicationState.isPaused
  isTerminal := ApplicationState.isTerminal
  stateName := Named.name
  actionName
    | .route => "route"
    | a => Named.name a

/-- Routes the pending operation to the state that deals with it.  Operations that are never
staged, because they have another canonical form, do not belong here. -/
def route {δ : Type} (pending : Option ApplicationOperation)
    (current : Snapshot ApplicationState δ) : Routing ApplicationState δ :=
  match pending with
  | none => { result := .ok none }
  | some (.destroy ..) => { result := .ok (some (current.move .destroyRequested)) }
  | some (.stopInstances ..) => { result := .ok (some (current.move .stopInstancesRequested)) }
  | some (.scale ..) => { result := .ok (some (current.move .scalingRequested)) }
  | some (.replaceInstances ..) =>
    { result := .ok (some (current.move .replaceInstancesRequested)) }
  | some (.recover ..) => { result := .ok (some (current.move .outageDetected)) }
  | some (.create ..) => { acknowledges := true, result := .ok none }
  | some (.startInstances ..) =>
    { acknowledges := true
      result := .error (.unexpectedOperation (Named.name ApplicationOperationType.startInstances)) }
  | some (.suspend ..) =>
    { acknowledges := true
      result := .error (.unexpectedOperation (Named.name ApplicationOperationType.suspend)) }

end Application
end Orchestration
