import Orchestration.Lifecycle.Kind

/-!
# The local service machine

The states of a local service, the action that runs in each, and where it may lead.  In the
waiting states the routing action turns the pending operation into the state that deals with it;
the operation stays pending for the action of that state.  A repeated creation is acknowledged and
dropped.

Main definitions: `LocalService.blueprint`, `LocalService.route`.
-/

namespace Orchestration

/-- The actions of the local service machine. -/
inductive LocalServiceAction where
  | create
  | route
  | activate
  | deactivate
  | deployTestInstance
  | updateInstanceCount
  | adjustInstances
  | replaceInstances
  | stopInstances
  | emergencyDeactivation
  | destroy
  deriving DecidableEq, Repr

instance : Named LocalServiceAction where
  members := [.create, .route, .activate, .deactivate, .deployTestInstance, .updateInstanceCount,
    .adjustInstances, .replaceInstances, .stopInstances, .emergencyDeactivation, .destroy]
  name
    | .create => "CREATE"
    | .route => "ROUTE"
    | .activate => "ACTIVATE"
    | .deactivate => "DEACTIVATE"
    | .deployTestInstance => "DEPLOY_TEST_INSTANCE"
    | .updateInstanceCount => "UPDATE_INSTANCE_COUNT"
    | .adjustInstances => "ADJUST_INSTANCES"
    | .replaceInstances => "REPLACE_INSTANCES"
    | .stopInstances => "STOP_INSTANCES"
    | .emergencyDeactivation => "EMERGENCY_DEACTIVATION"
    | .destroy => "DESTROY"

namespace LocalService

/-- What engines call the actors of local services. -/
def jobType : String :=
  "LOCAL_SERVICE"

/-- The states that routing may lead to. -/
def routed : List LocalServiceState :=
  [.activationRequested, .deactivationRequested, .configTestingRequested, .updatingInstancesCount,
    .adjustingInstances, .replacingInstances, .stoppingInstances, .destroyRequested, .destroyed]

/-- The transition of a waiting state. -/
def routing (source : LocalServiceState) : Transition LocalServiceState LocalServiceAction :=
  ⟨source, .route, source :: routed⟩

/-- The transitions of a local service. -/
def transitions : List (Transition LocalServiceState LocalServiceAction) := [
  ⟨.init, .create, [.active, .inactive, .destroyed]⟩,
  routing .active,
  routing .inactive,
  routing .configTesting,
  ⟨.activationRequested, .activate, [.active, .destroyed]⟩,
  ⟨.deactivationRequested, .deactivate, [.inactive, .destroyed]⟩,
  ⟨.configTestingRequested, .deployTestInstance, [.inactive, .configTesting, .destroyed]⟩,
  ⟨.updatingInstancesCount, .updateInstanceCount,
    [.active, .inactive, .configTesting, .destroyed]⟩,
  ⟨.adjustingInstances, .adjustInstances,
    [.active, .emergencyDeactivationRequested, .inactive, .configTesting]⟩,
  ⟨.replacingInstances, .replaceInstances,
    [.active, .inactive, .configTesting, .replacingInstances]⟩,
  ⟨.stoppingInstances, .stopInstances, [.active, .inactive, .configTesting]⟩,
  ⟨.emergencyDeactivationRequested, .emergencyDeactivation,
    [.deactivationRequested, .emergencyDeactivationRequested]⟩,
  ⟨.destroyRequested, .destroy, [.destroyed]⟩]

/-- The blueprint of a local service. -/
def blueprint : Blueprint LocalServiceState LocalServiceAction where
  table := transitions
  isPaused := LocalServiceState.isPaused
  isTerminal := LocalServiceState.isTerminal
  stateName := Named.name
  actionName
    | .route => "route"
    | a => Named.name a

/-- Routes the pending operation to the state that deals with it. -/
def route {δ : Type} (pending : Option LocalServiceOperation)
    (current : Snapshot LocalServiceState δ) : Routing LocalServiceState δ :=
  match pending with
  | none => { result := .ok none }
  | some (.activate ..) => { result := .ok (some (current.move .activationRequested)) }
  | some (.deactivate ..) => { result := .ok (some (current.move .deactivationRequested)) }
  | some (.deployTestInstance ..) =>
    { result := .ok (some (current.move .configTestingRequested)) }
  | some (.updateInstanceCount ..) =>
    { result := .ok (some (current.move .updatingInstancesCount)) }
  | some (.adjustInstances ..) => { result := .ok (some (current.move .adjustingInstances)) }
  | some (.replaceInstances ..) => { result := .ok (some (current.move .replacingInstances)) }
  | some (.restart ..) => { result := .ok (some (current.move .replacingInstances)) }
  | some (.stopInstances ..) => { result := .ok (some (current.move .stoppingInstances)) }
  | some (.destroy ..) => { result := .ok (some (current.move .destroyRequested)) }
  | some (.create ..) => { acknowledges := true, result := .ok none }

end LocalService
end Orchestration
