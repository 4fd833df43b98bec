import Orchestration.Json.Codec

/-!
# Lifecycle states

The closed sets of states that applications, local services, instances and tasks move through,
with the names that they are written by.
-/

namespace Orchestration

/-- The lifecycle of an application. -/
inductive ApplicationState where
  | init
  | monitoring
  | running
  | outageDetected
  | scalingRequested
  | stopInstancesRequested
  | replaceInstancesRequested
  | destroyRequested
  | destroyed
  | failed
  deriving DecidableEq, Repr, Inhabited

namespace ApplicationState

instance : Named ApplicationState where
  members := [.init, .monitoring, .running, .outageDetected, .scalingRequested,
    .stopInstancesRequested, .replaceInstancesRequested, .destroyRequested, .destroyed, .failed]
  name
    | .init => "INIT"
    | .monitoring => "MONITORING"
    | .running => "RUNNING"
    | .outageDetected => "OUTAGE_DETECTED"
    | .scalingRequested => "SCALING_REQUESTED"
    | .stopInstancesRequested => "STOP_INSTANCES_REQUESTED"
    | .replaceInstancesRequested => "REPLACE_INSTANCES_REQUESTED"
    | .destroyRequested => "DESTROY_REQUESTED"
    | .destroyed => "DESTROYED"
    | .failed => "FAILED"

/-- Nothing runs for an application in this state any more. -/
def isTerminal (s : ApplicationState) : Bool :=
  s = .destroyed || s = .failed

/-- An application in this state waits for its next operation. -/
def isPaused (s : ApplicationState) : Bool :=
  s = .monitoring || s = .running

end ApplicationState

/-- The lifecycle of a local service. -/
inductive LocalServiceState where
  | init
  | activationRequested
  | active
  | deactivationRequested
  | emergencyDeactivationRequested
  | inactive
  | configTestingRequested
  | configTesting
  | updatingInstancesCount
  | adjustingInstances
  | replacingInstances
  | stoppingInstances
  | destroyRequested
  | destroyed
  deriving DecidableEq, Repr, Inhabited

namespace LocalServiceState

instance : Named LocalServiceState where
  members := [.init, .activationRequested, .active, .deactivationRequested,
    .emergencyDeactivationRequested, .inactive, .configTestingRequested, .configTesting,
    .updatingInstancesCount, .adjustingInstances, .replacingInstances, .stoppingInstances,
    .destroyRequested, .destroyed]
  name
    | .init => "INIT"
    | .activationRequested => "ACTIVATION_REQUESTED"
    | .active => "ACTIVE"
    | .deactivationRequested => "DEACTIVATION_REQUESTED"
    | .emergencyDeactivationRequested => "EMERGENCY_DEACTIVATION_REQUESTED"
    | .inactive => "INACTIVE"
    | .configTestingRequested => "CONFIG_TESTING_REQUESTED"
    | .configTesting => "CONFIG_TESTING"
    | .updatingInstancesCount => "UPDATING_INSTANCES_COUNT"
    | .adjustingInstances => "ADJUSTING_INSTANCES"
    | .replacingInstances => "REPLACING_INSTANCES"
    | .stoppingInstances => "STOPPING_INSTANCES"
    | .destroyRequested => "DESTROY_REQUESTED"
    | .destroyed => "DESTROYED"

/-- Nothing runs for a local service in this state any more. -/
def isTerminal (s : LocalServiceState) : Bool :=
  s = .destroyed

/-- A local service in this state waits for its next operation. -/
def isPaused (s : LocalServiceState) : Bool :=
  s = .active || s = .inactive || s = .configTesting || s = .emergencyDeactivationRequested

end LocalServiceState

/-- Whether a local service should be running. -/
inductive ActivationState where
  | active
  | inactive
  | configTesting
  | unknown
  deriving DecidableEq, Repr, Inhabited

instance : Named ActivationState where
  members := [.active, .inactive, .configTesting, .unknown]
  name
    | .active => "ACTIVE"
    | .inactive => "INACTIVE"
    | .configTesting => "CONFIG_TESTING"
    | .unknown => "UNKNOWN"

/-- The state of one instance of an application or a local service. -/
inductive InstanceState where
  | pending
  | provisioning
  | provisioningFailed
  | starting
  | startFailed
  | unready
  | ready
  | healthy
  | unhealthy
  | deprovisioning
  | stopping
  | stopped
  | lost
  | unknown
  deriving DecidableEq, Repr, Inhabited

namespace InstanceState

instance : Named InstanceState where
  members := [.pending, .provisioning, .provisioningFailed, .starting, .startFailed, .unready,
    .ready, .healthy, .unhealthy, .deprovisioning, .stopping, .stopped, .lost, .unknown]
  name
    | .pending => "PENDING"
    | .provisioning => "PROVISIONING"
    | .provisioningFailed => "PROVISIONING_FAILED"
    | .starting => "STARTING"
    | .startFailed => "START_FAILED"
    | .unready => "UNREADY"
    | .ready => "READY"
    | .healthy => "HEALTHY"
    | .unhealthy => "UNHEALTHY"
    | .deprovisioning => "DEPROVISIONING"
    | .stopping => "STOPPING"
    | .stopped => "STOPPED"
    | .lost => "LOST"
    | .unknown => "UNKNOWN"

/-- The states of an instance that still holds resources. -/
def activeStates : List InstanceState :=
  [.pending, .provisioning, .starting, .unready, .ready, .healthy, .unhealthy, .deprovisioning,
    .stopping]

/-- The states of an instance that runs or is on its way to run. -/
def runningStates : List InstanceState :=
  [.pending, .provisioning, .healthy, .starting, .unready, .ready]

/-- The instance still holds resources. -/
def isActive (s : InstanceState) : Bool :=
  activeStates.contains s

/-- The instance is gone. -/
def isTerminal (s : InstanceState) : Bool :=
  !s.isActive

end InstanceState

/-- The state of one task run. -/
inductive TaskState where
  | pending
  | provisioning
  | provisioningFailed
  | starting
  | running
  | runCompleted
  | deprovisioning
  | stopped
  | lost
  | unknown
  deriving DecidableEq, Repr, Inhabited

namespace TaskState

instance : Named TaskState where
  members := [.pending, .provisioning, .provisioningFailed, .starting, .running, .runCompleted,
    .deprovisioning, .stopped, .lost, .unknown]
  name
    | .pending => "PENDING"
    | .provisioning => "PROVISIONING"
    | .provisioningFailed => "PROVISIONING_FAILED"
    | .starting => "STARTING"
    | .running => "RUNNING"
    | .runCompleted => "RUN_COMPLETED"
    | .deprovisioning => "DEPROVISIONING"
    | .stopped => "STOPPED"
    | .lost => "LOST"
    | .unknown => "UNKNOWN"

/-- The states of a task run that is not over. -/
def activeStates : List TaskState :=
  [.pending, .provisioning, .starting, .running, .runCompleted, .deprovisioning]

/-- The task run is not over. -/
def isActive (s : TaskState) : Bool :=
  activeStates.contains s

/-- The task run is over. -/
def isTerminal (s : TaskState) : Bool :=
  !s.isActive

end TaskState
end Orchestration
