import Orchestration.LocalService.Lifecycle
import Orchestration.Rehearsal.Lifecycle

/-!
# The stand-in for local service actions

Without a script the actions of a local service write its activation state and delete the
instances that are to stop; nothing else happens on the executors.

Main definitions: `LocalServiceActions.settled`, `LocalServiceActions.standIn`.
-/

namespace Orchestration
namespace LocalServiceActions

/-- The waiting state that fits the record of a local service. -/
def settled (w : LocalServiceStores) (id : DeployableId) : LocalServiceState :=
  match (w.record? id).map (·.activationState) with
  | some ActivationState.active => .active
  | some ActivationState.configTesting => .configTesting
  | _ => .inactive

/-- Writes the activation state of a local service into its record, if it has one. -/
def activate (w : LocalServiceStores) (id : DeployableId) (s : ActivationState) :
    LocalServiceStores :=
  match w.record? id with
  | some r => (w.writeRecord id (r.withActivationState w.now s)).1
  | none => w

/-- Plays an action. -/
def play (action : LocalServiceAction) (w : LocalServiceStores) (id : DeployableId)
    (current : Snapshot LocalServiceState LocalServiceRecord)
    (pending : Option LocalServiceOperation) :
    Played LocalServiceState LocalServiceRecord LocalServiceStores Unit :=
  let move (w : LocalServiceStores) (s : LocalServiceState) :
      Played LocalServiceState LocalServiceRecord LocalServiceStores Unit :=
    { world := w, memory := (), result := .ok (some (current.move s)) }
  match action, pending with
  | .create, _ =>
    let (w, accepted) := w.writeRecord id current.data
    if accepted then move w (settled w id)
    else
      { world := w, memory := (), acknowledges := false
        result := .error (.failed "could not record service") }
  | .activate, _ => move (activate w id .active) .active
  | .deactivate, _ => move (activate w id .inactive) .inactive
  | .deployTestInstance, _ => move (activate w id .configTesting) .configTesting
  | .stopInstances, some (.stopInstances _ ids _) =>
    let w := ids.toList.foldl (fun w i => (w.deleteInstance id i).1) w
    move w (settled w id)
  | .destroy, _ => move w .destroyed
  | .emergencyDeactivation, none =>
    { world := w, memory := (), acknowledges := false, result := .ok none }
  | .emergencyDeactivation, some _ =>
    { world := w, memory := (), acknowledges := false
      result := .ok (some (current.move .deactivationRequested)) }
  | _, _ => move w (settled w id)

/-- The stand-in for the actions of local services. -/
def standIn : StandIn LocalServiceState LocalServiceOperation LocalServiceRecord
    LocalServiceAction LocalServiceStores Unit where
  isCancellable action := action ≠ .create
  play action w _ id current pending := play action w id current pending

end LocalServiceActions

/-- The engine of local services under rehearsal. -/
abbrev LocalServiceRehearsal : Type :=
  LifecycleRehearsal LocalServiceState LocalServiceOperation LocalServiceRecord
    LocalServiceAction LocalServiceStores Unit

end Orchestration
