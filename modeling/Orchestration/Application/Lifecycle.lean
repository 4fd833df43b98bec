import Orchestration.Application.Admission
import Orchestration.Application.Machine
import Orchestration.Lifecycle.Engine

/-!
# The lifecycle of applications

The desired number of instances lives in the record of an application and is written before any
scaling work begins: when an actor reaches the state that asks for scaling, the target of the
pending operation goes into the record, and the engine submits the operation that brings the
application there.

Main definitions: `Application.canonical`, `Application.react`, `Application.kind`.
-/

namespace Orchestration
namespace Application

/-- The form in which an operation is staged: starting instances and suspending become scaling. -/
def canonical (settings : EngineSettings) (w : ApplicationStores) :
    ApplicationOperation → ApplicationOperation
  | .startInstances id n opSpec =>
    .scale id (UInt64.ofNat (Instances.count w.instances.root w.now id [.healthy]) + n) opSpec
  | .suspend id opSpec => .scale id 0 (opSpec.getD settings.defaultOpSpec)
  | op => op

/-- What a creation founds. -/
def found? (w : ApplicationStores) : ApplicationOperation → Option (Founding ApplicationRecord)
  | .create spec n _ => some ⟨.ofSpec w.now spec n, spec.name, spec.version⟩
  | _ => none

/-- The scaling that follows from the state that asks for it.  The target of a pending scaling is
written into the record; without one the record says where to scale to. -/
def scaling (settings : EngineSettings) (w : ApplicationStores) (id : DeployableId) :
    Option ApplicationOperation → ApplicationStores × ApplicationOperation
  | some (.scale target required opSpec) =>
    (w.persistInstances target required, .scale target required opSpec)
  | _ => (w, .scale id (((w.record? id).map (·.instances)).getD 0) settings.defaultOpSpec)

/-- What follows from a reached state. -/
def react (settings : EngineSettings) (w : ApplicationStores) (id : DeployableId)
    (state : ApplicationState) (pending : Option ApplicationOperation) :
    ApplicationStores × Option ApplicationOperation :=
  match state with
  | .scalingRequested =>
    let (w, op) := scaling settings w id pending
    (w, some op)
  | _ => (w, none)

/-- Applications as a kind of deployable. -/
def kind : LifecycleKind ApplicationState ApplicationOperation ApplicationRecord
    ApplicationAction ApplicationStores where
  blueprint := blueprint
  initial := .init
  routing := .route
  target := ApplicationOperation.appId
  review settings stateOf w op := review settings.admission stateOf w op
  canonical := canonical
  found? := found?
  route := route
  react := react
  isGone s := s = .destroyed
  forget := ApplicationStores.forget
  event := .applicationStateChange

end Application

/-- The engine of applications. -/
abbrev ApplicationEngine : Type :=
  LifecycleEngine ApplicationState ApplicationOperation ApplicationRecord ApplicationAction
    ApplicationStores

end Orchestration
