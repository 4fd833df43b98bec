import Orchestration.Lifecycle.Engine
import Orchestration.LocalService.Admission
import Orchestration.LocalService.Machine

/-!
# The lifecycle of local services

The number of instances on every executor and the activation state live in the record of a local
service.  A changed number is written into the record when the actor reaches the state that deals
with it, before any work begins.

Main definitions: `LocalService.canonical`, `LocalService.react`, `LocalService.kind`.
-/

namespace Orchestration
namespace LocalService

/-- The form in which an operation is staged: a restart becomes the replacement of all instances. -/
def canonical : LocalServiceOperation → LocalServiceOperation
  | .restart id stopFirst opSpec => .replaceInstances id ∅ stopFirst opSpec
  | op => op

/-- What a creation founds. -/
def found? (w : LocalServiceStores) :
    LocalServiceOperation → Option (Founding LocalServiceRecord)
  | .create spec n _ => some ⟨.ofSpec w.now spec n, spec.name, spec.version⟩
  | _ => none

/-- What follows from a reached state. -/
def react (w : LocalServiceStores) (id : DeployableId) (state : LocalServiceState)
    (pending : Option LocalServiceOperation) :
    LocalServiceStores × Option LocalServiceOperation :=
  match state, pending with
  | .updatingInstancesCount, some (.updateInstanceCount _ n _) =>
    (w.persistInstancesPerHost id n, none)
  | _, _ => (w, none)

/-- Local services as a kind of deployable. -/
def kind : LifecycleKind LocalServiceState LocalServiceOperation LocalServiceRecord
    LocalServiceAction LocalServiceStores where
  blueprint := blueprint
  initial := .init
  routing := .route
  target := LocalServiceOperation.serviceId
  review settings stateOf w op := review settings.admission stateOf w op
  canonical _ _ op := canonical op
  found? := found?
  route := route
  react _ w id state pending := react w id state pending
  isGone s := s = .destroyed
  forget := LocalServiceStores.forget
  event := .localServiceStateChange

end LocalService

/-- The engine of local services. -/
abbrev LocalServiceEngine : Type :=
  LifecycleEngine LocalServiceState LocalServiceOperation LocalServiceRecord LocalServiceAction
    LocalServiceStores

end Orchestration
