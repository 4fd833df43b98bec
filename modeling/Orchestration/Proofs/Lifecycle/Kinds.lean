import Orchestration.Application.Lifecycle
import Orchestration.LocalService.Lifecycle
import Orchestration.Proofs.Lifecycle.Run

/-!
# The two kinds of deployables

What the engine relies on of a kind holds of applications and of local services, and both kinds
write no more than a desired count when a state is reached.

Main results:

- `Application.lawful_kind`, `LocalService.lawful_kind`: both kinds are lawful.
- `Application.react_fst`, `LocalService.react_fst`: what is written when a state is reached.
-/

namespace Orchestration

namespace Application

/-- Applications are lawful: no canonical form changes the target, and a destroyed application stays
destroyed. -/
theorem lawful_kind : kind.Lawful where
  target_canonical settings w op := by
    cases op <;> rfl
  isTerminal_of_isGone s h := by
    have hs : s = .destroyed := by simpa [kind] using h
    subst hs
    rfl
  source_ne_of_isTerminal s h := by
    cases s <;> first | exact absurd h (by decide) | decide

/-- The stores with the target of a pending scaling, where scaling is asked for. -/
def persisted (w : ApplicationStores) (_id : DeployableId) (state : ApplicationState)
    (pending : Option ApplicationOperation) : ApplicationStores :=
  match state, pending with
  | .scalingRequested, some (.scale target n _) => w.persistInstances target n
  | _, _ => w

/-- The target of a pending scaling is written where scaling is asked for, and nothing else. -/
theorem react_fst (settings : EngineSettings) (w : ApplicationStores) (id : DeployableId)
    (state : ApplicationState) (pending : Option ApplicationOperation) :
    (react settings w id state pending).1 = persisted w id state pending := by
  cases state with
  | scalingRequested =>
      cases pending with
      | none => rfl
      | some op => cases op <;> rfl
  | _ => rfl

end Application

namespace LocalService

/-- Local services are lawful. -/
theorem lawful_kind : kind.Lawful where
  target_canonical settings w op := by
    cases op <;> rfl
  isTerminal_of_isGone s h := by
    have hs : s = .destroyed := by simpa [kind] using h
    subst hs
    rfl
  source_ne_of_isTerminal s h := by
    cases s <;> first | exact absurd h (by decide) | decide

/-- The stores with the number of instances on every executor that a pending operation asks for,
where that number is changed. -/
def persisted (w : LocalServiceStores) (id : DeployableId) (state : LocalServiceState)
    (pending : Option LocalServiceOperation) : LocalServiceStores :=
  match state, pending with
  | .updatingInstancesCount, some (.updateInstanceCount _ n _) => w.persistInstancesPerHost id n
  | _, _ => w

/-- The number of instances on every executor is written where it is changed, and nothing else. -/
theorem react_fst (w : LocalServiceStores) (id : DeployableId) (state : LocalServiceState)
    (pending : Option LocalServiceOperation) :
    (react w id state pending).1 = persisted w id state pending := by
  unfold react persisted
  split <;> simp_all

end LocalService
end Orchestration
