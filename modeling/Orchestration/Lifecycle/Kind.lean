import Orchestration.Event
import Orchestration.Machine.Actor
import Orchestration.Settings.Engine
import Orchestration.Verdict

/-!
# Kinds of deployables

Everything in which applications and local services differ: the blueprint of their machines, how
operations are admitted, staged and routed, what a creation founds, and what the engine does
when an actor reaches a state.
-/

namespace Orchestration

/-- What routing does with the pending operation: whether it acknowledges it, and what it
returns. -/
structure Routing (σ δ : Type) where
  acknowledges : Bool := false
  result : ActionResult σ δ

/-- What a creation founds: the data of the machine, and the name and version for events. -/
structure Founding (δ : Type) where
  data : δ
  name : String
  version : String

/-- A kind of deployable with states `σ`, operations `ω`, machine data `δ` and actions `κ`, whose
records are kept in stores `W`. -/
structure LifecycleKind (σ ω δ κ W : Type) where
  /-- The blueprint of the machines. -/
  blueprint : Blueprint σ κ
  /-- The state in which a machine starts. -/
  initial : σ
  /-- The action that routes operations; all others are supplied from outside. -/
  routing : κ
  /-- The deployable that an operation is aimed at. -/
  target : ω → DeployableId
  /-- Whether an operation is admitted, given the states of the registered deployables. -/
  review : EngineSettings → (DeployableId → Option σ) → W → ω → Verdict
  /-- The form in which an operation is staged for an actor. -/
  canonical : EngineSettings → W → ω → ω
  /-- What an operation founds, if it is a creation. -/
  found? : W → ω → Option (Founding δ)
  /-- Routes the pending operation. -/
  route : Option ω → Snapshot σ δ → Routing σ δ
  /-- The store writes that follow a reached state, given the pending operation, and the
  operation that the engine submits to itself afterwards. -/
  react : EngineSettings → W → DeployableId → σ → Option ω → W × Option ω
  /-- Whether a state means that the deployable is gone. -/
  isGone : σ → Bool
  /-- Deletes all records of a deployable. -/
  forget : W → DeployableId → W
  /-- The event that tells of a reached state. -/
  event : DeployableId → String → String → σ → LifecycleEvent

end Orchestration
