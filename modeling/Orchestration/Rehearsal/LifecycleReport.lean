import Orchestration.Rehearsal.ApplicationActions
import Orchestration.Rehearsal.Document
import Orchestration.Rehearsal.LocalServiceActions

/-!
# Rehearsals of lifecycle engines as documents

The steps that an engine for applications or for local services can be taken through, and the
report on them.  An entry holds the answer to the step, the executions of actions that began, and
the events that were published; both lists are grouped by deployable.

Main definitions: `ApplicationRehearsal.report?`, `LocalServiceRehearsal.report?`.
-/

namespace Orchestration

/-- The access to stores that differs between the kinds of deployables. -/
structure StoreAccess (ω W : Type) where
  reviewSpec : EngineSettings → Json → Option Verdict
  /-- A step that only one kind has. -/
  special : W → String → Json → Option (Option W)
  writeInstance : W → DeployableId → InstanceId → InstanceRecord → W × Bool
  deleteRecord : W → DeployableId → W × Bool
  record : W → DeployableId → Json
  instances : W → DeployableId → List InstanceRecord
  accept : Bool → W → W

namespace LifecycleRehearsal

variable {σ ω δ κ W C : Type} [DecidableEq σ] [DecidableEq κ] [Named σ] [Wire ω]

/-- Replaces the stores. -/
def withWorld (r : LifecycleRehearsal σ ω δ κ W C) (w : W) : LifecycleRehearsal σ ω δ κ W C :=
  { r with engine := { r.engine with world := w } }

/-- A step that is about one deployable. -/
def stepOn (access : StoreAccess ω W) (r : LifecycleRehearsal σ ω δ κ W C) (verb : String)
    (id : DeployableId) : Option (LifecycleRehearsal σ ω δ κ W C × Json) :=
  let world := r.engine.world
  match verb with
  | "state" => some (r, Json.orNull Rehearsal.nameOf (r.engine.stateOf id))
  | "exists" => some (r, .bool (r.engine.registered? id).isSome)
  | "cancel" =>
    let (r, cancelled) := r.cancel id
    some (r, .bool cancelled)
  | "remove" =>
    let (engine, removed) := r.engine.deregister id
    some ({ r with engine := engine }, .bool removed)
  | "remove_with" =>
    let (engine, removed) := r.engine.deregisterWith id (fun w => w)
    some ({ r with engine := engine },
      .obj [("removed", .bool removed), ("cleaned", .bool removed)])
  | "delete_record" =>
    let (w, accepted) := access.deleteRecord world id
    some (r.withWorld w, .bool accepted)
  | "record" => some (r, access.record world id)
  | "root_record" => some (r, access.record world id)
  | "instances" => some (r, .arr ((access.instances world id).map Rehearsal.ofInstance))
  | _ => none

/-- One step, with its answer. -/
def step (access : StoreAccess ω W) (r : LifecycleRehearsal σ ω δ κ W C) (i : Json) :
    Option (LifecycleRehearsal σ ω δ κ W C × Json) := do
  let world := r.engine.world
  let verb : String ← i.want "do"
  match verb with
  | "handle" =>
    let (r, verdict) := r.handle (← i.want "operation")
    return (r, encode verdict)
  | "run" => return (Stage.runFor r (← i.wantNat "ms"), .null)
  | "ids" => return (r, encode r.engine.registry.keys)
  | "stop_all" => return (r.stopAll, .null)
  | "validate_spec" => return (r, encode (← access.reviewSpec r.engine.settings i))
  | "leader" => return (r, .null)
  | "reject" => return (r.withWorld (access.accept (!(← i.want "value")) world), .null)
  | "put_instance" =>
    let (owner, record) ← Rehearsal.instanceOf i
    let (w, accepted) := access.writeInstance world owner record.instanceId record
    return (r.withWorld w, .bool accepted)
  | verb =>
    match ← access.special world verb i with
    | some w => return (r.withWorld w, .null)
    | none => r.stepOn access verb (← i.want "id")

/-- An execution of an action. -/
def ofEnactment (e : Enactment ω) : Json :=
  .arr [encode e.id, .str e.action, .str e.state, encode e.pending]

/-- Plays a rehearsal and reports on it. -/
def report? (access : StoreAccess ω W) (r : LifecycleRehearsal σ ω δ κ W C) (j : Json) :
    Option Json := do
  let read (b : Json) : Option (Behaviour σ) := Behaviour.ofJson? b
  let r := { r with script := ← Script.ofJson? read (j.get "script") }
  let entries ← Rehearsal.steps j r fun r i => do
    let (r, answer) ← r.step access i
    let ran := Rehearsal.grouped (fun e : Enactment ω => e.id.text) r.ran
    let entry := Json.obj [("result", answer), ("ran", .arr (ran.map ofEnactment)),
      ("events", Rehearsal.ofEvents r.engine.settings r.engine.published)]
    return ({ r with ran := [], engine := { r.engine with published := [] } }, entry)
  return .obj [("steps", .arr entries)]

end LifecycleRehearsal

namespace ApplicationStores

/-- The access to the stores of applications. -/
def access : StoreAccess ApplicationOperation ApplicationStores where
  reviewSpec settings i := do return ApplicationSpec.review settings.admission (← i.want "spec")
  special w verb i :=
    match verb with
    | "add_executor" => do
      return some { w with cluster := Cluster.add w.cluster (← i.want "executor") }
    | "remove_executor" => do
      return some { w with cluster := Cluster.remove w.cluster (← i.want "id") }
    | _ => some none
  writeInstance := writeInstance
  deleteRecord := deleteRecord
  record w id := Json.orNull Rehearsal.ofApplication (w.record? id)
  instances w id := Instances.all w.instances.root w.now id
  accept accepting w := { w with
    records := { w.records with accepting := accepting }
    instances := { w.instances with accepting := accepting } }

end ApplicationStores

namespace LocalServiceStores

/-- The access to the stores of local services. -/
def access : StoreAccess LocalServiceOperation LocalServiceStores where
  reviewSpec settings i := do return LocalServiceSpec.review settings.admission (← i.want "spec")
  special _ _ _ := some none
  writeInstance := writeInstance
  deleteRecord := deleteRecord
  record w id := Json.orNull Rehearsal.ofLocalService (w.record? id)
  instances w id := Instances.all w.instances.root w.now id
  accept accepting w := { w with
    records := { w.records with accepting := accepting }
    instances := { w.instances with accepting := accepting } }

end LocalServiceStores

/-- Plays a rehearsal of the engine of applications and reports on it. -/
def ApplicationRehearsal.report? (j : Json) : Option Json := do
  let settings : EngineSettings ← j.wantOr "config" {}
  let r : ApplicationRehearsal := {
    kind := Application.kind
    standIn := ApplicationActions.standIn
    engine := {
      settings := settings
      world := { now := Rehearsal.now, cluster := ← Rehearsal.clusterOf j } }
    memory := ∅ }
  LifecycleRehearsal.report? ApplicationStores.access r j

/-- Plays a rehearsal of the engine of local services and reports on it. -/
def LocalServiceRehearsal.report? (j : Json) : Option Json := do
  let settings : EngineSettings ← j.wantOr "config" {}
  let r : LocalServiceRehearsal := {
    kind := LocalService.kind
    standIn := LocalServiceActions.standIn
    engine := { settings := settings, world := { now := Rehearsal.now } }
    memory := () }
  LifecycleRehearsal.report? LocalServiceStores.access r j

end Orchestration
