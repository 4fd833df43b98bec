import Orchestration.EventStream
import Orchestration.Settings.Engine
import Orchestration.Store.Cluster

/-!
# Rehearsals as documents

A rehearsal is written as a document: what is there at the start, and the steps that are taken one
after the other.  Its report is a document as well, with one entry for every step.  This module
reads the parts that all rehearsals share and writes records as they appear in a report.

The wall clock stands still during a rehearsal.  A record is given with its age in seconds; a
report says whether a record is stale, and no times.

Main definitions: `Json.want`, `Rehearsal.steps`, `Rehearsal.grouped`.
-/

namespace Orchestration

namespace Json

/-- The value of a field. -/
def want {α : Type} [Wire α] (j : Json) (name : String) : Option α :=
  decode (j.get name)

/-- The value of a field that may be missing. -/
def wantOr {α : Type} [Wire α] (j : Json) (name : String) (default : α) : Option α :=
  match j.get name with
  | .null => some default
  | v => decode v

/-- A truth value, which is false when it is missing. -/
def flag (j : Json) (name : String) : Option Bool :=
  j.wantOr name false

/-- An integer of any size, with a value for a missing one. -/
def intOr (j : Json) (name : String) (default : Int) : Option Int :=
  match j.get name with
  | .null => some default
  | .int n => some n
  | _ => none

/-- A natural number. -/
def wantNat (j : Json) (name : String) : Option Nat :=
  (j.want name : Option UInt64).map UInt64.toNat

/-- The items of a list that may be missing. -/
def items (j : Json) (name : String) : Option (List Json) :=
  match j.get name with
  | .null => some []
  | .arr l => some l
  | _ => none

/-- The document of a value, or `null`. -/
def orNull {α : Type} (f : α → Json) : Option α → Json
  | some a => f a
  | none => .null

end Json

namespace Rehearsal

/-! ## The parts of a rehearsal -/

/-- What the wall clock shows, in seconds. -/
def wallSeconds : Int :=
  1767225600

/-- What the wall clock shows. -/
def now : Timestamp :=
  Timestamp.ofUnixSeconds wallSeconds

/-- The time of a record that is given with its age. -/
def timeOf (j : Json) : Option Timestamp :=
  (j.intOr "age" 0).map (fun age => Timestamp.ofUnixSeconds (wallSeconds - age))

/-- A list of states, or a word that stands for one. -/
def statesOf {σ : Type} [Named σ] (words : List (String × List σ)) (j : Json) :
    Option (List σ) :=
  match j.get "states" with
  | .str s => (words.find? (fun w => w.1 == s)).map (·.2)
  | v => decode v

/-- A list of instance states. -/
def instanceStates : Json → Option (List InstanceState) :=
  statesOf [("ALL", Named.members), ("ACTIVE", InstanceState.activeStates),
    ("RUNNING", InstanceState.runningStates)]

/-- A list of task states. -/
def taskStates : Json → Option (List TaskState) :=
  statesOf [("ALL", Named.members), ("ACTIVE", TaskState.activeStates)]

/-- An instance with its owner. -/
def instanceOf (j : Json) : Option (DeployableId × InstanceRecord) := do
  let owner : DeployableId ← j.want "owner"
  let time ← timeOf j
  return (owner, {
    owner := owner, ownerName := owner.text, instanceId := ← j.want "id"
    executorId := ⟨"e1"⟩, hostname := "e1", state := ← j.want "state"
    errorMessage := ← j.want "error", created := time, updated := time })

/-- A task run. -/
def taskOf (j : Json) : Option TaskRecord := do
  let time ← timeOf j
  let task : String ← j.want "id"
  return {
    sourceAppName := ← j.want "source", taskId := task, instanceId := ⟨task⟩
    executorId := ⟨"e1"⟩, hostname := "e1", state := ← j.want "state"
    result := ← j.want "result", errorMessage := ← j.want "error"
    created := time, updated := time }

/-- A cluster. -/
def clusterOf (j : Json) : Option Cluster := do
  return (← j.wantOr "executors" ([] : List ExecutorResources)).foldl Cluster.add ∅

/-- Takes the steps of a rehearsal, each of which adds an entry to the report. -/
def steps {S : Type} (j : Json) (start : S) (step : S → Json → Option (S × Json)) :
    Option (List Json) := do
  let (_, report) ← (← j.items "steps").foldlM (fun (s, report) (i : Json) => do
    let (s, entry) ← step s i
    return (s, entry :: report)) (start, ([] : List Json))
  return report.reverse

/-! ## The parts of a report -/

/-- Groups entries by a key, the keys in their order; within a group the order is kept. -/
def grouped {α : Type} (key : α → String) (l : List α) : List α :=
  (SortedSet.ofList (l.map key)).toList.flatMap (fun k => l.filter (fun a => key a == k))

/-- A member of an enumeration, by its name. -/
def nameOf {α : Type} [Named α] (a : α) : Json :=
  .str (Named.name a)

/-- An event with its severity. -/
def ofEvent (e : LifecycleEvent) : Json :=
  .obj [("severity", nameOf e.severity), ("event", encode e)]

/-- The events of a step, grouped by what they are about.  A report is made from what the stream of
events still keeps after the step. -/
def ofEvents (settings : EngineSettings) (l : List LifecycleEvent) : Json :=
  let kept := EventStream.latest settings.eventChannelCapacity.toNat l
  .arr ((grouped LifecycleEvent.subject kept).map ofEvent)

/-- The record of an application. -/
def ofApplication (r : ApplicationRecord) : Json :=
  .obj [("app_id", encode r.appId), ("instances", encode r.instances)]

/-- The record of a local service. -/
def ofLocalService (r : LocalServiceRecord) : Json :=
  .obj [("service_id", encode r.serviceId), ("instances_per_host", encode r.instancesPerHost),
    ("activation_state", encode r.activationState)]

/-- An instance. -/
def ofInstance (r : InstanceRecord) : Json :=
  .obj [("id", encode r.instanceId), ("state", encode r.state), ("error", encode r.errorMessage),
    ("stale", .bool (r.isStale now))]

/-- A task run. -/
def ofTask (r : TaskRecord) : Json :=
  .obj [("source", .str r.sourceAppName), ("id", .str r.taskId), ("state", encode r.state),
    ("result", encode r.result), ("error", encode r.errorMessage), ("stale", .bool (r.isStale now))]

end Rehearsal
end Orchestration
