import Orchestration.Rehearsal.Document
import Orchestration.Rehearsal.Tasks

/-!
# Rehearsals of the task engine as documents

The steps that the task engine can be taken through, and the report on them.  An entry holds the
answer to the step, the jobs that were asked for, the events that were published, and the number
of registered runners as long as there is an engine; the lists are grouped by task.

Main definitions: `TaskRehearsal.report?`.
-/

namespace Orchestration
namespace TaskRehearsal

/-- A runner. -/
def ofRunner (r : TaskRunner) : Json :=
  .obj [("id", .str r.runId), ("source", .str r.source), ("task", .str r.task),
    ("state", Json.orNull Rehearsal.nameOf r.state), ("retired", .bool r.retired)]

/-- A job that was asked for. -/
def ofRequest (q : JobRequest) : Json :=
  .arr [.str q.kind.text, .str q.source, .str q.task, encode q.opSpec]

/-- The runner with a number. -/
def runner (r : TaskRehearsal) (n : Nat) : Json :=
  Json.orNull ofRunner (r.engine.runners.find? n)

/-- Replaces the engine and wakes what can go on then. -/
def withEngine (r : TaskRehearsal) (e : TaskEngine) : TaskRehearsal :=
  { r with engine := e }.rouse

/-- A step that is about one task. -/
def stepOn (r : TaskRehearsal) (verb source id : String) (i : Json) :
    Option (TaskRehearsal × Json) := do
  let e := r.engine
  match verb with
  | "put" =>
    let (stores, accepted) := e.stores.update source id (← Rehearsal.taskOf i)
    return (r.withEngine { e with stores := stores }, .bool accepted)
  | "get" => return (r, Json.orNull Rehearsal.ofTask (e.stores.record? source id))
  | "delete" =>
    let (stores, accepted) := e.stores.delete source id
    return (r.withEngine { e with stores := stores }, .bool accepted)
  | "register" =>
    let (r, n) := r.onEngine (·.register source id)
    return (r, r.runner n)
  | "runner" => return (r, Json.orNull r.runner (e.registered? source id))
  | "refresh" =>
    match e.registered? source id with
    | none => return (r, .null)
    | some n =>
      let (r, returned) := r.onEngine (·.refresh n)
      let state := (r.engine.runners.find? n).bind (·.state)
      return (r, .obj [("returned", Json.orNull Rehearsal.nameOf returned),
        ("state", Json.orNull Rehearsal.nameOf state)])
  | "hold" =>
    match e.registered? source id with
    | none => return (r, .null)
    | some n => return ({ r with held := r.held ++ [n] }, r.runner n)
  | "zombie" => return (r.withEngine (e.killZombie source id), .null)
  | _ => none

/-- One step, with its answer. -/
def step (r : TaskRehearsal) (i : Json) : Option (TaskRehearsal × Json) := do
  let e := r.engine
  match (← i.want "do" : String) with
  | "handle" =>
    let op : TaskOperation ← i.want "operation"
    let (r, verdict) := r.onEngine (·.handle op)
    return (r, encode verdict)
  | "run" => return (Stage.runFor r (← i.wantNat "ms"), .null)
  | "leader" => return (r.withEngine { e with leads := ← i.want "value" }, .null)
  | "reject" =>
    let gated := { e.stores.gated with accepting := !(← i.want "value") }
    return (r.withEngine { e with stores := { e.stores with gated := gated } }, .null)
  | "refuse_jobs" => return (r.withEngine { e with schedules := !(← i.want "value") }, .null)
  | "monitor" => return (r.withEngine e.monitor, .null)
  | "spawn_monitor" => return (r.spawnMonitor, .null)
  | "held" => return (r, .arr (r.held.map r.runner))
  | "active" =>
    let key (t : TaskRecord) : String := t.sourceAppName ++ "/" ++ t.taskId
    return (r, .arr ((Rehearsal.grouped key e.activeTasks).map Rehearsal.ofTask))
  | "count" => return (r, .int e.registry.size)
  | "sessions" => return (r, .int r.jobs.size)
  | "drop_engine" => return (r.withEngine e.drop, .null)
  | verb => r.stepOn verb (← i.want "source") (← i.want "id") i

/-- Plays a rehearsal of the task engine and reports on it. -/
def report? (j : Json) : Option Json := do
  let settings : EngineSettings ← j.wantOr "config" {}
  let r : TaskRehearsal := {
    engine := {
      settings := settings
      leads := ← j.wantOr "leader" true
      stores := {
        now := Rehearsal.now
        keepsNewest := ← j.flag "proxy"
        cluster := ← Rehearsal.clusterOf j } }
    script := ← Script.ofJson? JobScript.ofJson? (j.get "script") }
  let entries ← Rehearsal.steps j r fun r i => do
    let (r, answer) ← r.step i
    let key (q : JobRequest) : String := q.source ++ "/" ++ q.task
    let runners := if r.engine.alive then Json.int r.engine.registry.size else .null
    let entry := Json.obj [("result", answer),
      ("jobs", .arr ((Rehearsal.grouped key r.requested).map ofRequest)),
      ("events", Rehearsal.ofEvents r.engine.settings r.engine.published), ("runners", runners)]
    return ({ r with requested := [], engine := { r.engine with published := [] } }, entry)
  return .obj [("steps", .arr entries)]

end TaskRehearsal
end Orchestration
