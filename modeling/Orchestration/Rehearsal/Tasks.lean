import Orchestration.Rehearsal.Agenda
import Orchestration.Rehearsal.Script
import Orchestration.Task.Engine

/-!
# Rehearsing the task engine

The task engine plays against an agenda.  The jobs that it asks for follow a script: after a time
a job either records its task in a state or yields a given result.  A job without a script records
the task as running when it starts it, and as stopped when it stops it.

Main definitions: `TaskRehearsal.turn`, `TaskRehearsal.onEngine`, `TaskRehearsal.spawnMonitor`.
-/

namespace Orchestration

/-- What a job does: it waits, and then records its task in a state, or yields a result. -/
structure JobScript where
  delayMs : Nat := 0
  write : Option TaskState := none
  result : Bool := false

namespace JobScript

/-- Reads what a job does. -/
def ofJson? (j : Json) : Option JobScript := do
  let f ← Fields.of? .direct [] j
  let delay : Option UInt64 ← Behaviour.field? f "delay_ms"
  let result : Option Bool ← Behaviour.field? f "result"
  return {
    delayMs := (delay.getD 0).toNat
    write := ← Behaviour.field? f "write"
    result := result.getD false }

end JobScript

namespace JobKind

/-- The name of a kind of job. -/
def text : JobKind → String
  | .start => "start"
  | .stop => "stop"

/-- What a job does that has no script. -/
def unscripted : JobKind → JobScript
  | .start => { write := some .running }
  | .stop => { write := some .stopped }

end JobKind

/-- The tasks of the engine under rehearsal. -/
inductive TaskDuty where
  /-- The listening to announcements of the store. -/
  | hearing
  /-- The end of registrations of runners whose task is over. -/
  | reaping
  /-- The watch over the state of a runner. -/
  | following (n : Nat)
  /-- A scheduled job. -/
  | job (n : Nat)
  /-- A monitor that was spawned. -/
  | monitor (n : Nat)
  deriving DecidableEq, Repr

/-- A job that was scheduled, with what it does once it has begun. -/
structure ScheduledJob where
  request : JobRequest
  course : Option JobScript := none

/-- The task engine under rehearsal.  `requested` are the jobs that were asked for so far, `jobs`
those that have not ended, `seen` the runners as their watches were last woken for, and `held` the
runners that somebody keeps an eye on. -/
structure TaskRehearsal where
  engine : TaskEngine
  agenda : Agenda TaskDuty := {}
  script : Script JobScript := ∅
  jobs : SortedMap Nat ScheduledJob := ∅
  nextJob : Nat := 0
  monitors : Nat := 0
  requested : List JobRequest := []
  seen : SortedMap Nat TaskRunner := ∅
  held : List Nat := []

namespace TaskRehearsal

/-- Opens the sessions of the jobs that the engine has scheduled. -/
def schedule (r : TaskRehearsal) : TaskRehearsal :=
  let requests := r.engine.requests
  let r := { r with
    engine := { r.engine with requests := [] }
    requested := r.requested ++ requests }
  (requests.filter (·.scheduled)).foldl (fun r request =>
    { r with
      jobs := r.jobs.insert r.nextJob { request := request }
      nextJob := r.nextJob + 1
      agenda := r.agenda.wake (.job r.nextJob) }) r

/-- Wakes the watches of the runners that are new or were changed. -/
def rouseWatches (r : TaskRehearsal) : TaskRehearsal :=
  let changed := r.engine.runners.entries.filter (fun e => r.seen.find? e.1 ≠ some e.2)
  { r with
    agenda := changed.foldl (fun a e => a.wake (.following e.1)) r.agenda
    seen := r.engine.runners }

/-- Wakes every task that can go on: the listening, the watches, the jobs that were scheduled, and
the end of registrations. -/
def rouse (r : TaskRehearsal) : TaskRehearsal :=
  let announced := !r.engine.stores.gated.root.announced.isEmpty
  let r := if announced then { r with agenda := r.agenda.wake .hearing } else r
  let r := r.rouseWatches.schedule
  if r.engine.handedOver.isEmpty then r else { r with agenda := r.agenda.wake .reaping }

/-- Changes the engine and wakes what can go on then. -/
def onEngine {α : Type} (r : TaskRehearsal) (change : TaskEngine → TaskEngine × α) :
    TaskRehearsal × α :=
  let (engine, answer) := change r.engine
  ({ r with engine := engine }.rouse, answer)

/-- The record of a task in a state, as of now. -/
def record (now : Timestamp) (source task : String) (state : TaskState) : TaskRecord where
  taskId := task
  sourceAppName := source
  instanceId := ⟨task⟩
  executorId := ⟨"e1"⟩
  hostname := "e1"
  state := state
  created := now
  updated := now

/-- A job ends as its course says. -/
def conclude (r : TaskRehearsal) (n : Nat) (request : JobRequest) (course : JobScript) :
    TaskRehearsal :=
  let (stores, result) :=
    match course.write with
    | some state =>
      r.engine.stores.update request.source request.task
        (record r.engine.stores.now request.source request.task state)
    | none => (r.engine.stores, course.result)
  { r with
    engine := { r.engine with stores := stores }.completeJob request.runner result
    jobs := r.jobs.erase n }

/-- A job begins, or ends when it has begun. -/
def turnJob (r : TaskRehearsal) (n : Nat) : TaskRehearsal :=
  match r.jobs.find? n with
  | none => r
  | some ⟨request, some course⟩ => r.conclude n request course
  | some ⟨request, none⟩ =>
    let (course, script) := r.script.take request.kind.text
    let course := course.getD request.kind.unscripted
    let r := { r with script := script }
    if course.delayMs = 0 then r.conclude n request course
    else
      { r with
        jobs := r.jobs.insert n ⟨request, some course⟩
        agenda := r.agenda.after course.delayMs (.job n) }

/-- Deals with all announcements that wait. -/
def turnHearing (r : TaskRehearsal) : TaskRehearsal :=
  r.engine.stores.gated.root.announced.foldl
    (fun r _ => { r with engine := r.engine.hear }.rouse) r

/-- Ends the registrations of all runners that were handed over. -/
def turnReaping (r : TaskRehearsal) : TaskRehearsal :=
  r.engine.handedOver.foldl (fun r _ => { r with engine := r.engine.reap }) r

/-- A monitor looks at the runners, and again after its interval as long as the engine exists. -/
def turnMonitor (r : TaskRehearsal) (n : Nat) : TaskRehearsal :=
  let interval := r.engine.settings.taskMonitorIntervalMs.toNat
  if r.engine.alive && interval ≠ 0 then
    { r with
      engine := r.engine.monitor
      agenda := r.agenda.after interval (.monitor n) }
  else r

/-- A task goes on until it waits again. -/
def turn (r : TaskRehearsal) (duty : TaskDuty) : TaskRehearsal :=
  (match duty with
    | .hearing => r.turnHearing
    | .reaping => r.turnReaping
    | .following n => { r with engine := r.engine.follow n }
    | .job n => r.turnJob n
    | .monitor n => r.turnMonitor n).rouse

instance : Stage TaskRehearsal TaskDuty where
  agenda := agenda
  withAgenda r a := { r with agenda := a }
  turn := turn

/-- Spawns a monitor, which looks at the runners as soon as its turn comes. -/
def spawnMonitor (r : TaskRehearsal) : TaskRehearsal :=
  { r with agenda := r.agenda.wake (.monitor r.monitors), monitors := r.monitors + 1 }

end TaskRehearsal
end Orchestration
