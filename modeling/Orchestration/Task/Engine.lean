import Orchestration.Admission.Capacity
import Orchestration.Admission.Spec
import Orchestration.Event
import Orchestration.Store.Leadership
import Orchestration.Task.Stores

/-!
# The task engine

One runner follows every task run that the engine knows of, registered under the run's key.  A
runner asks for the cluster jobs that start and stop its task, and holds the state of the task as
it was last read.  Once that state is terminal, the runner is handed over, its registration ends,
and the completion of the task is published.

The engine hears every announcement of the task store.  A task that is reported as running without
a runner is a zombie: it gets a runner and is stopped.

Jobs are carried out elsewhere.  The engine records the jobs that it asks for, with the answer
whether they could be scheduled; `completeJob` reports back.

Main definitions:

- `TaskEngine.handle`: starts and kills tasks.
- `TaskEngine.refresh`: reads the state of a runner's task again.
- `TaskEngine.hear`: deals with an announcement of the store.
- `TaskEngine.follow`, `TaskEngine.reap`: runners whose task is over.
- `TaskEngine.monitor`: reads the states of all registered runners again.
-/

namespace Orchestration

/-- A runner: the task that it follows, the state that was read last, and whether the engine has
dropped it.  `following` says that its end has not been noticed yet. -/
structure TaskRunner where
  source : String
  task : String
  state : Option TaskState := none
  retired : Bool := false
  following : Bool := true
  deriving DecidableEq, Repr

namespace TaskRunner

/-- The key under which the runner is registered. -/
def runId (r : TaskRunner) : String :=
  runTaskId r.source r.task

end TaskRunner

/-- What a cluster job does to its task. -/
inductive JobKind where
  | start
  | stop
  deriving DecidableEq, Repr

/-- A cluster job that was asked for, on behalf of a runner, and whether it was scheduled. -/
structure JobRequest where
  kind : JobKind
  source : String
  task : String
  opSpec : ClusterOpSpec
  runner : Nat
  scheduled : Bool
  deriving DecidableEq, Repr

/-- The state of the engine.  Runners keep their number for ever; `registry` holds those that the
engine tracks.  `handedOver` are the runners whose task is over, oldest first. -/
structure TaskEngine where
  settings : EngineSettings := {}
  stores : TaskStores
  leads : Bool := true
  schedules : Bool := true
  alive : Bool := true
  runners : SortedMap Nat TaskRunner := ∅
  next : Nat := 0
  registry : SortedMap String Nat := ∅
  handedOver : List Nat := []
  requests : List JobRequest := []
  published : List LifecycleEvent := []

namespace TaskEngine

/-- The runner that is registered for a task. -/
def registered? (e : TaskEngine) (source task : String) : Option Nat :=
  e.registry.find? (runTaskId source task)

/-- Changes a runner. -/
def updateRunner (e : TaskEngine) (n : Nat) (change : TaskRunner → TaskRunner) : TaskEngine :=
  match e.runners.find? n with
  | some r => { e with runners := e.runners.insert n (change r) }
  | none => e

/-- Sets the state of a runner. -/
def setState (e : TaskEngine) (n : Nat) (s : TaskState) : TaskEngine :=
  e.updateRunner n (fun r => { r with state := some s })

/-- Makes a runner for a task and registers it. -/
def enroll (e : TaskEngine) (source task : String) : TaskEngine × Nat :=
  ({ e with
      runners := e.runners.insert e.next { source := source, task := task }
      registry := e.registry.insert (runTaskId source task) e.next
      next := e.next + 1 }, e.next)

/-- The runner of a task, made when it is missing. -/
def register (e : TaskEngine) (source task : String) : TaskEngine × Nat :=
  match e.registered? source task with
  | some n => (e, n)
  | none => e.enroll source task

/-- Asks for a job on behalf of a runner; says whether it was scheduled. -/
def request (e : TaskEngine) (kind : JobKind) (source task : String) (opSpec : ClusterOpSpec)
    (n : Nat) : TaskEngine × Bool :=
  ({ e with requests := e.requests ++ [⟨kind, source, task, opSpec, n, e.schedules⟩] },
    e.schedules)

/-- Asks for the job that stops the task of a runner. -/
def stopTask (e : TaskEngine) (n : Nat) (opSpec : ClusterOpSpec) : TaskEngine × Bool :=
  match e.runners.find? n with
  | some r => e.request .stop r.source r.task opSpec n
  | none => (e, false)

/-- Ends the registration of a runner, unless another runner has taken its key. -/
def deregister (e : TaskEngine) (n : Nat) : TaskEngine :=
  match e.runners.find? n with
  | some r =>
    if e.registry.find? r.runId = some n then { e with registry := e.registry.erase r.runId }
    else e
  | none => e

/-- Drops a runner: its end will not be noticed. -/
def retire (e : TaskEngine) (n : Nat) : TaskEngine :=
  e.updateRunner n (fun r => { r with retired := true })

/-- The rules that the specification of a task violates, and the capacity that it lacks. -/
def violations (e : TaskEngine) (spec : TaskSpec) : List String :=
  SpecRule.volumes e.settings.admission spec.volumes ++
  SpecRule.arguments e.settings.admission spec.args ++
  Capacity.shortages e.stores.cluster spec.resources 1

/-- Starts a task. -/
def create (e : TaskEngine) (spec : TaskSpec) (opSpec : ClusterOpSpec) : TaskEngine × Verdict :=
  let source := spec.sourceAppName
  let task := spec.taskId
  match e.violations spec with
  | v :: vs => (e, .failures (v :: vs))
  | [] =>
    if (e.stores.record? source task).isSome || (e.registered? source task).isSome then
      (e, .failure ("Task already exists for " ++ source ++ "/" ++ task ++ " with taskID: " ++
        runTaskId source task))
    else
      let (e, n) := e.enroll source task
      match e.request .start source task opSpec n with
      | (e, true) => (e, .success)
      | (e, false) =>
        ((e.deregister n).retire n, .failure "Could not schedule job to start the task.")

/-- Kills a task. -/
def kill (e : TaskEngine) (source task : String) (opSpec : ClusterOpSpec) :
    TaskEngine × Verdict :=
  match e.registered? source task with
  | none =>
    (e, .failure ("Either task does not exist or has already finished for " ++ source ++ "/" ++
      task))
  | some n =>
    match e.stopTask n opSpec with
    | (e, true) => (e, .success)
    | (e, false) => (e, .failure "Could not schedule job to stop the task.")

/-- Carries out an operation. -/
def handle (e : TaskEngine) : TaskOperation → TaskEngine × Verdict
  | .create spec opSpec => e.create spec opSpec
  | .kill source task opSpec => e.kill source task opSpec

/-- Stops a task that runs without a runner. -/
def killZombie (e : TaskEngine) (source task : String) : TaskEngine :=
  match e.registered? source task with
  | some _ => e
  | none =>
    let (e, n) := e.register source task
    (e.stopTask n e.settings.defaultOpSpec).1

/-- Reads the state of a runner's task again.  A record that was not updated for too long is
recorded as lost.  A record that is gone after the runner has seen it counts as lost; there is no
answer while the task was never recorded. -/
def refresh (e : TaskEngine) (n : Nat) : TaskEngine × Option TaskState :=
  match e.runners.find? n with
  | none => (e, none)
  | some runner =>
    match e.stores.record? runner.source runner.task with
    | none =>
      match runner.state with
      | none => (e, none)
      | some _ => (e.setState n .lost, some .lost)
    | some r =>
      if r.state.isActive && r.isStale e.stores.now then
        let (stores, accepted) :=
          e.stores.update runner.source runner.task (r.asLost e.stores.now)
        let e := { e with stores := stores }
        (if accepted then e.setState n .lost else e, some .lost)
      else (e.setState n r.state, some r.state)

/-- A job of a runner has ended. -/
def completeJob (e : TaskEngine) (n : Nat) (succeeded : Bool) : TaskEngine :=
  if succeeded then
    match e.refresh n with
    | (e, some _) => e
    | (e, none) => e.setState n .lost
  else e.setState n .lost

/-- Publishes an event, as long as the engine exists. -/
def publish (e : TaskEngine) (event : LifecycleEvent) : TaskEngine :=
  { e with published := e.published ++ [event] }

/-- Deals with the oldest announcement of the store. -/
def hear (e : TaskEngine) : TaskEngine :=
  match e.stores.takeAnnounced with
  | (_, none) => e
  | (stores, some r) =>
    let e := { e with stores := stores }
    if !e.alive then e
    else
      let e := e.publish (.taskStateChange r.sourceAppName r.taskId r.state)
      if r.state = .running && e.leads then e.killZombie r.sourceAppName r.taskId else e

/-- Looks at the state of a runner: one whose task is over is handed over, a retired one is left
alone. -/
def follow (e : TaskEngine) (n : Nat) : TaskEngine :=
  match e.runners.find? n with
  | none => e
  | some r =>
    if !r.following then e
    else if r.retired then e.updateRunner n (fun r => { r with following := false })
    else if (r.state.map TaskState.isTerminal).getD false then
      { e.updateRunner n (fun r => { r with following := false }) with
        handedOver := e.handedOver ++ [n] }
    else e

/-- Ends the registration of the runner that was handed over first, and publishes that its task is
complete. -/
def reap (e : TaskEngine) : TaskEngine :=
  match e.handedOver with
  | [] => e
  | n :: rest =>
    let e := { e with handedOver := rest }
    if !e.alive then e
    else
      match e.runners.find? n with
      | none => e
      | some r => (e.deregister n).publish (.taskCompleted r.source r.task)

/-- Reads the states of all registered runners again; only the leader does. -/
def monitor (e : TaskEngine) : TaskEngine :=
  if e.leads && e.alive then e.registry.values.foldl (fun e n => (e.refresh n).1) e else e

/-- The stored tasks that are not over and have a registered runner. -/
def activeTasks (e : TaskEngine) : List TaskRecord :=
  (e.registry.values.filterMap (fun n =>
    (e.runners.find? n).bind (fun r => e.stores.record? r.source r.task))).filter
    (fun r => r.state.isActive)

/-- Takes the engine down: every registered runner is dropped. -/
def drop (e : TaskEngine) : TaskEngine :=
  { e.registry.values.foldl retire e with alive := false, registry := ∅ }

end TaskEngine
end Orchestration
