import Orchestration.Store.Cluster
import Orchestration.Store.Tasks

/-!
# What tasks are kept in

The durable task records behind their gate, the inventory of executors, and the wall clock that
decides which records are stale.  With `keepsNewest` the store refuses an update that is older
than the record it holds, as a store behind a cache does.

Main definitions: `TaskStores.record?`, `TaskStores.update`.
-/

namespace Orchestration

/-- The stores that the task engine works on. -/
structure TaskStores where
  now : Timestamp
  gated : Gated TaskStore := ⟨{}, true, 0⟩
  keepsNewest : Bool := false
  cluster : Cluster := ∅

namespace TaskStores

/-- The record of a task. -/
def record? (w : TaskStores) (source task : String) : Option TaskRecord :=
  w.gated.root.tasks.get source task

/-- Whether a record comes too late to be written. -/
def isOutdated (w : TaskStores) (source task : String) (r : TaskRecord) : Bool :=
  w.keepsNewest &&
    match w.record? source task with
    | some held => r.updated < held.updated
    | none => false

/-- Writes the record of a task and announces a changed state.  Refused when it comes too late or
the gate is shut. -/
def update (w : TaskStores) (source task : String) (r : TaskRecord) : TaskStores × Bool :=
  if w.isOutdated source task r then (w, false)
  else
    let (gated, accepted) := w.gated.write (fun s => s.update source task r)
    ({ w with gated := gated }, accepted)

/-- Deletes the record of a task; refused when the gate is shut. -/
def delete (w : TaskStores) (source task : String) : TaskStores × Bool :=
  let (gated, accepted) := w.gated.write (fun s => s.delete source task)
  ({ w with gated := gated }, accepted)

/-- Takes the oldest announcement. -/
def takeAnnounced (w : TaskStores) : TaskStores × Option TaskRecord :=
  match w.gated.root.announced with
  | [] => (w, none)
  | r :: rest =>
    ({ w with gated := { w.gated with root := { w.gated.root with announced := rest } } }, some r)

end TaskStores
end Orchestration
