import Orchestration.Store.Cluster
import Orchestration.Store.Instances
import Orchestration.Store.Records

/-!
# What applications are kept in

The durable records of applications and their instances, the inventory of executors, and the wall
clock that decides which records are stale.

Main definitions: `ApplicationStores.persistInstances`, `ApplicationStores.forget`.
-/

namespace Orchestration

/-- The stores that the application engine works on. -/
structure ApplicationStores where
  now : Timestamp
  records : Gated (Records ApplicationRecord) := ⟨∅, true, 0⟩
  instances : Gated Instances := ⟨∅, true, 0⟩
  cluster : Cluster := ∅

namespace ApplicationStores

/-- The record of an application. -/
def record? (w : ApplicationStores) (id : DeployableId) : Option ApplicationRecord :=
  w.records.root.find? id

/-- Writes the record of an application; refused when the gate is shut. -/
def writeRecord (w : ApplicationStores) (id : DeployableId) (r : ApplicationRecord) :
    ApplicationStores × Bool :=
  let (records, accepted) := w.records.write (fun rs => rs.insert id r)
  ({ w with records := records }, accepted)

/-- Deletes the record of an application; refused when the gate is shut. -/
def deleteRecord (w : ApplicationStores) (id : DeployableId) : ApplicationStores × Bool :=
  let (records, accepted) := w.records.write (fun rs => rs.erase id)
  ({ w with records := records }, accepted)

/-- Writes an instance; refused when the gate is shut. -/
def writeInstance (w : ApplicationStores) (owner : DeployableId) (id : InstanceId)
    (r : InstanceRecord) : ApplicationStores × Bool :=
  let (instances, accepted) := w.instances.write (fun i => i.put owner id r)
  ({ w with instances := instances }, accepted)

/-- Deletes an instance; refused when the gate is shut. -/
def deleteInstance (w : ApplicationStores) (owner : DeployableId) (id : InstanceId) :
    ApplicationStores × Bool :=
  let (instances, accepted) := w.instances.write (fun i => i.remove owner id)
  ({ w with instances := instances }, accepted)

/-- Deletes all instances of an application; refused when the gate is shut. -/
def deleteInstances (w : ApplicationStores) (owner : DeployableId) : ApplicationStores × Bool :=
  let (instances, accepted) := w.instances.write (fun i => i.removeGroup owner)
  ({ w with instances := instances }, accepted)

/-- Writes the desired number of instances into the record of an application, if it has one. -/
def persistInstances (w : ApplicationStores) (id : DeployableId) (n : UInt64) :
    ApplicationStores :=
  match w.record? id with
  | some r => (w.writeRecord id (r.withInstances w.now n)).1
  | none => w

/-- Deletes the record of an application and all its instances. -/
def forget (w : ApplicationStores) (id : DeployableId) : ApplicationStores :=
  ((w.deleteRecord id).1.deleteInstances id).1

end ApplicationStores
end Orchestration
