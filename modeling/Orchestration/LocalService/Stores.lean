import Orchestration.Store.Instances
import Orchestration.Store.Records

/-!
# What local services are kept in

The durable records of local services and their instances, and the wall clock that decides which
records are stale.

Main definitions: `LocalServiceStores.persistInstancesPerHost`, `LocalServiceStores.forget`.
-/

namespace Orchestration

/-- The stores that the local service engine works on. -/
structure LocalServiceStores where
  now : Timestamp
  records : Gated (Records LocalServiceRecord) := ⟨∅, true, 0⟩
  instances : Gated Instances := ⟨∅, true, 0⟩

namespace LocalServiceStores

/-- The record of a local service. -/
def record? (w : LocalServiceStores) (id : DeployableId) : Option LocalServiceRecord :=
  w.records.root.find? id

/-- Writes the record of a local service; refused when the gate is shut. -/
def writeRecord (w : LocalServiceStores) (id : DeployableId) (r : LocalServiceRecord) :
    LocalServiceStores × Bool :=
  let (records, accepted) := w.records.write (fun rs => rs.insert id r)
  ({ w with records := records }, accepted)

/-- Deletes the record of a local service; refused when the gate is shut. -/
def deleteRecord (w : LocalServiceStores) (id : DeployableId) : LocalServiceStores × Bool :=
  let (records, accepted) := w.records.write (fun rs => rs.erase id)
  ({ w with records := records }, accepted)

/-- Writes an instance; refused when the gate is shut. -/
def writeInstance (w : LocalServiceStores) (owner : DeployableId) (id : InstanceId)
    (r : InstanceRecord) : LocalServiceStores × Bool :=
  let (instances, accepted) := w.instances.write (fun i => i.put owner id r)
  ({ w with instances := instances }, accepted)

/-- Deletes an instance; refused when the gate is shut. -/
def deleteInstance (w : LocalServiceStores) (owner : DeployableId) (id : InstanceId) :
    LocalServiceStores × Bool :=
  let (instances, accepted) := w.instances.write (fun i => i.remove owner id)
  ({ w with instances := instances }, accepted)

/-- Deletes all instances of a local service; refused when the gate is shut. -/
def deleteInstances (w : LocalServiceStores) (owner : DeployableId) :
    LocalServiceStores × Bool :=
  let (instances, accepted) := w.instances.write (fun i => i.removeGroup owner)
  ({ w with instances := instances }, accepted)

/-- Writes the number of instances on every executor into the record of a local service, if it has
one. -/
def persistInstancesPerHost (w : LocalServiceStores) (id : DeployableId) (n : UInt32) :
    LocalServiceStores :=
  match w.record? id with
  | some r => (w.writeRecord id (r.withInstancesPerHost w.now n)).1
  | none => w

/-- Deletes the record of a local service and all its instances. -/
def forget (w : LocalServiceStores) (id : DeployableId) : LocalServiceStores :=
  ((w.deleteRecord id).1.deleteInstances id).1

end LocalServiceStores
end Orchestration
