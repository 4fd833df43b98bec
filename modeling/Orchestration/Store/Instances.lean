import Orchestration.Record
import Orchestration.Store.Gate
import Orchestration.Store.Groups

/-!
# Instance records and their cache

The instances of applications and of local services, grouped by their owner.  A listing asks for
some states; instances that were not heard of for too long are left out unless asked for.  Stale
instances that are still active can be given up, which marks them lost.

`InstanceProxy` is a read-through cache in front of the gated store.  It loads whole groups, in
every state and stale ones included, and filters on the way out.

Main definitions: `Instances.select`, `Instances.markStale`, and the operations of
`InstanceProxy`.
-/

namespace Orchestration

/-- Instance records by owner and instance. -/
abbrev Instances : Type :=
  Groups DeployableId InstanceId InstanceRecord

/-- The instances of one owner. -/
abbrev InstanceGroup : Type :=
  SortedMap InstanceId InstanceRecord

namespace InstanceGroup

/-- The instances in some states, in the order of their keys. -/
def select (g : InstanceGroup) (now : Timestamp) (states : List InstanceState)
    (includeStale : Bool) : List InstanceRecord :=
  g.values.filter (fun r => states.contains r.state && (includeStale || !r.isStale now))

/-- Whether an instance is to be given up: still active, and not heard of for too long. -/
def isLost (now : Timestamp) (r : InstanceRecord) : Bool :=
  r.state.isActive && r.isStale now

/-- Gives up the active instances that are stale; says how many. -/
def markStale (g : InstanceGroup) (now : Timestamp) : InstanceGroup × Nat :=
  (g.mapValues (fun _ r => if isLost now r then r.asLost now else r),
    (g.values.filter (isLost now)).length)

end InstanceGroup

namespace Instances

/-- The instances of an owner in some states. -/
def select (i : Instances) (now : Timestamp) (owner : DeployableId)
    (states : List InstanceState) (includeStale : Bool) : List InstanceRecord :=
  InstanceGroup.select (i.group owner) now states includeStale

/-- Every instance of an owner, stale ones included. -/
def all (i : Instances) (now : Timestamp) (owner : DeployableId) : List InstanceRecord :=
  i.select now owner Named.members true

/-- The instances of an owner that hold resources and are not stale. -/
def active (i : Instances) (now : Timestamp) (owner : DeployableId) : List InstanceRecord :=
  i.select now owner InstanceState.activeStates false

/-- The healthy instances of an owner that are not stale. -/
def healthy (i : Instances) (now : Timestamp) (owner : DeployableId) : List InstanceRecord :=
  i.select now owner [.healthy] false

/-- The number of instances of an owner in some states that are not stale. -/
def count (i : Instances) (now : Timestamp) (owner : DeployableId)
    (states : List InstanceState) : Nat :=
  (i.select now owner states false).length

/-- Gives up the stale active instances of an owner; says how many. -/
def markStale (i : Instances) (now : Timestamp) (owner : DeployableId) : Instances × Nat :=
  match i.find? owner with
  | some g =>
    let (g, marked) := InstanceGroup.markStale g now
    (i.insert owner g, marked)
  | none => (i, 0)

end Instances

/-- A read-through cache in front of gated instance records. -/
structure InstanceProxy where
  store : Gated Instances
  cache : Instances := ∅

namespace InstanceProxy

/-- Forgets everything that was read. -/
def purge (p : InstanceProxy) : InstanceProxy :=
  { p with cache := ∅ }

/-- Reads the whole group of an owner from the store. -/
def reload (p : InstanceProxy) (now : Timestamp) (owner : DeployableId) : InstanceProxy :=
  let (all, store) := p.store.read (fun i => i.all now owner)
  { store := store, cache := p.cache.replace owner InstanceRecord.instanceId all }

/-- Makes sure that the group of an owner is in the cache. -/
def load (p : InstanceProxy) (now : Timestamp) (owner : DeployableId) : InstanceProxy :=
  if p.cache.contains owner then p else p.reload now owner

/-- The instances of an owner in some states. -/
def select (p : InstanceProxy) (now : Timestamp) (owner : DeployableId)
    (states : List InstanceState) (includeStale : Bool) : List InstanceRecord × InstanceProxy :=
  let p := p.load now owner
  (p.cache.select now owner states includeStale, p)

/-- The instances of an owner that hold resources and are not stale. -/
def active (p : InstanceProxy) (now : Timestamp) (owner : DeployableId) :
    List InstanceRecord × InstanceProxy :=
  p.select now owner InstanceState.activeStates false

/-- The healthy instances of an owner that are not stale. -/
def healthy (p : InstanceProxy) (now : Timestamp) (owner : DeployableId) :
    List InstanceRecord × InstanceProxy :=
  p.select now owner [.healthy] false

/-- The number of instances of an owner in some states that are not stale. -/
def count (p : InstanceProxy) (now : Timestamp) (owner : DeployableId)
    (states : List InstanceState) : Nat × InstanceProxy :=
  let (found, p) := p.select now owner states false
  (found.length, p)

/-- One instance of an owner. -/
def get (p : InstanceProxy) (now : Timestamp) (owner : DeployableId) (id : InstanceId) :
    Option InstanceRecord × InstanceProxy :=
  let p := p.load now owner
  (p.cache.get owner id, p)

/-- Writes an instance under a key and reads its group again. -/
def update (p : InstanceProxy) (now : Timestamp) (owner : DeployableId) (id : InstanceId)
    (r : InstanceRecord) : InstanceProxy × Bool :=
  match p.store.write (fun i => i.put owner id r) with
  | (store, true) => ({ p with store := store }.reload now owner, true)
  | (_, false) => (p, false)

/-- Deletes the instance under a key. -/
def delete (p : InstanceProxy) (owner : DeployableId) (id : InstanceId) :
    InstanceProxy × Bool :=
  match p.store.write (fun i => i.remove owner id) with
  | (store, true) => ({ store := store, cache := p.cache.remove owner id }, true)
  | (_, false) => (p, false)

/-- Deletes all instances of an owner. -/
def deleteAll (p : InstanceProxy) (owner : DeployableId) : InstanceProxy × Bool :=
  match p.store.write (fun i => i.removeGroup owner) with
  | (store, true) => ({ store := store, cache := p.cache.insert owner ∅ }, true)
  | (_, false) => (p, false)

/-- Gives up the stale active instances of an owner, and reads the group again if there were
any. -/
def markStale (p : InstanceProxy) (now : Timestamp) (owner : DeployableId) :
    InstanceProxy × Nat :=
  let (store, marked) := p.store.pass (fun i => i.markStale now owner)
  let p := { p with store := store }
  (if 0 < marked then p.reload now owner else p, marked)

end InstanceProxy
end Orchestration
