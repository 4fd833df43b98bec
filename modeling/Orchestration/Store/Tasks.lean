import Orchestration.Record
import Orchestration.Store.Gate
import Orchestration.Store.Groups

/-!
# Task records and their cache

Task runs, grouped by their source application.  An update that changes the state of a task, or
that records a task for the first time, is announced to all who watch the store; a raw write is
not.

`TaskProxy` is a read-through cache in front of the gated store.  It drops a write that is older
than the record it knows, so that a late report never overwrites a newer one, and it announces the
updates made through it.

Main definitions: `TaskStore.update`, `TaskStore.lists`, and the operations of `TaskProxy`.
-/

namespace Orchestration

/-- Task records by source application and task. -/
abbrev Tasks : Type :=
  Groups String String TaskRecord

namespace Tasks

/-- The task runs of a source in some states, in the order of their keys. -/
def select (t : Tasks) (now : Timestamp) (source : String) (states : List TaskState)
    (includeStale : Bool) : List TaskRecord :=
  (t.group source).values.filter
    (fun r => states.contains r.state && (includeStale || !r.isStale now))

/-- Deletes the task runs that pass a test; says how many. -/
def cleanup (t : Tasks) (drop : TaskRecord → Bool) : Tasks × Nat :=
  let kept := t.retain (fun r => !drop r)
  (kept, t.count - kept.count)

/-- Whether an update is announced: the state differs from the one before, a missing record
counting as different. -/
def announces (previous : Option TaskRecord) (r : TaskRecord) : Bool :=
  previous.map (·.state) != some r.state

end Tasks

/-- The durable task records with the announcements made so far, oldest first. -/
structure TaskStore where
  tasks : Tasks := ∅
  announced : List TaskRecord := []

namespace TaskStore

/-- Writes a record under a key. -/
def write (s : TaskStore) (source task : String) (r : TaskRecord) : TaskStore :=
  { s with tasks := s.tasks.put source task r }

/-- Writes a record under a key, and announces it when its state changed. -/
def update (s : TaskStore) (source task : String) (r : TaskRecord) : TaskStore :=
  let previous := s.tasks.get source task
  let s := s.write source task r
  if Tasks.announces previous r then { s with announced := s.announced ++ [r] } else s

/-- Deletes the record under a key. -/
def delete (s : TaskStore) (source task : String) : TaskStore :=
  { s with tasks := s.tasks.remove source task }

/-- Deletes the task runs that pass a test; says how many. -/
def cleanup (s : TaskStore) (drop : TaskRecord → Bool) : TaskStore × Nat :=
  let (tasks, removed) := s.tasks.cleanup drop
  ({ s with tasks := tasks }, removed)

end TaskStore

/-- A read-through cache in front of gated task records, with the announcements made through it,
oldest first. -/
structure TaskProxy where
  store : Gated TaskStore
  cache : Tasks := ∅
  announced : List TaskRecord := []

namespace TaskProxy

/-- Forgets everything that was read. -/
def purge (p : TaskProxy) : TaskProxy :=
  { p with cache := ∅ }

/-- Makes sure that the group of a source is in the cache. -/
def load (p : TaskProxy) (now : Timestamp) (source : String) : TaskProxy :=
  if p.cache.contains source then p
  else
    let (all, store) := p.store.read (fun s => s.tasks.select now source Named.members true)
    { p with store := store, cache := p.cache.replace source TaskRecord.taskId all }

/-- The task runs of a source in some states. -/
def select (p : TaskProxy) (now : Timestamp) (source : String) (states : List TaskState)
    (includeStale : Bool) : List TaskRecord × TaskProxy :=
  let p := p.load now source
  (p.cache.select now source states includeStale, p)

/-- One task run of a source. -/
def get (p : TaskProxy) (now : Timestamp) (source task : String) :
    Option TaskRecord × TaskProxy :=
  let p := p.load now source
  (p.cache.get source task, p)

/-- Whether the record that is known under a key is newer than a given one. -/
def knowsNewer (p : TaskProxy) (source task : String) (r : TaskRecord) : Bool :=
  match p.cache.get source task with
  | some known => r.updated < known.updated
  | none => false

/-- Writes a record under a key, unless a newer one is known there. -/
def write (p : TaskProxy) (now : Timestamp) (source task : String) (r : TaskRecord) :
    TaskProxy × Bool :=
  let p := p.load now source
  if p.knowsNewer source task r then (p, false)
  else
    match p.store.write (fun s => s.write source task r) with
    | (store, true) =>
      ({ p with store := store, cache := p.cache.putKnown source task r }, true)
    | (_, false) => (p, false)

/-- Writes a record under a key, and announces it when its state changed. -/
def update (p : TaskProxy) (now : Timestamp) (source task : String) (r : TaskRecord) :
    TaskProxy × Bool :=
  let (previous, p) := p.get now source task
  match p.write now source task r with
  | (p, true) =>
    (if Tasks.announces previous r then { p with announced := p.announced ++ [r] } else p, true)
  | (p, false) => (p, false)

/-- Deletes the record under a key. -/
def delete (p : TaskProxy) (source task : String) : TaskProxy × Bool :=
  match p.store.write (fun s => s.delete source task) with
  | (store, true) => ({ p with store := store, cache := p.cache.remove source task }, true)
  | (_, false) => (p, false)

/-- Deletes the task runs that pass a test; says how many the store deleted. -/
def cleanup (p : TaskProxy) (drop : TaskRecord → Bool) : TaskProxy × Nat :=
  let (store, removed) := p.store.pass (fun s => s.cleanup drop)
  ({ p with store := store, cache := p.cache.retain (fun r => !drop r) }, removed)

end TaskProxy
end Orchestration
