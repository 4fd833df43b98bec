import Orchestration.Spec.Resource

/-!
# The inventory of executors

The free resources of every known executor.  An executor that is added again replaces its former
entry; listings come in the order of the executors' identifiers.
-/

namespace Orchestration

/-- The executors of a cluster. -/
abbrev Cluster : Type :=
  SortedMap ExecutorId ExecutorResources

namespace Cluster

/-- Adds an executor, or replaces what was known of it. -/
def add (c : Cluster) (e : ExecutorResources) : Cluster :=
  c.insert e.executorId e

/-- Removes an executor. -/
def remove (c : Cluster) (id : ExecutorId) : Cluster :=
  c.erase id

/-- The executors; those on the blacklist only on request. -/
def snapshot (c : Cluster) (includeBlacklisted : Bool) : List ExecutorResources :=
  c.values.filter (fun e => includeBlacklisted || !e.blacklisted)

/-- The number of executors; those on the blacklist count only on request. -/
def count (c : Cluster) (includeBlacklisted : Bool) : Nat :=
  (c.snapshot includeBlacklisted).length

end Cluster
end Orchestration
