import Orchestration.Store.Cluster

/-!
# Admission by capacity

Whether a cluster can take a number of new instances.  Free cores and memory are summed over all
executors, those on the blacklist included.  The cores of one instance have to fit on one memory
node of some host.

Main results:

- `Capacity.toNat_times`: products that are too large stay at the largest word.
-/

namespace Orchestration
namespace Capacity

/-- A product of words that stops at the largest word. -/
def times (a b : UInt64) : UInt64 :=
  UInt64.ofNat (min (a.toNat * b.toNat) (UInt64.size - 1))

/-- The free cores of all executors. -/
def freeCores (c : Cluster) : UInt64 :=
  ((Cluster.snapshot c true).map ExecutorResources.totalFreeCores).foldl (· + ·) 0

/-- The free memory of all executors. -/
def freeMemory (c : Cluster) : UInt64 :=
  ((Cluster.snapshot c true).map ExecutorResources.totalFreeMemory).foldl (· + ·) 0

/-- The cores of the largest memory node of the cluster, if any layout is known. -/
def maxCoresPerNode (c : Cluster) : Option UInt64 :=
  ((Cluster.snapshot c true).filterMap ExecutorResources.maxCoresPerNode).max?

/-- The limits that new instances with the given needs would break. -/
def shortages (c : Cluster) (needs : List ResourceRequirement) (instances : UInt64) :
    List String :=
  let cores := times instances (coresPerInstance needs)
  let memory := times instances (memoryPerInstance needs)
  (if freeCores c < cores then
    ["Cluster does not have enough CPU. Required: " ++ toString cores.toNat ++ " Available: " ++
      toString (freeCores c).toNat]
   else []) ++
  (if freeMemory c < memory then
    ["Cluster does not have enough Memory. Required: " ++ toString memory.toNat ++
      " Available: " ++ toString (freeMemory c).toNat]
   else []) ++
  (match maxCoresPerNode c with
   | some max =>
     if max < coresPerInstance needs then
       ["Required cores exceeds the maximum core available on a single NUMA node in the " ++
         "cluster. Required: " ++ toString (coresPerInstance needs).toNat ++ " Max: " ++
         toString max.toNat]
     else []
   | none => [])

/-- A product of words is exact up to the largest word. -/
theorem toNat_times (a b : UInt64) :
    (times a b).toNat = min (a.toNat * b.toNat) (UInt64.size - 1) := by
  unfold times
  rw [UInt64.toNat_ofNat']
  apply Nat.mod_eq_of_lt
  have hsize : UInt64.size = 2 ^ 64 := rfl
  omega

end Capacity
end Orchestration
