import Orchestration.Identity

/-!
# Resources

What one instance of a deployable needs, what it was given, and what an executor has to offer.
Cores and memory are counted per memory node of a host.
-/

namespace Orchestration

/-- One resource that every instance needs. -/
inductive ResourceRequirement where
  | cpu (count : UInt64)
  | memory (sizeInMb : UInt64)
  deriving DecidableEq, Repr

namespace ResourceRequirement

/-- The names of the requirements, in their order. -/
def caseNames : List String :=
  ["CPU", "MEMORY"]

instance : Wire ResourceRequirement where
  encode
    | .cpu count => .tagged "CPU" [("count", encode count)]
    | .memory size => .tagged "MEMORY" [("size_in_mb", encode size)]
  decodeIn mode j := do
    let (tag, j) ← j.tagged? mode caseNames
    match tag with
    | "CPU" =>
      let f ← Fields.of? .buffered ["count"] j
      return .cpu (← f.required "count")
    | "MEMORY" =>
      let f ← Fields.of? .buffered ["size_in_mb"] j
      return .memory (← f.required "size_in_mb")
    | _ => none

/-- Whether cores are required. -/
def isCpu : ResourceRequirement → Bool
  | .cpu _ => true
  | .memory _ => false

/-- Whether memory is required. -/
def isMemory : ResourceRequirement → Bool
  | .cpu _ => false
  | .memory _ => true

/-- The cores that this requirement asks for. -/
def cores : ResourceRequirement → UInt64
  | .cpu count => count
  | .memory _ => 0

/-- The megabytes that this requirement asks for. -/
def megabytes : ResourceRequirement → UInt64
  | .cpu _ => 0
  | .memory size => size

end ResourceRequirement

/-- The cores that one instance needs. -/
def coresPerInstance (rs : List ResourceRequirement) : UInt64 :=
  rs.foldl (fun n r => n + r.cores) 0

/-- The memory in megabytes that one instance needs. -/
def memoryPerInstance (rs : List ResourceRequirement) : UInt64 :=
  rs.foldl (fun n r => n + r.megabytes) 0

/-- Core numbers by memory node. -/
abbrev CoreMap : Type :=
  SortedMap UInt32 (SortedSet UInt32)

/-- Megabytes by memory node. -/
abbrev MemoryMap : Type :=
  SortedMap UInt32 UInt64

/-- The resources that an instance was given. -/
inductive ResourceAllocation where
  | cpu (byNode : CoreMap)
  | memory (byNode : MemoryMap)

namespace ResourceAllocation

/-- The names of the allocations, in their order. -/
def caseNames : List String :=
  ["CPU", "MEMORY"]

instance : Wire ResourceAllocation where
  encode
    | .cpu byNode => .tagged "CPU" [("cores", encode byNode)]
    | .memory byNode => .tagged "MEMORY" [("memory_in_mb", encode byNode)]
  decodeIn mode j := do
    let (tag, j) ← j.tagged? mode caseNames
    match tag with
    | "CPU" =>
      let f ← Fields.of? .buffered ["cores"] j
      return .cpu (← f.required "cores")
    | "MEMORY" =>
      let f ← Fields.of? .buffered ["memory_in_mb"] j
      return .memory (← f.required "memory_in_mb")
    | _ => none

end ResourceAllocation

/-- The cores of an executor host by memory node. -/
structure PhysicalLayout where
  cores : CoreMap

namespace PhysicalLayout

instance : Wire PhysicalLayout where
  encode l := .obj [("cores", encode l.cores)]
  decodeIn mode j := do
    let f ← Fields.of? mode ["cores"] j
    return { cores := ← f.required "cores" }

/-- The cores of the largest memory node, if there is one. -/
def maxCoresPerNode (l : PhysicalLayout) : Option UInt64 :=
  (l.cores.values.map (fun c => UInt64.ofNat c.size)).max?

end PhysicalLayout

/-- The free resources of one executor at one moment. -/
structure ExecutorResources where
  executorId : ExecutorId
  hostname : String
  freeCores : CoreMap
  freeMemory : MemoryMap
  layout : Option PhysicalLayout
  blacklisted : Bool

namespace ExecutorResources

instance : Wire ExecutorResources where
  encode e := .obj [
    ("executor_id", encode e.executorId),
    ("hostname", encode e.hostname),
    ("free_cores", encode e.freeCores),
    ("free_memory", encode e.freeMemory),
    ("layout", encode e.layout),
    ("blacklisted", encode e.blacklisted)]
  decodeIn mode j := do
    let f ← Fields.of? mode
      ["executor_id", "hostname", "free_cores", "free_memory", "layout", "blacklisted"] j
    return {
      executorId := ← f.required "executor_id"
      hostname := ← f.required "hostname"
      freeCores := ← f.required "free_cores"
      freeMemory := ← f.required "free_memory"
      layout := ← f.optional "layout"
      blacklisted := ← f.withDefault "blacklisted" false }

/-- The number of free cores on all memory nodes. -/
def totalFreeCores (e : ExecutorResources) : UInt64 :=
  e.freeCores.values.foldl (fun n c => n + UInt64.ofNat c.size) 0

/-- The free memory on all memory nodes. -/
def totalFreeMemory (e : ExecutorResources) : UInt64 :=
  e.freeMemory.values.foldl (· + ·) 0

/-- The cores of the largest memory node, if the layout is known. -/
def maxCoresPerNode (e : ExecutorResources) : Option UInt64 :=
  e.layout.bind PhysicalLayout.maxCoresPerNode

end ExecutorResources
end Orchestration
