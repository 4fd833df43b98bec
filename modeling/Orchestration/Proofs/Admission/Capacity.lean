import Mathlib.Algebra.GroupWithZero.Nat
import Mathlib.Data.Fintype.Card
import Orchestration.Proofs.Admission.Eligible

/-!
# Capacity in exact numbers

The review of new instances works with words.  It sums what is free and what an instance needs, and
a product that is too large stays at the largest word.  This module says in numbers without a bound
what the review decides, for clusters and instances whose sums fit words.

Each of the three limits is decided exactly, but for one case: a product that stays at the largest
word does not exceed what is free when that is the largest word itself, so that a limit that is
broken there is overlooked.

Main results:

- `Capacity.shortages_eq`: which limits are reported, in which order, and by which messages.
- `Application.capacity_reviewed`: when instances may be started, and when an application may be
  scaled.
-/

namespace Orchestration

/-! ## Words and numbers -/

namespace Capacity

/-- The larger of two words is the larger number. -/
theorem toNat_max (a b : UInt64) : (max a b).toNat = max a.toNat b.toNat := by
  show (if a ≤ b then b else a).toNat = _
  split
  · rename_i h
    exact (Nat.max_eq_right (UInt64.le_iff_toNat_le.1 h)).symm
  · rename_i h
    exact (Nat.max_eq_left (Nat.le_of_not_le fun h' => h (UInt64.le_iff_toNat_le.2 h'))).symm

/-- Words are ordered like numbers, so that the laws of the maximum hold of them. -/
instance lawfulOrderMaxUInt64 : Std.LawfulOrderMax UInt64 where
  max_le_iff a b c := by
    simp only [UInt64.le_iff_toNat_le, toNat_max]
    omega
  max_eq_or a b := by
    simp only [← UInt64.toNat_inj, toNat_max]
    omega

/-- A sum of words is exact when it fits a word, and each summand is exact when it fits one. -/
theorem toNat_foldl_add {α : Type} (word : α → UInt64) (number : α → Nat) {l : List α}
    (hexact : ∀ a ∈ l, number a < UInt64.size → (word a).toNat = number a) (start : UInt64)
    (hfits : start.toNat + (l.map number).sum < UInt64.size) :
    (l.foldl (fun n a => n + word a) start).toNat = start.toNat + (l.map number).sum := by
  induction l generalizing start with
  | nil => rfl
  | cons a rest ih =>
      rw [List.map_cons, List.sum_cons] at hfits
      have ha : (word a).toNat = number a := hexact a (by simp) (by omega)
      have hstart : (start + word a).toNat = start.toNat + number a := by
        rw [UInt64.toNat_add, ha]
        exact Nat.mod_eq_of_lt (show _ < UInt64.size by omega)
      rw [List.foldl_cons, ih (fun b hb => hexact b (by simp [hb])) _ (by omega), hstart,
        List.map_cons, List.sum_cons, Nat.add_assoc]

/-- There are no more keys than words of their width. -/
theorem size_le_of_uint32 {β : Type} (m : SortedMap UInt32 β) : m.size ≤ UInt32.size := by
  have hnodup : m.keys.Nodup := by
    refine List.pairwise_map.2 (m.sorted.imp fun {a b} hlt heq => ?_)
    have hcompare : compare a.1 b.1 = .eq := heq ▸ Std.ReflCmp.compare_self
    rw [hlt] at hcompare
    cases hcompare
  have hcard := (hnodup.map (f := UInt32.toFin) fun _ _ => UInt32.toFin_inj.1).length_le_card
  simpa [SortedMap.keys, SortedMap.size] using hcard

/-- The number of keys of a map fits a word of twice their width. -/
theorem toNat_size {β : Type} (m : SortedMap UInt32 β) : (UInt64.ofNat m.size).toNat = m.size :=
  UInt64.toNat_ofNat_of_lt' (Nat.lt_of_le_of_lt (size_le_of_uint32 m) (by decide))

/-- The largest of several words is the largest number. -/
theorem max?_map_toNat (l : List UInt64) : (l.map UInt64.toNat).max? = l.max?.map UInt64.toNat := by
  cases hmax : l.max? with
  | none =>
      rw [List.max?_eq_none_iff.1 hmax]
      rfl
  | some m =>
      obtain ⟨hmem, hle⟩ := List.max?_eq_some_iff.1 hmax
      refine List.max?_eq_some_iff.2 ⟨List.mem_map_of_mem hmem, fun b hb => ?_⟩
      obtain ⟨w, hw, rfl⟩ := List.mem_map.1 hb
      exact UInt64.le_iff_toNat_le.1 (hle w hw)

/-- The largest of the largest numbers of several lists is the largest of all. -/
theorem max?_filterMap_max? {α : Type} (f : α → List Nat) (l : List α) :
    (l.filterMap (fun a => (f a).max?)).max? = (l.flatMap f).max? := by
  apply Option.ext
  intro m
  simp only [List.max?_eq_some_iff, List.mem_filterMap, List.mem_flatMap]
  constructor
  · rintro ⟨⟨a, ha, hmem, -⟩, hle⟩
    refine ⟨⟨a, ha, hmem⟩, ?_⟩
    rintro b ⟨a', ha', hb⟩
    cases hmax : (f a').max? with
    | none =>
        rw [List.max?_eq_none_iff.1 hmax] at hb
        cases hb
    | some m' =>
        have hmax' := List.max?_eq_some_iff.1 hmax
        exact Nat.le_trans (hmax'.2 b hb) (hle m' ⟨a', ha', hmax'⟩)
  · rintro ⟨⟨a, ha, hmem⟩, hle⟩
    refine ⟨⟨a, ha, hmem, fun b hb => hle b ⟨a, ha, hb⟩⟩, ?_⟩
    rintro b ⟨a', ha', hb, -⟩
    exact hle b ⟨a', ha', hb⟩

end Capacity

/-! ## What is free and what is needed -/

namespace ExecutorResources

/-- How many cores of an executor are free. -/
def coresFree (e : ExecutorResources) : Nat :=
  (e.freeCores.values.map SortedMap.size).sum

/-- How many megabytes of an executor are free. -/
def memoryFree (e : ExecutorResources) : Nat :=
  (e.freeMemory.values.map UInt64.toNat).sum

/-- How many cores there are on each memory node of an executor, if its layout is known. -/
def nodeSizes (e : ExecutorResources) : List Nat :=
  (e.layout.map (fun l => l.cores.values.map SortedMap.size)).getD []

/-- The free cores of an executor are counted exactly when they fit a word. -/
theorem toNat_totalFreeCores {e : ExecutorResources} (h : e.coresFree < UInt64.size) :
    e.totalFreeCores.toNat = e.coresFree := by
  have hsum := Capacity.toNat_foldl_add (l := e.freeCores.values) (fun s => UInt64.ofNat s.size)
    SortedMap.size (fun s _ _ => Capacity.toNat_size s) 0 (by simpa [coresFree] using h)
  simpa [totalFreeCores, coresFree] using hsum

/-- So is the free memory of an executor. -/
theorem toNat_totalFreeMemory {e : ExecutorResources} (h : e.memoryFree < UInt64.size) :
    e.totalFreeMemory.toNat = e.memoryFree := by
  have hsum := Capacity.toNat_foldl_add (l := e.freeMemory.values) id UInt64.toNat
    (fun _ _ _ => rfl) 0 (by simpa [memoryFree] using h)
  simpa [totalFreeMemory, memoryFree] using hsum

/-- The largest memory node of an executor. -/
theorem toNat_maxCoresPerNode (e : ExecutorResources) :
    e.maxCoresPerNode.map UInt64.toNat = e.nodeSizes.max? := by
  unfold maxCoresPerNode nodeSizes
  cases e.layout with
  | none => rfl
  | some l =>
      have hsize : UInt64.toNat ∘ (fun s : SortedSet UInt32 => UInt64.ofNat s.size) =
          SortedMap.size := funext Capacity.toNat_size
      show (PhysicalLayout.maxCoresPerNode l).map UInt64.toNat = _
      rw [PhysicalLayout.maxCoresPerNode, ← Capacity.max?_map_toNat, List.map_map, hsize]
      rfl

end ExecutorResources

/-- A snapshot with the blacklisted executors holds all of them. -/
theorem Cluster.snapshot_true (c : Cluster) : c.snapshot true = c.values := by
  simp [Cluster.snapshot]

namespace Capacity

/-- How many cores are free in a cluster. -/
def coresFree (c : Cluster) : Nat :=
  (c.values.map ExecutorResources.coresFree).sum

/-- How many megabytes are free in a cluster. -/
def memoryFree (c : Cluster) : Nat :=
  (c.values.map ExecutorResources.memoryFree).sum

/-- How many cores there are on each memory node that is known. -/
def nodeSizes (c : Cluster) : List Nat :=
  c.values.flatMap ExecutorResources.nodeSizes

/-- How many cores an instance needs. -/
def coresNeeded (needs : List ResourceRequirement) : Nat :=
  (needs.map (fun r => r.cores.toNat)).sum

/-- How many megabytes an instance needs. -/
def memoryNeeded (needs : List ResourceRequirement) : Nat :=
  (needs.map (fun r => r.megabytes.toNat)).sum

/-- What is free in a cluster, and what an instance needs, fits words. -/
structure Fits (c : Cluster) (needs : List ResourceRequirement) : Prop where
  coresFree : coresFree c < UInt64.size
  memoryFree : memoryFree c < UInt64.size
  coresNeeded : coresNeeded needs < UInt64.size
  memoryNeeded : memoryNeeded needs < UInt64.size

section Sums

variable {c : Cluster} {needs : List ResourceRequirement}

/-- The free cores of the cluster are counted exactly. -/
theorem Fits.toNat_freeCores (h : Fits c needs) : (freeCores c).toNat = Capacity.coresFree c := by
  have hsum := toNat_foldl_add (l := c.values) ExecutorResources.totalFreeCores
    ExecutorResources.coresFree (fun _ _ => ExecutorResources.toNat_totalFreeCores) 0
    (by simpa [Capacity.coresFree] using h.coresFree)
  rw [freeCores, Cluster.snapshot_true, List.foldl_map]
  simpa [Capacity.coresFree] using hsum

/-- So is its free memory. -/
theorem Fits.toNat_freeMemory (h : Fits c needs) :
    (freeMemory c).toNat = Capacity.memoryFree c := by
  have hsum := toNat_foldl_add (l := c.values) ExecutorResources.totalFreeMemory
    ExecutorResources.memoryFree (fun _ _ => ExecutorResources.toNat_totalFreeMemory) 0
    (by simpa [Capacity.memoryFree] using h.memoryFree)
  rw [freeMemory, Cluster.snapshot_true, List.foldl_map]
  simpa [Capacity.memoryFree] using hsum

/-- So are the cores that an instance needs. -/
theorem Fits.toNat_coresPerInstance (h : Fits c needs) :
    (coresPerInstance needs).toNat = Capacity.coresNeeded needs := by
  have hsum := toNat_foldl_add (l := needs) ResourceRequirement.cores (fun r => r.cores.toNat)
    (fun _ _ _ => rfl) 0 (by simpa [Capacity.coresNeeded] using h.coresNeeded)
  simpa [coresPerInstance, Capacity.coresNeeded] using hsum

/-- So is the memory that it needs. -/
theorem Fits.toNat_memoryPerInstance (h : Fits c needs) :
    (memoryPerInstance needs).toNat = Capacity.memoryNeeded needs := by
  have hsum := toNat_foldl_add (l := needs) ResourceRequirement.megabytes
    (fun r => r.megabytes.toNat) (fun _ _ _ => rfl) 0
    (by simpa [Capacity.memoryNeeded] using h.memoryNeeded)
  simpa [memoryPerInstance, Capacity.memoryNeeded] using hsum

/-- The largest memory node of a cluster. -/
theorem toNat_maxCoresPerNode (c : Cluster) :
    (maxCoresPerNode c).map UInt64.toNat = (nodeSizes c).max? := by
  rw [maxCoresPerNode, Cluster.snapshot_true, ← max?_map_toNat, List.map_filterMap, nodeSizes,
    ← max?_filterMap_max?]
  simp only [ExecutorResources.toNat_maxCoresPerNode]

end Sums

/-! ## The limits -/

/-- What new instances may run short of. -/
inductive Limit where
  | cores
  | memory
  | node
  deriving DecidableEq, Repr

namespace Limit

/-- The limits in the order in which they are reported. -/
def all : List Limit :=
  [.cores, .memory, .node]

/-- So many new instances break a limit: they need more cores or more memory than is free, or one of
them needs more cores than the largest memory node has. -/
def Broken (c : Cluster) (needs : List ResourceRequirement) (instances : Nat) : Limit → Prop
  | .cores => coresFree c < instances * coresNeeded needs
  | .memory => memoryFree c < instances * memoryNeeded needs
  | .node => nodeSizes c ≠ [] ∧ ∀ size ∈ nodeSizes c, size < coresNeeded needs

instance (c : Cluster) (needs : List ResourceRequirement) (instances : Nat) :
    DecidablePred (Broken c needs instances)
  | .cores => inferInstanceAs (Decidable (_ < _))
  | .memory => inferInstanceAs (Decidable (_ < _))
  | .node => inferInstanceAs (Decidable (_ ∧ _))

/-- What is free is the largest word, so that no product of words exceeds it. -/
def Boundless (c : Cluster) : Limit → Prop
  | .cores => coresFree c = UInt64.size - 1
  | .memory => memoryFree c = UInt64.size - 1
  | .node => False

instance (c : Cluster) : DecidablePred (Boundless c)
  | .cores => inferInstanceAs (Decidable (_ = _))
  | .memory => inferInstanceAs (Decidable (_ = _))
  | .node => inferInstanceAs (Decidable False)

/-- How a broken limit is reported. -/
def message (c : Cluster) (needs : List ResourceRequirement) (instances : Nat) : Limit → String
  | .cores => "Cluster does not have enough CPU. Required: " ++
      toString (min (instances * coresNeeded needs) (UInt64.size - 1)) ++ " Available: " ++
      toString (coresFree c)
  | .memory => "Cluster does not have enough Memory. Required: " ++
      toString (min (instances * memoryNeeded needs) (UInt64.size - 1)) ++ " Available: " ++
      toString (memoryFree c)
  | .node => "Required cores exceeds the maximum core available on a single NUMA node in the " ++
      "cluster. Required: " ++ toString (coresNeeded needs) ++ " Max: " ++
      toString ((nodeSizes c).max?.getD 0)

end Limit

/-- A product that stays at the largest word exceeds what is free when the exact product does, and
what is free is less than the largest word. -/
theorem lt_times_iff (a b free : UInt64) :
    free < times a b ↔ free.toNat < a.toNat * b.toNat ∧ free.toNat ≠ UInt64.size - 1 := by
  have hfree : free.toNat < UInt64.size := free.toNat_lt_size
  rw [UInt64.lt_iff_toNat_lt, toNat_times]
  generalize a.toNat * b.toNat = product
  omega

section Limits

variable {c : Cluster} {needs : List ResourceRequirement}

/-- A limit that a review reports: it is broken, and what is free is not the largest word. -/
def Limit.Reported (c : Cluster) (needs : List ResourceRequirement) (instances : Nat) (l : Limit) :
    Prop :=
  l.Broken c needs instances ∧ ¬ l.Boundless c

instance (c : Cluster) (needs : List ResourceRequirement) (instances : Nat) :
    DecidablePred (Limit.Reported c needs instances) :=
  fun _ => inferInstanceAs (Decidable (_ ∧ _))

/-- The comparison of words reports a shortage of cores, unless the largest word is free. -/
theorem Fits.cores_reported_iff (h : Fits c needs) (n : UInt64) :
    freeCores c < times n (coresPerInstance needs) ↔
      Limit.Reported c needs n.toNat .cores := by
  rw [lt_times_iff, h.toNat_freeCores, h.toNat_coresPerInstance]
  rfl

/-- So it does for memory. -/
theorem Fits.memory_reported_iff (h : Fits c needs) (n : UInt64) :
    freeMemory c < times n (memoryPerInstance needs) ↔
      Limit.Reported c needs n.toNat .memory := by
  rw [lt_times_iff, h.toNat_freeMemory, h.toNat_memoryPerInstance]
  rfl

/-- The cores of an instance exceed the largest memory node when they exceed all of them. -/
theorem Fits.node_reported_iff (h : Fits c needs) (instances : Nat) :
    Limit.Reported c needs instances .node ↔
      ∃ size, maxCoresPerNode c = some size ∧ size < coresPerInstance needs := by
  have hmax := toNat_maxCoresPerNode c
  simp only [Limit.Reported, Limit.Broken, Limit.Boundless, not_false_eq_true, and_true,
    UInt64.lt_iff_toNat_lt, h.toNat_coresPerInstance]
  cases hsize : maxCoresPerNode c with
  | none =>
      rw [hsize, Option.map_none, eq_comm, List.max?_eq_none_iff] at hmax
      simp [hmax]
  | some size =>
      rw [hsize, Option.map_some, eq_comm, List.max?_eq_some_iff] at hmax
      constructor
      · rintro ⟨-, hlt⟩
        exact ⟨size, rfl, hlt _ hmax.1⟩
      · rintro ⟨_, ⟨⟩, hlt⟩
        exact ⟨List.ne_nil_of_mem hmax.1, fun s hs => Nat.lt_of_le_of_lt (hmax.2 s hs) hlt⟩

/-- The limits that are reported stand in the order of all limits, each with its message. -/
theorem shortages_eq (h : Fits c needs) (n : UInt64) :
    shortages c needs n =
      (Limit.all.filter (fun l => l.Reported c needs n.toNat)).map
        (Limit.message c needs n.toNat) := by
  have hall : ∀ (reported : Limit → Prop) [DecidablePred reported] (message : Limit → String),
      (Limit.all.filter (fun l => reported l)).map message =
        (if reported .cores then [message .cores] else []) ++
        (if reported .memory then [message .memory] else []) ++
        (if reported .node then [message .node] else []) := by
    intro reported _ message
    simp only [Limit.all, List.filter_cons, List.filter_nil, decide_eq_true_eq]
    split <;> split <;> split <;> rfl
  rw [hall]
  simp only [shortages]
  refine congrArg₂ (· ++ ·) (congrArg₂ (· ++ ·) (if_congr (h.cores_reported_iff n) ?_ rfl)
    (if_congr (h.memory_reported_iff n) ?_ rfl)) ?_
  · rw [toNat_times, h.toNat_coresPerInstance, h.toNat_freeCores]
    rfl
  · rw [toNat_times, h.toNat_memoryPerInstance, h.toNat_freeMemory]
    rfl
  · have hnode := h.node_reported_iff n.toNat
    have hmax := toNat_maxCoresPerNode c
    cases hsize : maxCoresPerNode c with
    | none => rw [if_neg (by simp [hnode, hsize])]
    | some size =>
        have hlargest : size.toNat = (nodeSizes c).max?.getD 0 := by
          rw [← hmax, hsize]
          rfl
        refine if_congr (by simp [hnode, hsize]) ?_ rfl
        rw [h.toNat_coresPerInstance, hlargest]
        rfl

end Limits

/-! ## Fewer instances -/

/-- Fewer instances need no more. -/
theorem times_le_times {m n : UInt64} (h : m ≤ n) (b : UInt64) : times m b ≤ times n b := by
  rw [UInt64.le_iff_toNat_le, toNat_times, toNat_times]
  have hproduct := Nat.mul_le_mul_right b.toNat (UInt64.le_iff_toNat_le.1 h)
  omega

/-- Nothing is short when both products are at most what is free, and the cores of an instance fit
the largest memory node. -/
theorem shortages_eq_nil_iff (c : Cluster) (needs : List ResourceRequirement) (n : UInt64) :
    shortages c needs n = [] ↔
      times n (coresPerInstance needs) ≤ freeCores c ∧
      times n (memoryPerInstance needs) ≤ freeMemory c ∧
      ∀ size, maxCoresPerNode c = some size → coresPerInstance needs ≤ size := by
  cases hsize : maxCoresPerNode c <;>
    simp [shortages, hsize, List.append_eq_nil_iff]

/-- Where there is room for some instances, there is for fewer. -/
theorem shortages_eq_nil_of_le {c : Cluster} {needs : List ResourceRequirement} {m n : UInt64}
    (h : shortages c needs n = []) (hle : m ≤ n) : shortages c needs m = [] := by
  obtain ⟨hcores, hmemory, hnode⟩ := (shortages_eq_nil_iff c needs n).1 h
  exact (shortages_eq_nil_iff c needs m).2 ⟨UInt64.le_trans (times_le_times hle _) hcores,
    UInt64.le_trans (times_le_times hle _) hmemory, hnode⟩

end Capacity

/-! ## Reviews of new instances -/

/-- A refusal over a list of errors names all of them. -/
theorem Verdict.messages_ofErrors {errors : List String}
    (h : (ofErrors errors).isSuccess = false) : (ofErrors errors).messages = errors := by
  cases errors with
  | nil => cases h
  | cons e es => rfl

/-- The blacklisted executors are counted, too. -/
theorem Cluster.count_true (c : Cluster) : Cluster.count c true = c.size := by
  rw [Cluster.count, Cluster.snapshot_true, SortedMap.values, List.length_map, SortedMap.size]

namespace Application

open Capacity

/-- The cluster has room for new instances of an application: there is an executor and a record, and
no limit is broken. -/
def HasRoom (w : ApplicationStores) (id : DeployableId) (instances : Nat) : Prop :=
  0 < w.cluster.size ∧ ∃ r, w.record? id = some r ∧
    ∀ l, ¬ Limit.Broken w.cluster r.spec.resources instances l

/-- The cluster has no room for new instances, but every limit that is broken is one of which the
largest word is free. -/
def Overlooked (w : ApplicationStores) (id : DeployableId) (instances : Nat) : Prop :=
  0 < w.cluster.size ∧ ∃ r, w.record? id = some r ∧
    (∃ l, Limit.Broken w.cluster r.spec.resources instances l) ∧
    ∀ l, Limit.Broken w.cluster r.spec.resources instances l → Limit.Boundless w.cluster l

/-- A lack of room that is overlooked is a lack of room. -/
theorem Overlooked.not_hasRoom {w : ApplicationStores} {id : DeployableId} {instances : Nat}
    (h : Overlooked w id instances) : ¬ HasRoom w id instances := by
  rintro ⟨-, r, hr, hroom⟩
  obtain ⟨-, r', hr', ⟨l, hl⟩, -⟩ := h
  obtain rfl : r = r' := Option.some.inj (hr.symm.trans hr')
  exact hroom l hl

/-- What is known of the verdict on so many new instances of an application. -/
structure RoomReviewed (w : ApplicationStores) (id : DeployableId) (instances : Nat)
    (v : Verdict) : Prop where
  /-- They are admitted when there is room, or when the lack of it is overlooked. -/
  accepted : v.isSuccess = true ↔ HasRoom w id instances ∨ Overlooked w id instances
  /-- The verdict is exact but where the lack of room is overlooked. -/
  faultless : (v.isSuccess = true ↔ HasRoom w id instances) ↔ ¬ Overlooked w id instances
  /-- A refusal reports the limits that are broken, in their order. -/
  reasons : ∀ r, 0 < w.cluster.size → w.record? id = some r → v.isSuccess = false →
    v.messages = (Limit.all.filter (fun l => l.Reported w.cluster r.spec.resources instances)).map
      (Limit.message w.cluster r.spec.resources instances)

section Review

variable {w : ApplicationStores} {id : DeployableId}

/-- The limits of an application with a record are reported. -/
theorem reviewNew_of_record {r : ApplicationRecord} (hcluster : 0 < w.cluster.size)
    (hr : w.record? id = some r) (hfits : Fits w.cluster r.spec.resources) (n : UInt64) :
    reviewNew w id n = .ofErrors
      ((Limit.all.filter (fun l => l.Reported w.cluster r.spec.resources n.toNat)).map
        (Limit.message w.cluster r.spec.resources n.toNat)) := by
  rw [reviewNew, Cluster.count_true, if_neg (Nat.ne_of_gt hcluster), hr]
  simp only [shortages_eq hfits]

/-- New instances are admitted when there is an executor and a record, and nothing is short. -/
theorem isSuccess_reviewNew_iff_shortages (n : UInt64) :
    (reviewNew w id n).isSuccess = true ↔ 0 < w.cluster.size ∧
      ∃ r, w.record? id = some r ∧ shortages w.cluster r.spec.resources n = [] := by
  rw [reviewNew, Cluster.count_true]
  by_cases hcluster : w.cluster.size = 0
  · simp [hcluster]
  · rw [if_neg hcluster]
    cases hr : w.record? id with
    | none => simp
    | some r => simp [Verdict.isSuccess_ofErrors, Nat.pos_of_ne_zero hcluster]

/-- There is room, or the lack of it is overlooked, when no limit is reported. -/
theorem no_limit_reported_iff {r : ApplicationRecord} (hcluster : 0 < w.cluster.size)
    (hr : w.record? id = some r) (instances : Nat) :
    (∀ l, ¬ Limit.Reported w.cluster r.spec.resources instances l) ↔
      HasRoom w id instances ∨ Overlooked w id instances := by
  constructor
  · intro hnone
    by_cases hbroken : ∃ l, Limit.Broken w.cluster r.spec.resources instances l
    · exact .inr ⟨hcluster, r, hr, hbroken, fun l hl =>
        Decidable.not_not.1 fun hbounded => hnone l ⟨hl, hbounded⟩⟩
    · exact .inl ⟨hcluster, r, hr, fun l hl => hbroken ⟨l, hl⟩⟩
  · rintro (⟨-, r', hr', hroom⟩ | ⟨-, r', hr', -, hboundless⟩) l ⟨hbroken, hbounded⟩
    · obtain rfl : r = r' := Option.some.inj (hr.symm.trans hr')
      exact hroom l hbroken
    · obtain rfl : r = r' := Option.some.inj (hr.symm.trans hr')
      exact hbounded (hboundless l hbroken)

/-- New instances are admitted when there is room, or when the lack of it is overlooked. -/
theorem isSuccess_reviewNew_iff
    (hfits : ∀ r, w.record? id = some r → Fits w.cluster r.spec.resources) (n : UInt64) :
    (reviewNew w id n).isSuccess = true ↔
      HasRoom w id n.toNat ∨ Overlooked w id n.toNat := by
  have hnil : ∀ r, 0 < w.cluster.size → w.record? id = some r →
      (shortages w.cluster r.spec.resources n = [] ↔
        HasRoom w id n.toNat ∨ Overlooked w id n.toNat) := by
    intro r hcluster hr
    rw [shortages_eq (hfits r hr), List.map_eq_nil_iff, List.filter_eq_nil_iff,
      ← no_limit_reported_iff hcluster hr]
    constructor
    · intro hnone l
      simpa using hnone l (by cases l <;> simp [Limit.all])
    · intro hnone l _
      simpa using hnone l
  rw [isSuccess_reviewNew_iff_shortages]
  constructor
  · rintro ⟨hcluster, r, hr, hshort⟩
    exact (hnil r hcluster hr).1 hshort
  · intro h
    obtain ⟨hcluster, r, hr⟩ : 0 < w.cluster.size ∧ ∃ r, w.record? id = some r := by
      rcases h with ⟨hcluster, r, hr, -⟩ | ⟨hcluster, r, hr, -⟩ <;> exact ⟨hcluster, r, hr⟩
    exact ⟨hcluster, r, hr, (hnil r hcluster hr).2 h⟩

/-- The review of new instances finds the room that there is, but for what it overlooks. -/
theorem roomReviewed_reviewNew
    (hfits : ∀ r, w.record? id = some r → Fits w.cluster r.spec.resources) (n : UInt64) :
    RoomReviewed w id n.toNat (reviewNew w id n) where
  accepted := isSuccess_reviewNew_iff hfits n
  faultless := by
    rw [isSuccess_reviewNew_iff hfits n]
    constructor
    · intro hiff hoverlooked
      exact hoverlooked.not_hasRoom (hiff.1 (.inr hoverlooked))
    · intro hnone
      exact or_iff_left hnone
  reasons r hcluster hr hrefused := by
    rw [reviewNew_of_record hcluster hr (hfits r hr)] at hrefused ⊢
    exact Verdict.messages_ofErrors hrefused

end Review

/-- Starting instances, and scaling an application up, are admitted as far as there is room in the
cluster, or where the lack of it is overlooked; scaling it down always is. -/
theorem capacity_reviewed (settings : AdmissionSettings)
    (stateOf : DeployableId → Option ApplicationState) (w : ApplicationStores)
    (id : DeployableId) (opSpec : ClusterOpSpec)
    (hfits : ∀ r, w.record? id = some r → Fits w.cluster r.spec.resources) :
    (∀ n, Eligible stateOf (.startInstances id n opSpec) →
      RoomReviewed w id n.toNat (review settings stateOf w (.startInstances id n opSpec))) ∧
    (∀ required, Eligible stateOf (.scale id required opSpec) →
      (required.toNat ≤ (runningCount w id).toNat →
        review settings stateOf w (.scale id required opSpec) = .success) ∧
      ((runningCount w id).toNat < required.toNat →
        RoomReviewed w id (required.toNat - (runningCount w id).toNat)
          (review settings stateOf w (.scale id required opSpec)))) := by
  refine ⟨fun n heligible => ?_, fun required heligible => ⟨fun hle => ?_, fun hlt => ?_⟩⟩
  · rw [review_of_eligible heligible]
    exact roomReviewed_reviewNew hfits n
  · rw [review_of_eligible heligible]
    exact if_pos (UInt64.le_iff_toNat_le.2 hle)
  · have hup : ¬ required ≤ runningCount w id := fun hle =>
      Nat.not_le_of_lt hlt (UInt64.le_iff_toNat_le.1 hle)
    have hdelta : (required - runningCount w id).toNat =
        required.toNat - (runningCount w id).toNat :=
      UInt64.toNat_sub_of_le _ _ (UInt64.le_iff_toNat_le.2 (Nat.le_of_lt hlt))
    rw [review_of_eligible heligible, ← hdelta]
    show RoomReviewed w id _ (reviewScale w id required)
    rw [reviewScale]
    simp only [hup, if_false]
    exact roomReviewed_reviewNew hfits _

/-- All of 2 ^ 64 - 1 megabytes are free, and two instances that need 2 ^ 63 megabytes each are to
be started.  They are admitted, although there is no room for both. -/
theorem start_beyond_memory_admitted :
    let shop : ApplicationSpec :=
      { name := "SHOP", version := "1", executable := { image := "shop" }
        resources := ResourceRequirement.ofCoresAndMemory 1 9223372036854775808 }
    let host : ExecutorResources :=
      { executorId := ⟨"host-1"⟩, hostname := "host", layout := none, blacklisted := false
        freeCores := SortedMap.insert ∅ 0 (SortedSet.ofList [0, 1, 2, 3])
        freeMemory := SortedMap.insert ∅ 0 18446744073709551615 }
    let stored : ApplicationRecord := .ofSpec .epoch shop 0
    let w : ApplicationStores :=
      { now := .epoch, records := { root := SortedMap.insert ∅ shop.id stored }
        cluster := Cluster.add ∅ host }
    let stateOf : DeployableId → Option ApplicationState := fun _ => some .running
    (review {} stateOf w (.startInstances shop.id 2 {})).isSuccess = true ∧
      ¬ HasRoom w shop.id 2 := by
  intro shop host stored w stateOf
  have hrecord : w.record? shop.id = some stored := SortedMap.find?_insert_self ..
  have hfits : ∀ r, w.record? shop.id = some r → Fits w.cluster r.spec.resources := by
    intro r hr
    obtain rfl : stored = r := Option.some.inj (hrecord.symm.trans hr)
    exact ⟨by decide +kernel, by decide +kernel, by decide +kernel, by decide +kernel⟩
  have heligible : Eligible stateOf (.startInstances shop.id 2 {}) :=
    ⟨by decide +kernel, .running, rfl, by decide⟩
  have hoverlooked : Overlooked w shop.id 2 := by
    refine ⟨by decide +kernel, stored, hrecord, ⟨.memory, by decide +kernel⟩, fun l hl => ?_⟩
    cases l with
    | cores => exact absurd hl (by decide +kernel)
    | memory => show memoryFree w.cluster = UInt64.size - 1; decide +kernel
    | node => exact absurd hl (by decide +kernel)
  have hreviewed := (capacity_reviewed {} stateOf w shop.id {} hfits).1 2 heligible
  exact ⟨hreviewed.accepted.2 (.inr hoverlooked), hoverlooked.not_hasRoom⟩

end Application
end Orchestration
