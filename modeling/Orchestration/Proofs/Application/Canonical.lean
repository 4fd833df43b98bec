import Orchestration.Proofs.Admission.Capacity
import Orchestration.Proofs.Application.Routing

/-!
# Canonical forms are admitted again

An operation is reviewed as the client sent it and staged in its canonical form.  When the actor
then reaches the state that asks for scaling, the engine submits the staged scaling, which is
reviewed once more: against the count of the instances that run, and not against the count of the
healthy ones from which its target was made.

The second review asks for no more than the first one.  Every healthy instance runs, so that what is
left of the instances to start is at most what the client asked for; and where there is room for
some instances, there is for fewer.

Main results:

- `Instances.count_le_of_subset`: fewer instances are in fewer states.
- `Application.isSuccess_reviewScale_of_reviewNew`: where instances may be started, the scaling to
  them is admitted.
- `Application.canonical_admissible`: what is known of the canonical form of an admitted operation.
-/

namespace Orchestration

/-- There are no more instances in some states than in others that include them. -/
theorem Instances.count_le_of_subset (i : Instances) (now : Timestamp) (owner : DeployableId)
    {states states' : List InstanceState} (h : states ⊆ states') :
    i.count now owner states ≤ i.count now owner states' := by
  simp only [count, select, InstanceGroup.select, ← List.countP_eq_length_filter]
  refine List.countP_mono_left fun r _ hr => ?_
  simp only [List.contains_eq_mem, Bool.and_eq_true, decide_eq_true_eq] at hr ⊢
  exact ⟨h hr.1, hr.2⟩

namespace ApplicationStores

/-- Writing a desired count leaves the instances, the executors and the clock alone. -/
theorem persistInstances_keeps (w : ApplicationStores) (id : DeployableId) (n : UInt64) :
    (w.persistInstances id n).instances = w.instances ∧
      (w.persistInstances id n).cluster = w.cluster ∧ (w.persistInstances id n).now = w.now := by
  unfold persistInstances
  split <;> exact ⟨rfl, rfl, rfl⟩

/-- Writing a desired count leaves every specification alone. -/
theorem spec_persistInstances (w : ApplicationStores) (id id' : DeployableId) (n : UInt64) :
    ((w.persistInstances id n).record? id').map (·.spec) = (w.record? id').map (·.spec) := by
  unfold persistInstances
  split
  · rename_i r hr
    simp only [writeRecord, record?, Gated.root_write] at hr ⊢
    split
    · by_cases hid : id' = id
      · subst hid
        rw [SortedMap.find?_insert_self, hr]
        rfl
      · rw [SortedMap.find?_insert_of_ne _ _ hid]
    · rfl
  · rfl

end ApplicationStores

namespace Application

variable {w : ApplicationStores} {id : DeployableId}

/-! ## Reviews that ask for less -/

/-- Where instances may be started, fewer may be. -/
theorem isSuccess_reviewNew_of_le {m n : UInt64} (h : (reviewNew w id n).isSuccess = true)
    (hle : m ≤ n) : (reviewNew w id m).isSuccess = true := by
  obtain ⟨hcluster, r, hr, hshort⟩ := (isSuccess_reviewNew_iff_shortages n).1 h
  exact (isSuccess_reviewNew_iff_shortages m).2
    ⟨hcluster, r, hr, Capacity.shortages_eq_nil_of_le hshort hle⟩

/-- Where instances may be started, the scaling to them and the healthy ones is admitted: of the
instances that run no fewer are healthy. -/
theorem isSuccess_reviewScale_of_reviewNew {n : UInt64} (h : (reviewNew w id n).isSuccess = true)
    (hrunning : Instances.count w.instances.root w.now id InstanceState.runningStates < UInt64.size)
    (hsum : Instances.count w.instances.root w.now id [.healthy] + n.toNat < UInt64.size) :
    (reviewScale w id (UInt64.ofNat (Instances.count w.instances.root w.now id [.healthy]) +
      n)).isSuccess = true := by
  have hle : Instances.count w.instances.root w.now id [.healthy] ≤
      Instances.count w.instances.root w.now id InstanceState.runningStates :=
    Instances.count_le_of_subset _ _ _ (by decide)
  rw [reviewScale, runningCount]
  generalize Instances.count w.instances.root w.now id [.healthy] = healthy at hsum hle ⊢
  generalize Instances.count w.instances.root w.now id InstanceState.runningStates = running
    at hrunning hle ⊢
  split
  · rfl
  · rename_i hup
    refine isSuccess_reviewNew_of_le h ?_
    have hrequired : (UInt64.ofNat healthy + n).toNat = healthy + n.toNat := by
      rw [UInt64.toNat_add, UInt64.toNat_ofNat_of_lt' (by omega)]
      exact Nat.mod_eq_of_lt hsum
    have hcurrent : (UInt64.ofNat running).toNat = running := UInt64.toNat_ofNat_of_lt' hrunning
    rw [UInt64.le_iff_toNat_le, UInt64.toNat_sub_of_le _ _ (UInt64.le_of_lt (UInt64.not_le.1 hup)),
      hrequired, hcurrent]
    omega

/-! ## Reviews after the target was written -/

theorem reviewNew_persistInstances (w : ApplicationStores) (id id' : DeployableId)
    (n m : UInt64) : reviewNew (w.persistInstances id' m) id n = reviewNew w id n := by
  obtain ⟨-, hcluster, -⟩ := w.persistInstances_keeps id' m
  have hspec := w.spec_persistInstances id' id m
  rw [reviewNew, reviewNew, hcluster]
  cases hr : w.record? id with
  | none =>
      rw [hr, Option.map_none, Option.map_eq_none_iff] at hspec
      rw [hspec]
  | some r =>
      rw [hr, Option.map_some, Option.map_eq_some_iff] at hspec
      obtain ⟨r', hr', hsame⟩ := hspec
      rw [hr']
      simp only [hsame]

/-- A scaling is reviewed alike before and after its target is written. -/
theorem reviewScale_persistInstances (w : ApplicationStores) (id id' : DeployableId)
    (required m : UInt64) :
    reviewScale (w.persistInstances id' m) id required = reviewScale w id required := by
  obtain ⟨hinstances, -, hnow⟩ := w.persistInstances_keeps id' m
  rw [reviewScale, reviewScale, runningCount, runningCount, hinstances, hnow]
  simp only [reviewNew_persistInstances]

/-! ## Canonical forms -/

/-- An operation that is admitted in a state is one that the state allows. -/
theorem Eligible.of_review {settings : AdmissionSettings}
    {stateOf : DeployableId → Option ApplicationState} {op : ApplicationOperation}
    {s : ApplicationState} (hstate : stateOf op.appId = some s)
    (h : (review settings stateOf w op).isSuccess = true) : Eligible stateOf op := by
  refine ⟨?_, s, hstate, opType_mem_allowed hstate h⟩
  cases hblank : op.appId.isBlank with
  | false => rfl
  | true =>
      rw [review, if_pos hblank] at h
      cases h

/-- The canonical form of an operation is its own canonical form. -/
theorem canonical_canonical (settings : EngineSettings) (w : ApplicationStores)
    (op : ApplicationOperation) :
    canonical settings w (canonical settings w op) = canonical settings w op := by
  cases op <;> rfl

/-- The canonical form of an operation neither starts instances nor suspends. -/
theorem opType_canonical (settings : EngineSettings) (w : ApplicationStores)
    (op : ApplicationOperation) :
    (canonical settings w op).opType ≠ .startInstances ∧
      (canonical settings w op).opType ≠ .suspend := by
  cases op <;> simp [canonical, ApplicationOperation.opType]

/-- A scaling that is the canonical form of what was admitted asks for no more than is there. -/
theorem isSuccess_reviewScale_of_canonical {settings : EngineSettings}
    {op : ApplicationOperation}
    (h : (reviewInState settings.admission true w op).isSuccess = true)
    (hrunning : Instances.count w.instances.root w.now op.appId InstanceState.runningStates <
      UInt64.size)
    (hsum : ∀ n opSpec, op = .startInstances op.appId n opSpec →
      Instances.count w.instances.root w.now op.appId [.healthy] + n.toNat < UInt64.size)
    {required : UInt64} {opSpec : ClusterOpSpec}
    (hscale : canonical settings w op = .scale id required opSpec) :
    id = op.appId ∧ (reviewScale w id required).isSuccess = true := by
  cases op with
  | startInstances id' n opSpec' =>
      cases hscale
      exact ⟨rfl, isSuccess_reviewScale_of_reviewNew h hrunning (hsum n opSpec rfl)⟩
  | suspend id' opSpec' =>
      cases hscale
      exact ⟨rfl, by simp [reviewScale]⟩
  | scale id' required' opSpec' =>
      cases hscale
      exact ⟨rfl, h⟩
  | _ => cases hscale

/-- Take an operation that is admitted for a registered application, where the healthy instances and
those to be started are no more than a word counts.  Its canonical form has the same target, neither
starts instances nor suspends, and is its own canonical form.  If it is a scaling, it is admitted in
the state that asks for scaling, from the same stores; and so is what the engine submits there,
after the target was written. -/
theorem canonical_admissible (settings : EngineSettings) (w : ApplicationStores)
    {stateOf : DeployableId → Option ApplicationState} {op : ApplicationOperation}
    {s : ApplicationState} (hstate : stateOf op.appId = some s)
    (hadmitted : (review settings.admission stateOf w op).isSuccess = true)
    (hrunning : Instances.count w.instances.root w.now op.appId InstanceState.runningStates <
      UInt64.size)
    (hsum : ∀ n opSpec, op = .startInstances op.appId n opSpec →
      Instances.count w.instances.root w.now op.appId [.healthy] + n.toNat < UInt64.size) :
    (canonical settings w op).appId = op.appId ∧
    (canonical settings w op).opType ≠ .startInstances ∧
    (canonical settings w op).opType ≠ .suspend ∧
    canonical settings w (canonical settings w op) = canonical settings w op ∧
    ∀ id required opSpec, canonical settings w op = .scale id required opSpec →
      ∀ stateOf' : DeployableId → Option ApplicationState,
        stateOf' op.appId = some .scalingRequested →
        (review settings.admission stateOf' w (canonical settings w op)).isSuccess = true ∧
        ∀ w' again, react settings w op.appId .scalingRequested
            (some (canonical settings w op)) = (w', some again) →
          (review settings.admission stateOf' w' again).isSuccess = true := by
  have heligible := Eligible.of_review hstate hadmitted
  rw [review_of_eligible heligible] at hadmitted
  obtain ⟨hstart, hsuspend⟩ := opType_canonical settings w op
  refine ⟨lawful_kind.target_canonical settings w op, hstart, hsuspend,
    canonical_canonical settings w op, fun id required opSpec hscale stateOf' hstate' => ?_⟩
  obtain ⟨rfl, hreview⟩ := isSuccess_reviewScale_of_canonical hadmitted hrunning hsum hscale
  have hready : Eligible stateOf' (.scale op.appId required opSpec) :=
    ⟨heligible.1, .scalingRequested, hstate', by simp [allowed, ApplicationOperation.opType]⟩
  rw [hscale]
  refine ⟨by rw [review_of_eligible hready]; exact hreview, ?_⟩
  rintro w' again ⟨⟩
  rw [review_of_eligible hready]
  show (reviewScale (w.persistInstances op.appId required) op.appId required).isSuccess = true
  rw [reviewScale_persistInstances]
  exact hreview

/-- Of an application one instance is healthy and another one is starting, and three cores are free.
Three instances more are admitted, which makes a scaling to four; two of the four run already. -/
theorem start_admitted_again :
    let shop : ApplicationSpec :=
      { name := "SHOP", version := "1", executable := { image := "shop" }
        resources := ResourceRequirement.ofCoresAndMemory 1 512 }
    let host : ExecutorResources :=
      { executorId := ⟨"host-1"⟩, hostname := "host", layout := none, blacklisted := false
        freeCores := SortedMap.insert ∅ 0 (SortedSet.ofList [1, 2, 3])
        freeMemory := SortedMap.insert ∅ 0 1536 }
    let stored : ApplicationRecord := .ofSpec .epoch shop 2
    let healthy : InstanceRecord :=
      { owner := shop.id, ownerName := "SHOP", instanceId := ⟨"shop-1"⟩, executorId := ⟨"host-1"⟩
        hostname := "host", state := .healthy, created := .epoch, updated := .epoch }
    let starting : InstanceRecord := { healthy with instanceId := ⟨"shop-2"⟩, state := .starting }
    let known : Instances :=
      Groups.put (Groups.put ∅ shop.id healthy.instanceId healthy) shop.id starting.instanceId
        starting
    let w : ApplicationStores :=
      { now := .epoch, records := { root := SortedMap.insert ∅ shop.id stored }
        instances := { root := known }, cluster := Cluster.add ∅ host }
    let op : ApplicationOperation := .startInstances shop.id 3 {}
    canonical {} w op = .scale shop.id 4 {} ∧
      (review {} (fun _ => some .scalingRequested) w (canonical {} w op)).isSuccess = true := by
  intro shop host stored healthy starting known w op
  have hadmitted : (review {} (fun _ => some .running) w op).isSuccess = true := by
    decide +kernel
  have hrunning : Instances.count w.instances.root w.now op.appId InstanceState.runningStates <
      UInt64.size := by decide +kernel
  have hhealthy : Instances.count w.instances.root w.now shop.id [.healthy] = 1 := by
    decide +kernel
  have hsum : ∀ n opSpec, op = .startInstances op.appId n opSpec →
      Instances.count w.instances.root w.now op.appId [.healthy] + n.toNat < UInt64.size := by
    intro n opSpec hop
    obtain ⟨-, rfl, -⟩ := ApplicationOperation.startInstances.inj hop
    show Instances.count w.instances.root w.now shop.id [.healthy] + 3 < UInt64.size
    rw [hhealthy]
    decide
  have hscale : canonical {} w op = .scale shop.id 4 {} :=
    congrArg (fun n => ApplicationOperation.scale shop.id (UInt64.ofNat n + 3) {}) hhealthy
  obtain ⟨-, -, -, -, hagain⟩ := @canonical_admissible {} w (fun _ => some .running) op .running rfl
    hadmitted hrunning hsum
  exact ⟨hscale, (hagain _ _ _ hscale (fun _ => some .scalingRequested) rfl).1⟩

end Application
end Orchestration
