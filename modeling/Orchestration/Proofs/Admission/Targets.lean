import Orchestration.Proofs.Admission.Eligible
import Orchestration.Proofs.Collection.Lookup
import Orchestration.Proofs.Store.InstanceCoherence

/-!
# Operations on single instances

Operations that name instances are admitted when all of them are there to be operated on.  Two
look-ups answer that.  Stopping instances of an application asks the listing of the active ones,
which leaves out what was not heard of for too long.  Replacing them, and both operations on the
instances of a local service, read one record after the other, and a record says that its instance
is healthy however old it is.

Main results:

- `Instances.mem_healthyIds_iff`: an instance is listed as healthy when its record says so and is
  not outdated.
- `TargetsReviewed.barring`: a verdict that bars the instances that are no targets.
- `targets_reviewed`: what the four operations on single instances are admitted for, and which
  instances a refusal names.
-/

namespace Orchestration

/-! ## Listings and single records -/

namespace Instances

/-- The identifiers of the instances of an owner that are listed as active. -/
def activeIds (i : Instances) (now : Timestamp) (owner : DeployableId) : List InstanceId :=
  (i.active now owner).map (·.instanceId)

/-- The identifiers of the instances of an owner that are listed as healthy. -/
def healthyIds (i : Instances) (now : Timestamp) (owner : DeployableId) : List InstanceId :=
  (i.healthy now owner).map (·.instanceId)

/-- The record of an instance says that it is healthy, however old the record is. -/
def RecordedHealthy (i : Instances) (owner : DeployableId) (id : InstanceId) : Prop :=
  ∃ r, i.get owner id = some r ∧ r.state = .healthy

/-- The record of an instance is older than the stale age. -/
def Outdated (i : Instances) (now : Timestamp) (owner : DeployableId) (id : InstanceId) : Prop :=
  ∃ r, i.get owner id = some r ∧ r.isStale now = true

section Listings

variable {i : Instances} {now : Timestamp} {owner : DeployableId} {id : InstanceId}

/-- A listing without stale instances tells which records are in one of the states and not stale,
where every record is under the identifier that it carries. -/
theorem mem_select_iff (hkeyed : InstanceGroup.Keyed (i.group owner))
    (states : List InstanceState) :
    id ∈ (i.select now owner states false).map (·.instanceId) ↔
      ∃ r, i.get owner id = some r ∧ r.state ∈ states ∧ r.isStale now = false := by
  simp only [select, InstanceGroup.select, List.mem_map, List.mem_filter, SortedMap.mem_values_iff,
    Bool.and_eq_true, Bool.false_or, Bool.not_eq_true', List.contains_iff_mem]
  constructor
  · rintro ⟨r, ⟨⟨key, hfind⟩, hstate, hfresh⟩, rfl⟩
    obtain rfl : r.instanceId = key := hkeyed key r hfind
    exact ⟨r, hfind, hstate, hfresh⟩
  · rintro ⟨r, hfind, hstate, hfresh⟩
    exact ⟨r, ⟨⟨id, hfind⟩, hstate, hfresh⟩, hkeyed id r hfind⟩

/-- An instance that is listed as active is not outdated. -/
theorem not_outdated_of_mem_activeIds (hkeyed : InstanceGroup.Keyed (i.group owner))
    (h : id ∈ i.activeIds now owner) : ¬ i.Outdated now owner id := by
  obtain ⟨r, hfind, -, hfresh⟩ := (mem_select_iff hkeyed _).1 h
  rintro ⟨r', hfind', hstale⟩
  obtain rfl : r = r' := Option.some.inj (hfind.symm.trans hfind')
  exact absurd hstale (by simp [hfresh])

/-- An instance is listed as healthy when its record says so and is not outdated. -/
theorem mem_healthyIds_iff (hkeyed : InstanceGroup.Keyed (i.group owner)) :
    id ∈ i.healthyIds now owner ↔ i.RecordedHealthy owner id ∧ ¬ i.Outdated now owner id := by
  rw [healthyIds, healthy, mem_select_iff hkeyed]
  constructor
  · rintro ⟨r, hfind, hstate, hfresh⟩
    refine ⟨⟨r, hfind, List.mem_singleton.1 hstate⟩, ?_⟩
    rintro ⟨r', hfind', hstale⟩
    obtain rfl : r = r' := Option.some.inj (hfind.symm.trans hfind')
    exact absurd hstale (by simp [hfresh])
  · rintro ⟨⟨r, hfind, hstate⟩, hcurrent⟩
    refine ⟨r, hfind, List.mem_singleton.2 hstate, ?_⟩
    exact Bool.eq_false_iff.2 fun hstale => hcurrent ⟨r, hfind, hstale⟩

end Listings

end Instances

/-! ## Verdicts on the instances of a request -/

/-- The verdict on the instances that a request names: it is admitted when all of them are targets;
a refusal names the others and no more, each once, in the order of their identifiers. -/
structure TargetsReviewed (requested : List InstanceId) (Target : InstanceId → Prop)
    (refusal : List String → String) (v : Verdict) : Prop where
  accepted : v.isSuccess = true ↔ ∀ id ∈ requested, Target id
  refused : v.isSuccess = false → ∃ offending : List InstanceId,
    offending.Pairwise (fun a b => compare a b = .lt) ∧
    (∀ id, id ∈ offending ↔ id ∈ requested ∧ ¬ Target id) ∧
    v = .failure (refusal (offending.map (·.text)))

/-- A refusal because of some instances, if there are any. -/
def Verdict.barring (refusal : List String → String) : List InstanceId → Verdict
  | [] => .success
  | offending => .failure (refusal (offending.map (·.text)))

/-- A verdict that goes by a sorted list of the instances that are no targets. -/
theorem TargetsReviewed.barring {requested offending : List InstanceId}
    {Target : InstanceId → Prop} (refusal : List String → String)
    (hsorted : offending.Pairwise (fun a b => compare a b = .lt))
    (hmem : ∀ id, id ∈ offending ↔ id ∈ requested ∧ ¬ Target id) :
    TargetsReviewed requested Target refusal (.barring refusal offending) := by
  cases offending with
  | nil =>
      refine { accepted := ⟨fun _ id hid => ?_, fun _ => rfl⟩, refused := fun h => by cases h }
      by_contra htarget
      exact List.not_mem_nil ((hmem id).2 ⟨hid, htarget⟩)
  | cons first rest =>
      obtain ⟨hfirst, hbad⟩ := (hmem first).1 List.mem_cons_self
      exact {
        accepted :=
          ⟨fun h => absurd h Bool.false_ne_true, fun hall => absurd (hall first hfirst) hbad⟩
        refused := fun _ => ⟨first :: rest, hsorted, hmem, rfl⟩ }

/-- The verdict on instances that have to be active.  None that is admitted is outdated. -/
structure ActiveReviewed (i : Instances) (now : Timestamp) (owner : DeployableId)
    (requested : List InstanceId) (refusal : List String → String) (v : Verdict) : Prop
    extends TargetsReviewed requested (· ∈ i.activeIds now owner) refusal v where
  current : InstanceGroup.Keyed (i.group owner) → v.isSuccess = true →
    ∀ id ∈ requested, ¬ i.Outdated now owner id

/-- The verdict on instances that have to be healthy.  It goes by what their records say, which is
not what the listing says of the instances that are outdated.  An admission by the records is one by
the listing unless all instances are recorded as healthy and one of them is outdated. -/
structure HealthyReviewed (i : Instances) (now : Timestamp) (owner : DeployableId)
    (requested : SortedSet InstanceId) (refusal : List String → String) (v : Verdict) : Prop
    extends TargetsReviewed requested.toList (i.RecordedHealthy owner) refusal v where
  listed : InstanceGroup.Keyed (i.group owner) → ∀ id,
    id ∈ i.healthyIds now owner ↔ i.RecordedHealthy owner id ∧ ¬ i.Outdated now owner id
  faultless : InstanceGroup.Keyed (i.group owner) →
    ((v.isSuccess = true ↔ ∀ id ∈ requested.toList, id ∈ i.healthyIds now owner) ↔
      ¬ ((∀ id ∈ requested.toList, i.RecordedHealthy owner id) ∧
        ∃ id ∈ requested.toList, i.Outdated now owner id))

/-- A verdict that goes by what records say, against the listing. -/
theorem HealthyReviewed.of_targetsReviewed {i : Instances} {owner : DeployableId}
    {requested : SortedSet InstanceId} {refusal : List String → String} {v : Verdict}
    (h : TargetsReviewed requested.toList (i.RecordedHealthy owner) refusal v) (now : Timestamp) :
    HealthyReviewed i now owner requested refusal v where
  toTargetsReviewed := h
  listed hkeyed _ := Instances.mem_healthyIds_iff hkeyed
  faultless hkeyed := by
    rw [h.accepted]
    simp only [Instances.mem_healthyIds_iff hkeyed]
    constructor
    · rintro hiff ⟨hall, id, hid, houtdated⟩
      exact (hiff.1 hall id hid).2 houtdated
    · intro hfaultless
      refine ⟨fun hall id hid => ⟨hall id hid, fun houtdated => ?_⟩,
        fun hall id hid => (hall id hid).1⟩
      exact hfaultless ⟨hall, id, hid, houtdated⟩

/-- The requested instances of which no record says that they are healthy. -/
def Instances.notHealthy (i : Instances) (owner : DeployableId) (requested : SortedSet InstanceId) :
    List InstanceId :=
  requested.toList.filter (fun id =>
    match i.get owner id with
    | some r => r.state != .healthy
    | none => true)

/-- A verdict that bars the instances that are not recorded as healthy. -/
theorem HealthyReviewed.barring (i : Instances) (now : Timestamp) (owner : DeployableId)
    (requested : SortedSet InstanceId) (refusal : List String → String) :
    HealthyReviewed i now owner requested refusal
      (.barring refusal (i.notHealthy owner requested)) := by
  have hsorted : (i.notHealthy owner requested).Pairwise (fun a b => compare a b = .lt) :=
    requested.pairwise_toList.sublist List.filter_sublist
  refine .of_targetsReviewed (.barring refusal hsorted fun id => ?_) now
  rw [Instances.notHealthy, List.mem_filter]
  refine and_congr_right fun _ => ?_
  unfold Instances.RecordedHealthy
  cases i.get owner id with
  | none => simp
  | some r => simp

/-! ## The four operations -/

namespace Application

/-- How a refusal to stop instances reads. -/
def stopRefusal (id : DeployableId) (names : List String) : String :=
  "App " ++ id.text ++ " does not have any instances with the following ids: " ++
    Listing.commaSeparated names

/-- How a refusal to replace instances reads. -/
def replaceRefusal (names : List String) : String :=
  "There are no replaceable healthy instances with ids: " ++ Listing.bracketed names

/-- Stopping instances of an application asks the listing of the active ones. -/
theorem activeReviewed_reviewStop (w : ApplicationStores) (id : DeployableId)
    (ids : List InstanceId) :
    ActiveReviewed w.instances.root w.now id ids (stopRefusal id) (reviewStop w id ids) := by
  have hmem : ∀ i, i ∈ notActive w id ids ↔
      i ∈ ids ∧ ¬ i ∈ w.instances.root.activeIds w.now id := by
    intro i
    simp [notActive, SortedSet.mem_toList_ofList, Instances.activeIds]
  have hreviewed : TargetsReviewed ids (· ∈ w.instances.root.activeIds w.now id) (stopRefusal id)
      (.barring (stopRefusal id) (notActive w id ids)) :=
    .barring _ (SortedSet.pairwise_toList _) hmem
  have hverdict : reviewStop w id ids = .barring (stopRefusal id) (notActive w id ids) := by
    rw [reviewStop]
    cases notActive w id ids <;> rfl
  rw [hverdict]
  exact { hreviewed with
    current := fun hkeyed hsuccess i hi =>
      Instances.not_outdated_of_mem_activeIds hkeyed (hreviewed.accepted.1 hsuccess i hi) }

/-- Replacing instances of an application reads one record after the other. -/
theorem healthyReviewed_reviewReplace (w : ApplicationStores) (id : DeployableId)
    (ids : SortedSet InstanceId) :
    HealthyReviewed w.instances.root w.now id ids replaceRefusal (reviewReplace w id ids) := by
  have hverdict : reviewReplace w id ids =
      .barring replaceRefusal (w.instances.root.notHealthy id ids) := by
    rw [reviewReplace, show notHealthy w id ids = w.instances.root.notHealthy id ids from rfl]
    cases w.instances.root.notHealthy id ids <;> rfl
  rw [hverdict]
  exact .barring _ _ _ _ _

end Application

namespace LocalService

/-- Both operations on instances of a local service read one record after the other. -/
theorem healthyReviewed_reviewHealthy (w : LocalServiceStores) (id : DeployableId)
    (ids : SortedSet InstanceId) (complaint : String) :
    HealthyReviewed w.instances.root w.now id ids (complaint ++ Listing.bracketed ·)
      (reviewHealthy w id ids complaint) := by
  have hverdict : reviewHealthy w id ids complaint =
      .barring (complaint ++ Listing.bracketed ·) (w.instances.root.notHealthy id ids) := by
    rw [reviewHealthy, show notHealthy w id ids = w.instances.root.notHealthy id ids from rfl]
    cases w.instances.root.notHealthy id ids <;> rfl
  rw [hverdict]
  exact .barring _ _ _ _ _

end LocalService

/-- Take an operation on single instances in a state that allows it, any stores and any clock.  An
application stops instances that are listed as active, and no others.  It replaces instances, and a
local service replaces and stops instances, that are recorded as healthy, the outdated ones among
them included.  A refusal names the instances that do not pass, each once, in their order. -/
theorem targets_reviewed (settings : AdmissionSettings)
    (apps : DeployableId → Option ApplicationState)
    (services : DeployableId → Option LocalServiceState) (a : ApplicationStores)
    (s : LocalServiceStores) :
    (∀ id ids skipRespawn spec,
      Application.Eligible apps (.stopInstances id ids skipRespawn spec) →
      ActiveReviewed a.instances.root a.now id ids (Application.stopRefusal id)
        (Application.review settings apps a (.stopInstances id ids skipRespawn spec))) ∧
    (∀ id ids stopFirst spec,
      Application.Eligible apps (.replaceInstances id ids stopFirst spec) →
      HealthyReviewed a.instances.root a.now id ids Application.replaceRefusal
        (Application.review settings apps a (.replaceInstances id ids stopFirst spec))) ∧
    (∀ id ids stopFirst spec,
      LocalService.Eligible services (.replaceInstances id ids stopFirst spec) →
      HealthyReviewed s.instances.root s.now id ids
        ("There are no replaceable healthy instances with ids: " ++ Listing.bracketed ·)
        (LocalService.review settings services s (.replaceInstances id ids stopFirst spec))) ∧
    ∀ id ids spec,
      LocalService.Eligible services (.stopInstances id ids spec) →
      HealthyReviewed s.instances.root s.now id ids
        ("There are no healthy instances with ids: " ++ Listing.bracketed ·)
        (LocalService.review settings services s (.stopInstances id ids spec)) := by
  refine ⟨fun id ids skipRespawn spec h => ?_, fun id ids stopFirst spec h => ?_,
    fun id ids stopFirst spec h => ?_, fun id ids spec h => ?_⟩
  · rw [Application.review_of_eligible h]
    exact Application.activeReviewed_reviewStop a id ids
  · rw [Application.review_of_eligible h]
    exact Application.healthyReviewed_reviewReplace a id ids
  · rw [LocalService.review_of_eligible h]
    exact LocalService.healthyReviewed_reviewHealthy s id ids _
  · rw [LocalService.review_of_eligible h]
    exact LocalService.healthyReviewed_reviewHealthy s id ids _

/-- An instance was healthy when it was last heard of, an hour ago.  It is not listed as healthy,
but may be replaced; it may not be stopped. -/
theorem outdated_instance_replaced :
    let r : InstanceRecord :=
      { owner := ⟨"SHOP-1"⟩, ownerName := "SHOP", instanceId := ⟨"SHOP-1-a"⟩
        executorId := ⟨"node"⟩, hostname := "node", state := .healthy
        created := .epoch, updated := .epoch }
    let w : ApplicationStores :=
      { now := .ofUnixSeconds 3600
        instances := { root := Groups.put ∅ r.owner r.instanceId r } }
    let review : ApplicationOperation → Verdict :=
      Application.review {} (fun _ => some .running) w
    w.instances.root.healthyIds w.now r.owner = [] ∧
      (review (.replaceInstances r.owner (SortedSet.ofList [r.instanceId]) false {})).isSuccess =
        true ∧
      (review (.stopInstances r.owner [r.instanceId] false {})).isSuccess = false := by
  intro r w review
  obtain ⟨hstop, hreplace, -, -⟩ :=
    targets_reviewed {} (fun _ => some .running) (fun _ => none) w { now := .epoch }
  have hget : w.instances.root.get r.owner r.instanceId = some r := Groups.get_put_self ..
  have hactive : w.instances.root.activeIds w.now r.owner = [] := by decide +kernel
  refine ⟨by decide +kernel, ?_, ?_⟩
  · refine (hreplace r.owner (SortedSet.ofList [r.instanceId]) false {}
      ⟨by decide +kernel, .running, rfl, by decide⟩).accepted.2 fun id hid => ?_
    obtain rfl : id = r.instanceId := List.mem_singleton.1 (SortedSet.mem_toList_ofList.1 hid)
    exact ⟨r, hget, rfl⟩
  · have hreviewed := hstop r.owner [r.instanceId] false {}
      ⟨by decide +kernel, .running, rfl, by decide⟩
    refine Bool.eq_false_iff.2 fun hsuccess => ?_
    have hlisted := hreviewed.accepted.1 hsuccess r.instanceId List.mem_cons_self
    rw [hactive] at hlisted
    cases hlisted

end Orchestration
