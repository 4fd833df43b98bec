import Orchestration.Proofs.Store.GroupCoherence
import Orchestration.Proofs.Store.History
import Orchestration.Store.Instances

/-!
# The instance cache agrees with its store

The cache of instance records holds whole groups.  A group is loaded when it is first asked for,
read again after a write and after instances were given up, emptied in place, or replaced by an
empty one, and some of that happens to groups that were never loaded.

One relation covers all of them: a group in the cache is the group of the store.  It says nothing
about time, so what counts as stale may change between a load and a look-up.  Groups of the store
that were given up in part are read again; the others are as they were.

Main results:

- `InstanceGroup.markStale_fst_of_eq_zero`: giving up no instance changes nothing.
- `InstanceProxy.laws`: every request keeps cache and store coherent.
- `InstanceProxy.instance_answers_after_history`: after every history a fresh proxy answers as its
  store does at the same moment, and writes are answered by the gate.
-/

namespace Orchestration

/-! ## Groups under the identifiers of their instances -/

/-- Every instance of a group is kept under the identifier that it carries. -/
def InstanceGroup.Keyed (g : InstanceGroup) : Prop :=
  ∀ id r, g.find? id = some r → r.instanceId = id

namespace InstanceGroup

theorem Keyed.empty : Keyed ∅ :=
  SortedMap.KeyedBy.empty InstanceRecord.instanceId

/-- An instance that is given up keeps its identifier. -/
theorem Keyed.markStale {g : InstanceGroup} (h : g.Keyed) (now : Timestamp) :
    Keyed (g.markStale now).1 := by
  refine SortedMap.KeyedBy.mapValues h fun _ r => ?_
  split
  · rfl
  · rfl

/-- Where no instance was given up, the group is as it was. -/
theorem markStale_fst_of_eq_zero {g : InstanceGroup} {now : Timestamp}
    (h : (g.markStale now).2 = 0) : (g.markStale now).1 = g := by
  have hnone : ∀ r ∈ g.values, ¬ isLost now r = true := by
    have hlength : (g.values.filter (isLost now)).length = 0 := h
    rw [List.length_eq_zero_iff, List.filter_eq_nil_iff] at hlength
    exact hlength
  apply SortedMap.ext_find?
  intro id
  rw [InstanceGroup.markStale, SortedMap.find?_mapValues]
  cases hfind : g.find? id with
  | none => rfl
  | some r =>
      have hlost := hnone r ((SortedMap.mem_values_iff g r).2 ⟨id, hfind⟩)
      rw [Option.map_some, if_neg hlost]

/-- Every instance is in some state that can be asked for. -/
theorem select_members (g : InstanceGroup) (now : Timestamp) :
    g.select now Named.members true = g.values := by
  apply List.filter_eq_self.2
  intro r _
  cases h : r.state <;> rfl

end InstanceGroup

/-- Every instance is kept under the identifier that it carries. -/
def Instances.Keyed (i : Instances) : Prop :=
  ∀ owner, InstanceGroup.Keyed (i.group owner)

namespace Instances

/-- Giving up instances of an owner changes the group of that owner. -/
theorem group_markStale_self (i : Instances) (now : Timestamp) (owner : DeployableId) :
    (i.markStale now owner).1.group owner = (InstanceGroup.markStale (i.group owner) now).1 := by
  unfold markStale
  cases hfind : i.find? owner with
  | some g => simp [Groups.group, hfind]
  | none =>
      simp only [Groups.group, hfind]
      rfl

/-- Giving up instances of an owner leaves other owners alone. -/
theorem group_markStale_of_ne (i : Instances) (now : Timestamp) {owner owner' : DeployableId}
    (h : owner ≠ owner') : (i.markStale now owner').1.group owner = i.group owner := by
  unfold markStale
  split
  · exact Groups.group_insert_of_ne i _ h
  · rfl

/-- The number of instances given up is that of the group. -/
theorem markStale_snd (i : Instances) (now : Timestamp) (owner : DeployableId) :
    (i.markStale now owner).2 = (InstanceGroup.markStale (i.group owner) now).2 := by
  unfold markStale
  cases hfind : i.find? owner with
  | some g => simp [Groups.group, hfind]
  | none =>
      simp only [Groups.group, hfind]
      rfl

/-- Where no instance of an owner was given up, every group is as it was. -/
theorem group_markStale_of_eq_zero {i : Instances} {now : Timestamp} {owner : DeployableId}
    (h : (i.markStale now owner).2 = 0) (owner' : DeployableId) :
    (i.markStale now owner).1.group owner' = i.group owner' := by
  by_cases howner : owner' = owner
  · subst howner
    rw [markStale_snd] at h
    rw [group_markStale_self, InstanceGroup.markStale_fst_of_eq_zero h]
  · exact group_markStale_of_ne i now howner

/-- Instances that are given up keep their identifiers. -/
theorem Keyed.markStale {i : Instances} (h : i.Keyed) (now : Timestamp) (owner : DeployableId) :
    Keyed (i.markStale now owner).1 := by
  refine Groups.KeyedBy.of_group h owner ?_ fun owner' howner => ?_
  · rw [group_markStale_self]
    exact InstanceGroup.Keyed.markStale (h owner) now
  · exact group_markStale_of_ne i now howner

end Instances

/-! ## Requests -/

/-- The requests that an instance proxy takes, each at its own moment.  The instances that hold
resources, the healthy ones and their number are asked for by `select`. -/
inductive InstanceRequest where
  | select (now : Timestamp) (owner : DeployableId) (states : List InstanceState)
      (includeStale : Bool)
  | get (now : Timestamp) (owner : DeployableId) (id : InstanceId)
  | update (now : Timestamp) (owner : DeployableId) (id : InstanceId) (r : InstanceRecord)
  | delete (owner : DeployableId) (id : InstanceId)
  | deleteAll (owner : DeployableId)
  | markStale (now : Timestamp) (owner : DeployableId)

/-- A write files an instance under the identifier that it carries. -/
def InstanceRequest.Keyed : InstanceRequest → Prop
  | .update _ _ id r => r.instanceId = id
  | _ => True

instance : CachingProxy InstanceProxy InstanceRequest Instances where
  root p := p.store.root
  request p
    | .select now owner states includeStale => (p.select now owner states includeStale).2
    | .get now owner id => (p.get now owner id).2
    | .update now owner id r => (p.update now owner id r).1
    | .delete owner id => (p.delete owner id).1
    | .deleteAll owner => (p.deleteAll owner).1
    | .markStale now owner => (p.markStale now owner).1
  withRoot p r := { p with store := { p.store with root := r } }
  withGate p b := { p with store := { p.store with accepting := b } }
  purge := InstanceProxy.purge

namespace InstanceProxy

/-! ### What single requests do -/

/-- Reading a group leaves the store alone. -/
@[simp]
theorem root_reload (p : InstanceProxy) (now : Timestamp) (owner : DeployableId) :
    (p.reload now owner).store.root = p.store.root :=
  rfl

/-- Loading a group leaves the store alone. -/
@[simp]
theorem root_load (p : InstanceProxy) (now : Timestamp) (owner : DeployableId) :
    (p.load now owner).store.root = p.store.root := by
  unfold load
  split <;> rfl

/-- A group that was loaded is there. -/
theorem contains_load (p : InstanceProxy) (now : Timestamp) (owner : DeployableId) :
    (p.load now owner).cache.contains owner = true := by
  unfold load
  split <;> rename_i hthere
  · exact hthere
  · simp [reload, Groups.replace, SortedMap.contains]

/-- The group is read again when some instance was given up. -/
theorem markStale_fst (p : InstanceProxy) (now : Timestamp) (owner : DeployableId) :
    (p.markStale now owner).1 =
      let q := { p with store := { p.store with root := (p.store.root.markStale now owner).1 } }
      if 0 < (p.store.root.markStale now owner).2 then q.reload now owner else q :=
  rfl

/-- Giving up instances does to the store what the store does. -/
theorem root_markStale (p : InstanceProxy) (now : Timestamp) (owner : DeployableId) :
    (p.markStale now owner).1.store.root = (p.store.root.markStale now owner).1 := by
  rw [markStale_fst]
  split <;> rfl

/-- A write that the gate accepts goes to the store, and its group is read again. -/
theorem update_of_accepting {p : InstanceProxy} (h : p.store.accepting = true) (now : Timestamp)
    (owner : DeployableId) (id : InstanceId) (r : InstanceRecord) :
    p.update now owner id r =
      (reload { p with store := { p.store with root := p.store.root.put owner id r } } now owner,
        true) := by
  simp [update, Gated.write, h]

/-- A deletion that the gate accepts goes to the store and then to the cache. -/
theorem delete_of_accepting {p : InstanceProxy} (h : p.store.accepting = true)
    (owner : DeployableId) (id : InstanceId) :
    p.delete owner id =
      ({ store := { p.store with root := p.store.root.remove owner id }
         cache := p.cache.remove owner id }, true) := by
  simp [delete, Gated.write, h]

/-- A deletion of all instances that the gate accepts goes to the store and then to the cache. -/
theorem deleteAll_of_accepting {p : InstanceProxy} (h : p.store.accepting = true)
    (owner : DeployableId) :
    p.deleteAll owner =
      ({ store := { p.store with root := p.store.root.removeGroup owner }
         cache := SortedMap.insert p.cache owner ∅ }, true) := by
  simp [deleteAll, Gated.write, h]

/-- A write that the gate refuses changes nothing. -/
theorem update_of_refusing {p : InstanceProxy} (h : p.store.accepting = false) (now : Timestamp)
    (owner : DeployableId) (id : InstanceId) (r : InstanceRecord) :
    p.update now owner id r = (p, false) := by
  simp [update, Gated.write, h]

/-- A deletion that the gate refuses changes nothing. -/
theorem delete_of_refusing {p : InstanceProxy} (h : p.store.accepting = false)
    (owner : DeployableId) (id : InstanceId) : p.delete owner id = (p, false) := by
  simp [delete, Gated.write, h]

/-- A deletion of all instances that the gate refuses changes nothing. -/
theorem deleteAll_of_refusing {p : InstanceProxy} (h : p.store.accepting = false)
    (owner : DeployableId) : p.deleteAll owner = (p, false) := by
  simp [deleteAll, Gated.write, h]

/-- A write is answered by the gate, and reaches the store when the gate accepts it. -/
theorem update_spec (p : InstanceProxy) (now : Timestamp) (owner : DeployableId)
    (id : InstanceId) (r : InstanceRecord) :
    (p.update now owner id r).2 = p.store.accepting ∧
      (p.update now owner id r).1.store.root =
        if p.store.accepting then p.store.root.put owner id r else p.store.root := by
  cases hgate : p.store.accepting with
  | true => simp [update_of_accepting hgate]
  | false => simp [update_of_refusing hgate]

/-- A deletion is answered by the gate, and reaches the store when the gate accepts it. -/
theorem delete_spec (p : InstanceProxy) (owner : DeployableId) (id : InstanceId) :
    (p.delete owner id).2 = p.store.accepting ∧
      (p.delete owner id).1.store.root =
        if p.store.accepting then p.store.root.remove owner id else p.store.root := by
  cases hgate : p.store.accepting with
  | true => simp [delete_of_accepting hgate]
  | false => simp [delete_of_refusing hgate]

/-- So is a deletion of all instances of an owner. -/
theorem deleteAll_spec (p : InstanceProxy) (owner : DeployableId) :
    (p.deleteAll owner).2 = p.store.accepting ∧
      (p.deleteAll owner).1.store.root =
        if p.store.accepting then p.store.root.removeGroup owner else p.store.root := by
  cases hgate : p.store.accepting with
  | true => simp [deleteAll_of_accepting hgate]
  | false => simp [deleteAll_of_refusing hgate]

/-! ## Coherence -/

/-- Every group in the cache is the group of the store. -/
def Coherent (p : InstanceProxy) : Prop :=
  ∀ owner g, p.cache.find? owner = some g → g = p.store.root.group owner

/-- An empty cache is coherent with every store. -/
theorem coherent_purge (p : InstanceProxy) : p.purge.Coherent :=
  Groups.reflects_empty p.store.root

/-- Reading a group again makes up for a change of that group in the store. -/
theorem Coherent.reload {p q : InstanceProxy} (h : p.Coherent) (now : Timestamp)
    {owner : DeployableId} (hq : InstanceGroup.Keyed (q.store.root.group owner))
    (hcache : q.cache = p.cache)
    (hroot : ∀ owner', owner' ≠ owner → q.store.root.group owner' = p.store.root.group owner') :
    (q.reload now owner).Coherent := by
  have hall : q.store.root.all now owner = (q.store.root.group owner).values :=
    InstanceGroup.select_members _ now
  simp only [InstanceProxy.reload, Gated.read, hall, hcache]
  exact Groups.Reflects.replace h hq hroot

/-- Loading a group keeps cache and store coherent. -/
theorem Coherent.load {p : InstanceProxy} (h : p.Coherent) (hroot : p.store.root.Keyed)
    (now : Timestamp) (owner : DeployableId) : (p.load now owner).Coherent := by
  unfold InstanceProxy.load
  split
  · exact h
  · exact h.reload now (hroot owner) rfl fun _ _ => rfl

/-- A loaded group is the group of the store. -/
theorem Coherent.group_load {p : InstanceProxy} (h : p.Coherent) (hroot : p.store.root.Keyed)
    (now : Timestamp) (owner : DeployableId) :
    (p.load now owner).cache.group owner = p.store.root.group owner := by
  rw [← p.root_load now owner]
  exact Groups.Reflects.group_eq (h.load hroot now owner) (p.contains_load now owner)

/-- A write keeps cache and store coherent, accepted or not. -/
theorem Coherent.update {p : InstanceProxy} (h : p.Coherent) (hroot : p.store.root.Keyed)
    (now : Timestamp) (owner : DeployableId) {id : InstanceId} {r : InstanceRecord}
    (hr : r.instanceId = id) : (p.update now owner id r).1.Coherent := by
  cases hgate : p.store.accepting with
  | true =>
      rw [update_of_accepting hgate]
      refine h.reload now (Groups.KeyedBy.put hroot owner hr owner) rfl ?_
      intro owner' howner
      exact Groups.group_insert_of_ne p.store.root _ howner
  | false =>
      rw [update_of_refusing hgate]
      exact h

/-- A deletion keeps cache and store coherent, accepted or not. -/
theorem Coherent.delete {p : InstanceProxy} (h : p.Coherent) (owner : DeployableId)
    (id : InstanceId) : (p.delete owner id).1.Coherent := by
  cases hgate : p.store.accepting with
  | true =>
      rw [delete_of_accepting hgate]
      exact Groups.Reflects.remove h owner id
  | false =>
      rw [delete_of_refusing hgate]
      exact h

/-- A deletion of all instances keeps cache and store coherent, accepted or not. -/
theorem Coherent.deleteAll {p : InstanceProxy} (h : p.Coherent) (owner : DeployableId) :
    (p.deleteAll owner).1.Coherent := by
  cases hgate : p.store.accepting with
  | true =>
      rw [deleteAll_of_accepting hgate]
      exact Groups.Reflects.removeGroup h owner
  | false =>
      rw [deleteAll_of_refusing hgate]
      exact h

/-- Giving up instances keeps cache and store coherent.  Where the group is not read again, no
instance was given up. -/
theorem Coherent.markStale {p : InstanceProxy} (h : p.Coherent) (hroot : p.store.root.Keyed)
    (now : Timestamp) (owner : DeployableId) : (p.markStale now owner).1.Coherent := by
  rw [markStale_fst]
  split <;> rename_i hmarked
  · refine h.reload now (hroot.markStale now owner owner) rfl ?_
    intro owner' howner
    exact Instances.group_markStale_of_ne p.store.root now howner
  · have hzero : (p.store.root.markStale now owner).2 = 0 := by omega
    intro owner' g hfind
    show g = (p.store.root.markStale now owner).1.group owner'
    rw [Instances.group_markStale_of_eq_zero hzero]
    exact h owner' g hfind

/-- Every request keeps instances under their own identifiers. -/
theorem keyed_request (p : InstanceProxy) (op : InstanceRequest) (hop : op.Keyed)
    (h : p.store.root.Keyed) : (CachingProxy.request p op).store.root.Keyed := by
  cases op with
  | select now owner states includeStale =>
      show (p.load now owner).store.root.Keyed
      rw [root_load]
      exact h
  | get now owner id =>
      show (p.load now owner).store.root.Keyed
      rw [root_load]
      exact h
  | update now owner id r =>
      show (p.update now owner id r).1.store.root.Keyed
      rw [(p.update_spec now owner id r).2]
      split
      · exact Groups.KeyedBy.put h owner hop
      · exact h
  | delete owner id =>
      show (p.delete owner id).1.store.root.Keyed
      rw [(p.delete_spec owner id).2]
      split
      · exact Groups.KeyedBy.remove h owner id
      · exact h
  | deleteAll owner =>
      show (p.deleteAll owner).1.store.root.Keyed
      rw [(p.deleteAll_spec owner).2]
      split
      · exact Groups.KeyedBy.removeGroup h owner
      · exact h
  | markStale now owner =>
      show (p.markStale now owner).1.store.root.Keyed
      rw [root_markStale]
      exact h.markStale now owner

/-- Every request keeps cache and store coherent. -/
theorem laws :
    Observed.Laws (P := InstanceProxy) InstanceRequest.Keyed Instances.Keyed Coherent where
  sound_request := keyed_request
  coherent_request p op hop hroot h := by
    cases op with
    | select now owner states includeStale => exact h.load hroot now owner
    | get now owner id => exact h.load hroot now owner
    | update now owner id r => exact h.update hroot now owner hop
    | delete owner id => exact h.delete owner id
    | deleteAll owner => exact h.deleteAll owner
    | markStale now owner => exact h.markStale hroot now owner
  root_withRoot _ _ := rfl
  root_withGate _ _ := rfl
  coherent_withGate _ _ h := h
  root_purge _ := rfl
  coherent_purge := coherent_purge

/-! ## Answers -/

/-- A coherent proxy lists the instances that the store lists. -/
theorem Coherent.select_fst {p : InstanceProxy} (h : p.Coherent) (hroot : p.store.root.Keyed)
    (now : Timestamp) (owner : DeployableId) (states : List InstanceState) (includeStale : Bool) :
    (p.select now owner states includeStale).1 =
      p.store.root.select now owner states includeStale := by
  show InstanceGroup.select ((p.load now owner).cache.group owner) now states includeStale = _
  rw [h.group_load hroot]
  rfl

/-- A coherent proxy finds the instances that the store finds. -/
theorem Coherent.get_fst {p : InstanceProxy} (h : p.Coherent) (hroot : p.store.root.Keyed)
    (now : Timestamp) (owner : DeployableId) (id : InstanceId) :
    (p.get now owner id).1 = p.store.root.get owner id := by
  show SortedMap.find? ((p.load now owner).cache.group owner) id = _
  rw [h.group_load hroot]
  rfl

/-- A coherent proxy counts the instances that the store counts. -/
theorem Coherent.count_fst {p : InstanceProxy} (h : p.Coherent) (hroot : p.store.root.Keyed)
    (now : Timestamp) (owner : DeployableId) (states : List InstanceState) :
    (p.count now owner states).1 = p.store.root.count now owner states := by
  show (p.select now owner states false).1.length = _
  rw [h.select_fst hroot]
  rfl

/-- Take any history of an instance proxy in which instances are filed under the identifiers that
they carry, with any clock at each request.  As long as the cache is fresh, every listing, look-up
and count is answered as the store would answer it at the same moment, and leaves the store alone.
Giving up instances has the effect and the answer that it has on the store.  Writes and deletions
are answered by the gate: one that it accepts reaches the store, one that it refuses changes neither
store nor cache. -/
theorem instance_answers_after_history (leader : Bool) (store : Gated Instances)
    (history : List (StoreEvent InstanceRequest Instances)) (hroot : store.root.Keyed)
    (hhistory : ∀ e ∈ history, e.Meets InstanceRequest.Keyed Instances.Keyed) :
    let s : Observed InstanceProxy := Observed.start leader { store := store }
    let p : InstanceProxy := (s.run history).proxy
    (s.isFresh true history = true → ∀ now owner,
      (∀ states includeStale, (p.select now owner states includeStale).1 =
        p.store.root.select now owner states includeStale) ∧
      (∀ id, (p.get now owner id).1 = p.store.root.get owner id) ∧
      (p.active now owner).1 = p.store.root.active now owner ∧
      (p.healthy now owner).1 = p.store.root.healthy now owner ∧
      (∀ states, (p.count now owner states).1 = p.store.root.count now owner states)) ∧
    (∀ now owner,
      (∀ states includeStale,
        (p.select now owner states includeStale).2.store.root = p.store.root) ∧
      (∀ id, (p.get now owner id).2.store.root = p.store.root) ∧
      (p.markStale now owner).2 = (p.store.root.markStale now owner).2 ∧
      (p.markStale now owner).1.store.root = (p.store.root.markStale now owner).1) ∧
    (∀ now owner id r, (p.update now owner id r).2 = p.store.accepting ∧
      (p.update now owner id r).1.store.root =
        if p.store.accepting then p.store.root.put owner id r else p.store.root) ∧
    (∀ owner id, (p.delete owner id).2 = p.store.accepting ∧
      (p.delete owner id).1.store.root =
        if p.store.accepting then p.store.root.remove owner id else p.store.root) ∧
    (∀ owner, (p.deleteAll owner).2 = p.store.accepting ∧
      (p.deleteAll owner).1.store.root =
        if p.store.accepting then p.store.root.removeGroup owner else p.store.root) ∧
    (p.store.accepting = false →
      (∀ now owner id r, p.update now owner id r = (p, false)) ∧
      (∀ owner id, p.delete owner id = (p, false)) ∧
      ∀ owner, p.deleteAll owner = (p, false)) := by
  intro s p
  have hempty : Coherent { store := store } := coherent_purge { store := store }
  obtain ⟨hkeyed, hcoherent⟩ := Observed.start_sound_coherent laws leader hroot hempty hhistory
  refine ⟨fun hfresh now owner => ?_, fun now owner => ?_, p.update_spec, p.delete_spec,
    p.deleteAll_spec, fun hgate => ?_⟩
  · have h : p.Coherent := hcoherent hfresh
    exact ⟨h.select_fst hkeyed now owner, h.get_fst hkeyed now owner,
      h.select_fst hkeyed now owner _ _, h.select_fst hkeyed now owner _ _,
      h.count_fst hkeyed now owner⟩
  · exact ⟨fun _ _ => root_load p now owner, fun _ => root_load p now owner, rfl,
      root_markStale p now owner⟩
  · exact ⟨update_of_refusing hgate, delete_of_refusing hgate, deleteAll_of_refusing hgate⟩

/-- An instance is written and listed, given up an hour later, and a deletion is refused.  The proxy
goes on to answer as its store. -/
theorem instance_answers_after_loss :
    let r : InstanceRecord :=
      { owner := ⟨"SHOP-1"⟩, ownerName := "SHOP", instanceId := ⟨"SHOP-1-a"⟩
        executorId := ⟨"node"⟩, hostname := "node", state := .healthy
        created := .epoch, updated := .epoch }
    let later : Timestamp := .ofUnixSeconds 3600
    let history : List (StoreEvent InstanceRequest Instances) :=
      [.request (.update .epoch r.owner r.instanceId r),
        .request (.select .epoch r.owner [.healthy] false), .request (.markStale later r.owner),
        .gate false, .request (.deleteAll r.owner)]
    let s : Observed InstanceProxy := Observed.start false { store := { root := ∅ } }
    let p : InstanceProxy := (s.run history).proxy
    (p.get later r.owner r.instanceId).1 = p.store.root.get r.owner r.instanceId ∧
      (p.healthy later r.owner).1 = p.store.root.healthy later r.owner := by
  intro r later history s p
  have hroot : Instances.Keyed (∅ : Instances) := fun _ => InstanceGroup.Keyed.empty
  have hhistory : ∀ e ∈ history, e.Meets InstanceRequest.Keyed Instances.Keyed := by
    simp [history, StoreEvent.Meets, InstanceRequest.Keyed]
  obtain ⟨-, hget, -, hhealthy, -⟩ :=
    (instance_answers_after_history false { root := ∅ } history hroot hhistory).1 rfl later r.owner
  simp only [p, s]
  exact ⟨hget _, hhealthy⟩

end InstanceProxy
end Orchestration
