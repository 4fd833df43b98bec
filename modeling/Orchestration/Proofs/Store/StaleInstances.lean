import Mathlib.Data.Set.Card
import Orchestration.Proofs.Store.InstanceCoherence

/-!
# Giving up stale instances

An instance that should hold resources and was not heard of for too long is given up: its record
says from then on that it is lost.  That is done to a whole group at once, in the store, and the
cache in front of it reads the group again if there was anything to give up.

What is given up is no longer active, and its record was just written.  So nothing is left to be
given up at the same moment, and the listing of active instances that leaves stale ones out has
nothing to leave out.  A cache shows that too, whether it was filled before or is filled now: every
record in it is one of the store.

Main results:

- `SortedMap.ncard_setOf_find?`: the number of keys with values that pass a test.
- `Instances.givesUpStale_markStale`: the records that are rewritten, and how many there are.
- `Instances.spent_markStale`: nothing is left to be given up.
- `stale_instances_given_up`: the same through a cache that is coherent with its store.
-/

namespace Orchestration

/-! ## Counting keys -/

namespace SortedMap

variable {α β : Type} [Ord α]

/-- No key is listed twice. -/
theorem nodup_keys [Std.ReflOrd α] (m : SortedMap α β) : m.keys.Nodup := by
  rw [keys, List.Nodup, List.pairwise_map]
  refine m.sorted.imp ?_
  rintro ⟨a, v⟩ ⟨b, w⟩ hlt (rfl : a = b)
  have heq : compare a a = .eq := Std.ReflCmp.compare_self
  rw [heq] at hlt
  cases hlt

variable [Std.TransOrd α] [Std.LawfulEqOrd α]

omit [Std.TransOrd α] in
/-- The keys are those that a look-up finds. -/
theorem mem_keys_iff (m : SortedMap α β) (k : α) : k ∈ m.keys ↔ ∃ v, m.find? k = some v := by
  simp [keys, ← mem_entries_iff]

omit [Std.TransOrd α] in
/-- As many keys have values that pass a test as there are such values in the listing. -/
theorem ncard_setOf_find? (m : SortedMap α β) (p : β → Bool) :
    {k | ∃ v, m.find? k = some v ∧ p v = true}.ncard = (m.values.filter p).length := by
  classical
  have hkeys : {k | ∃ v, m.find? k = some v ∧ p v = true} =
      ((m.filter fun _ v => p v).keys.toFinset : Set α) := by
    ext k
    simp [mem_keys_iff, find?_filter, Option.filter_eq_some_iff]
  rw [hkeys, Set.ncard_coe_finset, List.toFinset_card_of_nodup (nodup_keys _)]
  simp only [keys, values, filter, List.length_map, List.filter_map]
  rfl

/-- A value that is put in where it is already changes nothing. -/
theorem insert_of_find? {m : SortedMap α β} {k : α} {v : β} (h : m.find? k = some v) :
    m.insert k v = m := by
  apply ext_find?
  intro k'
  by_cases hk : k' = k
  · rw [hk, find?_insert_self, h]
  · exact find?_insert_of_ne m v hk

end SortedMap

/-! ## Groups of instances -/

namespace InstanceGroup

variable {g : InstanceGroup} {now : Timestamp}

/-- An instance that is given up changes its record: it was active, and is lost now. -/
theorem asLost_ne {r : InstanceRecord} (h : isLost now r = true) : r.asLost now ≠ r := by
  intro heq
  simp only [isLost, Bool.and_eq_true] at h
  rw [← heq] at h
  cases h.1

/-- The record of an instance after stale instances were given up. -/
theorem find?_markStale (g : InstanceGroup) (now : Timestamp) (id : InstanceId) :
    SortedMap.find? (g.markStale now).1 id =
      (SortedMap.find? g id).map fun r => if isLost now r then r.asLost now else r :=
  SortedMap.find?_mapValues g _ id

/-- Every record after that is that of an instance which is not to be given up any more. -/
theorem not_isLost_of_markStale {id : InstanceId} {r : InstanceRecord}
    (h : SortedMap.find? (g.markStale now).1 id = some r) : isLost now r = false := by
  rw [find?_markStale, Option.map_eq_some_iff] at h
  obtain ⟨r', -, rfl⟩ := h
  split <;> rename_i hlost
  · rfl
  · exact Bool.eq_false_iff.2 hlost

/-- Where no instance is to be given up, none is. -/
theorem markStale_of_not_isLost (h : ∀ r ∈ g.values, isLost now r = false) :
    g.markStale now = (g, 0) := by
  have hzero : (g.markStale now).2 = 0 := by
    show (g.values.filter (isLost now)).length = 0
    rw [List.length_eq_zero_iff, List.filter_eq_nil_iff]
    intro r hr
    simp [h r hr]
  exact Prod.ext (markStale_fst_of_eq_zero hzero) hzero

/-- Where no instance is to be given up, the active ones are listed alike with the stale ones left
out and without. -/
theorem select_active_of_not_isLost (h : ∀ r ∈ g.values, isLost now r = false) :
    g.select now InstanceState.activeStates false =
      g.select now InstanceState.activeStates true := by
  apply List.filter_congr
  intro r hr
  have hlost := h r hr
  simp only [isLost, InstanceState.isActive] at hlost
  simpa using hlost

/-- The number of instances that are given up is the number of records that change. -/
theorem ncard_markStale (g : InstanceGroup) (now : Timestamp) :
    {id | SortedMap.find? (g.markStale now).1 id ≠ SortedMap.find? g id}.ncard =
      (g.markStale now).2 := by
  rw [show (g.markStale now).2 = (g.values.filter (isLost now)).length from rfl,
    ← SortedMap.ncard_setOf_find?]
  congr 1
  ext id
  rw [Set.mem_ofPred_eq, Set.mem_ofPred_eq, find?_markStale]
  cases SortedMap.find? g id with
  | none => simp
  | some r =>
      cases hlost : isLost now r with
      | false => simp [hlost]
      | true => simp [hlost, asLost_ne hlost]

end InstanceGroup

/-! ## Stores of instances -/

/-- Between two stores the stale active instances of an owner were given up and nothing else was
done.  `marked` is the number of records that were rewritten. -/
structure GivesUpStale (now : Timestamp) (owner : DeployableId) (before after : Instances)
    (marked : Nat) : Prop where
  /-- The record of an active instance that is stale says that the instance was lost just now. -/
  lost : ∀ id r, before.get owner id = some r → r.state.isActive = true → r.isStale now = true →
    after.get owner id =
      some { r with state := .lost, errorMessage := some "Instance lost", updated := now }
  kept : ∀ id r, before.get owner id = some r → ¬ (r.state.isActive = true ∧ r.isStale now = true) →
    after.get owner id = some r
  absent : ∀ id, before.get owner id = none → after.get owner id = none
  others : ∀ owner', owner' ≠ owner → after.find? owner' = before.find? owner'
  marked_eq : {id | after.get owner id ≠ before.get owner id}.ncard = marked

/-- No instance of an owner is left to be given up. -/
structure Spent (now : Timestamp) (owner : DeployableId) (i : Instances) : Prop where
  markStale_eq : i.markStale now owner = (i, 0)
  listed : i.active now owner = i.select now owner InstanceState.activeStates true

namespace Instances

variable (i : Instances) (now : Timestamp) (owner : DeployableId)

/-- Giving up instances gives up exactly those that are active and stale. -/
theorem givesUpStale_markStale :
    GivesUpStale now owner i (i.markStale now owner).1 (i.markStale now owner).2 := by
  have hget : ∀ id, (i.markStale now owner).1.get owner id =
      (i.get owner id).map fun r => if InstanceGroup.isLost now r then r.asLost now else r := by
    intro id
    rw [Groups.get, group_markStale_self]
    exact InstanceGroup.find?_markStale (i.group owner) now id
  constructor
  · intro id r hr hactive hstale
    rw [hget, hr, Option.map_some, if_pos (by simp [InstanceGroup.isLost, hactive, hstale])]
    rfl
  · intro id r hr hkept
    rw [hget, hr, Option.map_some, if_neg (by simpa [InstanceGroup.isLost] using hkept)]
  · intro id hnone
    rw [hget, hnone, Option.map_none]
  · intro owner' howner
    unfold markStale
    split
    · exact SortedMap.find?_insert_of_ne i _ howner
    · rfl
  · simp only [Groups.get, group_markStale_self, markStale_snd]
    exact InstanceGroup.ncard_markStale (i.group owner) now

variable {i now owner}

/-- Where no instance is to be given up, none is, and the listing has nothing to leave out. -/
theorem spent_of_not_isLost
    (h : ∀ r ∈ SortedMap.values (i.group owner), InstanceGroup.isLost now r = false) :
    Spent now owner i where
  markStale_eq := by
    unfold markStale
    split <;> rename_i hfind
    · rename_i g
      have hgroup : i.group owner = g := by rw [Groups.group, hfind, Option.getD_some]
      rw [hgroup] at h
      rw [InstanceGroup.markStale_of_not_isLost h]
      exact congrArg (·, 0) (SortedMap.insert_of_find? hfind)
    · rfl
  listed := InstanceGroup.select_active_of_not_isLost h

/-- Once instances were given up, none is to be given up any more. -/
theorem not_isLost_of_markStale (i : Instances) {now : Timestamp} {owner : DeployableId}
    {r : InstanceRecord}
    (hr : r ∈ SortedMap.values ((i.markStale now owner).1.group owner)) :
    InstanceGroup.isLost now r = false := by
  obtain ⟨id, hid⟩ := (SortedMap.mem_values_iff _ r).1 hr
  rw [group_markStale_self] at hid
  exact InstanceGroup.not_isLost_of_markStale hid

/-- Once instances were given up, none is left to be given up. -/
theorem spent_markStale (i : Instances) (now : Timestamp) (owner : DeployableId) :
    Spent now owner (i.markStale now owner).1 :=
  spent_of_not_isLost fun _ => i.not_isLost_of_markStale

end Instances

/-! ## Stores behind a cache -/

/-- A group that is put together from a list holds records of the list. -/
theorem Groups.mem_of_replace {γ κ ρ : Type} [Ord γ] [Ord κ] [Std.TransOrd γ] [Std.LawfulEqOrd γ]
    [Std.TransOrd κ] [Std.LawfulEqOrd κ] {g : Groups γ κ ρ} {owner : γ} {keyOf : ρ → κ}
    {rs : List ρ} {r : ρ} (h : r ∈ SortedMap.values ((g.replace owner keyOf rs).group owner)) :
    r ∈ rs := by
  have hfold : ∀ (l : List ρ) (m : SortedMap κ ρ),
      r ∈ (l.foldl (fun m r => m.insert (keyOf r) r) m).values → r ∈ m.values ∨ r ∈ l := by
    intro l
    induction l with
    | nil => exact fun m hm => .inl hm
    | cons a rest ih =>
        intro m hm
        rcases ih _ hm with hm' | hrest
        · obtain ⟨k, hk⟩ := (SortedMap.mem_values_iff _ r).1 hm'
          by_cases hkey : k = keyOf a
          · rw [hkey, SortedMap.find?_insert_self] at hk
            exact .inr (Option.some.inj hk ▸ List.mem_cons_self)
          · rw [SortedMap.find?_insert_of_ne _ _ hkey] at hk
            exact .inl ((SortedMap.mem_values_iff m r).2 ⟨k, hk⟩)
        · exact .inr (List.mem_cons_of_mem a hrest)
  rw [Groups.replace, Groups.group_insert_self] at h
  rcases hfold rs ∅ h with hempty | hmem
  · cases hempty
  · exact hmem

namespace InstanceProxy

variable {p : InstanceProxy} {owner : DeployableId}

/-- What the cache holds of an owner are records of the store, under whatever keys. -/
def Recorded (p : InstanceProxy) (owner : DeployableId) : Prop :=
  ∀ r ∈ SortedMap.values (p.cache.group owner), r ∈ SortedMap.values (p.store.root.group owner)

/-- A group that is not in the cache is an empty one there. -/
theorem Coherent.recorded (h : p.Coherent) (owner : DeployableId) : p.Recorded owner := by
  intro r hr
  cases hthere : p.cache.contains owner with
  | true =>
      have hgroup : p.cache.group owner = p.store.root.group owner :=
        Groups.Reflects.group_eq h hthere
      rwa [hgroup] at hr
  | false =>
      rw [SortedMap.contains, Option.isSome_eq_false_iff, Option.isNone_iff_eq_none] at hthere
      rw [Groups.group, hthere] at hr
      cases hr

/-- A group that is read holds records of the store. -/
theorem recorded_reload (p : InstanceProxy) (now : Timestamp) (owner : DeployableId) :
    (p.reload now owner).Recorded owner := by
  intro r hr
  have hall : r ∈ p.store.root.all now owner := Groups.mem_of_replace hr
  rwa [Instances.all, Instances.select, InstanceGroup.select_members] at hall

/-- So does a group that is loaded. -/
theorem Recorded.load (h : p.Recorded owner) (now : Timestamp) :
    (p.load now owner).Recorded owner := by
  unfold InstanceProxy.load
  split
  · exact h
  · exact p.recorded_reload now owner

/-- Giving up instances leaves no record in the cache that the store has rewritten. -/
theorem Coherent.recorded_markStale (h : p.Coherent) (now : Timestamp) (owner : DeployableId) :
    (p.markStale now owner).1.Recorded owner := by
  rw [markStale_fst]
  dsimp only
  split <;> rename_i hmarked
  · exact recorded_reload _ now owner
  · -- Nothing was given up, so the group of the store is as it was.
    intro r hr
    show r ∈ SortedMap.values ((p.store.root.markStale now owner).1.group owner)
    rw [Instances.group_markStale_of_eq_zero (Nat.eq_zero_of_not_pos hmarked)]
    exact h.recorded owner r hr

/-- Giving up instances touches the cached group of no other owner. -/
theorem find?_cache_markStale_of_ne (p : InstanceProxy) (now : Timestamp)
    {owner owner' : DeployableId} (h : owner' ≠ owner) :
    SortedMap.find? (p.markStale now owner).1.cache owner' = SortedMap.find? p.cache owner' := by
  rw [markStale_fst]
  dsimp only
  split
  · exact SortedMap.find?_insert_of_ne p.cache _ h
  · rfl

/-- Where no instance is left to be given up, the proxy does nothing. -/
theorem markStale_of_spent {now : Timestamp} (h : Spent now owner p.store.root) :
    p.markStale now owner = (p, 0) := by
  simp only [markStale, Gated.pass, h.markStale_eq]
  rfl

end InstanceProxy

/-- Take any instances, of applications or of local services, and any moment.  Giving up the stale
instances of an owner rewrites the records of those that are active and stale, says how many that
were, and leaves every other record alone.  Doing so again at once changes nothing and answers that
there were none, and the active instances are listed alike with the stale ones left out and without.
All of that holds of the store itself and of a store behind a coherent cache, whether its gate is
open or not.  The cache keeps what it holds of other owners, and stays coherent, so that it answers
with the records that were rewritten, where instances are filed under their own identifiers. -/
theorem stale_instances_given_up (now : Timestamp) (owner : DeployableId) :
    (∀ i : Instances,
      GivesUpStale now owner i (i.markStale now owner).1 (i.markStale now owner).2 ∧
      Spent now owner (i.markStale now owner).1) ∧
    ∀ p : InstanceProxy, p.Coherent →
      let q : InstanceProxy := (p.markStale now owner).1
      GivesUpStale now owner p.store.root q.store.root (p.markStale now owner).2 ∧
      q.markStale now owner = (q, 0) ∧
      (q.active now owner).1 = (q.select now owner InstanceState.activeStates true).1 ∧
      (∀ owner', owner' ≠ owner →
        SortedMap.find? q.cache owner' = SortedMap.find? p.cache owner') ∧
      (p.store.root.Keyed → q.Coherent ∧
        ∀ later owner' id, (q.get later owner' id).1 = q.store.root.get owner' id) := by
  refine ⟨fun i => ⟨i.givesUpStale_markStale now owner, i.spent_markStale now owner⟩, ?_⟩
  intro p hp q
  have hroot : q.store.root = (p.store.root.markStale now owner).1 := p.root_markStale now owner
  refine ⟨?_, ?_, ?_, fun owner' howner => p.find?_cache_markStale_of_ne now howner,
    fun hkeyed => ?_⟩
  · rw [hroot]
    exact p.store.root.givesUpStale_markStale now owner
  · apply InstanceProxy.markStale_of_spent
    rw [hroot]
    exact p.store.root.spent_markStale now owner
  · apply InstanceGroup.select_active_of_not_isLost
    intro r hr
    have hstored : r ∈ SortedMap.values (q.store.root.group owner) := by
      rw [← q.root_load now owner]
      exact (hp.recorded_markStale now owner).load now r hr
    rw [hroot] at hstored
    exact p.store.root.not_isLost_of_markStale hstored
  · have hq : q.Coherent := hp.markStale hkeyed now owner
    have hqkeyed : q.store.root.Keyed := by
      rw [hroot]
      exact hkeyed.markStale now owner
    exact ⟨hq, fun later owner' id => hq.get_fst hqkeyed later owner' id⟩

/-- One of three instances is given up an hour later: the second one has stopped, and the third one
was heard of since.  The gate is shut. -/
theorem one_of_three_given_up :
    let instanceAt (id : String) (state : InstanceState) (seconds : Nat) : InstanceRecord :=
      { owner := ⟨"SHOP-1"⟩, ownerName := "SHOP", instanceId := ⟨id⟩
        executorId := ⟨"node"⟩, hostname := "node", state := state
        created := .epoch, updated := .ofUnixSeconds seconds }
    let later : Timestamp := .ofUnixSeconds 3600
    let owner : DeployableId := ⟨"SHOP-1"⟩
    let old : InstanceRecord := instanceAt "a" .healthy 0
    let root : Instances :=
      ((Groups.put ∅ owner ⟨"a"⟩ old).put owner ⟨"b"⟩ (instanceAt "b" .stopped 0)).put owner ⟨"c"⟩
        (instanceAt "c" .ready 3590)
    let p : InstanceProxy := { store := { root := root, accepting := false } }
    let q : InstanceProxy := (p.markStale later owner).1
    (p.markStale later owner).2 = 1 ∧
      q.store.root.get owner ⟨"a"⟩ =
        some { old with state := .lost, errorMessage := some "Instance lost", updated := later } ∧
      q.markStale later owner = (q, 0) := by
  intro instanceAt later owner old root p q
  have hempty : p.Coherent := InstanceProxy.coherent_purge p
  obtain ⟨hgives, hagain, -⟩ := (stale_instances_given_up later owner).2 p hempty
  have hold : p.store.root.get owner ⟨"a"⟩ = some old := by cbv
  have hstale : old.isStale later = true := by decide
  exact ⟨by decide, hgives.lost ⟨"a"⟩ old hold rfl hstale, hagain⟩

end Orchestration
