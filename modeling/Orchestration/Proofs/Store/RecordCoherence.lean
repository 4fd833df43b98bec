import Orchestration.Proofs.Collection.Lookup
import Orchestration.Proofs.Store.History
import Orchestration.Store.Records

/-!
# The record cache agrees with its store

The cache of desired-state records moves between several modes.  An identifier may be unknown, known
to have no record, or known with its record, and the full listing may have been loaded or not.
Single look-ups, full loads, writes, deletions and purges each change the mode.

One relation covers all of them: every remembered answer is the store's answer, and once the listing
was loaded every record of the store is remembered.  It is kept by every request, as long as records
are kept under the identifiers that they carry.

Main results:

- `RecordProxy.values_eq_list`: a complete coherent cache lists what the store lists, in its order.
- `RecordProxy.laws`: every request keeps cache and store coherent.
- `RecordProxy.record_answers_after_history`: after every history a fresh proxy answers as its
  store does, and writes are answered by the gate.
-/

namespace Orchestration

variable {ρ : Type} [Identified ρ]

/-! ## Records under their own identifiers -/

/-- Every record is kept under the identifier that it carries. -/
def Records.Keyed (r : Records ρ) : Prop :=
  ∀ id a, r.find? id = some a → Identified.ownId a = id

/-- Records under their own identifiers are listed as they are kept. -/
theorem Records.Keyed.list_eq_values {r : Records ρ} (h : r.Keyed) : r.list = r.values := by
  unfold Records.list
  apply List.mergeSort_of_pairwise
  rw [SortedMap.values, List.pairwise_map]
  refine List.Pairwise.imp_of_mem ?_ r.sorted
  rintro ⟨k, a⟩ ⟨k', a'⟩ hmem hmem' hlt
  have hk : Identified.ownId a = k := h k a ((SortedMap.mem_entries_iff r k a).1 hmem)
  have hk' : Identified.ownId a' = k' := h k' a' ((SortedMap.mem_entries_iff r k' a').1 hmem')
  simp only [hk, hk']
  rw [hlt]
  rfl

/-! ## Requests -/

/-- The requests that a record proxy takes. -/
inductive RecordRequest (ρ : Type) where
  | get (id : DeployableId)
  | list
  | update (id : DeployableId) (a : ρ)
  | delete (id : DeployableId)

/-- A write files a record under the identifier that it carries. -/
def RecordRequest.Keyed : RecordRequest ρ → Prop
  | .update id a => Identified.ownId a = id
  | _ => True

instance : CachingProxy (RecordProxy ρ) (RecordRequest ρ) (Records ρ) where
  root p := p.store.root
  request p
    | .get id => (p.get id).2
    | .list => p.list.2
    | .update id a => (p.update id a).1
    | .delete id => (p.delete id).1
  withRoot p r := { p with store := { p.store with root := r } }
  withGate p b := { p with store := { p.store with accepting := b } }
  purge := RecordProxy.purge

namespace RecordProxy

/-! ### What single requests do -/

omit [Identified ρ] in
/-- A look-up leaves the store alone. -/
@[simp]
theorem root_get (p : RecordProxy ρ) (id : DeployableId) :
    (p.get id).2.store.root = p.store.root := by
  unfold get
  split <;> rfl

/-- A listing leaves the store alone. -/
@[simp]
theorem root_list (p : RecordProxy ρ) : p.list.2.store.root = p.store.root := by
  unfold list
  split <;> rfl

omit [Identified ρ] in
/-- A write that the gate accepts goes to the store and then to the cache. -/
theorem update_of_accepting {p : RecordProxy ρ} (h : p.store.accepting = true)
    (id : DeployableId) (a : ρ) :
    p.update id a =
      ({ store := { p.store with root := SortedMap.insert p.store.root id a }
         cache := p.cache.set id (some a) }, true) := by
  simp [update, Gated.write, h]

omit [Identified ρ] in
/-- A deletion that the gate accepts goes to the store and then to the cache. -/
theorem delete_of_accepting {p : RecordProxy ρ} (h : p.store.accepting = true)
    (id : DeployableId) :
    p.delete id =
      ({ store := { p.store with root := SortedMap.erase p.store.root id }
         cache := p.cache.set id none }, true) := by
  simp [delete, Gated.write, h]

omit [Identified ρ] in
/-- A write that the gate refuses changes nothing. -/
theorem update_of_refusing {p : RecordProxy ρ} (h : p.store.accepting = false)
    (id : DeployableId) (a : ρ) : p.update id a = (p, false) := by
  simp [update, Gated.write, h]

omit [Identified ρ] in
/-- A deletion that the gate refuses changes nothing. -/
theorem delete_of_refusing {p : RecordProxy ρ} (h : p.store.accepting = false)
    (id : DeployableId) : p.delete id = (p, false) := by
  simp [delete, Gated.write, h]

omit [Identified ρ] in
/-- A write is answered by the gate, and reaches the store when the gate accepts it. -/
theorem update_spec (p : RecordProxy ρ) (id : DeployableId) (a : ρ) :
    (p.update id a).2 = p.store.accepting ∧
      (p.update id a).1.store.root =
        if p.store.accepting then SortedMap.insert p.store.root id a else p.store.root := by
  cases hgate : p.store.accepting with
  | true => simp [update_of_accepting hgate]
  | false => simp [update_of_refusing hgate]

omit [Identified ρ] in
/-- So is a deletion. -/
theorem delete_spec (p : RecordProxy ρ) (id : DeployableId) :
    (p.delete id).2 = p.store.accepting ∧
      (p.delete id).1.store.root =
        if p.store.accepting then SortedMap.erase p.store.root id else p.store.root := by
  cases hgate : p.store.accepting with
  | true => simp [delete_of_accepting hgate]
  | false => simp [delete_of_refusing hgate]

/-! ## Coherence -/

/-- Every remembered answer is the store's, and a complete cache remembers every record. -/
structure Coherent (p : RecordProxy ρ) : Prop where
  known : ∀ id answer, p.cache.known.find? id = some answer → answer = p.store.root.find? id
  complete : p.cache.complete = true → ∀ id a, p.store.root.find? id = some a →
    p.cache.known.find? id = some (some a)

omit [Identified ρ] in
/-- An empty cache is coherent with every store. -/
theorem coherent_purge (p : RecordProxy ρ) : p.purge.Coherent where
  known id answer h := by cases h
  complete h := by cases h

omit [Identified ρ] in
/-- Where the answer for an identifier is known, it is the store's. -/
theorem Coherent.get_eq {p : RecordProxy ρ} (h : p.Coherent) {id : DeployableId}
    (hknows : p.cache.knows id = true) : p.cache.get id = p.store.root.find? id := by
  unfold RecordCache.get
  cases hfind : p.cache.known.find? id with
  | some answer =>
      rw [Option.join_some]
      exact h.known id answer hfind
  | none =>
      have hcomplete : p.cache.complete = true := by
        simpa [RecordCache.knows, SortedMap.contains, hfind] using hknows
      cases hroot : p.store.root.find? id with
      | none => rfl
      | some a =>
          have hthere := h.complete hcomplete id a hroot
          rw [hfind] at hthere
          cases hthere

omit [Identified ρ] in
/-- A complete coherent cache holds the same records as the store. -/
theorem Coherent.present_eq {p : RecordProxy ρ} (h : p.Coherent)
    (hcomplete : p.cache.complete = true) : p.cache.known.present = p.store.root := by
  apply SortedMap.ext_find?
  intro id
  rw [SortedMap.find?_present]
  exact h.get_eq (by simp [RecordCache.knows, hcomplete])

/-- A complete coherent cache lists what the store lists, in its order. -/
theorem values_eq_list {p : RecordProxy ρ} (h : p.Coherent) (hroot : p.store.root.Keyed)
    (hcomplete : p.cache.complete = true) : p.cache.values = p.store.root.list := by
  calc
    p.cache.values = p.cache.known.present.values := (SortedMap.values_present _).symm
    _ = p.store.root.values := by rw [h.present_eq hcomplete]
    _ = p.store.root.list := hroot.list_eq_values.symm

/-- A cache filled from the listing of a store remembers exactly its records. -/
theorem known_fill {r : Records ρ} (h : r.Keyed) :
    (RecordCache.fill r.list).known = SortedMap.mapValues r (fun _ a => some a) := by
  rw [h.list_eq_values]
  exact SortedMap.foldl_insert_values r Identified.ownId some h

/-- A cache filled from the listing of a store is coherent with it. -/
theorem coherent_fill (store : Gated (Records ρ)) (h : store.root.Keyed) :
    Coherent { store := store, cache := RecordCache.fill store.root.list } where
  known id answer hfind := by
    simp only [known_fill h, SortedMap.find?_mapValues, Option.map_eq_some_iff] at hfind
    obtain ⟨a, ha, rfl⟩ := hfind
    exact ha.symm
  complete _ id a ha := by
    simp [known_fill h, SortedMap.find?_mapValues, ha]

omit [Identified ρ] in
/-- What cache and store say of one identifier may change together. -/
theorem Coherent.set {p : RecordProxy ρ} (h : p.Coherent) {store : Gated (Records ρ)}
    {id : DeployableId} {answer : Option ρ} (hself : store.root.find? id = answer)
    (hother : ∀ id', id' ≠ id → store.root.find? id' = p.store.root.find? id') :
    Coherent { store := store, cache := p.cache.set id answer } where
  known id' answer' hfind := by
    simp only [RecordCache.set] at hfind
    by_cases hid : id' = id
    · subst hid
      rw [SortedMap.find?_insert_self] at hfind
      cases hfind
      exact hself.symm
    · rw [SortedMap.find?_insert_of_ne _ _ hid] at hfind
      rw [hother id' hid]
      exact h.known id' answer' hfind
  complete hcomplete id' a ha := by
    simp only [RecordCache.set]
    by_cases hid : id' = id
    · subst hid
      rw [SortedMap.find?_insert_self, ← hself, ha]
    · rw [SortedMap.find?_insert_of_ne _ _ hid]
      exact h.complete hcomplete id' a (by rw [← hother id' hid, ha])

omit [Identified ρ] in
/-- A look-up keeps cache and store coherent. -/
theorem coherent_get {p : RecordProxy ρ} (h : p.Coherent) (id : DeployableId) :
    (p.get id).2.Coherent := by
  unfold get
  split
  · exact h
  · exact h.set rfl fun _ _ => rfl

/-- A listing keeps cache and store coherent. -/
theorem coherent_list {p : RecordProxy ρ} (h : p.Coherent) (hroot : p.store.root.Keyed) :
    p.list.2.Coherent := by
  unfold list
  split
  · exact h
  · exact coherent_fill (p.store.read Records.list).2 hroot

omit [Identified ρ] in
/-- A write keeps cache and store coherent, accepted or not. -/
theorem coherent_update {p : RecordProxy ρ} (h : p.Coherent) (id : DeployableId) (a : ρ) :
    (p.update id a).1.Coherent := by
  cases hgate : p.store.accepting with
  | true =>
      rw [update_of_accepting hgate]
      refine h.set (SortedMap.find?_insert_self ..) fun id' hid => ?_
      exact SortedMap.find?_insert_of_ne _ _ hid
  | false =>
      rw [update_of_refusing hgate]
      exact h

omit [Identified ρ] in
/-- A deletion keeps cache and store coherent, accepted or not. -/
theorem coherent_delete {p : RecordProxy ρ} (h : p.Coherent) (id : DeployableId) :
    (p.delete id).1.Coherent := by
  cases hgate : p.store.accepting with
  | true =>
      rw [delete_of_accepting hgate]
      refine h.set (SortedMap.find?_erase_self ..) fun id' hid => ?_
      exact SortedMap.find?_erase_of_ne _ hid
  | false =>
      rw [delete_of_refusing hgate]
      exact h

/-- Every request keeps records under their own identifiers. -/
theorem keyed_request (p : RecordProxy ρ) (op : RecordRequest ρ) (hop : op.Keyed)
    (h : p.store.root.Keyed) : (CachingProxy.request p op).store.root.Keyed := by
  cases op with
  | get id =>
      show (p.get id).2.store.root.Keyed
      rw [root_get]
      exact h
  | list =>
      show p.list.2.store.root.Keyed
      rw [root_list]
      exact h
  | update id a =>
      show (p.update id a).1.store.root.Keyed
      rw [(p.update_spec id a).2]
      split
      · exact SortedMap.KeyedBy.insert h hop
      · exact h
  | delete id =>
      show (p.delete id).1.store.root.Keyed
      rw [(p.delete_spec id).2]
      split
      · exact SortedMap.KeyedBy.erase h id
      · exact h

/-- Every request keeps cache and store coherent. -/
theorem laws : Observed.Laws (P := RecordProxy ρ) RecordRequest.Keyed Records.Keyed Coherent where
  sound_request := keyed_request
  coherent_request p op _ hroot h := by
    cases op with
    | get id => exact coherent_get h id
    | list => exact coherent_list h hroot
    | update id a => exact coherent_update h id a
    | delete id => exact coherent_delete h id
  root_withRoot _ _ := rfl
  root_withGate _ _ := rfl
  coherent_withGate _ _ h := ⟨h.known, h.complete⟩
  root_purge _ := rfl
  coherent_purge := coherent_purge

/-! ## Answers -/

omit [Identified ρ] in
/-- A coherent proxy answers a look-up as the store does. -/
theorem Coherent.get_fst {p : RecordProxy ρ} (h : p.Coherent) (id : DeployableId) :
    (p.get id).1 = p.store.root.find? id := by
  unfold get
  split <;> rename_i hknows
  · exact h.get_eq hknows
  · simp [RecordCache.get, RecordCache.set]

/-- A coherent proxy lists what the store lists. -/
theorem Coherent.list_fst {p : RecordProxy ρ} (h : p.Coherent) (hroot : p.store.root.Keyed) :
    p.list.1 = p.store.root.list := by
  unfold list
  split <;> rename_i hcomplete
  · exact values_eq_list h hroot hcomplete
  · exact values_eq_list (coherent_fill (p.store.read Records.list).2 hroot) hroot rfl

/-- Take any history of a record proxy in which records are filed under the identifiers that they
carry.  As long as the cache is fresh, every look-up and every listing is answered as the store
would answer it, and leaves the store alone.  Writes and deletions are answered by the gate: one
that it accepts reaches the store, one that it refuses changes neither store nor cache. -/
theorem record_answers_after_history (leader : Bool) (store : Gated (Records ρ))
    (history : List (StoreEvent (RecordRequest ρ) (Records ρ))) (hroot : store.root.Keyed)
    (hhistory : ∀ e ∈ history, e.Meets RecordRequest.Keyed Records.Keyed) :
    let s : Observed (RecordProxy ρ) := Observed.start leader { store := store }
    let p : RecordProxy ρ := (s.run history).proxy
    (s.isFresh true history = true →
      (∀ id, (p.get id).1 = p.store.root.find? id) ∧ p.list.1 = p.store.root.list) ∧
    (∀ id, (p.get id).2.store.root = p.store.root) ∧
    p.list.2.store.root = p.store.root ∧
    (∀ id a, (p.update id a).2 = p.store.accepting ∧
      (p.update id a).1.store.root =
        if p.store.accepting then SortedMap.insert p.store.root id a else p.store.root) ∧
    (∀ id, (p.delete id).2 = p.store.accepting ∧
      (p.delete id).1.store.root =
        if p.store.accepting then SortedMap.erase p.store.root id else p.store.root) ∧
    (p.store.accepting = false →
      (∀ id a, p.update id a = (p, false)) ∧ ∀ id, p.delete id = (p, false)) := by
  intro s p
  have hempty : Coherent ({ store := store } : RecordProxy ρ) := coherent_purge { store := store }
  obtain ⟨hkeyed, hcoherent⟩ := Observed.start_sound_coherent laws leader hroot hempty hhistory
  refine ⟨fun hfresh => ⟨(hcoherent hfresh).get_fst, (hcoherent hfresh).list_fst hkeyed⟩,
    root_get p, root_list p, p.update_spec, p.delete_spec, fun hgate => ?_⟩
  exact ⟨update_of_refusing hgate, delete_of_refusing hgate⟩

/-- An application is written and listed, a deletion is refused, and the flag flips.  The proxy goes
on to answer as its store, which still has the application. -/
theorem record_answers_after_refused_deletion :
    let shop : ApplicationRecord :=
      .ofSpec .epoch { name := "SHOP", version := "1", executable := { image := "shop" } } 2
    let history : List (StoreEvent (RecordRequest ApplicationRecord) (Records ApplicationRecord)) :=
      [.request (.update shop.appId shop), .request .list, .gate false,
        .request (.delete shop.appId), .lead true]
    let s : Observed (RecordProxy ApplicationRecord) :=
      Observed.start false { store := { root := ∅ } }
    let p : RecordProxy ApplicationRecord := (s.run history).proxy
    (p.get shop.appId).1 = some shop ∧ p.list.1 = p.store.root.list := by
  intro shop history s p
  have hroot : Records.Keyed (∅ : Records ApplicationRecord) := by
    intro id a h
    cases h
  have hhistory : ∀ e ∈ history, e.Meets RecordRequest.Keyed Records.Keyed := by
    simp [history, StoreEvent.Meets, RecordRequest.Keyed, Identified.ownId]
  obtain ⟨hget, hlist⟩ :=
    (record_answers_after_history false { root := ∅ } history hroot hhistory).1 rfl
  refine ⟨?_, hlist⟩
  rw [hget]
  exact SortedMap.find?_insert_self ..

end RecordProxy
end Orchestration
