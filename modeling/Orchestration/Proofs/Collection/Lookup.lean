import Mathlib.Data.List.Sort
import Orchestration.Collection.SortedMap

/-!
# Sorted maps through their look-ups

A sorted map is determined by what its look-ups answer.  This module turns that into equations
between maps and between their listings, so that a cache can be compared with the store that it was
filled from, one key at a time.

Main results:

- `SortedMap.ext_find?`: maps that answer every look-up alike are equal.
- `SortedMap.foldl_insert_values`: a map is rebuilt from its listing when every value tells its key.
- `SortedMap.KeyedBy.rebuild`: the same for a map that is kept so by insertions and removals.
- `SortedMap.values_present`: what is left of a listing when absent values are dropped.
- `SortedSet.pairwise_toList`, `SortedSet.mem_toList_ofList`: the listing of a set is sorted, and
  that of a set made from a list has its elements.
-/

namespace Orchestration
namespace SortedMap

variable {α β γ : Type} [Ord α] [Std.TransOrd α] [Std.LawfulEqOrd α]

/-! ## Entries and look-ups -/

omit [Std.TransOrd α] in
/-- In a sorted list the entries are exactly what look-ups find. -/
theorem mem_iff_lookup {l : List (α × β)} (h : l.Pairwise (fun a b => compare a.1 b.1 = .lt))
    (k : α) (v : β) : (k, v) ∈ l ↔ lookup k l = some v := by
  induction l with
  | nil => simp [lookup]
  | cons a rest ih =>
      obtain ⟨k', v'⟩ := a
      rw [List.pairwise_cons] at h
      by_cases heq : compare k k' = .eq
      · have hk : k = k' := Std.LawfulEqOrd.eq_of_compare heq
        subst hk
        have hrest : ∀ w, (k, w) ∉ rest := by
          intro w hw
          have hlt := h.1 (k, w) hw
          rw [heq] at hlt
          cases hlt
        simp [lookup, hrest, eq_comm]
      · have hne : k ≠ k' := by
          rintro rfl
          exact heq Std.ReflCmp.compare_self
        simp [lookup, heq, hne, ih h.2]

omit [Std.TransOrd α] in
/-- The entries of a map are what is found in it. -/
theorem mem_entries_iff (m : SortedMap α β) (k : α) (v : β) :
    (k, v) ∈ m.entries ↔ m.find? k = some v :=
  mem_iff_lookup m.sorted k v

omit [Std.TransOrd α] in
/-- The listing holds exactly the values that some look-up finds. -/
theorem mem_values_iff (m : SortedMap α β) (v : β) :
    v ∈ m.values ↔ ∃ k, m.find? k = some v := by
  simp [values, ← mem_entries_iff]

/-- No key comes before itself. -/
instance : Std.Irrefl (fun a b : α × β => compare a.1 b.1 = .lt) where
  irrefl a h := by
    have heq : compare a.1 a.1 = .eq := Std.ReflCmp.compare_self
    rw [h] at heq
    cases heq

/-- No two keys come before each other. -/
instance : Std.Antisymm (fun a b : α × β => compare a.1 b.1 = .lt) where
  antisymm a b hab hba := by
    have hgt : compare a.1 b.1 = .gt := Std.OrientedCmp.gt_of_lt hba
    rw [hab] at hgt
    cases hgt

/-- Maps that answer every look-up alike are equal. -/
theorem ext_find? {m n : SortedMap α β} (h : ∀ k, m.find? k = n.find? k) : m = n := by
  apply ext
  apply m.sorted.eq_of_mem_iff n.sorted
  rintro ⟨k, v⟩
  rw [mem_entries_iff, mem_entries_iff, h]

/-- An entry that is put in and taken out again leaves nothing behind. -/
theorem erase_insert_self {m : SortedMap α β} {k : α} (h : m.find? k = none) (v : β) :
    (m.insert k v).erase k = m := by
  apply ext_find?
  intro k'
  by_cases hk : k' = k
  · rw [hk, find?_erase_self, h]
  · rw [find?_erase_of_ne _ hk, find?_insert_of_ne _ _ hk]

/-- Of two values of a key the later one counts. -/
theorem insert_insert_self (m : SortedMap α β) (k : α) (v w : β) :
    (m.insert k v).insert k w = m.insert k w := by
  apply ext_find?
  intro k'
  by_cases hk : k' = k
  · rw [hk, find?_insert_self, find?_insert_self]
  · rw [find?_insert_of_ne _ _ hk, find?_insert_of_ne _ _ hk, find?_insert_of_ne _ _ hk]

/-! ## Listings -/

omit [Std.TransOrd α] in
/-- Values that are changed are found under their keys. -/
theorem lookup_map (f : α → β → γ) (k : α) (l : List (α × β)) :
    lookup k (l.map (fun e => (e.1, f e.1 e.2))) = (lookup k l).map (f k) := by
  induction l with
  | nil => rfl
  | cons a rest ih =>
      obtain ⟨k', v'⟩ := a
      by_cases heq : compare k k' = .eq
      · have hk : k = k' := Std.LawfulEqOrd.eq_of_compare heq
        subst hk
        simp [lookup]
      · simp [lookup, heq, ih]

omit [Std.TransOrd α] in
/-- Look-up after every value was changed. -/
theorem find?_mapValues (m : SortedMap α β) (f : α → β → γ) (k : α) :
    (m.mapValues f).find? k = (m.find? k).map (f k) :=
  lookup_map f k m.entries

/-- Look-up after the entries of a sorted list were put over a map. -/
theorem find?_foldl_insert (f : β → γ) (k : α) {l : List (α × β)}
    (h : l.Pairwise (fun a b => compare a.1 b.1 = .lt)) (m : SortedMap α γ) :
    (l.foldl (fun n e => n.insert e.1 (f e.2)) m).find? k =
      ((lookup k l).map f).or (m.find? k) := by
  induction l generalizing m with
  | nil => simp [lookup]
  | cons a rest ih =>
      obtain ⟨k', v'⟩ := a
      rw [List.pairwise_cons] at h
      rw [List.foldl_cons, ih h.2]
      by_cases heq : compare k k' = .eq
      · have hk : k = k' := Std.LawfulEqOrd.eq_of_compare heq
        subst hk
        have hrest : lookup k rest = none := lookup_eq_none_of_lt h.1
        simp [lookup, hrest]
      · have hne : k ≠ k' := by
          rintro rfl
          exact heq Std.ReflCmp.compare_self
        simp [lookup, heq, find?_insert_of_ne m (f v') hne]

/-- A map is rebuilt from its listing when every value tells the key that it is under. -/
theorem foldl_insert_values (m : SortedMap α β) (keyOf : β → α) (f : β → γ)
    (h : ∀ k v, m.find? k = some v → keyOf v = k) :
    m.values.foldl (fun (n : SortedMap α γ) v => n.insert (keyOf v) (f v)) ∅ =
      m.mapValues (fun _ v => f v) := by
  have hkeys : m.values.foldl (fun (n : SortedMap α γ) v => n.insert (keyOf v) (f v)) ∅ =
      m.entries.foldl (fun n e => n.insert e.1 (f e.2)) ∅ := by
    rw [values, List.foldl_map]
    apply List.foldl_ext
    rintro n ⟨k, v⟩ hmem
    rw [h k v ((mem_entries_iff m k v).1 hmem)]
  rw [hkeys]
  apply ext_find?
  intro k
  rw [find?_foldl_insert f k m.sorted, find?_mapValues]
  exact Option.or_none

/-- Every value is kept under the key that it tells. -/
def KeyedBy (keyOf : β → α) (m : SortedMap α β) : Prop :=
  ∀ k v, m.find? k = some v → keyOf v = k

section KeyedBy

variable {keyOf : β → α} {m : SortedMap α β}

omit [Std.TransOrd α] [Std.LawfulEqOrd α] in
/-- An empty map holds nothing under a wrong key. -/
theorem KeyedBy.empty (keyOf : β → α) : KeyedBy keyOf (∅ : SortedMap α β) := by
  intro k v h
  cases h

/-- A value that is put under its own key keeps the map keyed. -/
theorem KeyedBy.insert (h : m.KeyedBy keyOf) {k : α} {v : β} (hv : keyOf v = k) :
    KeyedBy keyOf (m.insert k v) := by
  intro k' v' hfind
  by_cases hk : k' = k
  · subst hk
    rw [find?_insert_self] at hfind
    cases hfind
    exact hv
  · rw [find?_insert_of_ne m v hk] at hfind
    exact h k' v' hfind

omit [Std.TransOrd α] in
/-- To leave values out keeps it keyed, too. -/
theorem KeyedBy.filter (h : m.KeyedBy keyOf) (p : α → β → Bool) :
    KeyedBy keyOf (m.filter p) := by
  intro k v hfind
  rw [find?_filter, Option.filter_eq_some_iff] at hfind
  exact h k v hfind.1

omit [Std.TransOrd α] in
/-- So does it to leave out a single one. -/
theorem KeyedBy.erase (h : m.KeyedBy keyOf) (k : α) : KeyedBy keyOf (m.erase k) :=
  h.filter _

omit [Std.TransOrd α] in
/-- Values may change as long as they go on telling their keys. -/
theorem KeyedBy.mapValues (h : m.KeyedBy keyOf) {f : α → β → β}
    (hf : ∀ k v, keyOf (f k v) = keyOf v) : KeyedBy keyOf (m.mapValues f) := by
  intro k v' hfind
  rw [find?_mapValues, Option.map_eq_some_iff] at hfind
  obtain ⟨v, hv, rfl⟩ := hfind
  rw [hf, h k v hv]

/-- A map is rebuilt from its own listing. -/
theorem KeyedBy.rebuild (h : m.KeyedBy keyOf) :
    m.values.foldl (fun (n : SortedMap α β) v => n.insert (keyOf v) v) ∅ = m := by
  rw [foldl_insert_values m keyOf (fun v => v) h]
  apply ext_find?
  intro k
  rw [find?_mapValues, Option.map_id']

end KeyedBy

/-- The values that are there, of a map that knows some keys to have none. -/
def present (m : SortedMap α (Option β)) : SortedMap α β :=
  ⟨m.entries.filterMap (fun e => e.2.map (e.1, ·)), by
    rw [List.pairwise_filterMap]
    refine m.sorted.imp ?_
    rintro ⟨k, v⟩ ⟨k', v'⟩ hlt e he e' he'
    simp only [Option.map_eq_some_iff] at he he'
    obtain ⟨_, _, rfl⟩ := he
    obtain ⟨_, _, rfl⟩ := he'
    exact hlt⟩

omit [Std.TransOrd α] [Std.LawfulEqOrd α] in
/-- What is left of a listing when absent values are dropped. -/
theorem values_present (m : SortedMap α (Option β)) : m.present.values = m.values.filterMap id := by
  simp only [values, present, List.map_filterMap, List.filterMap_map]
  congr 1
  funext e
  obtain ⟨_, v⟩ := e
  cases v <;> rfl

omit [Std.TransOrd α] in
/-- A key known to have no value has none. -/
theorem find?_present (m : SortedMap α (Option β)) (k : α) :
    m.present.find? k = (m.find? k).join := by
  apply Option.ext
  intro v
  rw [← mem_entries_iff, Option.join_eq_some_iff, ← mem_entries_iff]
  simp [present]

end SortedMap

namespace SortedSet

variable {α : Type} [Ord α]

/-- The listing of a set is sorted, without repetition. -/
theorem pairwise_toList (s : SortedSet α) : s.toList.Pairwise (fun a b => compare a b = .lt) := by
  rw [toList, SortedMap.keys, List.pairwise_map]
  exact s.sorted

variable [Std.TransOrd α] [Std.LawfulEqOrd α]

omit [Std.TransOrd α] in
/-- The elements of a set are the keys that it finds. -/
theorem mem_toList_iff (s : SortedSet α) (a : α) : a ∈ s.toList ↔ s.find? a = some () := by
  rw [← SortedMap.mem_entries_iff, toList, SortedMap.keys, List.mem_map]
  constructor
  · rintro ⟨⟨b, ⟨⟩⟩, hmem, rfl⟩
    exact hmem
  · intro hmem
    exact ⟨(a, ()), hmem, rfl⟩

/-- A set made from a list has the elements of the list. -/
theorem mem_toList_ofList {l : List α} {a : α} : a ∈ (ofList l).toList ↔ a ∈ l := by
  rw [mem_toList_iff]
  induction l with
  | nil => simp [ofList, SortedMap.ofList]
  | cons b rest ih =>
      show ((ofList rest).insert b ()).find? a = some () ↔ a ∈ b :: rest
      by_cases hab : a = b
      · simp [hab]
      · rw [SortedMap.find?_insert_of_ne _ _ hab, ih]
        simp [hab]

end SortedSet
end Orchestration
