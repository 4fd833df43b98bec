import Orchestration.Proofs.Collection.Lookup
import Orchestration.Store.Groups

/-!
# Groups and their copies

A cache of grouped records holds some of the groups of its store, each of them whole.  Whatever the
store does to a group it has to do to the copy as well, or forget the copy, or take it anew from the
store.  The copy of a group that was never taken is not there, and a write must not make one.

Main results:

- `Groups.KeyedBy.put`, `remove`, `removeGroup`, `retain`: records stay under the keys that they
  tell.
- `Groups.Reflects.replace`: a group that is taken from the store is the group of the store.
- `Groups.Reflects.put`, `remove`, `removeGroup`, `retain`: what is done to both keeps the copies
  true.
-/

namespace Orchestration
namespace Groups

variable {γ κ ρ : Type} [Ord γ] [Ord κ] [Std.TransOrd γ] [Std.LawfulEqOrd γ]
variable [Std.TransOrd κ] [Std.LawfulEqOrd κ]

/-! ## Groups after an operation -/

omit [Std.TransOrd κ] [Std.LawfulEqOrd κ] in
/-- A removal leaves the groups of other owners alone. -/
theorem group_remove_of_ne (g : Groups γ κ ρ) {owner owner' : γ} (key : κ) (h : owner ≠ owner') :
    (g.remove owner' key).group owner = g.group owner := by
  rw [group, find?_remove_of_ne g key h, group]

omit [Std.TransOrd γ] [Std.TransOrd κ] [Std.LawfulEqOrd κ] in
/-- An owner that was removed has no records. -/
theorem group_removeGroup_self (g : Groups γ κ ρ) (owner : γ) :
    (g.removeGroup owner).group owner = ∅ := by
  simp [group, removeGroup]

omit [Std.TransOrd γ] [Std.TransOrd κ] [Std.LawfulEqOrd κ] in
/-- The removal of an owner leaves the groups of others alone. -/
theorem group_removeGroup_of_ne (g : Groups γ κ ρ) {owner owner' : γ} (h : owner ≠ owner') :
    (g.removeGroup owner').group owner = g.group owner := by
  rw [group, removeGroup, SortedMap.find?_erase_of_ne g h, group]

omit [Std.TransOrd γ] [Std.TransOrd κ] [Std.LawfulEqOrd κ] in
/-- The records that stay in a group are those that pass the test. -/
theorem group_retain (g : Groups γ κ ρ) (keep : ρ → Bool) (owner : γ) :
    (g.retain keep).group owner = (g.group owner).filter (fun _ r => keep r) := by
  rw [group, retain, SortedMap.find?_mapValues, group]
  cases g.find? owner <;> rfl

omit [Std.TransOrd γ] [Std.TransOrd κ] in
/-- A record is still there exactly when it passes the test. -/
theorem get_retain (g : Groups γ κ ρ) (keep : ρ → Bool) (owner : γ) (key : κ) :
    (g.retain keep).get owner key = (g.get owner key).filter keep := by
  rw [get, group_retain, SortedMap.find?_filter, get]

/-- A write leaves other keys alone. -/
theorem get_put_of_ne (g : Groups γ κ ρ) {owner owner' : γ} {key key' : κ} (r : ρ)
    (h : ¬ (owner = owner' ∧ key = key')) :
    (g.put owner' key' r).get owner key = g.get owner key := by
  by_cases howner : owner = owner'
  · have hkey : key ≠ key' := fun hkey => h ⟨howner, hkey⟩
    rw [howner, put, get, group_insert_self, SortedMap.find?_insert_of_ne _ _ hkey, get]
  · exact get_put_of_ne_owner g key key' r howner

omit [Std.TransOrd κ] in
/-- A removal leaves other keys alone. -/
theorem get_remove_of_ne (g : Groups γ κ ρ) {owner owner' : γ} {key key' : κ}
    (h : ¬ (owner = owner' ∧ key = key')) :
    (g.remove owner' key').get owner key = g.get owner key := by
  by_cases howner : owner = owner'
  · have hkey : key ≠ key' := fun hkey => h ⟨howner, hkey⟩
    rw [howner, get, group_remove_self, SortedMap.find?_erase_of_ne _ hkey, get]
  · rw [get, group_remove_of_ne g key' howner, get]

/-! ## Records under the keys that they tell -/

omit [Std.TransOrd γ] [Std.LawfulEqOrd γ] [Std.TransOrd κ] [Std.LawfulEqOrd κ] in
/-- Every record is kept under the key that it tells. -/
def KeyedBy (keyOf : ρ → κ) (g : Groups γ κ ρ) : Prop :=
  ∀ owner, SortedMap.KeyedBy keyOf (g.group owner)

section KeyedBy

variable {keyOf : ρ → κ} {g : Groups γ κ ρ}

omit [Std.TransOrd γ] [Std.LawfulEqOrd γ] [Std.TransOrd κ] [Std.LawfulEqOrd κ] in
/-- Without groups nothing is held under a wrong key. -/
theorem KeyedBy.empty (keyOf : ρ → κ) : KeyedBy keyOf (∅ : Groups γ κ ρ) :=
  fun _ => SortedMap.KeyedBy.empty keyOf

omit [Std.TransOrd γ] [Std.LawfulEqOrd γ] [Std.TransOrd κ] [Std.LawfulEqOrd κ] in
/-- A change of one group keeps records under their own keys if that group does. -/
theorem KeyedBy.of_group {g' : Groups γ κ ρ} (h : g.KeyedBy keyOf) (owner : γ)
    (hself : SortedMap.KeyedBy keyOf (g'.group owner))
    (hother : ∀ owner', owner' ≠ owner → g'.group owner' = g.group owner') :
    g'.KeyedBy keyOf := by
  intro owner'
  by_cases howner : owner' = owner
  · subst howner
    exact hself
  · rw [hother owner' howner]
    exact h owner'

/-- A write under its own key. -/
theorem KeyedBy.put (h : g.KeyedBy keyOf) (owner : γ) {key : κ} {r : ρ} (hr : keyOf r = key) :
    KeyedBy keyOf (g.put owner key r) := by
  refine h.of_group owner ?_ fun owner' howner => ?_
  · rw [Groups.put, group_insert_self]
    exact (h owner).insert hr
  · exact group_insert_of_ne g _ howner

omit [Std.TransOrd κ] in
/-- A record that is removed leaves the others under their keys. -/
theorem KeyedBy.remove (h : g.KeyedBy keyOf) (owner : γ) (key : κ) :
    KeyedBy keyOf (g.remove owner key) := by
  refine h.of_group owner ?_ fun owner' howner => group_remove_of_ne g key howner
  rw [group_remove_self]
  exact (h owner).erase key

omit [Std.TransOrd γ] [Std.TransOrd κ] [Std.LawfulEqOrd κ] in
/-- So does a group. -/
theorem KeyedBy.removeGroup (h : g.KeyedBy keyOf) (owner : γ) :
    KeyedBy keyOf (g.removeGroup owner) := by
  refine h.of_group owner ?_ fun owner' howner => group_removeGroup_of_ne g howner
  rw [group_removeGroup_self]
  exact SortedMap.KeyedBy.empty keyOf

omit [Std.TransOrd γ] [Std.TransOrd κ] in
/-- So do all records that are not kept. -/
theorem KeyedBy.retain (h : g.KeyedBy keyOf) (keep : ρ → Bool) :
    KeyedBy keyOf (g.retain keep) := by
  intro owner
  rw [group_retain]
  exact (h owner).filter _

end KeyedBy

/-! ## True copies -/

omit [Std.TransOrd γ] [Std.LawfulEqOrd γ] [Std.TransOrd κ] [Std.LawfulEqOrd κ] in
/-- Every group that is copied is the group of the store. -/
def Reflects (copy store : Groups γ κ ρ) : Prop :=
  ∀ owner records, copy.find? owner = some records → records = store.group owner

section Reflects

variable {copy store : Groups γ κ ρ}

omit [Std.TransOrd γ] [Std.LawfulEqOrd γ] [Std.TransOrd κ] [Std.LawfulEqOrd κ] in
/-- An empty cache knows of no group, so that it is wrong about none. -/
theorem reflects_empty (store : Groups γ κ ρ) : Reflects ∅ store := by
  intro owner records h
  cases h

omit [Std.TransOrd γ] [Std.LawfulEqOrd γ] [Std.TransOrd κ] [Std.LawfulEqOrd κ] in
/-- A group that is there is the group of the store. -/
theorem Reflects.group_eq (h : Reflects copy store) {owner : γ}
    (hthere : copy.contains owner = true) : copy.group owner = store.group owner := by
  obtain ⟨records, hfind⟩ := Option.isSome_iff_exists.1 hthere
  rw [group, hfind]
  exact h owner records hfind

omit [Std.TransOrd γ] [Std.LawfulEqOrd γ] [Std.TransOrd κ] [Std.LawfulEqOrd κ] in
/-- Copy and store may change the group of one owner together. -/
theorem Reflects.change {copy' store' : Groups γ κ ρ} (h : Reflects copy store) (owner : γ)
    (hself : ∀ records, copy'.find? owner = some records → records = store'.group owner)
    (hcopy : ∀ owner', owner' ≠ owner → copy'.find? owner' = copy.find? owner')
    (hstore : ∀ owner', owner' ≠ owner → store'.group owner' = store.group owner') :
    Reflects copy' store' := by
  intro owner' records hfind
  by_cases howner : owner' = owner
  · subst howner
    exact hself records hfind
  · rw [hcopy owner' howner] at hfind
    rw [hstore owner' howner]
    exact h owner' records hfind

/-- A group that is put together from the listing of the store is the group of the store.  That
makes up for any change that the store made to it. -/
theorem Reflects.replace {store' : Groups γ κ ρ} (h : Reflects copy store) {owner : γ}
    {keyOf : ρ → κ} (hkeyed : SortedMap.KeyedBy keyOf (store'.group owner))
    (hstore : ∀ owner', owner' ≠ owner → store'.group owner' = store.group owner') :
    Reflects (copy.replace owner keyOf (store'.group owner).values) store' := by
  refine h.change owner ?_ (fun owner' howner => SortedMap.find?_insert_of_ne copy _ howner) hstore
  intro records hfind
  rw [Groups.replace, SortedMap.find?_insert_self] at hfind
  cases hfind
  exact hkeyed.rebuild

/-- A record that is written to both. -/
theorem Reflects.put (h : Reflects copy store) (owner : γ) (key : κ) (r : ρ) :
    Reflects (copy.putKnown owner key r) (store.put owner key r) := by
  unfold putKnown
  split <;> rename_i hthere
  · refine h.change owner ?_ (fun owner' howner => SortedMap.find?_insert_of_ne copy _ howner)
      fun owner' howner => group_insert_of_ne store _ howner
    intro records hfind
    rw [Groups.put, SortedMap.find?_insert_self] at hfind
    cases hfind
    rw [Groups.put, group_insert_self, h.group_eq hthere]
  · -- The group was never taken: there is no copy that could be wrong.
    refine h.change owner ?_ (fun _ _ => rfl)
      fun owner' howner => group_insert_of_ne store _ howner
    intro records hfind
    exact absurd (Option.isSome_of_eq_some hfind) hthere

omit [Std.TransOrd κ] [Std.LawfulEqOrd κ] in
/-- A record that is removed from both. -/
theorem Reflects.remove (h : Reflects copy store) (owner : γ) (key : κ) :
    Reflects (copy.remove owner key) (store.remove owner key) := by
  refine h.change owner ?_ (fun owner' howner => find?_remove_of_ne copy key howner)
    fun owner' howner => group_remove_of_ne store key howner
  intro records hfind
  rw [group_remove_self]
  cases hcopy : copy.find? owner with
  | some known =>
      rw [← h owner known hcopy]
      simp only [Groups.remove, hcopy, SortedMap.find?_insert_self] at hfind
      cases hfind
      rfl
  | none =>
      simp only [Groups.remove, hcopy] at hfind
      cases hfind

omit [Std.TransOrd κ] [Std.LawfulEqOrd κ] in
/-- An owner who loses all records, in the copy as one who is known to have none. -/
theorem Reflects.removeGroup (h : Reflects copy store) (owner : γ) :
    Reflects (copy.insert owner ∅) (store.removeGroup owner) := by
  refine h.change owner ?_ (fun owner' howner => SortedMap.find?_insert_of_ne copy _ howner)
    fun owner' howner => group_removeGroup_of_ne store howner
  intro records hfind
  rw [SortedMap.find?_insert_self] at hfind
  cases hfind
  rw [group_removeGroup_self]

omit [Std.TransOrd γ] [Std.TransOrd κ] [Std.LawfulEqOrd κ] in
/-- Records that are dropped from both by one test. -/
theorem Reflects.retain (h : Reflects copy store) (keep : ρ → Bool) :
    Reflects (copy.retain keep) (store.retain keep) := by
  intro owner records hfind
  rw [Groups.retain, SortedMap.find?_mapValues, Option.map_eq_some_iff] at hfind
  obtain ⟨known, hknown, rfl⟩ := hfind
  rw [group_retain, h owner known hknown]

end Reflects

end Groups
end Orchestration
