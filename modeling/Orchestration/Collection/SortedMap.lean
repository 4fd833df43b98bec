/-!
# Sorted maps

A finite map kept as the list of its entries in strictly increasing key order.  The order is a
field of the type, so two maps with the same entries are equal, listings come out in key order,
and a map can be rebuilt from its own listing.

Main results:

- `SortedMap.find?_insert_self`, `SortedMap.find?_insert_of_ne`: look-up after an insertion.
- `SortedMap.find?_erase_self`, `SortedMap.find?_erase_of_ne`: look-up after a removal.
- `SortedMap.find?_filter`: look-up after entries were dropped by a test.
- `SortedMap.ofList_entries`: a map is rebuilt from its own entries.
-/

namespace Orchestration

/-- A finite map from `α` to `β`, listed in strictly increasing key order. -/
structure SortedMap (α β : Type) [Ord α] where
  entries : List (α × β)
  sorted : entries.Pairwise (fun a b => compare a.1 b.1 = .lt)

namespace SortedMap

variable {α β γ : Type} [Ord α]

/-- Two maps with the same entries are the same. -/
@[ext]
theorem ext {m n : SortedMap α β} (h : m.entries = n.entries) : m = n := by
  cases m; cases n; cases h; rfl

/-- The map without entries. -/
def empty : SortedMap α β :=
  ⟨[], List.Pairwise.nil⟩

instance : Inhabited (SortedMap α β) :=
  ⟨empty⟩

instance : EmptyCollection (SortedMap α β) :=
  ⟨empty⟩

/-- The value at a key in a list of entries. -/
def lookup (k : α) : List (α × β) → Option β
  | [] => none
  | (k', v) :: rest => if compare k k' = .eq then some v else lookup k rest

/-- The value at a key. -/
def find? (m : SortedMap α β) (k : α) : Option β :=
  lookup k m.entries

/-- Whether a key has a value. -/
def contains (m : SortedMap α β) (k : α) : Bool :=
  (m.find? k).isSome

/-- The keys in increasing order. -/
def keys (m : SortedMap α β) : List α :=
  m.entries.map (·.1)

/-- The values in the order of their keys. -/
def values (m : SortedMap α β) : List β :=
  m.entries.map (·.2)

/-- The number of entries. -/
def size (m : SortedMap α β) : Nat :=
  m.entries.length

/-- Puts an entry in its place in a sorted list, over an entry of the same key if there is one. -/
def insertEntry (k : α) (v : β) : List (α × β) → List (α × β)
  | [] => [(k, v)]
  | (k', v') :: rest =>
    match compare k k' with
    | .lt => (k, v) :: (k', v') :: rest
    | .eq => (k, v) :: rest
    | .gt => (k', v') :: insertEntry k v rest

/-- Nothing but the new entry is added. -/
theorem mem_insertEntry {k : α} {v : β} {l : List (α × β)} {e : α × β}
    (h : e ∈ insertEntry k v l) : e = (k, v) ∨ e ∈ l := by
  induction l with
  | nil => simpa [insertEntry] using h
  | cons a rest ih =>
    obtain ⟨k', v'⟩ := a
    unfold insertEntry at h
    split at h
    · rcases List.mem_cons.1 h with h | h
      · exact Or.inl h
      · exact Or.inr h
    · rcases List.mem_cons.1 h with h | h
      · exact Or.inl h
      · exact Or.inr (List.mem_cons_of_mem _ h)
    · rcases List.mem_cons.1 h with h | h
      · exact Or.inr (h ▸ List.mem_cons_self ..)
      · rcases ih h with h | h
        · exact Or.inl h
        · exact Or.inr (List.mem_cons_of_mem _ h)

variable [Std.TransOrd α] [Std.LawfulEqOrd α]

/-- A new entry goes to its place in the order. -/
theorem pairwise_insertEntry (k : α) (v : β) {l : List (α × β)}
    (h : l.Pairwise (fun a b => compare a.1 b.1 = .lt)) :
    (insertEntry k v l).Pairwise (fun a b => compare a.1 b.1 = .lt) := by
  induction l with
  | nil => simp [insertEntry]
  | cons a rest ih =>
    obtain ⟨k', v'⟩ := a
    rw [List.pairwise_cons] at h
    unfold insertEntry
    split
    · rename_i hlt
      refine List.pairwise_cons.2 ⟨fun e he => ?_, List.pairwise_cons.2 h⟩
      rcases List.mem_cons.1 he with rfl | he
      · exact hlt
      · exact Std.TransCmp.lt_trans hlt (h.1 e he)
    · rename_i heq
      have hk : k = k' := Std.LawfulEqOrd.eq_of_compare heq
      exact List.pairwise_cons.2 ⟨fun e he => by subst hk; exact h.1 e he, h.2⟩
    · rename_i hgt
      refine List.pairwise_cons.2 ⟨fun e he => ?_, ih h.2⟩
      rcases mem_insertEntry he with rfl | he
      · exact Std.OrientedCmp.lt_of_gt hgt
      · exact h.1 e he

/-- Puts a value at a key. -/
def insert (m : SortedMap α β) (k : α) (v : β) : SortedMap α β :=
  ⟨insertEntry k v m.entries, pairwise_insertEntry k v m.sorted⟩

omit [Std.TransOrd α] [Std.LawfulEqOrd α] in
/-- Entries that are left out do not disturb the order. -/
theorem pairwise_filter (p : α × β → Bool) {l : List (α × β)}
    (h : l.Pairwise (fun a b => compare a.1 b.1 = .lt)) :
    (l.filter p).Pairwise (fun a b => compare a.1 b.1 = .lt) :=
  h.sublist List.filter_sublist

/-- Keeps the entries that pass a test. -/
def filter (m : SortedMap α β) (p : α → β → Bool) : SortedMap α β :=
  ⟨m.entries.filter (fun e => p e.1 e.2), pairwise_filter _ m.sorted⟩

/-- Removes the entry of a key. -/
def erase (m : SortedMap α β) (k : α) : SortedMap α β :=
  m.filter (fun k' _ => compare k k' != .eq)

/-- Applies a function to every value; the keys stay. -/
def mapValues (m : SortedMap α β) (f : α → β → γ) : SortedMap α γ :=
  ⟨m.entries.map (fun e => (e.1, f e.1 e.2)), by
    rw [List.pairwise_map]
    exact m.sorted⟩

/-- The map with the given entries; of entries with one key the first stays. -/
def ofList (l : List (α × β)) : SortedMap α β :=
  l.foldr (fun e m => m.insert e.1 e.2) empty

section Lemmas

omit [Std.TransOrd α] [Std.LawfulEqOrd α] in
/-- Nothing is found in an empty map. -/
@[simp]
theorem find?_empty (k : α) : (empty : SortedMap α β).find? k = none :=
  rfl

omit [Std.TransOrd α] in
/-- A new entry is found under its key. -/
theorem lookup_insertEntry_self (k : α) (v : β) (l : List (α × β)) :
    lookup k (insertEntry k v l) = some v := by
  induction l with
  | nil => simp [insertEntry, lookup, Std.ReflCmp.compare_self]
  | cons a rest ih =>
    obtain ⟨k', v'⟩ := a
    unfold insertEntry
    split
    · simp [lookup, Std.ReflCmp.compare_self]
    · simp [lookup, Std.ReflCmp.compare_self]
    · rename_i hgt
      simp [lookup, hgt, ih]

omit [Std.TransOrd α] in
/-- Other keys find what they found before. -/
theorem lookup_insertEntry_of_ne {k k₁ : α} (v : β) (l : List (α × β)) (h : k ≠ k₁) :
    lookup k (insertEntry k₁ v l) = lookup k l := by
  have hne : compare k k₁ ≠ .eq := fun he => h (Std.LawfulEqOrd.eq_of_compare he)
  induction l with
  | nil => simp [insertEntry, lookup, hne]
  | cons a rest ih =>
    obtain ⟨k', v'⟩ := a
    unfold insertEntry
    split
    · simp [lookup, hne]
    · rename_i heq
      have hk : k₁ = k' := Std.LawfulEqOrd.eq_of_compare heq
      subst hk
      simp [lookup, hne]
    · simp [lookup, ih]

/-- A value that was put under a key is found there. -/
@[simp]
theorem find?_insert_self (m : SortedMap α β) (k : α) (v : β) :
    (m.insert k v).find? k = some v :=
  lookup_insertEntry_self k v m.entries

/-- Under other keys there is what there was. -/
theorem find?_insert_of_ne (m : SortedMap α β) {k k₁ : α} (v : β) (h : k ≠ k₁) :
    (m.insert k₁ v).find? k = m.find? k :=
  lookup_insertEntry_of_ne v m.entries h

omit [Std.TransOrd α] [Std.LawfulEqOrd α] in
/-- A key below every listed key has no value. -/
theorem lookup_eq_none_of_lt {k : α} {l : List (α × β)}
    (h : ∀ e ∈ l, compare k e.1 = .lt) : lookup k l = none := by
  induction l with
  | nil => rfl
  | cons a rest ih =>
    obtain ⟨k', v'⟩ := a
    have hk : compare k k' = .lt := h (k', v') (by simp)
    simp [lookup, hk, ih (fun e he => h e (List.mem_cons_of_mem _ he))]

omit [Std.TransOrd α] in
/-- An entry is found unless it was left out. -/
theorem lookup_filter (p : α → β → Bool) (k : α) {l : List (α × β)}
    (h : l.Pairwise (fun a b => compare a.1 b.1 = .lt)) :
    lookup k (l.filter (fun e => p e.1 e.2)) = (lookup k l).filter (p k) := by
  induction l with
  | nil => rfl
  | cons a rest ih =>
    obtain ⟨k', v'⟩ := a
    rw [List.pairwise_cons] at h
    by_cases heq : compare k k' = .eq
    · have hk : k = k' := Std.LawfulEqOrd.eq_of_compare heq
      subst hk
      have hrest : lookup k rest = none := lookup_eq_none_of_lt h.1
      by_cases hp : p k v' = true
      · simp [lookup, hp, Option.filter]
      · simp [hp, ih h.2, hrest, lookup, Option.filter]
    · by_cases hp : p k' v' = true
      · simp [lookup, hp, heq, ih h.2]
      · simp [hp, ih h.2, lookup, heq]

omit [Std.TransOrd α] in
/-- Look-up after entries were dropped: the value stays when it passes the test. -/
theorem find?_filter (m : SortedMap α β) (p : α → β → Bool) (k : α) :
    (m.filter p).find? k = (m.find? k).filter (p k) :=
  lookup_filter p k m.sorted

omit [Std.TransOrd α] in
/-- Nothing is found under a key that was erased. -/
@[simp]
theorem find?_erase_self (m : SortedMap α β) (k : α) : (m.erase k).find? k = none := by
  rw [erase, find?_filter]
  cases m.find? k <;> simp [Option.filter, Std.ReflCmp.compare_self]

omit [Std.TransOrd α] in
/-- Under other keys there is what there was. -/
theorem find?_erase_of_ne (m : SortedMap α β) {k k₁ : α} (h : k ≠ k₁) :
    (m.erase k₁).find? k = m.find? k := by
  have hne : compare k₁ k ≠ .eq := fun he => h (Std.LawfulEqOrd.eq_of_compare he).symm
  rw [erase, find?_filter]
  cases m.find? k <;> simp [Option.filter, hne]

omit [Std.TransOrd α] [Std.LawfulEqOrd α] in
/-- An entry below every listed key goes to the front. -/
theorem insertEntry_of_lt {k : α} (v : β) {l : List (α × β)}
    (h : ∀ e ∈ l, compare k e.1 = .lt) : insertEntry k v l = (k, v) :: l := by
  cases l with
  | nil => rfl
  | cons a rest =>
    obtain ⟨k', v'⟩ := a
    have hk : compare k k' = .lt := h (k', v') (by simp)
    simp [insertEntry, hk]

/-- A map is rebuilt from its own entries. -/
theorem ofList_entries (m : SortedMap α β) : ofList m.entries = m := by
  obtain ⟨l, hl⟩ := m
  apply ext
  show (ofList l).entries = l
  induction l with
  | nil => rfl
  | cons a rest ih =>
    rw [List.pairwise_cons] at hl
    have hrest : (ofList rest).entries = rest := ih hl.2
    show insertEntry a.1 a.2 (ofList rest).entries = a :: rest
    rw [hrest, insertEntry_of_lt a.2 hl.1]

end Lemmas

end SortedMap

/-- A finite set, listed in strictly increasing order. -/
abbrev SortedSet (α : Type) [Ord α] : Type :=
  SortedMap α Unit

namespace SortedSet

variable {α : Type} [Ord α]

/-- The elements in increasing order. -/
abbrev toList (s : SortedSet α) : List α :=
  s.keys

variable [Std.TransOrd α] [Std.LawfulEqOrd α]

/-- The set of the elements of a list. -/
def ofList (l : List α) : SortedSet α :=
  SortedMap.ofList (l.map (fun a => (a, ())))

/-- A set is rebuilt from its own listing. -/
theorem ofList_toList (s : SortedSet α) : ofList s.toList = s := by
  have h : s.keys.map (fun a => (a, ())) = s.entries := by
    simp [SortedMap.keys, List.map_map, Function.comp_def]
  rw [ofList, toList, h, SortedMap.ofList_entries]

end SortedSet
end Orchestration
