import Orchestration.Collection.SortedMap

/-!
# Grouped records

Records that belong to an owner: the instances of a deployable, or the task runs of an
application.  The same shape serves the durable store and a cache; in a cache an owner with an
empty group is known to have no records.

Main results:

- `Groups.get_put_self`, `Groups.get_put_of_ne_owner`: look-up after a write.
-/

namespace Orchestration

/-- Records of type `ρ` by owner and key. -/
abbrev Groups (γ κ ρ : Type) [Ord γ] [Ord κ] : Type :=
  SortedMap γ (SortedMap κ ρ)

namespace Groups

variable {γ κ ρ : Type} [Ord γ] [Ord κ] [Std.TransOrd γ] [Std.LawfulEqOrd γ]
variable [Std.TransOrd κ] [Std.LawfulEqOrd κ]

/-- The records of an owner. -/
def group (g : Groups γ κ ρ) (owner : γ) : SortedMap κ ρ :=
  (g.find? owner).getD ∅

/-- The record of an owner under a key. -/
def get (g : Groups γ κ ρ) (owner : γ) (key : κ) : Option ρ :=
  (g.group owner).find? key

/-- Writes a record; a missing group is made. -/
def put (g : Groups γ κ ρ) (owner : γ) (key : κ) (r : ρ) : Groups γ κ ρ :=
  g.insert owner ((g.group owner).insert key r)

/-- Writes a record into a group that is there already. -/
def putKnown (g : Groups γ κ ρ) (owner : γ) (key : κ) (r : ρ) : Groups γ κ ρ :=
  if g.contains owner then g.put owner key r else g

/-- Removes a record; its group stays. -/
def remove (g : Groups γ κ ρ) (owner : γ) (key : κ) : Groups γ κ ρ :=
  match g.find? owner with
  | some records => g.insert owner (records.erase key)
  | none => g

/-- Removes an owner with all records. -/
def removeGroup (g : Groups γ κ ρ) (owner : γ) : Groups γ κ ρ :=
  g.erase owner

/-- Gives an owner exactly the listed records; of records with one key the last is kept. -/
def replace (g : Groups γ κ ρ) (owner : γ) (keyOf : ρ → κ) (rs : List ρ) : Groups γ κ ρ :=
  g.insert owner (rs.foldl (fun m r => m.insert (keyOf r) r) ∅)

/-- Keeps the records that pass a test, in every group. -/
def retain (g : Groups γ κ ρ) (keep : ρ → Bool) : Groups γ κ ρ :=
  g.mapValues (fun _ records => records.filter (fun _ r => keep r))

/-- The number of records of all owners. -/
def count (g : Groups γ κ ρ) : Nat :=
  g.values.foldl (fun n records => n + records.size) 0

omit [Std.TransOrd κ] [Std.LawfulEqOrd κ] in
theorem group_insert_self (g : Groups γ κ ρ) (owner : γ) (records : SortedMap κ ρ) :
    group (g.insert owner records) owner = records := by
  simp [group]

omit [Std.TransOrd κ] [Std.LawfulEqOrd κ] in
theorem group_insert_of_ne (g : Groups γ κ ρ) {owner owner₁ : γ} (records : SortedMap κ ρ)
    (h : owner ≠ owner₁) : group (g.insert owner₁ records) owner = g.group owner := by
  rw [group, SortedMap.find?_insert_of_ne _ _ h, group]

omit [Std.TransOrd κ] [Std.LawfulEqOrd κ] in
/-- A removal takes the record out of its group. -/
theorem group_remove_self (g : Groups γ κ ρ) (owner : γ) (key : κ) :
    (g.remove owner key).group owner = (g.group owner).erase key := by
  unfold remove
  cases hfind : g.find? owner with
  | some records => simp [group, hfind]
  | none =>
    rw [group, hfind]
    rfl

omit [Std.TransOrd κ] [Std.LawfulEqOrd κ] in
/-- A removal leaves other owners alone. -/
theorem find?_remove_of_ne (g : Groups γ κ ρ) {owner owner₁ : γ} (key : κ) (h : owner ≠ owner₁) :
    (g.remove owner₁ key).find? owner = g.find? owner := by
  unfold remove
  split
  · exact SortedMap.find?_insert_of_ne _ _ h
  · rfl

/-- A written record is there. -/
@[simp]
theorem get_put_self (g : Groups γ κ ρ) (owner : γ) (key : κ) (r : ρ) :
    (g.put owner key r).get owner key = some r := by
  rw [put, get, group_insert_self, SortedMap.find?_insert_self]

/-- A write leaves other owners alone. -/
theorem get_put_of_ne_owner (g : Groups γ κ ρ) {owner owner₁ : γ} (key key₁ : κ) (r : ρ)
    (h : owner ≠ owner₁) : (g.put owner₁ key₁ r).get owner key = g.get owner key := by
  simp only [put, get, group]
  rw [SortedMap.find?_insert_of_ne _ _ h]

end Groups
end Orchestration
