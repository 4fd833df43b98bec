import Mathlib.Logic.Relation
import Orchestration.Proofs.Wire.Laws

/-!
# Readers that tolerate another schema

A document is eased by one of the edits that a change of schema makes: a field that nobody knows is
added to a record, or a field is left out whose value is the one that it has when it is missing.
Either may happen in a record that stands inside another value, at any depth.  A reader is tolerant
if it reads what is written, and if easing a document never changes what it reads from it.

Plain values have no fields, so that nothing can be eased in them; in a list and in an optional
value the values that are there are eased.

Main definitions:

- `Tolerant`: a reader that reads what is written, and the same from eased documents.

Main results:

- `Tolerant.decodeIn_of_eased`: a document reads the same after any number of edits.
-/

namespace Orchestration

/-- A reader that reads what is written, and that reads the same from an eased document. -/
class Tolerant (mode : ReadingMode) (α : Type) [Wire α] where
  /-- One edit of a document of a value that leaves it a document of that value. -/
  Eases : α → Json → Json → Prop
  decodeIn_encode (a : α) : decodeIn mode (encode a) = some a
  decodeIn_of_eases {a : α} {j j' : Json} (h : Eases a j j') (hj : decodeIn mode j = some a) :
    decodeIn mode j' = some a

export Tolerant (Eases)

/-- A type none of whose values is read from `null`. -/
class NeverNull (mode : ReadingMode) (α : Type) [Wire α] : Prop where
  decodeIn_null : decodeIn mode .null = (none : Option α)

variable {mode : ReadingMode} {α : Type}

/-- A document that was eased any number of times reads as the same value. -/
theorem Tolerant.decodeIn_of_eased [Wire α] [Tolerant mode α] {a : α} {j j' : Json}
    (h : Relation.ReflTransGen (Eases mode a) j j') (hj : decodeIn mode j = some a) :
    decodeIn mode j' = some a := by
  induction h with
  | refl => exact hj
  | tail _ h ih => exact Tolerant.decodeIn_of_eases h ih

/-! ## Plain values -/

/-- A value in whose document nothing can be eased. -/
abbrev Tolerant.plain [Wire α] [LawfulWire α] : Tolerant mode α where
  Eases _ _ _ := False
  decodeIn_encode a := LawfulWire.decodeIn_encode mode a
  decodeIn_of_eases h := h.elim

instance : Tolerant mode Bool := .plain

instance : Tolerant mode String := .plain

instance : Tolerant mode UInt16 := .plain

instance : Tolerant mode UInt32 := .plain

instance : Tolerant mode UInt64 := .plain

instance : Tolerant mode Int64 := .plain

instance : Tolerant mode DeployableId := .plain

instance : Tolerant mode InstanceId := .plain

instance : Tolerant mode ExecutorId := .plain

instance : Tolerant mode Uuid := .plain

instance : Tolerant mode Timestamp := .plain

/-- A member of an enumeration is written as a text. -/
instance (priority := low) [Named α] [LawfulNamed α] : Tolerant mode α := .plain

/-- In a set nothing is eased, whatever its items are. -/
instance [Ord α] [Std.TransOrd α] [Std.LawfulEqOrd α] [Wire α] [LawfulWire α] :
    Tolerant mode (SortedSet α) := .plain

/-- Nor is anything in a map. -/
instance [Wire α] [LawfulWire α] : Tolerant mode (SortedMap String α) := .plain

/-- A map with integer keys reads back from a document itself only. -/
instance [Wire α] [LawfulWire α] : Tolerant .direct (SortedMap UInt32 α) where
  Eases _ _ _ := False
  decodeIn_encode := Wire.decodeIn_direct_numbered
  decodeIn_of_eases h := h.elim

/-- A text is no `null`. -/
instance : NeverNull mode String := ⟨rfl⟩

/-- Nor is a number. -/
instance : NeverNull mode UInt64 := ⟨rfl⟩

/-! ## Lists -/

/-- One edit of a list: one of its items is eased. -/
inductive ItemEdit (mode : ReadingMode) [Wire α] [Tolerant mode α] (l : List α) :
    Json → Json → Prop where
  | item (before after : List Json) {a : α} (ha : l[before.length]? = some a) {j j' : Json}
      (h : Eases mode a j j') :
      ItemEdit mode l (.arr (before ++ j :: after)) (.arr (before ++ j' :: after))

/-- What was read from the item at a place stands at that place. -/
theorem getElem?_of_mapM {β : Type} {f : β → Option α} {items : List β} {l : List α}
    (h : items.mapM f = some l) (i : Nat) : l[i]? = items[i]?.bind f := by
  induction items generalizing l i with
  | nil =>
      cases h
      rfl
  | cons b items ih =>
      simp only [List.mapM_cons, Option.bind_eq_bind, Option.bind_eq_some_iff, Option.pure_def,
        Option.some.injEq] at h
      obtain ⟨a, hb, l, hl, rfl⟩ := h
      cases i with
      | zero => simp [hb]
      | succ i => simpa using ih hl i

/-- A list is read item by item, so that an eased item does not change what the others read as. -/
instance [Wire α] [Tolerant mode α] : Tolerant mode (List α) where
  Eases := ItemEdit mode
  decodeIn_encode l := Wire.decodeIn_encode_list fun a _ => Tolerant.decodeIn_encode a
  decodeIn_of_eases {l} _ _ h hj := by
    obtain @⟨before, after, a, ha, i, i', h⟩ := h
    have hold : decodeIn mode i = some a := by
      rw [getElem?_of_mapM hj] at ha
      simpa using ha
    have hsame : decodeIn (α := α) mode i' = decodeIn mode i :=
      (Tolerant.decodeIn_of_eases h hold).trans hold.symm
    show (before ++ i' :: after).mapM (decodeIn mode) = some l
    rw [List.mapM_append, List.mapM_cons, hsame, ← List.mapM_cons, ← List.mapM_append]
    exact hj

/-! ## Optional values -/

/-- Whatever is not `null` is read as a value that is there. -/
theorem decodeIn_option [Wire α] {j : Json} (h : j ≠ .null) :
    decodeIn (α := Option α) mode j = (decodeIn mode j).map some := by
  cases j with
  | null => contradiction
  | _ => rfl

/-- A value of such a type was not read from `null`. -/
theorem NeverNull.ne_null [Wire α] [NeverNull mode α] {j : Json} {a : α}
    (h : decodeIn mode j = some a) : j ≠ .null := by
  rintro rfl
  rw [NeverNull.decodeIn_null] at h
  cases h

/-- A document of a value that is there is no `null`. -/
theorem decodeIn_eq_some_some_iff [Wire α] [NeverNull mode α] {j : Json} {a : α} :
    decodeIn mode j = some (some a) ↔ decodeIn mode j = some a := by
  constructor
  · intro h
    by_cases hj : j = .null
    · subst hj
      cases h
    · rw [decodeIn_option hj, Option.map_eq_some_iff] at h
      obtain ⟨_, h, ⟨⟩⟩ := h
      exact h
  · intro h
    rw [decodeIn_option (NeverNull.ne_null h), h, Option.map_some]

/-- An optional value is eased where it is there; it must not be written as `null` then. -/
instance [Wire α] [Tolerant mode α] [NeverNull mode α] : Tolerant mode (Option α) where
  Eases
    | none, _, _ => False
    | some a, j, j' => Eases mode a j j'
  decodeIn_encode
    | none => rfl
    | some a => decodeIn_eq_some_some_iff.2 (Tolerant.decodeIn_encode a)
  decodeIn_of_eases {a?} _ _ h hj := by
    cases a? with
    | none => exact h.elim
    | some a =>
        rw [decodeIn_eq_some_some_iff] at hj ⊢
        exact Tolerant.decodeIn_of_eases h hj

end Orchestration
