import Mathlib.Data.List.Nodup
import Orchestration.Proofs.Wire.Tolerance

/-!
# Tolerant readers of records

Whether a record's reader is tolerant is a matter of its fields alone.  A `FieldSlot` is one field
with the value that some record has in it: how it reads, what it is written as, when it may be left
out, and how its document may be eased.  A type of records is described by the slots of its values,
and the laws of its reader follow.

Only a record that is given as an object has fields to add or to leave out; in one that is given
as the array of its fields, the items are eased.

Main definitions:

- `FieldSlot`, and its kinds `FieldSlot.required`, `FieldSlot.withDefault`, `FieldSlot.optional`.
- `FieldSlot.Edit`, `FieldSlot.TaggedEdit`: one edit of a record.
- `Record`, `TaggedRecord`: the slots of a type of records.
- `LawfulRecord`, `LawfulTaggedRecord`: records that are read and written as their slots say.

Main results:

- `FieldSlot.Reads.written`, `FieldSlot.TaggedReads.written`: a record reads back.
- `FieldSlot.Reads.edit`, `FieldSlot.TaggedReads.edit`: an edit does not change what is read.
-/

namespace Orchestration

/-! ## The fields of a record -/

/-- Where the fields of a document are found: by their names, or by their positions. -/
inductive Layout (names : List String) : Json → (String → Option Json) → Bool → Prop where
  | byName (fields : List (String × Json)) :
      Layout names (.obj fields) (fun n => Json.field? n fields) false
  | byPosition (items : List Json) (h : items.length ≤ names.length) :
      Layout names (.arr items) (fun n => Json.field? n (names.zip items)) true

/-- The fields of a record are found in its document by name or by position. -/
theorem Fields.of?_eq_some_iff {mode : ReadingMode} {names : List String} {j : Json} {f : Fields} :
    Fields.of? mode names j = some f ↔
      ∃ get positional, Layout names j get positional ∧ f = ⟨mode, get, positional⟩ := by
  constructor
  · intro h
    unfold Fields.of? at h
    split at h
    · exact ⟨_, _, .byName _, (Option.some.inj h).symm⟩
    · split at h
      · exact ⟨_, _, .byPosition _ ‹_›, (Option.some.inj h).symm⟩
      · cases h
    · cases h
  · rintro ⟨get, positional, hlayout, rfl⟩
    cases hlayout with
    | byName fields => rfl
    | byPosition items h => exact if_pos h

/-- One line of a reader, and the lines behind it. -/
theorem Fields.read_eq_some_iff {α β : Type} {x : Option α} {read : α → Option β} {b : β} :
    (x >>= read) = some b ↔ ∃ a, x = some a ∧ read a = some b :=
  Option.bind_eq_some_iff

/-- The reading of a record goes on from wherever its fields were found. -/
theorem Fields.of?_bind_eq_some_iff {mode : ReadingMode} {α : Type} {names : List String} {j : Json}
    {read : Fields → Option α} {a : α} :
    (Fields.of? mode names j >>= read) = some a ↔
      ∃ get positional, Layout names j get positional ∧ read ⟨mode, get, positional⟩ = some a := by
  simp only [read_eq_some_iff, Fields.of?_eq_some_iff]
  constructor
  · rintro ⟨_, ⟨get, positional, hlayout, rfl⟩, h⟩
    exact ⟨get, positional, hlayout, h⟩
  · rintro ⟨get, positional, hlayout, h⟩
    exact ⟨_, ⟨get, positional, hlayout, rfl⟩, h⟩

/-- One field of a record, with the value that the record has in it. -/
structure FieldSlot (mode : ReadingMode) where
  name : String
  /-- The document that the value is written as. -/
  written : Json
  /-- Whether the value is read from a document, or where there is none; the truth value tells
  whether the fields came by position. -/
  reads : Bool → Option Json → Prop
  /-- Whether the field may be left out. -/
  spare : Prop
  /-- One edit of a document of the value. -/
  eases : Json → Json → Prop
  reads_written : reads false (some written)
  reads_missing (h : spare) : reads false none
  reads_of_eases {positional : Bool} {j j' : Json} (h : eases j j')
    (hj : reads positional (some j)) : reads positional (some j')

namespace FieldSlot

variable {mode : ReadingMode} {α : Type} [Wire α]

/-- A field that has to be there. -/
def required [Tolerant mode α] (name : String) (a : α) : FieldSlot mode where
  name := name
  written := encode a
  reads positional doc? := Fields.required ⟨mode, fun _ => doc?, positional⟩ name = some a
  spare := False
  eases := Eases mode a
  reads_written := Tolerant.decodeIn_encode a
  reads_missing := False.elim
  reads_of_eases := Tolerant.decodeIn_of_eases

/-- A field that has a value of its own when it is missing. -/
def withDefault [Tolerant mode α] (name : String) (default a : α) : FieldSlot mode where
  name := name
  written := encode a
  reads positional doc? :=
    Fields.withDefault ⟨mode, fun _ => doc?, positional⟩ name default = some a
  spare := a = default
  eases := Eases mode a
  reads_written := Tolerant.decodeIn_encode a
  reads_missing h := congrArg some h.symm
  reads_of_eases := Tolerant.decodeIn_of_eases

/-- A field that may be missing from an object. -/
def optional [Tolerant mode (Option α)] (name : String) (a : Option α) : FieldSlot mode where
  name := name
  written := encode a
  reads positional doc? := Fields.optional ⟨mode, fun _ => doc?, positional⟩ name = some a
  spare := a = none
  eases := Eases mode a
  reads_written := Tolerant.decodeIn_encode a
  reads_missing h := congrArg some h.symm
  reads_of_eases := Tolerant.decodeIn_of_eases

@[simp]
theorem name_required [Tolerant mode α] (name : String) (a : α) :
    (required name a : FieldSlot mode).name = name :=
  rfl

@[simp]
theorem name_withDefault [Tolerant mode α] (name : String) (default a : α) :
    (withDefault name default a : FieldSlot mode).name = name :=
  rfl

@[simp]
theorem name_optional [Tolerant mode (Option α)] (name : String) (a : Option α) :
    (optional name a : FieldSlot mode).name = name :=
  rfl

section Reads

variable {name : String} {get : String → Option Json} {positional : Bool}

@[simp]
theorem reads_required [Tolerant mode α] {a : α} :
    (required name a : FieldSlot mode).reads positional (get name) ↔
      Fields.required ⟨mode, get, positional⟩ name = some a :=
  Iff.rfl

@[simp]
theorem reads_withDefault [Tolerant mode α] {default a : α} :
    (withDefault name default a : FieldSlot mode).reads positional (get name) ↔
      Fields.withDefault ⟨mode, get, positional⟩ name default = some a :=
  Iff.rfl

@[simp]
theorem reads_optional [Tolerant mode (Option α)] {a : Option α} :
    (optional name a : FieldSlot mode).reads positional (get name) ↔
      Fields.optional ⟨mode, get, positional⟩ name = some a :=
  Iff.rfl

end Reads

/-- The names of fields, in their order. -/
def names (slots : List (FieldSlot mode)) : List String :=
  slots.map (·.name)

/-- Fields as they are written. -/
def document (slots : List (FieldSlot mode)) : List (String × Json) :=
  slots.map (fun s => (s.name, s.written))

/-- Whether a document reads as the record with the given fields. -/
def Reads (slots : List (FieldSlot mode)) (j : Json) : Prop :=
  ∃ get positional, Layout (names slots) j get positional ∧
    ∀ s ∈ slots, s.reads positional (get s.name)

/-- A reader that finds its fields and reads each of them reads a record as its slots say. -/
theorem bind_eq_some_iff_reads {β : Type} {fieldNames : List String}
    {slots : List (FieldSlot mode)} {j : Json} {read : Fields → Option β} {b : β}
    (hnames : names slots = fieldNames)
    (h : ∀ get positional, read ⟨mode, get, positional⟩ = some b ↔
      ∀ s ∈ slots, s.reads positional (get s.name)) :
    (Fields.of? mode fieldNames j >>= read) = some b ↔ Reads slots j := by
  subst hnames
  simp only [Fields.of?_bind_eq_some_iff, Reads, h]

/-- A case without fields takes every document of a record. -/
theorem map_eq_some_iff_reads {β : Type} {j : Json} {b : β} :
    (Fields.of? mode [] j).map (fun _ => b) = some b ↔ Reads ([] : List (FieldSlot mode)) j := by
  rw [Option.map_eq_bind]
  exact bind_eq_some_iff_reads rfl fun _ _ => by simp

/-- One edit of a record with the given fields, where some further names are not free. -/
inductive Edit (reserved : List String) (slots : List (FieldSlot mode)) : Json → Json → Prop where
  /-- A field that nobody knows is added, anywhere among the others. -/
  | add (before after : List (String × Json)) {name : String} (j : Json)
      (hreserved : name ∉ reserved) (hname : name ∉ names slots) :
      Edit reserved slots (.obj (before ++ after)) (.obj (before ++ (name, j) :: after))
  /-- A field is left out that has the value of a missing one. -/
  | drop (fields : List (String × Json)) {s : FieldSlot mode} (hs : s ∈ slots) (hspare : s.spare) :
      Edit reserved slots (.obj fields) (.obj (fields.filter (fun f => f.1 ≠ s.name)))
  /-- The document of a field is eased. -/
  | inside (before after : List (String × Json)) {s : FieldSlot mode} (hs : s ∈ slots) {j j' : Json}
      (h : s.eases j j') :
      Edit reserved slots (.obj (before ++ (s.name, j) :: after))
        (.obj (before ++ (s.name, j') :: after))
  /-- The item of a field is eased, in a record that is given as an array. -/
  | item (before after : List Json) {s : FieldSlot mode} (hs : slots[before.length]? = some s)
      {j j' : Json} (h : s.eases j j') :
      Edit reserved slots (.arr (before ++ j :: after)) (.arr (before ++ j' :: after))

end FieldSlot

/-! ## Looking up a field in an edited record -/

namespace Json

/-- Among several fields of one name the first is seen. -/
theorem field?_append (n : String) (fs gs : List (String × Json)) :
    field? n (fs ++ gs) = (field? n fs).or (field? n gs) := by
  induction fs with
  | nil => rfl
  | cons f fs ih =>
      by_cases h : f.1 = n
      · simp [field?, h]
      · simp [field?, h, ih]

/-- A field of another name in between is not seen. -/
theorem field?_insert_of_ne {n name : String} (h : name ≠ n) (before after : List (String × Json))
    (j : Json) : field? n (before ++ (name, j) :: after) = field? n (before ++ after) := by
  rw [field?_append, field?_append, field?_cons_of_ne j after h]

/-- A field that was left out is not seen. -/
theorem field?_filter_self (n : String) (fs : List (String × Json)) :
    field? n (fs.filter (fun f => f.1 ≠ n)) = none := by
  induction fs with
  | nil => rfl
  | cons f fs ih =>
      by_cases h : f.1 = n
      · simpa [h] using ih
      · simpa [h, field?] using ih

/-- A field that was left out does not hide another one. -/
theorem field?_filter_of_ne {n name : String} (h : n ≠ name) (fs : List (String × Json)) :
    field? n (fs.filter (fun f => f.1 ≠ name)) = field? n fs := by
  induction fs with
  | nil => rfl
  | cons f fs ih =>
      by_cases hf : f.1 = name
      · rw [List.filter_cons_of_neg (by simpa using hf), ih, field?_cons_of_ne _ _ fun he =>
          h (he.symm.trans hf)]
      · rw [List.filter_cons_of_pos (by simpa using hf), field?, field?, ih]

/-- Where the document of a field is replaced, a look-up finds what it found before, or it finds
the new document in place of the old one. -/
theorem field?_replace (n name : String) (before after : List (String × Json)) (j j' : Json) :
    field? n (before ++ (name, j') :: after) = field? n (before ++ (name, j) :: after) ∨
      n = name ∧ field? n (before ++ (name, j) :: after) = some j ∧
        field? n (before ++ (name, j') :: after) = some j' := by
  by_cases h : name = n
  · subst h
    rw [field?_append, field?_append, field?_cons_self, field?_cons_self]
    cases field? name before with
    | none => exact .inr ⟨rfl, rfl, rfl⟩
    | some i => exact .inl rfl
  · exact .inl (by rw [field?_insert_of_ne h, field?_insert_of_ne h])

end Json

namespace FieldSlot

variable {mode : ReadingMode} {slots : List (FieldSlot mode)}

/-- In what is written of a record every field is seen, if their names are different. -/
theorem field?_document (hnodup : (names slots).Nodup) {s : FieldSlot mode} (hs : s ∈ slots) :
    Json.field? s.name (document slots) = some s.written := by
  induction slots with
  | nil => cases hs
  | cons t slots ih =>
      rw [names, List.map_cons, List.nodup_cons] at hnodup
      rcases List.mem_cons.1 hs with rfl | hs
      · exact Json.field?_cons_self _ _ _
      · have hne : t.name ≠ s.name := fun he =>
          hnodup.1 (List.mem_map.2 ⟨s, hs, he.symm⟩)
        rw [document, List.map_cons, Json.field?_cons_of_ne _ _ hne]
        exact ih hnodup.2 hs

/-- What is written of a record reads as the record. -/
theorem Reads.written (hnodup : (names slots).Nodup) : Reads slots (.obj (document slots)) := by
  refine ⟨_, _, .byName _, fun s hs => ?_⟩
  rw [field?_document hnodup hs]
  exact s.reads_written

/-- A field is told by its name. -/
theorem eq_of_name_eq (hnodup : (names slots).Nodup) {s t : FieldSlot mode} (hs : s ∈ slots)
    (ht : t ∈ slots) (h : t.name = s.name) : t = s :=
  List.inj_on_of_nodup_map hnodup ht hs h

/-- The fields of a record go on reading when the document of one of them is eased. -/
theorem reads_of_replace (hnodup : (names slots).Nodup) {s : FieldSlot mode} (hs : s ∈ slots)
    {j j' : Json} (h : s.eases j j') (before after : List (String × Json)) {positional : Bool}
    (hreads : ∀ t ∈ slots,
      t.reads positional (Json.field? t.name (before ++ (s.name, j) :: after))) :
    ∀ t ∈ slots, t.reads positional (Json.field? t.name (before ++ (s.name, j') :: after)) := by
  intro t ht
  have hread := hreads t ht
  rcases Json.field?_replace t.name s.name before after j j' with hsame | ⟨hname, hold, hnew⟩
  · rwa [hsame]
  · obtain rfl := eq_of_name_eq hnodup hs ht hname
    rw [hold] at hread
    rw [hnew]
    exact t.reads_of_eases h hread

/-- Names and items in pairs, split at one of the items. -/
theorem zip_split {ns : List String} {before : List Json} {name : String}
    (h : ns[before.length]? = some name) (j : Json) (after : List Json) :
    ns.zip (before ++ j :: after) = (ns.take before.length).zip before ++
      (name, j) :: (ns.drop (before.length + 1)).zip after := by
  induction before generalizing ns with
  | nil =>
      cases ns with
      | nil => cases h
      | cons n ns =>
          cases h
          rfl
  | cons k before ih =>
      cases ns with
      | nil => cases h
      | cons n ns =>
          rw [List.length_cons, List.getElem?_cons_succ] at h
          simp [ih h]

/-- An edit does not change what a record reads as. -/
theorem Reads.edit (hnodup : (names slots).Nodup) {reserved : List String} {j j' : Json}
    (h : Edit reserved slots j j') (hj : Reads slots j) : Reads slots j' := by
  obtain ⟨get, positional, hlayout, hreads⟩ := hj
  cases h with
  | @add before after name i hreserved hname =>
      cases hlayout
      refine ⟨_, _, .byName _, fun t ht => ?_⟩
      have hne : name ≠ t.name := fun he => hname (List.mem_map.2 ⟨t, ht, he.symm⟩)
      rw [Json.field?_insert_of_ne hne]
      exact hreads t ht
  | @drop fields s hs hspare =>
      cases hlayout
      refine ⟨_, _, .byName _, fun t ht => ?_⟩
      by_cases hname : t.name = s.name
      · obtain rfl := eq_of_name_eq hnodup hs ht hname
        rw [Json.field?_filter_self]
        exact t.reads_missing hspare
      · rw [Json.field?_filter_of_ne hname]
        exact hreads t ht
  | inside before after hs h =>
      cases hlayout
      exact ⟨_, _, .byName _, reads_of_replace hnodup hs h before after hreads⟩
  | @item before after s hs i i' h =>
      cases hlayout with
      | byPosition _ hlen =>
          have hname : (names slots)[before.length]? = some s.name := by
            rw [names, List.getElem?_map, hs, Option.map_some]
          refine ⟨_, _, .byPosition _ (by simpa using hlen), ?_⟩
          simp only [zip_split hname] at hreads ⊢
          exact reads_of_replace hnodup (List.mem_of_getElem? hs) h _ _ hreads

/-- A reserved name that is no field's keeps its document. -/
theorem Edit.field?_reserved {reserved : List String} {fields fields' : List (String × Json)}
    (h : Edit reserved slots (.obj fields) (.obj fields')) {n : String} (hn : n ∈ reserved)
    (hslot : n ∉ names slots) : Json.field? n fields' = Json.field? n fields := by
  cases h with
  | @add before after name i hreserved hname =>
      have hne : name ≠ n := fun he => hreserved (he.symm ▸ hn)
      exact Json.field?_insert_of_ne hne before after i
  | @drop fields s hs hspare =>
      exact Json.field?_filter_of_ne (fun he => hslot (List.mem_map.2 ⟨s, hs, he.symm⟩)) fields
  | @inside before after s hs i i' h =>
      have hne : s.name ≠ n := fun he => hslot (List.mem_map.2 ⟨s, hs, he⟩)
      rw [Json.field?_insert_of_ne hne, Json.field?_insert_of_ne hne]

/-- One edit of a tagged record with the given fields: its tag stays. -/
inductive TaggedEdit (slots : List (FieldSlot .buffered)) : Json → Json → Prop where
  | fields {fields fields' : List (String × Json)}
      (h : Edit ["type"] slots (.obj fields) (.obj fields')) :
      TaggedEdit slots (.obj fields) (.obj fields')
  | items (tag : Json) {items items' : List Json}
      (h : Edit ["type"] slots (.arr items) (.arr items')) :
      TaggedEdit slots (.arr (tag :: items)) (.arr (tag :: items'))

/-- Whether a document reads as the tagged record with the given tag and fields. -/
def TaggedReads (mode : ReadingMode) (caseNames : List String) (tag : String)
    (slots : List (FieldSlot .buffered)) (j : Json) : Prop :=
  ∃ body, j.tagged? mode caseNames = some (tag, body) ∧ Reads slots body

/-- A reader that takes the tag first reads a tagged record as the slots of its case say, if it
makes the value of no other case. -/
theorem tagged_bind_eq_some_iff {β : Type} {caseNames : List String}
    {read : String × Json → Option β} {tag : String} {slots : List (FieldSlot .buffered)} {b : β}
    {j : Json} (htag : ∀ t body, read (t, body) = some b → t = tag)
    (hcase : ∀ body, read (tag, body) = some b ↔ Reads slots body) :
    (j.tagged? mode caseNames >>= read) = some b ↔ TaggedReads mode caseNames tag slots j := by
  rw [Fields.read_eq_some_iff, Prod.exists]
  constructor
  · rintro ⟨t, body, htagged, hread⟩
    obtain rfl := htag t body hread
    exact ⟨body, htagged, (hcase body).1 hread⟩
  · rintro ⟨body, htagged, hbody⟩
    exact ⟨tag, body, htagged, (hcase body).2 hbody⟩

section Tagged

variable {caseNames : List String} {tag : String} {slots : List (FieldSlot .buffered)}

/-- What is written of a tagged record reads as the record. -/
theorem TaggedReads.written (hnodup : ("type" :: names slots).Nodup) :
    TaggedReads mode caseNames tag slots (.tagged tag (document slots)) := by
  rw [List.nodup_cons] at hnodup
  refine ⟨_, Json.tagged?_tagged mode caseNames tag _, _, _, .byName _, fun s hs => ?_⟩
  have hne : "type" ≠ s.name := fun he => hnodup.1 (List.mem_map.2 ⟨s, hs, he.symm⟩)
  rw [Json.field?_cons_of_ne _ _ hne, field?_document hnodup.2 hs]
  exact s.reads_written

/-- An edit does not change what a tagged record reads as. -/
theorem TaggedReads.edit (hnodup : ("type" :: names slots).Nodup) {j j' : Json}
    (h : TaggedEdit slots j j') (hj : TaggedReads mode caseNames tag slots j) :
    TaggedReads mode caseNames tag slots j' := by
  rw [List.nodup_cons] at hnodup
  obtain ⟨body, htag, hbody⟩ := hj
  cases h with
  | @fields fields fields' h =>
      have hsame := h.field?_reserved List.mem_cons_self hnodup.1
      simp only [Json.tagged?, Option.bind_eq_bind, Option.bind_eq_some_iff, Option.pure_def,
        Option.some.injEq, Prod.mk.injEq] at htag
      obtain ⟨i, hi, t, ht, rfl, rfl⟩ := htag
      refine ⟨.obj fields', ?_, hbody.edit hnodup.2 h⟩
      simp [Json.tagged?, hsame, hi, ht]
  | @items i items items' h =>
      simp only [Json.tagged?, Option.map_eq_some_iff, Prod.mk.injEq] at htag
      obtain ⟨t, ht, rfl, rfl⟩ := htag
      refine ⟨.arr items', ?_, hbody.edit hnodup.2 h⟩
      simp [Json.tagged?, ht]

end Tagged
end FieldSlot

/-! ## Types of records -/

/-- The slots of a type of records. -/
class Record (mode : ReadingMode) (α : Type) where
  slots : α → List (FieldSlot mode)

/-- The records of a type are written and read as their slots say. -/
class LawfulRecord (mode : ReadingMode) (α : Type) [Wire α] [Record mode α] : Prop where
  nodup_names (a : α) : (FieldSlot.names (Record.slots a : List (FieldSlot mode))).Nodup
  encode_eq (a : α) : encode a = .obj (FieldSlot.document (Record.slots a : List (FieldSlot mode)))
  decodeIn_eq_some_iff (j : Json) (a : α) :
    decodeIn mode j = some a ↔ FieldSlot.Reads (Record.slots a : List (FieldSlot mode)) j

/-- The cases of a type of tagged records, and the slots of each.  What is in the fields is read
from inside the tagged record. -/
class TaggedRecord (α : Type) where
  caseNames : List String
  tag : α → String
  slots : α → List (FieldSlot .buffered)

/-- The tagged records of a type are written and read as the slots of their cases say. -/
class LawfulTaggedRecord (α : Type) [Wire α] [TaggedRecord α] : Prop where
  nodup_names (a : α) : ("type" :: FieldSlot.names (TaggedRecord.slots a)).Nodup
  encode_eq (a : α) :
    encode a = .tagged (TaggedRecord.tag a) (FieldSlot.document (TaggedRecord.slots a))
  decodeIn_eq_some_iff (mode : ReadingMode) (j : Json) (a : α) :
    decodeIn mode j = some a ↔
      FieldSlot.TaggedReads mode (TaggedRecord.caseNames α) (TaggedRecord.tag a)
        (TaggedRecord.slots a) j

variable {mode : ReadingMode} {α : Type} [Wire α]

/-- Records that are read as their slots say are read tolerantly. -/
instance [Record mode α] [LawfulRecord mode α] : Tolerant mode α where
  Eases a := FieldSlot.Edit [] (Record.slots a : List (FieldSlot mode))
  decodeIn_encode a := by
    have hencode : encode a = .obj (FieldSlot.document (Record.slots a : List (FieldSlot mode))) :=
      LawfulRecord.encode_eq a
    rw [hencode, LawfulRecord.decodeIn_eq_some_iff]
    exact FieldSlot.Reads.written (LawfulRecord.nodup_names a)
  decodeIn_of_eases {a} _ _ h hj := by
    rw [LawfulRecord.decodeIn_eq_some_iff] at hj ⊢
    exact hj.edit (LawfulRecord.nodup_names a) h

/-- So are tagged records. -/
instance [TaggedRecord α] [LawfulTaggedRecord α] : Tolerant mode α where
  Eases a := FieldSlot.TaggedEdit (TaggedRecord.slots a)
  decodeIn_encode a := by
    rw [LawfulTaggedRecord.encode_eq a, LawfulTaggedRecord.decodeIn_eq_some_iff]
    exact FieldSlot.TaggedReads.written (LawfulTaggedRecord.nodup_names a)
  decodeIn_of_eases {a} _ _ h hj := by
    rw [LawfulTaggedRecord.decodeIn_eq_some_iff] at hj ⊢
    exact hj.edit (LawfulTaggedRecord.nodup_names a) h

/-- No record is read from `null`. -/
instance [Record mode α] [LawfulRecord mode α] : NeverNull mode α where
  decodeIn_null := by
    rw [Option.eq_none_iff_forall_ne_some]
    intro a h
    rw [LawfulRecord.decodeIn_eq_some_iff] at h
    obtain ⟨_, _, hlayout, -⟩ := h
    cases hlayout

end Orchestration
