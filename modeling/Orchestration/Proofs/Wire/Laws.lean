import Orchestration.Event
import Orchestration.Proofs.Text.Uuid
import Orchestration.Proofs.Time.Rendering

/-!
# Plain values read back

Everything that is written without field names of its own reads back wherever it is read from:
numbers, texts, identifiers, timestamps, members of an enumeration, sets, and maps from texts.  Maps
with integer keys are the exception: inside a tagged record a key is a text and no longer an
integer, so that only the empty map reads back there.

Main results:

- `LawfulWire` of the plain types.
- `LawfulNamed`: different members of an enumeration have different names.
- `Wire.decodeIn_direct_numbered`, `Wire.decodeIn_buffered_numbered`: maps with integer keys.
-/

namespace Orchestration
namespace Wire

/-! ## Numbers, truth values and texts -/

/-- A truth value is written as it is. -/
instance : LawfulWire Bool where
  decodeIn_encode _ _ := rfl

/-- So is a text. -/
instance : LawfulWire String where
  decodeIn_encode _ _ := rfl

/-- A number below a bound is read from what it is written as. -/
theorem decodeBelow_natCast {bound n : Nat} (h : n < bound) :
    decodeBelow bound (.int n) = some n := by
  have hrange : (0 : Int) ≤ n ∧ (n : Int) < bound := by omega
  rw [decodeBelow, if_pos hrange, Int.toNat_natCast]

/-- A port number is below the bound of 16 bits. -/
instance : LawfulWire UInt16 where
  decodeIn_encode _ n := by
    show (decodeBelow UInt16.size (.int n.toNat)).map UInt16.ofNat = some n
    rw [decodeBelow_natCast n.toNat_lt, Option.map_some, UInt16.ofNat_toNat]

/-- A number of instances is below that of 32 bits. -/
instance : LawfulWire UInt32 where
  decodeIn_encode _ n := by
    show (decodeBelow UInt32.size (.int n.toNat)).map UInt32.ofNat = some n
    rw [decodeBelow_natCast n.toNat_lt, Option.map_some, UInt32.ofNat_toNat]

/-- A size or a time is below that of 64 bits. -/
instance : LawfulWire UInt64 where
  decodeIn_encode _ n := by
    show (decodeBelow UInt64.size (.int n.toNat)).map UInt64.ofNat = some n
    rw [decodeBelow_natCast n.toNat_lt, Option.map_some, UInt64.ofNat_toNat]

/-- A number with a sign lies between the least and the greatest of 64 bits. -/
instance : LawfulWire Int64 where
  decodeIn_encode _ n := by
    have hrange : Int64.minValue.toInt ≤ n.toInt ∧ n.toInt ≤ Int64.maxValue.toInt :=
      ⟨Int64.minValue_le_toInt n, n.toInt_le⟩
    show (if Int64.minValue.toInt ≤ n.toInt ∧ n.toInt ≤ Int64.maxValue.toInt then
      some (Int64.ofInt n.toInt) else none) = some n
    rw [if_pos hrange, Int64.ofInt_toInt]

/-- An identifier is written as its text. -/
instance : LawfulWire DeployableId where
  decodeIn_encode _ _ := rfl

/-- So is that of an instance. -/
instance : LawfulWire InstanceId where
  decodeIn_encode _ _ := rfl

/-- So is that of an executor. -/
instance : LawfulWire ExecutorId where
  decodeIn_encode _ _ := rfl

/-- A UUID is parsed from what it is rendered as. -/
instance : LawfulWire Uuid where
  decodeIn_encode _ u := Uuid.parse?_render u

/-- So is a timestamp. -/
instance : LawfulWire Timestamp where
  decodeIn_encode _ t := Timestamp.parse?_render t

/-! ## Members of an enumeration -/

end Wire

/-- Every member of an enumeration is the one with its name. -/
class LawfulNamed (α : Type) [Named α] : Prop where
  ofName?_name (a : α) : Named.ofName? (Named.name a) = some a

/-- A member of an enumeration is written as its name. -/
instance (priority := low) {α : Type} [Named α] [LawfulNamed α] : LawfulWire α where
  decodeIn_encode _ a := LawfulNamed.ofName?_name a

/-- No two kinds of ports share a name. -/
instance : LawfulNamed PortType where
  ofName?_name a := by cases a <;> rfl

/-- There is one mode of exposure only. -/
instance : LawfulNamed ExposureMode where
  ofName?_name a := by cases a; rfl

/-- A mount is read-only or not, under different names. -/
instance : LawfulNamed MountMode where
  ofName?_name a := by cases a <;> rfl

/-- No two ways to go on after a failure share a name. -/
instance : LawfulNamed FailureStrategy where
  ofName?_name a := by cases a <;> rfl

/-- No two states of an application share a name. -/
instance : LawfulNamed ApplicationState where
  ofName?_name a := by cases a <;> rfl

/-- No two states of a local service share a name. -/
instance : LawfulNamed LocalServiceState where
  ofName?_name a := by cases a <;> rfl

/-- No two states of activation share a name. -/
instance : LawfulNamed ActivationState where
  ofName?_name a := by cases a <;> rfl

/-- No two states of an instance share a name. -/
instance : LawfulNamed InstanceState where
  ofName?_name a := by cases a <;> rfl

/-- No two states of a task share a name. -/
instance : LawfulNamed TaskState where
  ofName?_name a := by cases a <;> rfl

/-- No two outcomes of a task share a name. -/
instance : LawfulNamed TaskResultStatus where
  ofName?_name a := by cases a <;> rfl

/-- No two severities of an event share a name. -/
instance : LawfulNamed EventSeverity where
  ofName?_name a := by cases a <;> rfl

namespace Wire

/-! ## Lists, sets and maps -/

/-- Items that each read back read back together. -/
theorem mapM_map_eq_some {α β : Type} {f : α → β} {g : β → Option α} {l : List α}
    (h : ∀ a ∈ l, g (f a) = some a) : (l.map f).mapM g = some l := by
  induction l with
  | nil => rfl
  | cons a l ih =>
      rw [List.forall_mem_cons] at h
      simp [h.1, ih h.2]

/-- A list reads back as soon as each of its items does. -/
theorem decodeIn_encode_list {α : Type} [Wire α] {mode : ReadingMode} {l : List α}
    (h : ∀ a ∈ l, decodeIn mode (encode a) = some a) : decodeIn mode (encode l) = some l :=
  mapM_map_eq_some h

/-- A set is written as a list, and is the set of what is read. -/
instance {α : Type} [Ord α] [Std.TransOrd α] [Std.LawfulEqOrd α] [Wire α] [LawfulWire α] :
    LawfulWire (SortedSet α) where
  decodeIn_encode mode s := by
    have hlist : decodeIn mode (encode s.toList) = some s.toList :=
      decodeIn_encode_list fun a _ => decodeIn_encode mode a
    show (decodeIn mode (encode s.toList)).map SortedSet.ofList = some s
    rw [hlist, Option.map_some, SortedSet.ofList_toList]

/-- A map from texts reads back entry by entry. -/
instance {β : Type} [Wire β] [LawfulWire β] : LawfulWire (SortedMap String β) where
  decodeIn_encode mode m := by
    have hentries : (m.entries.map (fun e => (e.1, encode e.2))).mapM
        (fun f => (decodeIn mode f.2).map (f.1, ·)) = some m.entries :=
      mapM_map_eq_some fun e _ => by rw [decodeIn_encode, Option.map_some]
    show Option.map SortedMap.ofList ((m.entries.map (fun e => (e.1, encode e.2))).mapM
      (fun f => (decodeIn mode f.2).map (f.1, ·))) = some m
    rw [hentries, Option.map_some, SortedMap.ofList_entries]

/-- The numeral of a key is read as that key. -/
theorem decodeKey_direct (k : UInt32) :
    decodeKey .direct (Numeral.canonical k.toNat) = some k := by
  rw [decodeKey, Numeral.ofCanonical?_canonical, Option.bind_some, if_pos k.toNat_lt,
    UInt32.ofNat_toNat]

/-- A map with integer keys reads back from a document. -/
theorem decodeIn_direct_numbered {β : Type} [Wire β] [LawfulWire β] (m : SortedMap UInt32 β) :
    decodeIn .direct (encode m) = some m := by
  have hentries : (m.entries.map (fun e => (Numeral.canonical e.1.toNat, encode e.2))).mapM
      (fun f : String × Json => do
        let k ← decodeKey .direct f.1
        let v ← decodeIn (α := β) .direct f.2
        return (k, v)) = some m.entries :=
    mapM_map_eq_some fun e _ => by simp [decodeKey_direct, decodeIn_encode]
  show Option.map SortedMap.ofList ((m.entries.map
    (fun e => (Numeral.canonical e.1.toNat, encode e.2))).mapM _) = some m
  rw [hentries, Option.map_some, SortedMap.ofList_entries]

/-- Inside a tagged record only the empty map with integer keys reads back. -/
theorem decodeIn_buffered_numbered {β : Type} [Wire β] (m : SortedMap UInt32 β) :
    decodeIn .buffered (encode m) = if m.entries = [] then some m else none := by
  obtain ⟨entries, hsorted⟩ := m
  cases entries with
  | nil => rfl
  | cons e entries =>
      rw [if_neg (List.cons_ne_nil e entries)]
      rfl

end Wire
end Orchestration
