import Orchestration.Proofs.Wire.Document

/-!
# Allocations are lost in the store

An allocation is a tagged record around a map with integer keys, and the keys of such a map are no
integers any more when they are read from inside a tagged record.  So an allocation is written but
read back only if its map is empty, and a record of an instance or of a task run that holds one
other allocation is not read back at all.  Everything else in these records reads back: the maps of
an executor's resources, which stand outside of tagged records, do so with the same keys.

Main results:

- `ResourceAllocation.decodeIn_encode_eq`: an allocation reads back just when it is vacant.
- `records_survive_when_vacant`: so does a record, just when all its allocations are vacant.
-/

namespace Orchestration
namespace ResourceAllocation

/-- Whether an allocation names no memory node. -/
def isVacant : ResourceAllocation → Bool
  | .cpu byNode => byNode.entries.isEmpty
  | .memory byNode => byNode.entries.isEmpty

/-- The map of an allocation is read from inside the tagged record. -/
theorem decodeIn_encode_cpu (mode : ReadingMode) (byNode : CoreMap) :
    decodeIn mode (encode (cpu byNode)) = (decodeIn .buffered (encode byNode)).map cpu := by
  show Option.bind (Json.tagged? mode caseNames (.tagged "CPU" [("cores", encode byNode)])) _ = _
  rw [Json.tagged?_tagged, Option.bind_some, Option.map_eq_bind]
  rfl

/-- Memory is read from inside its tagged record, where a map with integer keys has to be empty. -/
theorem decodeIn_encode_memory (mode : ReadingMode) (byNode : MemoryMap) :
    decodeIn mode (encode (memory byNode)) = (decodeIn .buffered (encode byNode)).map memory := by
  show Option.bind
    (Json.tagged? mode caseNames (.tagged "MEMORY" [("memory_in_mb", encode byNode)])) _ = _
  rw [Json.tagged?_tagged, Option.bind_some, Option.map_eq_bind]
  rfl

/-- An allocation reads back if it is vacant, and is refused otherwise. -/
theorem decodeIn_encode_eq (mode : ReadingMode) (a : ResourceAllocation) :
    decodeIn mode (encode a) = if a.isVacant then some a else none := by
  cases a with
  | cpu byNode =>
      rw [decodeIn_encode_cpu, Wire.decodeIn_buffered_numbered, isVacant]
      cases byNode.entries <;> rfl
  | memory byNode =>
      rw [decodeIn_encode_memory, Wire.decodeIn_buffered_numbered, isVacant]
      cases byNode.entries <;> rfl

example : decode (encode (cpu (SortedMap.ofList [(0, SortedSet.ofList [0, 1])]))) =
    (none : Option ResourceAllocation) :=
  rfl

/-- A list of allocations reads back if all of them are vacant, and is refused otherwise. -/
theorem decodeIn_encode_list_eq (mode : ReadingMode) (l : List ResourceAllocation) :
    decodeIn mode (encode l) = if l.all isVacant then some l else none := by
  show (l.map encode).mapM (decodeIn mode) = _
  induction l with
  | nil => rfl
  | cons a l ih =>
      rw [List.map_cons, List.mapM_cons, decodeIn_encode_eq, ih, List.all_cons]
      cases a.isVacant <;> cases l.all isVacant <;> rfl

end ResourceAllocation

/-! ## Records that hold allocations -/

/-- A field whose document is handed on as it is. -/
def FieldSlot.verbatim {mode : ReadingMode} (name : String) (j : Json) : FieldSlot mode where
  name := name
  written := j
  reads _ doc? := doc? = some j
  spare := False
  eases _ _ := False
  reads_written := rfl
  reads_missing := False.elim
  reads_of_eases := False.elim

/-- A field that is handed on reads as its document does. -/
theorem FieldSlot.withDefault_of_verbatim {mode : ReadingMode} {α : Type} [Wire α] {name : String}
    {j : Json} {get : String → Option Json} {positional : Bool}
    (h : (verbatim name j : FieldSlot mode).reads positional (get name)) (default : α) :
    Fields.withDefault ⟨mode, get, positional⟩ name default = decodeIn mode j := by
  have hget : get name = some j := h
  simp only [Fields.withDefault, hget]

namespace InstanceRecord

/-- The fields of the record of an instance, with its allocations as they are written. -/
def slotsFor (kind : OwnerKind) (r : InstanceRecord) : List (FieldSlot .direct) := [
  .required kind.idField r.owner, .required kind.nameField r.ownerName,
  .required "instance_id" r.instanceId, .required "executor_id" r.executorId,
  .required "hostname" r.hostname, .verbatim "resources" (encode r.resources),
  .required "state" r.state, .withDefault "error_message" none r.errorMessage,
  .required "created" r.created, .required "updated" r.updated]

/-- No two fields of an instance record share a name, whoever owns the instance. -/
theorem nodup_slotsFor (kind : OwnerKind) (r : InstanceRecord) :
    (FieldSlot.names (slotsFor kind r)).Nodup := by
  cases kind <;> simp [FieldSlot.names, slotsFor, FieldSlot.verbatim, OwnerKind.idField,
    OwnerKind.nameField]

/-- Everything in the record of an instance reads back but its allocations. -/
theorem decodeFor_encodeFor (kind : OwnerKind) (r : InstanceRecord) :
    decodeFor kind (r.encodeFor kind) =
      (decodeIn .direct (encode r.resources)).map fun resources => { r with resources } := by
  obtain ⟨get, positional, hlayout, hreads⟩ := FieldSlot.Reads.written (nodup_slotsFor kind r)
  have hfields : Fields.of? .direct [kind.idField, kind.nameField, "instance_id", "executor_id",
      "hostname", "resources", "state", "error_message", "created", "updated"]
      (r.encodeFor kind) = some ⟨.direct, get, positional⟩ :=
    Fields.of?_eq_some_iff.2 ⟨get, positional, hlayout, rfl⟩
  simp only [slotsFor, List.forall_mem_cons, FieldSlot.reads_required, FieldSlot.name_required,
    FieldSlot.reads_withDefault, FieldSlot.name_withDefault] at hreads
  obtain ⟨howner, hname, hinstance, hexecutor, hhost, hresources, hstate, herror, hcreated,
    hupdated, -⟩ := hreads
  have hallocations := FieldSlot.withDefault_of_verbatim hresources ([] : List ResourceAllocation)
  apply Option.ext
  intro r'
  unfold decodeFor
  simp [↓Fields.read_eq_some_iff, hfields, howner, hname, hinstance, hexecutor, hhost,
    hallocations, hstate, herror, hcreated, hupdated]

end InstanceRecord

namespace TaskRecord

/-- The fields of the record of a task run, with its allocations as they are written. -/
def slots (r : TaskRecord) : List (FieldSlot .direct) := [
  .required "source_app_name" r.sourceAppName, .required "task_id" r.taskId,
  .required "instance_id" r.instanceId, .required "executor_id" r.executorId,
  .required "hostname" r.hostname, .verbatim "resources" (encode r.resources),
  .required "state" r.state, .withDefault "result" none r.result,
  .withDefault "error_message" none r.errorMessage,
  .required "created" r.created, .required "updated" r.updated]

/-- Nor do two fields of a task record. -/
theorem nodup_slots (r : TaskRecord) : (FieldSlot.names (slots r)).Nodup := by
  simp [FieldSlot.names, slots, FieldSlot.verbatim]

/-- Everything in the record of a task run reads back but its allocations. -/
theorem decode_encode_eq (r : TaskRecord) :
    decode (encode r) =
      (decodeIn .direct (encode r.resources)).map fun resources => { r with resources } := by
  obtain ⟨get, positional, hlayout, hreads⟩ := FieldSlot.Reads.written (nodup_slots r)
  have hfields : Fields.of? .direct ["source_app_name", "task_id", "instance_id", "executor_id",
      "hostname", "resources", "state", "result", "error_message", "created", "updated"]
      (encode r) = some ⟨.direct, get, positional⟩ :=
    Fields.of?_eq_some_iff.2 ⟨get, positional, hlayout, rfl⟩
  simp only [slots, List.forall_mem_cons, FieldSlot.reads_required, FieldSlot.name_required,
    FieldSlot.reads_withDefault, FieldSlot.name_withDefault] at hreads
  obtain ⟨hsource, htask, hinstance, hexecutor, hhost, hresources, hstate, hresult, herror,
    hcreated, hupdated, -⟩ := hreads
  have hallocations := FieldSlot.withDefault_of_verbatim hresources ([] : List ResourceAllocation)
  apply Option.ext
  intro r'
  show (Fields.of? .direct _ (encode r) >>= _) = _ ↔ _
  simp [↓Fields.read_eq_some_iff, hfields, hsource, htask, hinstance, hexecutor, hhost,
    hallocations, hstate, hresult, herror, hcreated, hupdated]

end TaskRecord

/-- The record of an instance and that of a task run read back if all their allocations are vacant,
and are refused otherwise. -/
theorem records_survive_when_vacant (kind : OwnerKind) (r : InstanceRecord) (t : TaskRecord) :
    InstanceRecord.decodeFor kind (r.encodeFor kind) =
        (if r.resources.all ResourceAllocation.isVacant then some r else none) ∧
      decode (encode t) =
        if t.resources.all ResourceAllocation.isVacant then some t else none := by
  constructor
  · rw [InstanceRecord.decodeFor_encodeFor, ResourceAllocation.decodeIn_encode_list_eq]
    cases r.resources.all ResourceAllocation.isVacant <;> rfl
  · rw [TaskRecord.decode_encode_eq, ResourceAllocation.decodeIn_encode_list_eq]
    cases t.resources.all ResourceAllocation.isVacant <;> rfl

end Orchestration
