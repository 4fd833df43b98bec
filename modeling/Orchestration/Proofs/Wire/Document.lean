import Orchestration.Event
import Orchestration.Proofs.Wire.Operation
import Orchestration.Record

/-!
# Documents that outlive their schema

The slots of the records that the durable store holds and that executors and engines report.  Core
and memory maps have integer keys, so that an executor's resources are read from a document itself
and not from inside a tagged record.

Main results:

- `Durable.of_tolerant`: the documents of a type with a tolerant reader are durable.
- `documents_durable`: so are those that clients send, that the store holds, and that executors and
  engines report.
-/

namespace Orchestration

variable {mode : ReadingMode}

/-! ## Records of the store -/

/-- The record of an application has no field that may be missing, its specification has some. -/
instance : Record mode ApplicationRecord where
  slots r := [
    .required "app_id" r.appId, .required "spec" r.spec, .required "instances" r.instances,
    .required "created" r.created, .required "updated" r.updated]

/-- Its document holds that of the specification. -/
instance : LawfulRecord mode ApplicationRecord where
  nodup_names _ := by simp [FieldSlot.names, Record.slots]
  encode_eq _ := rfl
  decodeIn_eq_some_iff j r := by
    refine FieldSlot.bind_eq_some_iff_reads rfl fun get positional => ?_
    cases r
    simp [Record.slots, ↓Fields.read_eq_some_iff]

/-- The record of a local service counts the instances on each host. -/
instance : Record mode LocalServiceRecord where
  slots r := [
    .required "service_id" r.serviceId, .required "spec" r.spec,
    .required "instances_per_host" r.instancesPerHost,
    .required "activation_state" r.activationState,
    .required "created" r.created, .required "updated" r.updated]

/-- Its document holds that of the specification, too. -/
instance : LawfulRecord mode LocalServiceRecord where
  nodup_names _ := by simp [FieldSlot.names, Record.slots]
  encode_eq _ := rfl
  decodeIn_eq_some_iff j r := by
    refine FieldSlot.bind_eq_some_iff_reads rfl fun get positional => ?_
    cases r
    simp [Record.slots, ↓Fields.read_eq_some_iff]

/-- The result of a task is its outcome with the code that it exited with. -/
instance : Record mode TaskResult where
  slots r := [.required "status" r.status, .required "exit_code" r.exitCode]

/-- The document of a result has both fields, and its reader needs them. -/
instance : LawfulRecord mode TaskResult where
  nodup_names _ := by simp [FieldSlot.names, Record.slots]
  encode_eq _ := rfl
  decodeIn_eq_some_iff j r := by
    refine FieldSlot.bind_eq_some_iff_reads rfl fun get positional => ?_
    cases r
    simp [Record.slots, ↓Fields.read_eq_some_iff]

/-! ## Resources of executors -/

/-- Cores are a map with integer keys, which reads back from a document itself only. -/
instance : Record .direct PhysicalLayout where
  slots l := [.required "cores" l.cores]

/-- So does the layout that consists of it. -/
instance : LawfulRecord .direct PhysicalLayout where
  nodup_names _ := by simp [FieldSlot.names, Record.slots]
  encode_eq _ := rfl
  decodeIn_eq_some_iff j l := by
    refine FieldSlot.bind_eq_some_iff_reads rfl fun get positional => ?_
    cases l
    simp [Record.slots, ↓Fields.read_eq_some_iff]

/-- An executor need not tell its layout, and is not blacklisted unless it says so. -/
instance : Record .direct ExecutorResources where
  slots e := [
    .required "executor_id" e.executorId,
    .required "hostname" e.hostname,
    .required "free_cores" e.freeCores,
    .required "free_memory" e.freeMemory,
    .optional "layout" e.layout,
    .withDefault "blacklisted" false e.blacklisted]

/-- The document of an executor has all the fields, and holds maps with integer keys. -/
instance : LawfulRecord .direct ExecutorResources where
  nodup_names _ := by simp [FieldSlot.names, Record.slots]
  encode_eq _ := rfl
  decodeIn_eq_some_iff j e := by
    refine FieldSlot.bind_eq_some_iff_reads rfl fun get positional => ?_
    cases e
    simp [Record.slots, ↓Fields.read_eq_some_iff, -Bool.exists_bool]

/-! ## Events -/

/-- What happens to applications and local services carries their names and versions besides the
identifier. -/
instance : TaggedRecord LifecycleEvent where
  caseNames := LifecycleEvent.caseNames
  tag
    | .applicationStateChange .. => "application_state_change"
    | .localServiceStateChange .. => "local_service_state_change"
    | .taskStateChange .. => "task_state_change"
    | .taskCompleted .. => "task_completed"
  slots
    | .applicationStateChange appId name version state => [
        .required "app_id" appId, .required "name" name, .required "version" version,
        .required "state" state]
    | .localServiceStateChange serviceId name version state => [
        .required "service_id" serviceId, .required "name" name, .required "version" version,
        .required "state" state]
    | .taskStateChange source task state => [
        .required "source_app_name" source, .required "task_id" task, .required "state" state]
    | .taskCompleted source task => [
        .required "source_app_name" source, .required "task_id" task]

/-- The kind of an event comes first in its document, and says how the other fields are read. -/
instance : LawfulTaggedRecord LifecycleEvent where
  nodup_names e := by cases e <;> simp [FieldSlot.names, TaggedRecord.slots]
  encode_eq e := by cases e <;> rfl
  decodeIn_eq_some_iff mode j e := by
    refine FieldSlot.tagged_bind_eq_some_iff (fun t body h => ?_) (fun body => ?_)
    · dsimp only [TaggedRecord.tag] at h ⊢
      split at h <;> simp only [Fields.read_eq_some_iff, Option.pure_def, Option.some.injEq,
        reduceCtorEq] at h <;> grind
    · cases e <;> refine FieldSlot.bind_eq_some_iff_reads rfl fun get positional => ?_ <;>
        simp [TaggedRecord.slots, ↓Fields.read_eq_some_iff]

/-- An event is sent with an identifier, a time and a severity. -/
instance : Record mode EventEnvelope where
  slots e := [
    .required "id" e.id, .required "timestamp" e.timestamp, .required "severity" e.severity,
    .required "event" e.event]

/-- The document of an envelope holds that of the event, a tagged record. -/
instance : LawfulRecord mode EventEnvelope where
  nodup_names _ := by simp [FieldSlot.names, Record.slots]
  encode_eq _ := rfl
  decodeIn_eq_some_iff j e := by
    refine FieldSlot.bind_eq_some_iff_reads rfl fun get positional => ?_
    cases e
    simp [Record.slots, ↓Fields.read_eq_some_iff]

/-! ## Durable documents -/

/-- Every value reads back from what is written of it, and every document of a value is still one
after fields that nobody knows were added to its records, and fields were left out of them that
have the value of a missing one. -/
def Durable (α : Type) [Wire α] [Tolerant .direct α] : Prop :=
  (∀ a : α, decode (encode a) = some a) ∧
    ∀ (a : α) (j j' : Json), decode j = some a →
      Relation.ReflTransGen (Eases .direct a) j j' → decode j' = some a

/-- Whoever reads tolerantly has durable documents. -/
theorem Durable.of_tolerant (α : Type) [Wire α] [Tolerant .direct α] : Durable α :=
  ⟨Tolerant.decodeIn_encode, fun _ _ _ hj h => Tolerant.decodeIn_of_eased h hj⟩

/-- Operations, specifications, desired-state records, resources of executors and events are
durable. -/
theorem documents_durable :
    Durable ApplicationOperation ∧ Durable LocalServiceOperation ∧ Durable TaskOperation ∧
      Durable ApplicationSpec ∧ Durable LocalServiceSpec ∧ Durable TaskSpec ∧
      Durable ApplicationRecord ∧ Durable LocalServiceRecord ∧
      Durable ExecutorResources ∧ Durable EventEnvelope :=
  ⟨.of_tolerant _, .of_tolerant _, .of_tolerant _, .of_tolerant _, .of_tolerant _, .of_tolerant _,
    .of_tolerant _, .of_tolerant _, .of_tolerant _, .of_tolerant _⟩

/-- A task that may run anywhere. -/
def plainTask : TaskSpec :=
  { sourceAppName := "shop", taskId := "1", executable := { image := "busybox" } }

/-- Its specification as somebody writes it who does not know of placement. -/
def plainTaskDocument : Json :=
  .obj [
    ("source_app_name", .str "shop"), ("task_id", .str "1"),
    ("executable", .obj [("image", .str "busybox"), ("pull_timeout_ms", .null)]),
    ("volumes", .arr []), ("resources", .arr []), ("args", .arr []), ("env", .obj [])]

/-- The creation of a task is still read after its specification lost the placement policy and the
operation was given a note. -/
theorem decode_noted_creation :
    decode (.tagged "CREATE" [("spec", plainTaskDocument), ("note", .str "by hand"),
      ("op_spec", encode ({} : ClusterOpSpec))]) = some (TaskOperation.create plainTask {}) := by
  have hdrop : Eases .buffered plainTask (encode plainTask) plainTaskDocument :=
    FieldSlot.Edit.drop (s := .withDefault "placement_policy" PlacementPolicy.any .any) _
      (by simp [Record.slots, plainTask]) rfl
  have hinside : Eases .direct (TaskOperation.create plainTask {})
      (encode (TaskOperation.create plainTask {}))
      (.tagged "CREATE" [("spec", plainTaskDocument), ("op_spec", encode ({} : ClusterOpSpec))]) :=
    .fields (.inside [("type", .str "CREATE")] _ List.mem_cons_self hdrop)
  have hadd : Eases .direct (TaskOperation.create plainTask {})
      (.tagged "CREATE" [("spec", plainTaskDocument), ("op_spec", encode ({} : ClusterOpSpec))])
      (.tagged "CREATE" [("spec", plainTaskDocument), ("note", .str "by hand"),
        ("op_spec", encode ({} : ClusterOpSpec))]) :=
    .fields (.add [("type", .str "CREATE"), ("spec", plainTaskDocument)] _ _ (by decide)
      (by decide))
  have hdurable := documents_durable.2.2.1
  exact hdurable.2 _ _ _ (hdurable.1 _) (.tail (.single hinside) hadd)

end Orchestration
