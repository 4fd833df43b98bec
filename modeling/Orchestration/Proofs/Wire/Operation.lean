import Orchestration.Operation
import Orchestration.Proofs.Wire.Spec

/-!
# Operations as records

The slots of the three kinds of operations.  Every operation is tagged with its name, and what its
fields hold is read from inside the tagged record, specifications included.
-/

namespace Orchestration

variable {mode : ReadingMode}

/-- How an operation is carried out is said in full: nothing of it may be missing. -/
instance : Record mode ClusterOpSpec where
  slots s := [
    .required "timeout_ms" s.timeoutMs, .required "parallelism" s.parallelism,
    .required "failure_strategy" s.failureStrategy]

/-- The document has the three fields, and its reader needs them all. -/
instance : LawfulRecord mode ClusterOpSpec where
  nodup_names _ := by simp [FieldSlot.names, Record.slots]
  encode_eq _ := rfl
  decodeIn_eq_some_iff j s := by
    refine FieldSlot.bind_eq_some_iff_reads rfl fun get positional => ?_
    cases s
    simp [Record.slots, ↓Fields.read_eq_some_iff]

/-- A suspension may leave open how it is carried out, and a recovery says nothing about it; a
replacement need not name instances. -/
instance : TaggedRecord ApplicationOperation where
  caseNames := ApplicationOperation.caseNames
  tag
    | .create .. => "CREATE"
    | .startInstances .. => "START_INSTANCES"
    | .stopInstances .. => "STOP_INSTANCES"
    | .scale .. => "SCALE"
    | .replaceInstances .. => "REPLACE_INSTANCES"
    | .suspend .. => "SUSPEND"
    | .recover .. => "RECOVER"
    | .destroy .. => "DESTROY"
  slots
    | .create spec instances opSpec => [
        .required "spec" spec, .required "instances" instances, .required "op_spec" opSpec]
    | .startInstances appId instances opSpec => [
        .required "app_id" appId, .required "instances" instances, .required "op_spec" opSpec]
    | .stopInstances appId instanceIds skipRespawn opSpec => [
        .required "app_id" appId, .required "instance_ids" instanceIds,
        .withDefault "skip_respawn" false skipRespawn, .required "op_spec" opSpec]
    | .scale appId requiredInstances opSpec => [
        .required "app_id" appId, .required "required_instances" requiredInstances,
        .required "op_spec" opSpec]
    | .replaceInstances appId instanceIds stopFirst opSpec => [
        .required "app_id" appId, .withDefault "instance_ids" ∅ instanceIds,
        .withDefault "stop_first" false stopFirst, .required "op_spec" opSpec]
    | .suspend appId opSpec => [
        .required "app_id" appId, .withDefault "op_spec" none opSpec]
    | .recover appId => [.required "app_id" appId]
    | .destroy appId opSpec => [.required "app_id" appId, .required "op_spec" opSpec]

/-- The name of an operation comes first in its document, and says by which slots the other fields
are read. -/
instance : LawfulTaggedRecord ApplicationOperation where
  nodup_names o := by cases o <;> simp [FieldSlot.names, TaggedRecord.slots]
  encode_eq o := by cases o <;> rfl
  decodeIn_eq_some_iff mode j o := by
    refine FieldSlot.tagged_bind_eq_some_iff (fun t body h => ?_) (fun body => ?_)
    · dsimp only [TaggedRecord.tag] at h ⊢
      split at h <;> simp only [Fields.read_eq_some_iff, Option.pure_def, Option.some.injEq,
        reduceCtorEq] at h <;> grind
    · cases o <;> refine FieldSlot.bind_eq_some_iff_reads rfl fun get positional => ?_ <;>
        simp [TaggedRecord.slots, ↓Fields.read_eq_some_iff, -Bool.exists_bool]

/-- Five of the operations carry nothing but the service and how they are carried out. -/
instance : TaggedRecord LocalServiceOperation where
  caseNames := LocalServiceOperation.caseNames
  tag
    | .create .. => "CREATE"
    | .activate .. => "ACTIVATE"
    | .deactivate .. => "DEACTIVATE"
    | .deployTestInstance .. => "DEPLOY_TEST_INSTANCE"
    | .adjustInstances .. => "ADJUST_INSTANCES"
    | .updateInstanceCount .. => "UPDATE_INSTANCE_COUNT"
    | .replaceInstances .. => "REPLACE_INSTANCES"
    | .stopInstances .. => "STOP_INSTANCES"
    | .restart .. => "RESTART"
    | .destroy .. => "DESTROY"
  slots
    | .create spec instancesPerHost opSpec => [
        .required "spec" spec, .required "instances_per_host" instancesPerHost,
        .required "op_spec" opSpec]
    | .activate serviceId opSpec | .deactivate serviceId opSpec
    | .deployTestInstance serviceId opSpec | .adjustInstances serviceId opSpec
    | .destroy serviceId opSpec => [
        .required "service_id" serviceId, .required "op_spec" opSpec]
    | .updateInstanceCount serviceId instancesPerHost opSpec => [
        .required "service_id" serviceId, .required "instances_per_host" instancesPerHost,
        .required "op_spec" opSpec]
    | .replaceInstances serviceId instanceIds stopFirst opSpec => [
        .required "service_id" serviceId, .withDefault "instance_ids" ∅ instanceIds,
        .withDefault "stop_first" false stopFirst, .required "op_spec" opSpec]
    | .stopInstances serviceId instanceIds opSpec => [
        .required "service_id" serviceId, .required "instance_ids" instanceIds,
        .required "op_spec" opSpec]
    | .restart serviceId stopFirst opSpec => [
        .required "service_id" serviceId, .withDefault "stop_first" false stopFirst,
        .required "op_spec" opSpec]

/-- The slots of those five are the same, and the name alone tells them apart. -/
instance : LawfulTaggedRecord LocalServiceOperation where
  nodup_names o := by cases o <;> simp [FieldSlot.names, TaggedRecord.slots]
  encode_eq o := by cases o <;> rfl
  decodeIn_eq_some_iff mode j o := by
    refine FieldSlot.tagged_bind_eq_some_iff (fun t body h => ?_) (fun body => ?_)
    · dsimp only [TaggedRecord.tag] at h ⊢
      split at h <;> simp only [Fields.read_eq_some_iff, Option.pure_def, Option.some.injEq,
        reduceCtorEq] at h <;> grind
    · cases o <;> refine FieldSlot.bind_eq_some_iff_reads rfl fun get positional => ?_ <;>
        simp [TaggedRecord.slots, ↓Fields.read_eq_some_iff, -Bool.exists_bool]

/-- A task is created from its specification, and killed by its name. -/
instance : TaggedRecord TaskOperation where
  caseNames := TaskOperation.caseNames
  tag
    | .create .. => "CREATE"
    | .kill .. => "KILL"
  slots
    | .create spec opSpec => [.required "spec" spec, .required "op_spec" opSpec]
    | .kill source task opSpec => [
        .required "source_app_name" source, .required "task_id" task, .required "op_spec" opSpec]

/-- As with the operations on an application, the name says how the other fields are read. -/
instance : LawfulTaggedRecord TaskOperation where
  nodup_names o := by cases o <;> simp [FieldSlot.names, TaggedRecord.slots]
  encode_eq o := by cases o <;> rfl
  decodeIn_eq_some_iff mode j o := by
    refine FieldSlot.tagged_bind_eq_some_iff (fun t body h => ?_) (fun body => ?_)
    · dsimp only [TaggedRecord.tag] at h ⊢
      split at h <;> simp only [Fields.read_eq_some_iff, Option.pure_def, Option.some.injEq,
        reduceCtorEq] at h <;> grind
    · cases o <;> refine FieldSlot.bind_eq_some_iff_reads rfl fun get positional => ?_ <;>
        simp [TaggedRecord.slots, ↓Fields.read_eq_some_iff]

end Orchestration
