import Orchestration.Proofs.Wire.Record
import Orchestration.Spec.Deployable

/-!
# Specifications as records

The slots of every record that a specification is made of: the container and its wiring, the
placement policy, the requirements, and the three kinds of specifications themselves.  A slot names
its field, the value that the record has in it and, where there is one, the value of a missing
field, so that each instance is a table of a type's fields.
-/

namespace Orchestration

variable {mode : ReadingMode}

/-! ## Containers -/

/-- An executable is an image; how long a pull of it may take need not be said. -/
instance : Record mode Executable where
  slots e := [.required "image" e.image, .withDefault "pull_timeout_ms" none e.pullTimeoutMs]

/-- The document of an executable has both fields, and its reader needs the image only. -/
instance : LawfulRecord mode Executable where
  nodup_names _ := by simp [FieldSlot.names, Record.slots]
  encode_eq _ := rfl
  decodeIn_eq_some_iff j e := by
    refine FieldSlot.bind_eq_some_iff_reads rfl fun get positional => ?_
    cases e
    simp [Record.slots, ↓Fields.read_eq_some_iff]

/-- A port has a name, a number and a kind, and none of them may be missing. -/
instance : Record mode PortSpec where
  slots p := [.required "name" p.name, .required "port" p.port, .required "port_type" p.portType]

/-- The document of a port has the three fields, and its reader needs them all. -/
instance : LawfulRecord mode PortSpec where
  nodup_names _ := by simp [FieldSlot.names, Record.slots]
  encode_eq _ := rfl
  decodeIn_eq_some_iff j p := by
    refine FieldSlot.bind_eq_some_iff_reads rfl fun get positional => ?_
    cases p
    simp [Record.slots, ↓Fields.read_eq_some_iff]

/-- A check asks over HTTP or runs a command.  Only the status codes that count as a success may be
missing. -/
instance : TaggedRecord CheckMode where
  caseNames := CheckMode.caseNames
  tag
    | .http .. => "HTTP"
    | .cmd .. => "CMD"
  slots
    | .http portName path successCodes => [
        .required "port_name" portName, .required "path" path,
        .withDefault "success_codes" [] successCodes]
    | .cmd command => [.required "command" command]

/-- The two tables tell what is written behind the tag, and what is read once the tag is known. -/
instance : LawfulTaggedRecord CheckMode where
  nodup_names c := by cases c <;> simp [FieldSlot.names, TaggedRecord.slots]
  encode_eq c := by cases c <;> rfl
  decodeIn_eq_some_iff mode j c := by
    refine FieldSlot.tagged_bind_eq_some_iff (fun t body h => ?_) (fun body => ?_)
    · dsimp only [TaggedRecord.tag] at h ⊢
      split at h <;> simp only [Fields.read_eq_some_iff, Option.pure_def, Option.some.injEq,
        reduceCtorEq] at h <;> grind
    · cases c <;> refine FieldSlot.bind_eq_some_iff_reads rfl fun get positional => ?_ <;>
        simp [TaggedRecord.slots, ↓Fields.read_eq_some_iff]

/-- A check says how it is made and how often; without a delay the first one is made at once. -/
instance : Record mode CheckSpec where
  slots c := [
    .required "mode" c.mode, .required "timeout_ms" c.timeoutMs,
    .required "interval_ms" c.intervalMs, .required "attempts" c.attempts,
    .withDefault "initial_delay_ms" 0 c.initialDelayMs]

/-- The document of a check holds that of its mode, which is a tagged record of its own. -/
instance : LawfulRecord mode CheckSpec where
  nodup_names _ := by simp [FieldSlot.names, Record.slots]
  encode_eq _ := rfl
  decodeIn_eq_some_iff j c := by
    refine FieldSlot.bind_eq_some_iff_reads rfl fun get positional => ?_
    cases c
    simp [Record.slots, ↓Fields.read_eq_some_iff]

/-- Whoever is exposed names the host, the port and the mode. -/
instance : Record mode ExposureSpec where
  slots e := [.required "vhost" e.vhost, .required "port_name" e.portName, .required "mode" e.mode]

/-- There is one mode of exposure only, so that the other two fields tell an exposure. -/
instance : LawfulRecord mode ExposureSpec where
  nodup_names _ := by simp [FieldSlot.names, Record.slots]
  encode_eq _ := rfl
  decodeIn_eq_some_iff j e := by
    refine FieldSlot.bind_eq_some_iff_reads rfl fun get positional => ?_
    -- all modes of exposure are equal, so `simp` must not compare two of them
    constructor
    · intro h
      simp only [Fields.read_eq_some_iff, Option.pure_def, Option.some.injEq] at h
      obtain ⟨vhost, hvhost, portName, hport, exposure, hmode, rfl⟩ := h
      simp [Record.slots, hvhost, hport, hmode]
    · intro h
      simp only [Record.slots, List.forall_mem_cons, FieldSlot.name_required,
        FieldSlot.reads_required] at h
      simp [h]

/-- A mounted volume names both of its paths and the mode. -/
instance : Record mode MountedVolume where
  slots v := [
    .required "path_in_container" v.pathInContainer, .required "path_on_host" v.pathOnHost,
    .required "mode" v.mode]

/-- The document of a volume has the three fields, and its reader needs them all. -/
instance : LawfulRecord mode MountedVolume where
  nodup_names _ := by simp [FieldSlot.names, Record.slots]
  encode_eq _ := rfl
  decodeIn_eq_some_iff j v := by
    refine FieldSlot.bind_eq_some_iff_reads rfl fun get positional => ?_
    cases v
    simp [Record.slots, ↓Fields.read_eq_some_iff]

/-- A device need not have a path of its own inside the container. -/
instance : Record mode DeviceSpec where
  slots d := [
    .required "path_on_host" d.pathOnHost,
    .withDefault "path_in_container" none d.pathInContainer]

/-- The document of a device has both fields, and a path that was not given is `null` in it. -/
instance : LawfulRecord mode DeviceSpec where
  nodup_names _ := by simp [FieldSlot.names, Record.slots]
  encode_eq _ := rfl
  decodeIn_eq_some_iff j d := by
    refine FieldSlot.bind_eq_some_iff_reads rfl fun get positional => ?_
    cases d
    simp [Record.slots, ↓Fields.read_eq_some_iff]

/-! ## Placement and requirements -/

/-- Three of the policies have no fields at all, the others have one each. -/
instance : TaggedRecord PlacementPolicy where
  caseNames := PlacementPolicy.caseNames
  tag
    | .any => "ANY"
    | .onePerHost => "ONE_PER_HOST"
    | .maxNPerHost .. => "MAX_N_PER_HOST"
    | .matchTag .. => "MATCH_TAG"
    | .noTag => "NO_TAG"
    | .localTo .. => "LOCAL"
  slots
    | .any | .onePerHost | .noTag => []
    | .maxNPerHost max => [.required "max" max]
    | .matchTag tag => [.required "tag" tag]
    | .localTo hostLevel => [.required "host_level" hostLevel]

/-- A policy without fields is written as its tag alone, and read from any object with that tag. -/
instance : LawfulTaggedRecord PlacementPolicy where
  nodup_names p := by cases p <;> simp [FieldSlot.names, TaggedRecord.slots]
  encode_eq p := by cases p <;> rfl
  decodeIn_eq_some_iff mode j p := by
    refine FieldSlot.tagged_bind_eq_some_iff (fun t body h => ?_) (fun body => ?_)
    · dsimp only [TaggedRecord.tag] at h ⊢
      split at h <;> simp only [Fields.read_eq_some_iff, Option.map_eq_some_iff, Option.pure_def,
        Option.some.injEq, reduceCtorEq] at h <;> grind
    · cases p with
      | any | onePerHost | noTag => exact FieldSlot.map_eq_some_iff_reads
      | maxNPerHost | matchTag | localTo =>
          refine FieldSlot.bind_eq_some_iff_reads rfl fun get positional => ?_
          simp [TaggedRecord.slots, ↓Fields.read_eq_some_iff]

/-- A requirement counts cores or megabytes. -/
instance : TaggedRecord ResourceRequirement where
  caseNames := ResourceRequirement.caseNames
  tag
    | .cpu .. => "CPU"
    | .memory .. => "MEMORY"
  slots
    | .cpu count => [.required "count" count]
    | .memory size => [.required "size_in_mb" size]

/-- The tag of a requirement says what its number counts. -/
instance : LawfulTaggedRecord ResourceRequirement where
  nodup_names r := by cases r <;> simp [FieldSlot.names, TaggedRecord.slots]
  encode_eq r := by cases r <;> rfl
  decodeIn_eq_some_iff mode j r := by
    refine FieldSlot.tagged_bind_eq_some_iff (fun t body h => ?_) (fun body => ?_)
    · dsimp only [TaggedRecord.tag] at h ⊢
      split at h <;> simp only [Fields.read_eq_some_iff, Option.pure_def, Option.some.injEq,
        reduceCtorEq] at h <;> grind
    · cases r <;> refine FieldSlot.bind_eq_some_iff_reads rfl fun get positional => ?_ <;>
        simp [TaggedRecord.slots, ↓Fields.read_eq_some_iff]

/-! ## Specifications -/

/-- An application has to give its name, its version, its executable and its requirements;
everything else may be missing. -/
instance : Record mode ApplicationSpec where
  slots s := [
    .required "name" s.name,
    .required "version" s.version,
    .required "executable" s.executable,
    .withDefault "exposed_ports" [] s.exposedPorts,
    .withDefault "volumes" [] s.volumes,
    .required "resources" s.resources,
    .withDefault "placement_policy" .any s.placementPolicy,
    .optional "healthcheck" s.healthcheck,
    .optional "readiness" s.readiness,
    .withDefault "exposure_spec" none s.exposureSpec,
    .withDefault "args" [] s.args,
    .withDefault "devices" [] s.devices,
    .withDefault "env" ∅ s.env,
    .withDefault "tags" ∅ s.tags]

/-- The document of an application has all the fields, also those that may be missing from what is
read. -/
instance : LawfulRecord mode ApplicationSpec where
  nodup_names _ := by simp [FieldSlot.names, Record.slots]
  encode_eq _ := rfl
  decodeIn_eq_some_iff j s := by
    refine FieldSlot.bind_eq_some_iff_reads rfl fun get positional => ?_
    cases s
    simp [Record.slots, ↓Fields.read_eq_some_iff]

/-- A local service has to give its placement, too, and is not exposed. -/
instance : Record mode LocalServiceSpec where
  slots s := [
    .required "name" s.name,
    .required "version" s.version,
    .required "executable" s.executable,
    .withDefault "exposed_ports" [] s.exposedPorts,
    .withDefault "volumes" [] s.volumes,
    .required "resources" s.resources,
    .required "placement_policy" s.placementPolicy,
    .optional "healthcheck" s.healthcheck,
    .optional "readiness" s.readiness,
    .withDefault "args" [] s.args,
    .withDefault "devices" [] s.devices,
    .withDefault "env" ∅ s.env,
    .withDefault "tags" ∅ s.tags]

/-- So has that of a local service. -/
instance : LawfulRecord mode LocalServiceSpec where
  nodup_names _ := by simp [FieldSlot.names, Record.slots]
  encode_eq _ := rfl
  decodeIn_eq_some_iff j s := by
    refine FieldSlot.bind_eq_some_iff_reads rfl fun get positional => ?_
    cases s
    simp [Record.slots, ↓Fields.read_eq_some_iff]

/-- A task names the application that it comes from.  It has no ports, and no health to check. -/
instance : Record mode TaskSpec where
  slots s := [
    .required "source_app_name" s.sourceAppName,
    .required "task_id" s.taskId,
    .required "executable" s.executable,
    .withDefault "volumes" [] s.volumes,
    .required "resources" s.resources,
    .withDefault "placement_policy" .any s.placementPolicy,
    .withDefault "args" [] s.args,
    .withDefault "env" ∅ s.env]

/-- So has that of a task. -/
instance : LawfulRecord mode TaskSpec where
  nodup_names _ := by simp [FieldSlot.names, Record.slots]
  encode_eq _ := rfl
  decodeIn_eq_some_iff j s := by
    refine FieldSlot.bind_eq_some_iff_reads rfl fun get positional => ?_
    cases s
    simp [Record.slots, ↓Fields.read_eq_some_iff]

end Orchestration
