import Orchestration.Operation

/-!
# Settings

How the engines are set up: what admission allows, how long a stop waits, and the pauses between
attempts.  Every field of a settings record has a value of its own when it is missing.
-/

namespace Orchestration

/-- What admission allows on a cluster.  No allowed directory means that any may be mounted. -/
structure AdmissionSettings where
  allowedMountDirs : List String := []
  disableCmdlArgs : Bool := false
  enableRawDeviceAccess : Bool := false
  maxCmdlArgsLength : UInt64 := 2048
  deriving DecidableEq, Repr, Inhabited

/-- The settings of admission may all be missing. -/
instance : Wire AdmissionSettings where
  encode s := .obj [
    ("allowed_mount_dirs", encode s.allowedMountDirs),
    ("disable_cmdl_args", encode s.disableCmdlArgs),
    ("enable_raw_device_access", encode s.enableRawDeviceAccess),
    ("max_cmdl_args_length", encode s.maxCmdlArgsLength)]
  decodeIn mode j := do
    let f ← Fields.of? mode ["allowed_mount_dirs", "disable_cmdl_args", "enable_raw_device_access",
      "max_cmdl_args_length"] j
    let d : AdmissionSettings := {}
    return {
      allowedMountDirs := ← f.withDefault "allowed_mount_dirs" d.allowedMountDirs
      disableCmdlArgs := ← f.withDefault "disable_cmdl_args" d.disableCmdlArgs
      enableRawDeviceAccess :=
        ← f.withDefault "enable_raw_device_access" d.enableRawDeviceAccess
      maxCmdlArgsLength := ← f.withDefault "max_cmdl_args_length" d.maxCmdlArgsLength }

/-- How a condition is polled: the pause between polls, the number of pauses, and the time after
which no further pause begins. -/
structure RetrySpec where
  intervalMs : UInt64 := 1000
  maxAttempts : UInt32 := 60
  maxDurationMs : UInt64 := 60000
  deriving DecidableEq, Repr, Inhabited

/-- So may those of a wait. -/
instance : Wire RetrySpec where
  encode s := .obj [
    ("interval_ms", encode s.intervalMs), ("max_attempts", encode s.maxAttempts),
    ("max_duration_ms", encode s.maxDurationMs)]
  decodeIn mode j := do
    let f ← Fields.of? mode ["interval_ms", "max_attempts", "max_duration_ms"] j
    let d : RetrySpec := {}
    return {
      intervalMs := ← f.withDefault "interval_ms" d.intervalMs
      maxAttempts := ← f.withDefault "max_attempts" d.maxAttempts
      maxDurationMs := ← f.withDefault "max_duration_ms" d.maxDurationMs }

/-- The settings of an engine. -/
structure EngineSettings where
  admission : AdmissionSettings := {}
  defaultOpSpec : ClusterOpSpec := {}
  stopRetry : RetrySpec := {}
  errorBackoffMs : UInt64 := 100
  taskMonitorIntervalMs : UInt64 := 5000
  eventChannelCapacity : UInt64 := 16384
  deriving DecidableEq, Repr

/-- The settings of an engine that is told nothing. -/
instance : Inhabited EngineSettings :=
  ⟨{}⟩

/-- The settings of an engine may all be missing; how an operation is carried out is given in full
or not at all. -/
instance : Wire EngineSettings where
  encode s := .obj [
    ("admission", encode s.admission),
    ("default_op_spec", encode s.defaultOpSpec),
    ("stop_retry", encode s.stopRetry),
    ("error_backoff_ms", encode s.errorBackoffMs),
    ("task_monitor_interval_ms", encode s.taskMonitorIntervalMs),
    ("event_channel_capacity", encode s.eventChannelCapacity)]
  decodeIn mode j := do
    let f ← Fields.of? mode ["admission", "default_op_spec", "stop_retry", "error_backoff_ms",
      "task_monitor_interval_ms", "event_channel_capacity"] j
    let d : EngineSettings := {}
    return {
      admission := ← f.withDefault "admission" d.admission
      defaultOpSpec := ← f.withDefault "default_op_spec" d.defaultOpSpec
      stopRetry := ← f.withDefault "stop_retry" d.stopRetry
      errorBackoffMs := ← f.withDefault "error_backoff_ms" d.errorBackoffMs
      taskMonitorIntervalMs := ← f.withDefault "task_monitor_interval_ms" d.taskMonitorIntervalMs
      eventChannelCapacity := ← f.withDefault "event_channel_capacity" d.eventChannelCapacity }

end Orchestration
