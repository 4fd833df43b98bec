import Orchestration.Number.Shortest
import Orchestration.Settings.Engine
import Orchestration.Text.Numeral

/-!
# Reading settings leniently

The text of a variable does not say what it is meant to be, so the fields of settings are read
leniently: a truth value may be given as a number or a word, a number as a word or with a fraction,
a text as a number.  A number that is no integer goes to the nearest one.  A record is a table, or
a list of its fields in their order.

Main definitions: `LenientReader.read?` and its instances.
-/

namespace Orchestration

/-- A field reader of settings. -/
class LenientReader (α : Type) where
  read? : Json → Option α

namespace LenientReader

/-- The words for the two truth values. -/
def truthWords : List String × List String :=
  (["true", "on", "yes"], ["false", "off", "no"])

/-- The digits of a number behind an optional plus sign. -/
def plainNat? (s : String) : Option Nat :=
  let cs := match s.toList with
    | '+' :: cs => cs
    | cs => cs
  match Numeral.spanDigits cs with
  | (d :: ds, []) => some (Numeral.value (d :: ds))
  | _ => none

/-- A word that is given as a text. -/
def wordOfText (s : String) : Option UInt64 :=
  if truthWords.1.contains s.toLower then some 1
  else if truthWords.2.contains s.toLower then some 0
  else (plainNat? s).bind (fun n => if n < UInt64.size then some (UInt64.ofNat n) else none)

/-- A number may be given as a truth value, as a word, or as a text of digits; a fraction goes to
the nearest integer. -/
instance : LenientReader UInt64 where
  read?
    | .int n => if 0 ≤ n ∧ n < UInt64.size then some (UInt64.ofNat n.toNat) else none
    | .real d => some d.nearestWord
    | .bool b => some (if b then 1 else 0)
    | .str s => wordOfText s
    | _ => none

/-- Of the numbers that are read so, those that are too large are refused. -/
instance : LenientReader UInt32 where
  read? j :=
    (read? j : Option UInt64).bind
      (fun n => if n.toNat < UInt32.size then some (UInt32.ofNat n.toNat) else none)

/-- A truth value may be given as any number; as a text only by a word, `0` or `1`. -/
instance : LenientReader Bool where
  read?
    | .bool b => some b
    | .int n => some (n ≠ 0)
    | .real d => some (!d.isZero)
    | .str s =>
      if ("1" :: truthWords.1).contains s.toLower then some true
      else if ("0" :: truthWords.2).contains s.toLower then some false
      else none
    | _ => none

/-- A truth value and a number may stand for their texts; nothing else may. -/
instance : LenientReader String where
  read?
    | .str s => some s
    | .bool b => some (if b then "true" else "false")
    | .int n => some (toString n)
    | .real d => some d.render
    | _ => none

/-- A list is read item by item; a single value is no list. -/
instance {α : Type} [LenientReader α] : LenientReader (List α) where
  read?
    | .arr items => items.mapM read?
    | _ => none

/-- A strategy goes by its name, in letters of any case. -/
instance : LenientReader FailureStrategy where
  read? j :=
    let named (s : String) : Option FailureStrategy :=
      Named.members.find? (fun f => (Named.name f).toLower == s.toLower)
    match j with
    | .str s => named s
    | .obj [(s, _)] => named s
    | _ => none

/-- A field of a table that may be missing.  A list stands for the fields in their order. -/
def field? {α : Type} [LenientReader α] (names : List String) (j : Json) (name : String)
    (default : Option α) : Option α :=
  let fields : Option (List (String × Json)) :=
    match j with
    | .obj fields => some fields
    | .arr items => some (names.zip items)
    | _ => none
  fields.bind fun fields =>
    match Json.field? name fields with
    | some j => read? j
    | none => default

/-- The settings of admission may all be missing. -/
instance : LenientReader AdmissionSettings where
  read? j :=
    let field {α : Type} [LenientReader α] (name : String) (default : α) : Option α :=
      field? ["allowed_mount_dirs", "disable_cmdl_args", "enable_raw_device_access",
        "max_cmdl_args_length"] j name (some default)
    let d : AdmissionSettings := {}
    return {
      allowedMountDirs := ← field "allowed_mount_dirs" d.allowedMountDirs
      disableCmdlArgs := ← field "disable_cmdl_args" d.disableCmdlArgs
      enableRawDeviceAccess := ← field "enable_raw_device_access" d.enableRawDeviceAccess
      maxCmdlArgsLength := ← field "max_cmdl_args_length" d.maxCmdlArgsLength }

/-- How an operation is carried out is given in full or not at all. -/
instance : LenientReader ClusterOpSpec where
  read? j :=
    let field {α : Type} [LenientReader α] (name : String) : Option α :=
      field? ["timeout_ms", "parallelism", "failure_strategy"] j name none
    return {
      timeoutMs := ← field "timeout_ms"
      parallelism := ← field "parallelism"
      failureStrategy := ← field "failure_strategy" }

/-- The settings of a wait may all be missing. -/
instance : LenientReader RetrySpec where
  read? j :=
    let field {α : Type} [LenientReader α] (name : String) (default : α) : Option α :=
      field? ["interval_ms", "max_attempts", "max_duration_ms"] j name (some default)
    let d : RetrySpec := {}
    return {
      intervalMs := ← field "interval_ms" d.intervalMs
      maxAttempts := ← field "max_attempts" d.maxAttempts
      maxDurationMs := ← field "max_duration_ms" d.maxDurationMs }

/-- So may those of an engine. -/
instance : LenientReader EngineSettings where
  read? j :=
    let field {α : Type} [LenientReader α] (name : String) (default : α) : Option α :=
      field? ["admission", "default_op_spec", "stop_retry", "error_backoff_ms",
        "task_monitor_interval_ms", "event_channel_capacity"] j name (some default)
    let d : EngineSettings := {}
    return {
      admission := ← field "admission" d.admission
      defaultOpSpec := ← field "default_op_spec" d.defaultOpSpec
      stopRetry := ← field "stop_retry" d.stopRetry
      errorBackoffMs := ← field "error_backoff_ms" d.errorBackoffMs
      taskMonitorIntervalMs := ← field "task_monitor_interval_ms" d.taskMonitorIntervalMs
      eventChannelCapacity := ← field "event_channel_capacity" d.eventChannelCapacity }

end LenientReader

end Orchestration
