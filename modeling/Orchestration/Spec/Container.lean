import Orchestration.Json.Codec

/-!
# Containers

What a deployable runs and how its container is wired: image, ports, checks, exposure, mounted
volumes and devices.
-/

namespace Orchestration

/-- A container image. -/
structure Executable where
  image : String
  pullTimeoutMs : Option UInt64 := none
  deriving DecidableEq, Repr

instance : Wire Executable where
  encode e := .obj [("image", encode e.image), ("pull_timeout_ms", encode e.pullTimeoutMs)]
  decodeIn mode j := do
    let f ← Fields.of? mode ["image", "pull_timeout_ms"] j
    return {
      image := ← f.required "image"
      pullTimeoutMs := ← f.withDefault "pull_timeout_ms" none }

/-- The protocol that a port speaks. -/
inductive PortType where
  | http
  | https
  | tcp
  | udp
  deriving DecidableEq, Repr

instance : Named PortType where
  members := [.http, .https, .tcp, .udp]
  name
    | .http => "HTTP"
    | .https => "HTTPS"
    | .tcp => "TCP"
    | .udp => "UDP"

/-- A named port of a container. -/
structure PortSpec where
  name : String
  port : UInt16
  portType : PortType
  deriving DecidableEq, Repr

instance : Wire PortSpec where
  encode p := .obj [
    ("name", encode p.name), ("port", encode p.port), ("port_type", encode p.portType)]
  decodeIn mode j := do
    let f ← Fields.of? mode ["name", "port", "port_type"] j
    return {
      name := ← f.required "name"
      port := ← f.required "port"
      portType := ← f.required "port_type" }

/-- How a health or readiness check is made. -/
inductive CheckMode where
  | http (portName path : String) (successCodes : List UInt16)
  | cmd (command : String)
  deriving DecidableEq, Repr

/-- The names of the checks, in their order. -/
def CheckMode.caseNames : List String :=
  ["HTTP", "CMD"]

instance : Wire CheckMode where
  encode
    | .http portName path successCodes => .tagged "HTTP" [
        ("port_name", encode portName), ("path", encode path),
        ("success_codes", encode successCodes)]
    | .cmd command => .tagged "CMD" [("command", encode command)]
  decodeIn mode j := do
    let (tag, j) ← j.tagged? mode CheckMode.caseNames
    match tag with
    | "HTTP" =>
      let f ← Fields.of? .buffered ["port_name", "path", "success_codes"] j
      return .http (← f.required "port_name") (← f.required "path")
        (← f.withDefault "success_codes" [])
    | "CMD" =>
      let f ← Fields.of? .buffered ["command"] j
      return .cmd (← f.required "command")
    | _ => none

/-- A health or readiness check. -/
structure CheckSpec where
  mode : CheckMode
  timeoutMs : UInt64
  intervalMs : UInt64
  attempts : UInt32
  initialDelayMs : UInt64
  deriving DecidableEq, Repr

instance : Wire CheckSpec where
  encode c := .obj [
    ("mode", encode c.mode), ("timeout_ms", encode c.timeoutMs),
    ("interval_ms", encode c.intervalMs), ("attempts", encode c.attempts),
    ("initial_delay_ms", encode c.initialDelayMs)]
  decodeIn mode j := do
    let f ← Fields.of? mode ["mode", "timeout_ms", "interval_ms", "attempts", "initial_delay_ms"] j
    return {
      mode := ← f.required "mode"
      timeoutMs := ← f.required "timeout_ms"
      intervalMs := ← f.required "interval_ms"
      attempts := ← f.required "attempts"
      initialDelayMs := ← f.withDefault "initial_delay_ms" 0 }

/-- Whom a port is exposed to. -/
inductive ExposureMode where
  | all
  deriving DecidableEq, Repr

instance : Named ExposureMode where
  members := [.all]
  name
    | .all => "ALL"

/-- The exposure of one named port through service discovery. -/
structure ExposureSpec where
  vhost : String
  portName : String
  mode : ExposureMode
  deriving DecidableEq, Repr

instance : Wire ExposureSpec where
  encode e := .obj [
    ("vhost", encode e.vhost), ("port_name", encode e.portName), ("mode", encode e.mode)]
  decodeIn mode j := do
    let f ← Fields.of? mode ["vhost", "port_name", "mode"] j
    return {
      vhost := ← f.required "vhost"
      portName := ← f.required "port_name"
      mode := ← f.required "mode" }

/-- Whether a mounted volume may be written. -/
inductive MountMode where
  | readWrite
  | readOnly
  deriving DecidableEq, Repr

instance : Named MountMode where
  members := [.readWrite, .readOnly]
  name
    | .readWrite => "READ_WRITE"
    | .readOnly => "READ_ONLY"

/-- A host directory that is mounted into a container. -/
structure MountedVolume where
  pathInContainer : String
  pathOnHost : String
  mode : MountMode
  deriving DecidableEq, Repr

instance : Wire MountedVolume where
  encode v := .obj [
    ("path_in_container", encode v.pathInContainer), ("path_on_host", encode v.pathOnHost),
    ("mode", encode v.mode)]
  decodeIn mode j := do
    let f ← Fields.of? mode ["path_in_container", "path_on_host", "mode"] j
    return {
      pathInContainer := ← f.required "path_in_container"
      pathOnHost := ← f.required "path_on_host"
      mode := ← f.required "mode" }

/-- A host device that is passed to a container. -/
structure DeviceSpec where
  pathOnHost : String
  pathInContainer : Option String
  deriving DecidableEq, Repr

instance : Wire DeviceSpec where
  encode d := .obj [
    ("path_on_host", encode d.pathOnHost), ("path_in_container", encode d.pathInContainer)]
  decodeIn mode j := do
    let f ← Fields.of? mode ["path_on_host", "path_in_container"] j
    return {
      pathOnHost := ← f.required "path_on_host"
      pathInContainer := ← f.withDefault "path_in_container" none }

namespace PortSpec

/-- A port that speaks HTTP. -/
def http (name : String) (port : UInt16) : PortSpec :=
  ⟨name, port, .http⟩

end PortSpec

namespace CheckSpec

/-- An HTTP check that expects the code 200, three times every three seconds. -/
def http (portName path : String) : CheckSpec :=
  ⟨.http portName path [200], 1000, 3000, 3, 0⟩

end CheckSpec
end Orchestration
