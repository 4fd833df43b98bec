import Orchestration.Settings.Engine
import Orchestration.Text.Listing
import Orchestration.Verdict

/-!
# Admission of specifications

The rules that a specification has to keep before anything is created from it.  Every rule yields
the messages of its violations; a specification is admitted when no rule yields any.

Main definitions: `SpecRule.check`, `SpecRule.resources`, `SpecRule.exposure`,
`SpecRule.volumes`, `SpecRule.arguments`, `SpecRule.devices`, and the admission of whole
application and local service specifications.
-/

namespace Orchestration
namespace SpecRule

/-- The declared port names, sorted and without repetition. -/
def portNames (ports : List PortSpec) : List String :=
  (SortedSet.ofList (ports.map (·.name))).toList

/-- An HTTP check has to name a declared port. -/
def check (ports : List PortSpec) : Option CheckSpec → List String
  | some ⟨.http portName _ _, _, _, _, _⟩ =>
    if (ports.map (·.name)).contains portName then []
    else
      ["Invalid port name for health check: " ++ portName ++ ". Available ports: " ++
        Listing.bracketed (portNames ports)]
  | _ => []

/-- Cores and memory have to be required. -/
def resources (rs : List ResourceRequirement) : List String :=
  (if rs.any ResourceRequirement.isCpu then [] else ["Cpu requirements are mandatory"]) ++
    (if rs.any ResourceRequirement.isMemory then [] else ["Memory requirements are mandatory"])

/-- An exposure has to name a declared port. -/
def exposure (ports : List PortSpec) : Option ExposureSpec → List String
  | some e =>
    if (ports.map (·.name)).contains e.portName then []
    else
      ["Exposed port name " ++ e.portName ++ " is undefined. Defined port names: " ++
        Listing.bracketed (portNames ports)]
  | none => []

/-- Whether a host path starts with the text of an allowed directory. -/
def startsWith (dir path : String) : Bool :=
  dir.toList.isPrefixOf path.toList

/-- Whether a host path may be mounted: any may when no directory is listed as allowed. -/
def mayMount (settings : AdmissionSettings) (path : String) : Bool :=
  settings.allowedMountDirs.isEmpty ||
    settings.allowedMountDirs.any (fun dir => startsWith dir path)

/-- Every mounted host path has to be an allowed one. -/
def volumes (settings : AdmissionSettings) (vs : List MountedVolume) : List String :=
  (vs.filter (fun v => !mayMount settings v.pathOnHost)).map
    (fun v => "Volume mount requested on non whitelisted host directory: " ++ v.pathOnHost)

/-- The length of the arguments in bytes, with a space between them. -/
def argumentsLength (args : List String) : Nat :=
  (" ".intercalate args).utf8ByteSize

/-- Arguments have to be enabled, and not too long together. -/
def arguments (settings : AdmissionSettings) (args : List String) : List String :=
  if settings.disableCmdlArgs && !args.isEmpty then
    ["Passing command line to containers is disabled on this cluster"]
  else if settings.maxCmdlArgsLength.toNat < argumentsLength args then
    ["Maximum combined length of command line arguments can be " ++
      toString settings.maxCmdlArgsLength.toNat]
  else []

/-- Devices have to be enabled. -/
def devices (settings : AdmissionSettings) (ds : List DeviceSpec) : List String :=
  if !settings.enableRawDeviceAccess && !ds.isEmpty then
    ["Device access is disabled. To enable, set enable_raw_device_access: true in controller " ++
      "options."]
  else []

end SpecRule

namespace ApplicationSpec

/-- The messages of all rules that an application specification violates. -/
def violations (settings : AdmissionSettings) (s : ApplicationSpec) : List String :=
  SpecRule.check s.exposedPorts s.healthcheck ++
  SpecRule.check s.exposedPorts s.readiness ++
  SpecRule.resources s.resources ++
  SpecRule.exposure s.exposedPorts s.exposureSpec ++
  SpecRule.volumes settings s.volumes ++
  SpecRule.arguments settings s.args ++
  SpecRule.devices settings s.devices ++
  (if s.placementPolicy.isLocal then ["Local service placement is not allowed for apps"] else [])

/-- Whether an application may be created from a specification. -/
def review (settings : AdmissionSettings) (s : ApplicationSpec) : Verdict :=
  Verdict.ofErrors (s.violations settings)

end ApplicationSpec

namespace LocalServiceSpec

/-- The messages of all rules that a local service specification violates. -/
def violations (settings : AdmissionSettings) (s : LocalServiceSpec) : List String :=
  SpecRule.check s.exposedPorts s.healthcheck ++
  SpecRule.check s.exposedPorts s.readiness ++
  SpecRule.resources s.resources ++
  SpecRule.volumes settings s.volumes ++
  SpecRule.arguments settings s.args ++
  SpecRule.devices settings s.devices ++
  (if s.placementPolicy.isLocal then []
    else ["Only local placement is allowed for local services"])

/-- Whether a local service may be created from a specification. -/
def review (settings : AdmissionSettings) (s : LocalServiceSpec) : Verdict :=
  Verdict.ofErrors (s.violations settings)

end LocalServiceSpec
end Orchestration
