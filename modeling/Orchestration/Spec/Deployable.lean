import Orchestration.Spec.Container
import Orchestration.Spec.Placement
import Orchestration.Spec.Resource

/-!
# Deployables

What a client asks to run: applications (scaled across the cluster), local services (some
instances on every executor) and tasks (run once).  Applications and local services are identified
by their name and version.
-/

namespace Orchestration

/-- A long-running workload that is scaled across the cluster. -/
structure ApplicationSpec where
  name : String
  version : String
  executable : Executable
  exposedPorts : List PortSpec := []
  volumes : List MountedVolume := []
  resources : List ResourceRequirement := []
  placementPolicy : PlacementPolicy := .any
  healthcheck : Option CheckSpec := none
  readiness : Option CheckSpec := none
  exposureSpec : Option ExposureSpec := none
  args : List String := []
  devices : List DeviceSpec := []
  env : SortedMap String String := ∅
  tags : SortedMap String String := ∅

namespace ApplicationSpec

instance : Wire ApplicationSpec where
  encode s := .obj [
    ("name", encode s.name),
    ("version", encode s.version),
    ("executable", encode s.executable),
    ("exposed_ports", encode s.exposedPorts),
    ("volumes", encode s.volumes),
    ("resources", encode s.resources),
    ("placement_policy", encode s.placementPolicy),
    ("healthcheck", encode s.healthcheck),
    ("readiness", encode s.readiness),
    ("exposure_spec", encode s.exposureSpec),
    ("args", encode s.args),
    ("devices", encode s.devices),
    ("env", encode s.env),
    ("tags", encode s.tags)]
  decodeIn mode j := do
    let f ← Fields.of? mode ["name", "version", "executable", "exposed_ports", "volumes",
      "resources", "placement_policy", "healthcheck", "readiness", "exposure_spec", "args",
      "devices", "env", "tags"] j
    return {
      name := ← f.required "name"
      version := ← f.required "version"
      executable := ← f.required "executable"
      exposedPorts := ← f.withDefault "exposed_ports" []
      volumes := ← f.withDefault "volumes" []
      resources := ← f.required "resources"
      placementPolicy := ← f.withDefault "placement_policy" .any
      healthcheck := ← f.optional "healthcheck"
      readiness := ← f.optional "readiness"
      exposureSpec := ← f.withDefault "exposure_spec" none
      args := ← f.withDefault "args" []
      devices := ← f.withDefault "devices" []
      env := ← f.withDefault "env" ∅
      tags := ← f.withDefault "tags" ∅ }

/-- The identifier of the application. -/
def id (s : ApplicationSpec) : DeployableId :=
  .ofNameVersion s.name s.version

end ApplicationSpec

/-- A service with one or more instances on every executor. -/
structure LocalServiceSpec where
  name : String
  version : String
  executable : Executable
  exposedPorts : List PortSpec := []
  volumes : List MountedVolume := []
  resources : List ResourceRequirement := []
  placementPolicy : PlacementPolicy := .localTo false
  healthcheck : Option CheckSpec := none
  readiness : Option CheckSpec := none
  args : List String := []
  devices : List DeviceSpec := []
  env : SortedMap String String := ∅
  tags : SortedMap String String := ∅

namespace LocalServiceSpec

instance : Wire LocalServiceSpec where
  encode s := .obj [
    ("name", encode s.name),
    ("version", encode s.version),
    ("executable", encode s.executable),
    ("exposed_ports", encode s.exposedPorts),
    ("volumes", encode s.volumes),
    ("resources", encode s.resources),
    ("placement_policy", encode s.placementPolicy),
    ("healthcheck", encode s.healthcheck),
    ("readiness", encode s.readiness),
    ("args", encode s.args),
    ("devices", encode s.devices),
    ("env", encode s.env),
    ("tags", encode s.tags)]
  decodeIn mode j := do
    let f ← Fields.of? mode ["name", "version", "executable", "exposed_ports", "volumes",
      "resources", "placement_policy", "healthcheck", "readiness", "args", "devices", "env",
      "tags"] j
    return {
      name := ← f.required "name"
      version := ← f.required "version"
      executable := ← f.required "executable"
      exposedPorts := ← f.withDefault "exposed_ports" []
      volumes := ← f.withDefault "volumes" []
      resources := ← f.required "resources"
      placementPolicy := ← f.required "placement_policy"
      healthcheck := ← f.optional "healthcheck"
      readiness := ← f.optional "readiness"
      args := ← f.withDefault "args" []
      devices := ← f.withDefault "devices" []
      env := ← f.withDefault "env" ∅
      tags := ← f.withDefault "tags" ∅ }

/-- The identifier of the service. -/
def id (s : LocalServiceSpec) : DeployableId :=
  .ofNameVersion s.name s.version

end LocalServiceSpec

/-- A piece of work that is run once, on behalf of an application. -/
structure TaskSpec where
  sourceAppName : String
  taskId : String
  executable : Executable
  volumes : List MountedVolume := []
  resources : List ResourceRequirement := []
  placementPolicy : PlacementPolicy := .any
  args : List String := []
  env : SortedMap String String := ∅

namespace TaskSpec

instance : Wire TaskSpec where
  encode s := .obj [
    ("source_app_name", encode s.sourceAppName),
    ("task_id", encode s.taskId),
    ("executable", encode s.executable),
    ("volumes", encode s.volumes),
    ("resources", encode s.resources),
    ("placement_policy", encode s.placementPolicy),
    ("args", encode s.args),
    ("env", encode s.env)]
  decodeIn mode j := do
    let f ← Fields.of? mode ["source_app_name", "task_id", "executable", "volumes", "resources",
      "placement_policy", "args", "env"] j
    return {
      sourceAppName := ← f.required "source_app_name"
      taskId := ← f.required "task_id"
      executable := ← f.required "executable"
      volumes := ← f.withDefault "volumes" []
      resources := ← f.required "resources"
      placementPolicy := ← f.withDefault "placement_policy" .any
      args := ← f.withDefault "args" []
      env := ← f.withDefault "env" ∅ }

end TaskSpec

/-- The two requirements of an instance that needs cores and memory. -/
def ResourceRequirement.ofCoresAndMemory (cores megabytes : UInt64) : List ResourceRequirement :=
  [.cpu cores, .memory megabytes]

end Orchestration
