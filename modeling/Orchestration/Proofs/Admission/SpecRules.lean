import Mathlib.Data.String.Basic
import Orchestration.Admission.Spec
import Orchestration.Proofs.Collection.Lookup

/-!
# Specifications against their rules

A specification is admitted when it keeps all rules that apply to it.  Which rules apply depends on
what it asks for: there is one for every HTTP check, one for an exposure and one for every volume,
and some that always apply.  A refusal names all rules that are broken, each by a message of its
own, in the order of the rules.

Applications and local services share the rules.  They differ in the placement that they need, and
local services are never exposed.

Main results:

- `SpecRequest.admissible_iff`: a specification is admissible when it keeps all rules that apply.
- `ApplicationSpec.violations_eq`, `LocalServiceSpec.violations_eq`: the violations are the messages
  of the broken rules.
- `specs_reviewed`: what specifications are admitted for, and what a refusal says.
-/

namespace Orchestration

/-! ## What a specification asks for -/

/-- The port that a check goes to, if it goes to a port. -/
def CheckSpec.portName? (c : CheckSpec) : Option String :=
  match c.mode with
  | .http portName _ _ => some portName
  | .cmd _ => none

/-- What admission reads of a specification.  `pinned` says whether the instances have to be pinned
to the executors, or must not be. -/
structure SpecRequest where
  ports : List PortSpec
  healthcheck : Option CheckSpec
  readiness : Option CheckSpec
  resources : List ResourceRequirement
  exposure : Option ExposureSpec
  volumes : List MountedVolume
  args : List String
  devices : List DeviceSpec
  placement : PlacementPolicy
  pinned : Bool

/-- An application is not pinned to the executors. -/
def ApplicationSpec.request (s : ApplicationSpec) : SpecRequest where
  ports := s.exposedPorts
  healthcheck := s.healthcheck
  readiness := s.readiness
  resources := s.resources
  exposure := s.exposureSpec
  volumes := s.volumes
  args := s.args
  devices := s.devices
  placement := s.placementPolicy
  pinned := false

/-- A local service is pinned to the executors, and never exposed. -/
def LocalServiceSpec.request (s : LocalServiceSpec) : SpecRequest where
  ports := s.exposedPorts
  healthcheck := s.healthcheck
  readiness := s.readiness
  resources := s.resources
  exposure := none
  volumes := s.volumes
  args := s.args
  devices := s.devices
  placement := s.placementPolicy
  pinned := true

/-- The rules for specifications. -/
inductive AdmissionRule where
  /-- The port that an HTTP check goes to is declared. -/
  | check (portName : String)
  /-- Cores are required. -/
  | cpu
  /-- Memory is required. -/
  | memory
  /-- The port that is exposed is declared. -/
  | exposure (portName : String)
  /-- The host path of a volume may be mounted. -/
  | volume (path : String)
  /-- Arguments may be passed, and are not too long. -/
  | arguments
  /-- Devices may be passed. -/
  | devices
  /-- The placement is one for the kind of the deployable. -/
  | placement
  deriving DecidableEq, Repr

namespace SpecRequest

/-- A port of that name is declared. -/
def Declares (r : SpecRequest) (name : String) : Prop :=
  ∃ p ∈ r.ports, p.name = name

instance (r : SpecRequest) (name : String) : Decidable (r.Declares name) :=
  inferInstanceAs (Decidable (∃ p ∈ r.ports, p.name = name))

/-- The bytes of all arguments with one more between any two of them. -/
def joinedLength : List String → Nat
  | [] => 0
  | [arg] => arg.utf8ByteSize
  | arg :: next :: rest => arg.utf8ByteSize + 1 + joinedLength (next :: rest)

/-- A rule is kept. -/
def Keeps (settings : AdmissionSettings) (r : SpecRequest) : AdmissionRule → Prop
  | .check portName => r.Declares portName
  | .cpu => ∃ x ∈ r.resources, x.isCpu = true
  | .memory => ∃ x ∈ r.resources, x.isMemory = true
  | .exposure portName => r.Declares portName
  | .volume path =>
    settings.allowedMountDirs = [] ∨ ∃ dir ∈ settings.allowedMountDirs, dir.toList <+: path.toList
  | .arguments =>
    if settings.disableCmdlArgs then r.args = []
    else joinedLength r.args ≤ settings.maxCmdlArgsLength.toNat
  | .devices => settings.enableRawDeviceAccess = true ∨ r.devices = []
  | .placement => r.placement.isLocal = r.pinned

instance (settings : AdmissionSettings) (r : SpecRequest) : DecidablePred (r.Keeps settings)
  | .check portName => inferInstanceAs (Decidable (r.Declares portName))
  | .cpu => inferInstanceAs (Decidable (∃ x ∈ r.resources, x.isCpu = true))
  | .memory => inferInstanceAs (Decidable (∃ x ∈ r.resources, x.isMemory = true))
  | .exposure portName => inferInstanceAs (Decidable (r.Declares portName))
  | .volume path => inferInstanceAs (Decidable (settings.allowedMountDirs = [] ∨
      ∃ dir ∈ settings.allowedMountDirs, dir.toList <+: path.toList))
  | .arguments => inferInstanceAs (Decidable (if settings.disableCmdlArgs then r.args = []
      else joinedLength r.args ≤ settings.maxCmdlArgsLength.toNat))
  | .devices =>
    inferInstanceAs (Decidable (settings.enableRawDeviceAccess = true ∨ r.devices = []))
  | .placement => inferInstanceAs (Decidable (r.placement.isLocal = r.pinned))

/-- The rules that apply to a specification, in their order. -/
def rules (r : SpecRequest) : List AdmissionRule :=
  ((r.healthcheck.toList ++ r.readiness.toList).filterMap CheckSpec.portName?).map
      AdmissionRule.check ++
    [AdmissionRule.cpu, .memory] ++
    r.exposure.toList.map (fun e => AdmissionRule.exposure e.portName) ++
    r.volumes.map (fun v => AdmissionRule.volume v.pathOnHost) ++
    [AdmissionRule.arguments, .devices, .placement]

/-- The rules that a specification breaks, in their order. -/
def broken (settings : AdmissionSettings) (r : SpecRequest) : List AdmissionRule :=
  r.rules.filter (fun rule => ¬ r.Keeps settings rule)

/-- What is said of a broken rule, given the names of the declared ports. -/
def message (settings : AdmissionSettings) (r : SpecRequest) (declared : List String) :
    AdmissionRule → String
  | .check portName =>
    "Invalid port name for health check: " ++ portName ++ ". Available ports: " ++
      Listing.bracketed declared
  | .cpu => "Cpu requirements are mandatory"
  | .memory => "Memory requirements are mandatory"
  | .exposure portName =>
    "Exposed port name " ++ portName ++ " is undefined. Defined port names: " ++
      Listing.bracketed declared
  | .volume path => "Volume mount requested on non whitelisted host directory: " ++ path
  | .arguments =>
    if settings.disableCmdlArgs then
      "Passing command line to containers is disabled on this cluster"
    else
      "Maximum combined length of command line arguments can be " ++
        toString settings.maxCmdlArgsLength.toNat
  | .devices =>
    "Device access is disabled. To enable, set enable_raw_device_access: true in controller " ++
      "options."
  | .placement =>
    if r.pinned then "Only local placement is allowed for local services"
    else "Local service placement is not allowed for apps"

/-- A specification may be admitted. -/
structure Admissible (settings : AdmissionSettings) (r : SpecRequest) : Prop where
  healthcheck : ∀ c, r.healthcheck = some c → ∀ name, c.portName? = some name → r.Declares name
  readiness : ∀ c, r.readiness = some c → ∀ name, c.portName? = some name → r.Declares name
  cpu : ∃ x ∈ r.resources, x.isCpu = true
  memory : ∃ x ∈ r.resources, x.isMemory = true
  exposure : ∀ e, r.exposure = some e → r.Declares e.portName
  volumes : ∀ v ∈ r.volumes, settings.allowedMountDirs = [] ∨
    ∃ dir ∈ settings.allowedMountDirs, dir.toList <+: v.pathOnHost.toList
  disabled : settings.disableCmdlArgs = true → r.args = []
  arguments : settings.disableCmdlArgs = false →
    joinedLength r.args ≤ settings.maxCmdlArgsLength.toNat
  devices : settings.enableRawDeviceAccess = false → r.devices = []
  placement : r.placement.isLocal = r.pinned

/-- A specification is admissible when it keeps all rules that apply to it. -/
theorem admissible_iff (settings : AdmissionSettings) (r : SpecRequest) :
    r.Admissible settings ↔ ∀ rule ∈ r.rules, r.Keeps settings rule := by
  constructor
  · intro h rule hrule
    simp only [rules, List.mem_append, List.mem_map, List.mem_filterMap, Option.mem_toList,
      List.mem_cons, List.not_mem_nil, or_false] at hrule
    rcases hrule with (((⟨name, ⟨c, hc, hname⟩, rfl⟩ | rfl | rfl) | ⟨e, he, rfl⟩) | ⟨v, hv, rfl⟩) |
      rfl | rfl | rfl
    · rcases hc with hhealth | hready
      · exact h.healthcheck c hhealth name hname
      · exact h.readiness c hready name hname
    · exact h.cpu
    · exact h.memory
    · exact h.exposure e he
    · exact h.volumes v hv
    · cases hdisabled : settings.disableCmdlArgs with
      | true => simpa [Keeps, hdisabled] using h.disabled hdisabled
      | false => simpa [Keeps, hdisabled] using h.arguments hdisabled
    · cases henabled : settings.enableRawDeviceAccess with
      | true => exact .inl henabled
      | false => exact .inr (h.devices henabled)
    · exact h.placement
  · intro h
    have hcheck (c : CheckSpec) (hc : c ∈ r.healthcheck.toList ++ r.readiness.toList)
        (name : String) (hname : c.portName? = some name) : r.Declares name := by
      apply h (.check name)
      simp only [rules, List.mem_append, List.mem_map, List.mem_filterMap]
      exact .inl (.inl (.inl (.inl ⟨name, ⟨c, List.mem_append.1 hc, hname⟩, rfl⟩)))
    have harguments := h .arguments (by simp [rules])
    have hdevices := h .devices (by simp [rules])
    refine
      { healthcheck := ?_
        readiness := ?_
        cpu := h .cpu (by simp [rules])
        memory := h .memory (by simp [rules])
        exposure := ?_
        volumes := ?_
        disabled := ?_
        arguments := ?_
        devices := ?_
        placement := h .placement (by simp [rules]) }
    · intro c hc
      exact hcheck c (by simp [hc])
    · intro c hc
      exact hcheck c (by simp [hc])
    · intro e he
      exact h (.exposure e.portName) (by simp [rules, he])
    · intro v hv
      exact h (.volume v.pathOnHost) (by simp [rules]; exact ⟨v, hv, rfl⟩)
    · intro hdisabled
      simpa [Keeps, hdisabled] using harguments
    · intro hdisabled
      simpa [Keeps, hdisabled] using harguments
    · intro henabled
      rcases hdevices with hallowed | hnone
      · rw [henabled] at hallowed
        cases hallowed
      · exact hnone

end SpecRequest

/-! ## One rule after the other -/

namespace SpecRule

open SpecRequest

/-- The names that are listed are those of the declared ports. -/
theorem mem_portNames_iff {ports : List PortSpec} {name : String} :
    name ∈ portNames ports ↔ ∃ p ∈ ports, p.name = name := by
  rw [portNames, SortedSet.mem_toList_ofList, List.mem_map]

/-- The names of the declared ports are listed in their order, each once. -/
theorem pairwise_portNames (ports : List PortSpec) : (portNames ports).Pairwise (· < ·) := by
  apply (SortedSet.pairwise_toList _).imp
  intro a b hlt
  exact compare_lt_iff_lt.1 hlt

/-- The arguments with a space between any two of them have as many bytes as they have, and the
spaces. -/
theorem argumentsLength_eq (args : List String) : argumentsLength args = joinedLength args := by
  unfold argumentsLength
  induction args using joinedLength.induct with
  | case1 => decide
  | case2 arg => rw [String.intercalate_singleton, joinedLength]
  | case3 arg next rest ih =>
      have hspace : (" " : String).utf8ByteSize = 1 := by decide
      rw [String.intercalate_cons_cons, String.utf8ByteSize_append, String.utf8ByteSize_append, ih,
        hspace, joinedLength]

variable (settings : AdmissionSettings) (r : SpecRequest)

/-- The messages of the broken ones among some rules. -/
def messages (rules : List AdmissionRule) : List String :=
  (rules.filter (fun rule => ¬ r.Keeps settings rule)).map
    (r.message settings (portNames r.ports))

/-- The messages of some rules come before those of the rules behind them. -/
theorem messages_append (rules rules' : List AdmissionRule) :
    messages settings r (rules ++ rules') =
      messages settings r rules ++ messages settings r rules' := by
  rw [messages, List.filter_append, List.map_append]
  rfl

/-- A single rule has a message when it is broken. -/
theorem messages_singleton (rule : AdmissionRule) :
    messages settings r [rule] =
      if r.Keeps settings rule then [] else [r.message settings (portNames r.ports) rule] := by
  by_cases hkeeps : r.Keeps settings rule <;> simp [messages, hkeeps]

/-- A port is declared when its name is among those of the ports. -/
theorem contains_names_iff {name : String} :
    (r.ports.map (·.name)).contains name = true ↔ r.Declares name := by
  rw [List.contains_iff_mem, List.mem_map]
  rfl

/-- A check complains about its own port only, and only over HTTP. -/
theorem check_eq (c? : Option CheckSpec) :
    check r.ports c? =
      messages settings r ((c?.toList.filterMap CheckSpec.portName?).map .check) := by
  cases c? with
  | none => rfl
  | some c =>
      obtain ⟨mode, _, _, _, _⟩ := c
      cases mode with
      | cmd command => rfl
      | http portName path codes =>
          show check r.ports _ = messages settings r [.check portName]
          rw [messages_singleton]
          simp only [check, contains_names_iff]
          rfl

/-- Cores are missed before memory is. -/
theorem resources_eq : resources r.resources = messages settings r [.cpu, .memory] := by
  rw [show [AdmissionRule.cpu, .memory] = [.cpu] ++ [.memory] from rfl, messages_append,
    messages_singleton, messages_singleton]
  simp only [resources, List.any_eq_true]
  rfl

/-- An exposure complains about its port. -/
theorem exposure_eq (e? : Option ExposureSpec) :
    exposure r.ports e? =
      messages settings r (e?.toList.map (fun e => .exposure e.portName)) := by
  cases e? with
  | none => rfl
  | some e =>
      show exposure r.ports _ = messages settings r [.exposure e.portName]
      rw [messages_singleton]
      simp only [exposure, contains_names_iff]
      rfl

/-- A path may be mounted when it begins with the text of an allowed directory, if any is listed. -/
theorem mayMount_iff (path : String) :
    mayMount settings path = true ↔ settings.allowedMountDirs = [] ∨
      ∃ dir ∈ settings.allowedMountDirs, dir.toList <+: path.toList := by
  simp [mayMount, startsWith, List.isPrefixOf_iff_prefix]

/-- Every volume that may not be mounted has a message. -/
theorem volumes_eq (vs : List MountedVolume) :
    volumes settings vs = messages settings r (vs.map (fun v => .volume v.pathOnHost)) := by
  rw [volumes, messages, List.filter_map, List.map_map]
  have hkept : ∀ v : MountedVolume, (!mayMount settings v.pathOnHost) =
      decide (¬ r.Keeps settings (.volume v.pathOnHost)) := by
    intro v
    rw [Bool.eq_iff_iff, decide_eq_true_iff, Bool.not_eq_true', ← Bool.not_eq_true, mayMount_iff]
    rfl
  simp only [hkept]
  rfl

/-- Arguments are refused once, either as such or for their length. -/
theorem arguments_eq : arguments settings r.args = messages settings r [.arguments] := by
  rw [messages_singleton]
  by_cases hkeeps : r.Keeps settings .arguments
  · rw [if_pos hkeeps]
    unfold Keeps at hkeeps
    unfold arguments
    rw [argumentsLength_eq]
    cases hdisabled : settings.disableCmdlArgs with
    | true =>
        rw [if_pos hdisabled] at hkeeps
        rw [hkeeps]
        rfl
    | false =>
        rw [if_neg (by simp [hdisabled])] at hkeeps
        rw [if_neg (by simp), if_neg (Nat.not_lt.2 hkeeps)]
  · rw [if_neg hkeeps]
    unfold Keeps at hkeeps
    unfold arguments message
    rw [argumentsLength_eq]
    cases hdisabled : settings.disableCmdlArgs with
    | true =>
        rw [if_pos hdisabled] at hkeeps
        rw [if_pos (by simp [hkeeps])]
        rfl
    | false =>
        rw [if_neg (by simp [hdisabled])] at hkeeps
        rw [if_neg (by simp), if_pos (Nat.lt_of_not_le hkeeps)]
        rfl

/-- Devices are refused once, however many there are. -/
theorem devices_eq : devices settings r.devices = messages settings r [.devices] := by
  rw [messages_singleton]
  by_cases hkeeps : r.Keeps settings .devices
  · rw [if_pos hkeeps]
    unfold devices
    rcases hkeeps with henabled | hnone
    · rw [henabled]
      rfl
    · rw [hnone]
      cases settings.enableRawDeviceAccess <;> rfl
  · rw [if_neg hkeeps]
    unfold Keeps at hkeeps
    rw [not_or, Bool.not_eq_true] at hkeeps
    unfold devices
    rw [hkeeps.1, if_pos (by simp [hkeeps.2])]
    rfl

/-- The messages of all broken rules, kind by kind. -/
theorem messages_rules : messages settings r r.rules =
    check r.ports r.healthcheck ++ check r.ports r.readiness ++ resources r.resources ++
      exposure r.ports r.exposure ++ volumes settings r.volumes ++ arguments settings r.args ++
      devices settings r.devices ++ messages settings r [.placement] := by
  have hrules : r.rules =
      (r.healthcheck.toList.filterMap CheckSpec.portName?).map AdmissionRule.check ++
      (r.readiness.toList.filterMap CheckSpec.portName?).map AdmissionRule.check ++
      [AdmissionRule.cpu, .memory] ++
      r.exposure.toList.map (fun e => AdmissionRule.exposure e.portName) ++
      r.volumes.map (fun v => AdmissionRule.volume v.pathOnHost) ++
      [AdmissionRule.arguments] ++ [AdmissionRule.devices] ++ [AdmissionRule.placement] := by
    simp [rules]
  rw [hrules]
  simp only [messages_append]
  rw [← check_eq, ← check_eq, ← resources_eq, ← exposure_eq, ← volumes_eq, ← arguments_eq,
    ← devices_eq]

end SpecRule

open SpecRequest SpecRule

/-! ## Whole specifications -/

/-- The violations of an application specification are the messages of its broken rules. -/
theorem ApplicationSpec.violations_eq (settings : AdmissionSettings) (s : ApplicationSpec) :
    s.violations settings = (s.request.broken settings).map
      (s.request.message settings (portNames s.exposedPorts)) := by
  have hplacement : (if s.placementPolicy.isLocal then
      ["Local service placement is not allowed for apps"] else []) =
      messages settings s.request [.placement] := by
    rw [messages_singleton]
    unfold message Keeps
    cases hlocal : s.placementPolicy.isLocal <;> simp [request, hlocal]
  show _ = messages settings s.request s.request.rules
  rw [messages_rules, ← hplacement]
  rfl

/-- The violations of a local service specification are the messages of its broken rules. -/
theorem LocalServiceSpec.violations_eq (settings : AdmissionSettings) (s : LocalServiceSpec) :
    s.violations settings = (s.request.broken settings).map
      (s.request.message settings (portNames s.exposedPorts)) := by
  have hplacement : (if s.placementPolicy.isLocal then []
      else ["Only local placement is allowed for local services"]) =
      messages settings s.request [.placement] := by
    rw [messages_singleton]
    unfold message Keeps
    cases hlocal : s.placementPolicy.isLocal <;> simp [request, hlocal]
  have hexposure : exposure s.request.ports s.request.exposure = [] := rfl
  show _ = messages settings s.request s.request.rules
  rw [messages_rules, ← hplacement, hexposure, List.append_nil]
  rfl

/-- The verdict on a specification.  It is admitted when it is admissible; a refusal consists of the
messages of the rules that it breaks and of nothing else, one for each and in the order of the
rules, in which the names of the declared ports are listed in their order, each once. -/
structure SpecReviewed (settings : AdmissionSettings) (r : SpecRequest) (v : Verdict) : Prop where
  accepted : v.isSuccess = true ↔ r.Admissible settings
  refused : v.isSuccess = false → ∃ declared : List String, declared.Pairwise (· < ·) ∧
    (∀ name, name ∈ declared ↔ r.Declares name) ∧
    v = ⟨.failure, (r.broken settings).map (r.message settings declared)⟩

/-- A verdict over the messages of the broken rules. -/
theorem specReviewed_ofErrors (settings : AdmissionSettings) (r : SpecRequest) :
    SpecReviewed settings r (.ofErrors ((r.broken settings).map
      (r.message settings (portNames r.ports)))) where
  accepted := by
    rw [Verdict.isSuccess_ofErrors, List.map_eq_nil_iff, broken, List.filter_eq_nil_iff,
      admissible_iff]
    simp
  refused := by
    intro hrefused
    refine ⟨portNames r.ports, pairwise_portNames _, fun _ => mem_portNames_iff, ?_⟩
    cases hbroken : r.broken settings with
    | nil =>
        rw [hbroken] at hrefused
        cases hrefused
    | cons rule rest => exact Verdict.ofErrors_cons _ _

/-- Every specification of an application or a local service is admitted exactly if it is
admissible, and a refusal names the broken rules, each by one message and in their order. -/
theorem specs_reviewed (settings : AdmissionSettings) :
    (∀ s : ApplicationSpec, SpecReviewed settings s.request (s.review settings)) ∧
      ∀ s : LocalServiceSpec, SpecReviewed settings s.request (s.review settings) := by
  constructor
  · intro s
    rw [ApplicationSpec.review, s.violations_eq]
    exact specReviewed_ofErrors settings s.request
  · intro s
    rw [LocalServiceSpec.review, s.violations_eq]
    exact specReviewed_ofErrors settings s.request

end Orchestration
