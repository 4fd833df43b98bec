import Orchestration.Proofs.Admission.HostPath
import Orchestration.Proofs.Admission.SpecRules
import Orchestration.Proofs.Task.Run

/-!
# Mounts against the listed directories

A host path is let through when it begins with the text of a listed directory.  That is a different
thing from lying in one: the text of a directory also continues to the names of its neighbours, and
by segments that go up to any other place.  All kinds of specifications with volumes are treated
alike.

Main results:

- `MountKind.MountsReviewed.of_byText`: what follows for a kind of specification from the comparison
  by text.
- `mounts_reviewed`: the mounts of a kind of specification are confined to the listed directories
  exactly if the root is among them, and nothing relative is.
-/

namespace Orchestration

open HostPath SpecRule SpecRequest

/-! ## The refusal of a host path -/

/-- What is said of a host path that may not be mounted. -/
def mountRefusal (path : String) : String :=
  "Volume mount requested on non whitelisted host directory: " ++ path

/-- The refusal of a path names it. -/
theorem mountRefusal_inj {path path' : String} :
    mountRefusal path = mountRefusal path' ↔ path = path' :=
  String.append_right_inj _

/-- A text that is continued keeps its first character. -/
theorem head?_append {first rest : String} {c : Char} (h : first.toList.head? = some c) :
    (first ++ rest).toList.head? = some c := by
  rw [String.toList_append, List.head?_append, h, Option.some_or]

/-- A message that begins otherwise is not the refusal of a host path. -/
theorem ne_mountRefusal {message : String} {c : Char} (h : message.toList.head? = some c)
    (hc : c ≠ 'V') (path : String) : message ≠ mountRefusal path := by
  rintro rfl
  have hV : (mountRefusal path).toList.head? = some 'V' := head?_append rfl
  rw [hV, Option.some_inj] at h
  exact hc h.symm

/-- The messages of all rules but those for volumes begin otherwise. -/
theorem message_ne_mountRefusal {settings : AdmissionSettings} {r : SpecRequest}
    {declared : List String} {rule : AdmissionRule} (h : ∀ path, rule ≠ .volume path)
    (path : String) : r.message settings declared rule ≠ mountRefusal path := by
  unfold message
  cases rule with
  | volume path' => exact absurd rfl (h path')
  | check _ =>
      exact ne_mountRefusal (c := 'I') (head?_append (head?_append (head?_append (by decide))))
        (by decide) path
  | cpu =>
      dsimp only
      exact ne_mountRefusal (c := 'C') (by decide) (by decide) path
  | memory =>
      dsimp only
      exact ne_mountRefusal (c := 'M') (by decide) (by decide) path
  | exposure _ =>
      exact ne_mountRefusal (c := 'E') (head?_append (head?_append (head?_append (by decide))))
        (by decide) path
  | arguments =>
      dsimp only
      split
      · exact ne_mountRefusal (c := 'P') (by decide) (by decide) path
      · exact ne_mountRefusal (c := 'M') (head?_append (by decide)) (by decide) path
  | devices => exact ne_mountRefusal (c := 'D') (head?_append (by decide)) (by decide) path
  | placement =>
      dsimp only
      split
      · exact ne_mountRefusal (c := 'O') (by decide) (by decide) path
      · exact ne_mountRefusal (c := 'L') (by decide) (by decide) path

/-- A path begins with the text of a listed directory. -/
def BeginsListed (dirs : List String) (path : String) : Prop :=
  ∃ dir ∈ dirs, dir.toList <+: path.toList

/-- The refusal of a host path is among the messages on a specification that asks for it, unless it
begins with the text of a listed directory. -/
theorem mountRefusal_mem_broken_iff {settings : AdmissionSettings} {r : SpecRequest}
    (hlisted : settings.allowedMountDirs ≠ []) {path : String} :
    mountRefusal path ∈ (r.broken settings).map (r.message settings (portNames r.ports)) ↔
      (∃ v ∈ r.volumes, v.pathOnHost = path) ∧ ¬ BeginsListed settings.allowedMountDirs path := by
  have hrule : AdmissionRule.volume path ∈ r.rules ↔ ∃ v ∈ r.volumes, v.pathOnHost = path := by
    simp [rules]
  have hkeeps : r.Keeps settings (.volume path) ↔ BeginsListed settings.allowedMountDirs path :=
    or_iff_right hlisted
  rw [← hrule, ← hkeeps, List.mem_map]
  constructor
  · rintro ⟨rule, hbroken, hmessage⟩
    by_cases hvolume : ∃ path', rule = .volume path'
    · obtain ⟨path', rfl⟩ := hvolume
      rw [← mountRefusal_inj.1 hmessage]
      simpa [broken] using hbroken
    · exact absurd hmessage (message_ne_mountRefusal (not_exists.1 hvolume) path)
  · rintro ⟨hmem, hbreaks⟩
    exact ⟨.volume path, by simp [broken, hmem, hbreaks], rfl⟩

/-- A success refuses no host path. -/
theorem mountRefusal_notMem_success (path : String) :
    mountRefusal path ∉ Verdict.success.messages := by
  rw [Verdict.success, List.mem_singleton]
  exact (ne_mountRefusal (c := 'S') (by decide) (by decide) path).symm

/-- A refusal for another reason refuses no host path. -/
theorem mountRefusal_notMem_failure {message path : String} (h : message ≠ mountRefusal path) :
    mountRefusal path ∉ (Verdict.failure message).messages := by
  rw [Verdict.failure, List.mem_singleton]
  exact h.symm

/-- A verdict over a list of errors refuses a path when one of the errors does. -/
theorem mountRefusal_mem_ofErrors_iff {errors : List String} {path : String} :
    mountRefusal path ∈ (Verdict.ofErrors errors).messages ↔ mountRefusal path ∈ errors := by
  cases errors with
  | nil => exact iff_of_false (mountRefusal_notMem_success path) List.not_mem_nil
  | cons error errors => rfl

/-- A message that begins otherwise, if it is said at all. -/
theorem mountRefusal_notMem_ite {p : Prop} [Decidable p] {message path : String}
    (h : message ≠ mountRefusal path) : mountRefusal path ∉ if p then [message] else [] := by
  split
  · rw [List.mem_singleton]
    exact h.symm
  · exact List.not_mem_nil

/-- The rule for arguments refuses no host path. -/
theorem mountRefusal_notMem_arguments (settings : AdmissionSettings) (args : List String)
    (path : String) : mountRefusal path ∉ SpecRule.arguments settings args := by
  unfold SpecRule.arguments
  split
  · rw [List.mem_singleton]
    exact (ne_mountRefusal (c := 'P') (by decide) (by decide) path).symm
  · exact mountRefusal_notMem_ite
      (ne_mountRefusal (c := 'M') (head?_append (by decide)) (by decide) path)

/-- The limits of the cluster refuse no host path. -/
theorem mountRefusal_notMem_shortages (c : Cluster) (needs : List ResourceRequirement)
    (instances : UInt64) (path : String) :
    mountRefusal path ∉ Capacity.shortages c needs instances := by
  unfold Capacity.shortages
  rw [List.mem_append, List.mem_append, not_or, not_or]
  refine ⟨⟨?_, ?_⟩, ?_⟩
  · exact mountRefusal_notMem_ite (ne_mountRefusal (c := 'C')
      (head?_append (head?_append (head?_append (by decide)))) (by decide) path)
  · exact mountRefusal_notMem_ite (ne_mountRefusal (c := 'C')
      (head?_append (head?_append (head?_append (by decide)))) (by decide) path)
  · split
    · exact mountRefusal_notMem_ite (ne_mountRefusal (c := 'R')
        (head?_append (head?_append (head?_append (head?_append (by decide))))) (by decide) path)
    · exact List.not_mem_nil

/-- A task is refused for its host paths by the rule for volumes alone. -/
theorem mountRefusal_mem_create_iff (e : TaskEngine) (spec : TaskSpec) (opSpec : ClusterOpSpec)
    {path : String} : mountRefusal path ∈ (e.create spec opSpec).2.messages ↔
      mountRefusal path ∈ SpecRule.volumes e.settings.admission spec.volumes := by
  have hviolations : mountRefusal path ∈ e.violations spec ↔
      mountRefusal path ∈ SpecRule.volumes e.settings.admission spec.volumes := by
    rw [TaskEngine.violations, List.mem_append, List.mem_append,
      or_iff_left (mountRefusal_notMem_shortages _ _ _ _),
      or_iff_left (mountRefusal_notMem_arguments _ _ _)]
  rw [← hviolations]
  cases hspec : e.violations spec with
  | cons violation violations =>
      rw [TaskEngine.create, hspec]
      rfl
  | nil =>
      refine iff_of_false ?_ List.not_mem_nil
      by_cases hknown : (e.stores.record? spec.sourceAppName spec.taskId).isSome = true ∨
          (e.registered? spec.sourceAppName spec.taskId).isSome = true
      · rw [TaskEngine.create_of_known hspec hknown]
        exact mountRefusal_notMem_failure (ne_mountRefusal (c := 'T')
          (head?_append (head?_append (head?_append (head?_append (head?_append (by decide))))))
          (by decide) path)
      · rw [not_or, Option.not_isSome_iff_eq_none, Option.not_isSome_iff_eq_none] at hknown
        rw [TaskEngine.create_of_new hspec hknown.1 hknown.2]
        dsimp only
        split
        · exact mountRefusal_notMem_success path
        · exact mountRefusal_notMem_failure
            (ne_mountRefusal (c := 'C') (by decide) (by decide) path)

/-- The rule for volumes refuses the host paths that begin with the text of no listed directory. -/
theorem mountRefusal_mem_volumes_iff {settings : AdmissionSettings}
    (hlisted : settings.allowedMountDirs ≠ []) {vs : List MountedVolume} {path : String} :
    mountRefusal path ∈ SpecRule.volumes settings vs ↔
      (∃ v ∈ vs, v.pathOnHost = path) ∧ ¬ BeginsListed settings.allowedMountDirs path := by
  have hmay (path : String) :
      mayMount settings path = true ↔ BeginsListed settings.allowedMountDirs path :=
    (mayMount_iff settings path).trans (or_iff_right hlisted)
  rw [← hmay, SpecRule.volumes, List.mem_map]
  constructor
  · rintro ⟨v, hv, hmessage⟩
    rw [List.mem_filter, Bool.not_eq_true', ← Bool.not_eq_true] at hv
    rw [← mountRefusal_inj.1 hmessage]
    exact ⟨⟨v, hv.1, rfl⟩, hv.2⟩
  · rintro ⟨⟨v, hv, rfl⟩, hrefused⟩
    exact ⟨v, List.mem_filter.2 ⟨hv, by simpa using hrefused⟩, rfl⟩

/-- A volume whose host path begins with the text of a listed directory adds no violation. -/
theorem volumes_append_of_beginsListed {settings : AdmissionSettings} {v : MountedVolume}
    (h : BeginsListed settings.allowedMountDirs v.pathOnHost) (vs : List MountedVolume) :
    SpecRule.volumes settings (vs ++ [v]) = SpecRule.volumes settings vs := by
  have hmay : mayMount settings v.pathOnHost = true := (mayMount_iff settings _).2 (.inr h)
  simp [SpecRule.volumes, hmay]

/-! ## What follows from the comparison of texts -/

/-- A path lies in a listed directory. -/
def LiesInListed (dirs : List String) (path : String) : Prop :=
  ∃ dir ∈ dirs, LiesIn dir.toList path.toList

/-- A kind of specification with volumes, and the verdicts on specifications of that kind. -/
structure MountKind where
  Spec : Type
  volumes : Spec → List MountedVolume
  withVolumes : Spec → List MountedVolume → Spec
  verdict : Spec → Verdict
  volumes_withVolumes : ∀ s vs, volumes (withVolumes s vs) = vs := by intros; rfl

namespace MountKind

variable (kind : MountKind) (dirs : List String)

/-- No host path of a specification is refused. -/
def Passes (s : kind.Spec) : Prop :=
  ∀ v ∈ kind.volumes s, mountRefusal v.pathOnHost ∉ (kind.verdict s).messages

/-- The host paths of all specifications that pass lie in listed directories. -/
def Confined : Prop :=
  ∀ s, kind.Passes s → ∀ v ∈ kind.volumes s, LiesInListed dirs v.pathOnHost

/-- A host path makes no difference to the verdict on any specification. -/
def Overlooks (path : String) : Prop :=
  ∀ s v, v.pathOnHost = path →
    kind.verdict (kind.withVolumes s (kind.volumes s ++ [v])) = kind.verdict s

/-- The volumes of a kind of specification are compared with the listed directories by their text:
a verdict refuses the host paths that begin with the text of no listed directory, and overlooks
the others. -/
structure ComparedByText : Prop where
  refused_iff : ∀ s path, mountRefusal path ∈ (kind.verdict s).messages ↔
    (∃ v ∈ kind.volumes s, v.pathOnHost = path) ∧ ¬ BeginsListed dirs path
  overlooks : ∀ path, BeginsListed dirs path → kind.Overlooks path

/-- How the volumes of a kind of specification are reviewed: by their text, and so that they are
confined to the listed directories exactly if the root is listed and nothing relative is.  Otherwise
there is a path outside of all listed directories that is overlooked in any specification. -/
structure MountsReviewed : Prop extends kind.ComparedByText dirs where
  confined_iff : kind.Confined dirs ↔ ListsRoot (dirs.map String.toList)
  escape : ¬ ListsRoot (dirs.map String.toList) →
    ∃ path, ¬ LiesInListed dirs path ∧ kind.Overlooks path

variable {kind dirs}

/-- Unless the root is listed and nothing relative is, the text of a listed directory continues to a
path that lies in no listed directory. -/
theorem exists_beginsListed_not_liesInListed (hlisted : dirs ≠ [])
    (h : ¬ ListsRoot (dirs.map String.toList)) :
    ∃ path, BeginsListed dirs path ∧ ¬ LiesInListed dirs path := by
  have hlisted' : dirs.map String.toList ≠ [] := by simpa using hlisted
  obtain ⟨path, ⟨dir', hdir', htext⟩, houtside⟩ := exists_escape hlisted' h
  obtain ⟨dir, hdir, rfl⟩ := List.mem_map.1 hdir'
  refine ⟨.ofList path, ⟨dir, hdir, ?_⟩, fun ⟨other, hother, hlies⟩ => ?_⟩
  · rwa [String.toList_ofList]
  · rw [String.toList_ofList] at hlies
    exact houtside _ (List.mem_map_of_mem hother) hlies

/-- All that is said of a kind of specification follows from the comparison by text. -/
theorem MountsReviewed.of_byText [Nonempty kind.Spec] (hlisted : dirs ≠ [])
    (h : kind.ComparedByText dirs) : kind.MountsReviewed dirs where
  toComparedByText := h
  confined_iff := by
    constructor
    · intro hconfined
      by_contra hroot
      obtain ⟨path, hbegins, houtside⟩ := exists_beginsListed_not_liesInListed hlisted hroot
      obtain ⟨s⟩ := ‹Nonempty kind.Spec›
      let v : MountedVolume := ⟨"/", path, .readOnly⟩
      have hmem : v ∈ kind.volumes (kind.withVolumes s [v]) := by
        rw [kind.volumes_withVolumes]
        exact List.mem_singleton_self v
      have hpasses : kind.Passes (kind.withVolumes s [v]) := by
        intro v' hv' hrefused
        rw [kind.volumes_withVolumes, List.mem_singleton] at hv'
        exact ((h.refused_iff _ _).1 hrefused).2 (hv' ▸ hbegins)
      exact houtside (hconfined _ hpasses v hmem)
    · intro hroot s hpasses v hv
      have hbegins : BeginsListed dirs v.pathOnHost := by
        by_contra hbegins
        exact hpasses v hv ((h.refused_iff s _).2 ⟨⟨v, hv, rfl⟩, hbegins⟩)
      obtain ⟨dir, hdir, htext⟩ := hbegins
      obtain ⟨dir', hdir', hlies⟩ := hroot.liesIn (List.mem_map_of_mem hdir) htext
      obtain ⟨top, htop, rfl⟩ := List.mem_map.1 hdir'
      exact ⟨top, htop, hlies⟩
  escape := by
    intro hroot
    obtain ⟨path, hbegins, houtside⟩ := exists_beginsListed_not_liesInListed hlisted hroot
    exact ⟨path, houtside, h.overlooks path hbegins⟩

/-! ## The kinds of specifications -/

/-- Applications. -/
def application (settings : AdmissionSettings) : MountKind where
  Spec := ApplicationSpec
  volumes := ApplicationSpec.volumes
  withVolumes s vs := { s with volumes := vs }
  verdict := ApplicationSpec.review settings

/-- Local services. -/
def localService (settings : AdmissionSettings) : MountKind where
  Spec := LocalServiceSpec
  volumes := LocalServiceSpec.volumes
  withVolumes s vs := { s with volumes := vs }
  verdict := LocalServiceSpec.review settings

/-- Tasks, as an engine is asked to start them. -/
def task (e : TaskEngine) (opSpec : ClusterOpSpec) : MountKind where
  Spec := TaskSpec
  volumes := TaskSpec.volumes
  withVolumes s vs := { s with volumes := vs }
  verdict s := (e.create s opSpec).2

instance (settings : AdmissionSettings) : Nonempty (application settings).Spec :=
  ⟨show ApplicationSpec from { name := "", version := "", executable := { image := "" } }⟩

instance (settings : AdmissionSettings) : Nonempty (localService settings).Spec :=
  ⟨show LocalServiceSpec from { name := "", version := "", executable := { image := "" } }⟩

instance (e : TaskEngine) (opSpec : ClusterOpSpec) : Nonempty (task e opSpec).Spec :=
  ⟨show TaskSpec from { sourceAppName := "", taskId := "", executable := { image := "" } }⟩

section Review

variable {settings : AdmissionSettings}

/-- The host paths of applications are compared by their text. -/
theorem application_comparedByText (hlisted : settings.allowedMountDirs ≠ []) :
    (application settings).ComparedByText settings.allowedMountDirs where
  refused_iff := by
    intro (s : ApplicationSpec) path
    show mountRefusal path ∈ (s.review settings).messages ↔ _
    rw [ApplicationSpec.review, mountRefusal_mem_ofErrors_iff, s.violations_eq]
    exact mountRefusal_mem_broken_iff hlisted
  overlooks := by
    rintro _ hbegins (s : ApplicationSpec) v rfl
    show ({ s with volumes := s.volumes ++ [v] } : ApplicationSpec).review settings =
      s.review settings
    simp only [ApplicationSpec.review, ApplicationSpec.violations,
      volumes_append_of_beginsListed hbegins]

/-- So are those of local services. -/
theorem localService_comparedByText (hlisted : settings.allowedMountDirs ≠ []) :
    (localService settings).ComparedByText settings.allowedMountDirs where
  refused_iff := by
    intro (s : LocalServiceSpec) path
    show mountRefusal path ∈ (s.review settings).messages ↔ _
    rw [LocalServiceSpec.review, mountRefusal_mem_ofErrors_iff, s.violations_eq]
    exact mountRefusal_mem_broken_iff hlisted
  overlooks := by
    rintro _ hbegins (s : LocalServiceSpec) v rfl
    show ({ s with volumes := s.volumes ++ [v] } : LocalServiceSpec).review settings =
      s.review settings
    simp only [LocalServiceSpec.review, LocalServiceSpec.violations,
      volumes_append_of_beginsListed hbegins]

/-- So are those of tasks. -/
theorem task_comparedByText {e : TaskEngine} (hlisted : e.settings.admission.allowedMountDirs ≠ [])
    (opSpec : ClusterOpSpec) :
    (task e opSpec).ComparedByText e.settings.admission.allowedMountDirs where
  refused_iff := by
    intro (s : TaskSpec) path
    exact (mountRefusal_mem_create_iff e s opSpec).trans (mountRefusal_mem_volumes_iff hlisted)
  overlooks := by
    rintro _ hbegins (s : TaskSpec) v rfl
    have hviolations : e.violations { s with volumes := s.volumes ++ [v] } = e.violations s := by
      simp only [TaskEngine.violations, volumes_append_of_beginsListed hbegins]
    show (e.create { s with volumes := s.volumes ++ [v] } opSpec).2 = (e.create s opSpec).2
    simp only [TaskEngine.create, hviolations]

end Review

end MountKind

open MountKind

/-- The volumes of applications, local services and tasks are compared with the listed directories
by their text.  So their host paths are confined to the listed directories exactly if the root is
among them and nothing relative is; and of the paths without dots that begin with the text of a
listed directory, those lie in it that continue it at a slash. -/
theorem mounts_reviewed (settings : AdmissionSettings) (hlisted : settings.allowedMountDirs ≠ []) :
    (application settings).MountsReviewed settings.allowedMountDirs ∧
    (localService settings).MountsReviewed settings.allowedMountDirs ∧
    (∀ e opSpec, e.settings.admission = settings →
      (task e opSpec).MountsReviewed settings.allowedMountDirs) ∧
    ∀ dir ∈ settings.allowedMountDirs, ∀ rest, dir ≠ "" → Plain dir.toList →
      Plain (dir ++ rest).toList → (LiesIn dir.toList (dir ++ rest).toList ↔
        rest = "" ∨ (∃ tail, rest.toList = '/' :: tail) ∨ ∃ head, dir.toList = head ++ ['/']) := by
  refine ⟨.of_byText hlisted (application_comparedByText hlisted),
    .of_byText hlisted (localService_comparedByText hlisted), ?_, ?_⟩
  · rintro e opSpec rfl
    exact .of_byText hlisted (task_comparedByText hlisted opSpec)
  · intro dir _ rest hne hdir hpath
    rw [String.toList_append] at hpath ⊢
    rw [show rest = "" ↔ rest.toList = [] from String.toList_eq_nil_iff.symm]
    exact liesIn_append_iff (by simpa using hne) hdir hpath

/-- With one listed directory, a neighbour of it is mounted, and a path that leads up from it. -/
theorem neighbour_mounted :
    (["/var/data"] : List String) ≠ [] ∧
    ¬ (application { allowedMountDirs := ["/var/data"] }).Confined ["/var/data"] ∧
    ¬ (task { settings := { admission := { allowedMountDirs := ["/var/data"] } },
              stores := { now := default } } {}).Confined ["/var/data"] ∧
    ¬ LiesIn "/var/data".toList ("/var/data" ++ "base").toList ∧
    ¬ LiesIn "/var/data".toList "/var/data/../../etc".toList ∧
    ({ name := "web", version := "1", executable := { image := "nginx" },
       resources := [.cpu 1, .memory 512],
       volumes := [⟨"/a", "/var/database", .readOnly⟩,
         ⟨"/b", "/var/data/../../etc", .readOnly⟩] } : ApplicationSpec).review
      { allowedMountDirs := ["/var/data"] } = .success := by
  obtain ⟨happlication, -, htask, hplain⟩ :=
    mounts_reviewed { allowedMountDirs := ["/var/data"] } (by decide)
  have hroot : ¬ ListsRoot (["/var/data"].map String.toList) := by
    rintro ⟨-, dir, hdir, hroot⟩
    rw [List.map_singleton, List.mem_singleton] at hdir
    rw [hdir] at hroot
    revert hroot
    decide
  refine ⟨by decide, ?_, ?_, ?_, ?_, ?_⟩
  · rw [happlication.confined_iff]
    exact hroot
  · rw [(htask _ _ rfl).confined_iff]
    exact hroot
  · rw [hplain "/var/data" (by decide) "base" (by decide) ⟨by decide, by decide⟩
      ⟨by decide, by decide⟩]
    rintro (hempty | ⟨tail, hslash⟩ | ⟨head, hends⟩)
    · exact absurd hempty (by decide)
    · have hfirst : "base".toList.head? = some '/' := by rw [hslash, List.head?_cons]
      exact absurd hfirst (by decide)
    · have hlast : "/var/data".toList.getLast? = some '/' := by rw [hends, List.getLast?_concat]
      exact absurd hlast (by decide)
  · decide
  · decide

end Orchestration
