import Orchestration.Application.Lifecycle
import Orchestration.LocalService.Lifecycle
import Orchestration.Proofs.Collection.Lookup
import Orchestration.Proofs.Lifecycle.Run
import Orchestration.Proofs.Task.Completions

/-!
# Refusals

Every operation is answered with a verdict.  A refusal names its reasons, and leaves the engine as
it was.

Most refusals are decided before anything is touched.  One is not: a task of which the start cannot
be scheduled has a runner by then.  That runner is dropped again and its registration ends, so that
all that is left of it is a number that is not given out a second time.

Main results:

- `Application.articulate_review`, `LocalService.articulate_review`, `TaskEngine.articulate_handle`:
  a verdict is a plain success or a refusal with reasons.
- `LifecycleEngine.handle_of_refused`: a refused operation leaves a lifecycle engine alone.
- `TaskEngine.untouched_of_refused`: a refused operation leaves registered runners, stores and
  published events of a task engine alone, and asks for no job that is carried out.
- `refused_means_untouched`: all three engines together, in all their runs.
-/

namespace Orchestration

/-! ## Verdicts -/

/-- A verdict is a plain success, or a refusal with reasons. -/
structure Verdict.Articulate (v : Verdict) : Prop where
  messages_ne_nil : v.messages ≠ []
  plain : v.isSuccess = true → v.messages = ["Success"]

namespace Verdict

/-- A success is a plain one. -/
theorem articulate_success : success.Articulate :=
  ⟨List.cons_ne_nil _ _, fun _ => rfl⟩

/-- A refusal with a message has a reason. -/
theorem articulate_failure (message : String) : (failure message).Articulate :=
  ⟨List.cons_ne_nil _ _, fun h => nomatch h⟩

/-- A refusal with all its messages names at least one, a general one if need be. -/
theorem articulate_failures (messages : List String) : (failures messages).Articulate := by
  cases messages with
  | nil => exact articulate_failure _
  | cons m ms => exact ⟨List.cons_ne_nil _ _, fun h => nomatch h⟩

/-- A verdict over a list of errors is a plain success only when there is none. -/
theorem articulate_ofErrors (errors : List String) : (ofErrors errors).Articulate where
  messages_ne_nil := messages_ofErrors_ne_nil errors
  plain h := by
    rw [(isSuccess_ofErrors errors).1 h]
    rfl

end Verdict

open Verdict

/-- A state that does not allow an operation says so. -/
theorem Admission.articulate_of_byState {τ : Type} [DecidableEq τ] [Named τ] {id : DeployableId}
    {label stateName : String} {kind : τ} {allowed : List τ} {refusal : Verdict}
    (h : byState id label stateName kind allowed = some refusal) : refusal.Articulate := by
  unfold byState at h
  split at h
  · cases h
  · split at h <;> cases h <;> exact articulate_failure _

/-! ## Reviews -/

namespace Application

variable (w : ApplicationStores)

/-- New instances are refused for lack of executors, of a record or of room. -/
theorem articulate_reviewNew (id : DeployableId) (n : UInt64) : (reviewNew w id n).Articulate := by
  unfold reviewNew
  split
  · exact articulate_failure _
  · split
    · exact articulate_failure _
    · exact articulate_ofErrors _

/-- What is left to be checked once the state has admitted an operation. -/
theorem articulate_reviewInState (settings : AdmissionSettings) (known : Bool)
    (op : ApplicationOperation) : (reviewInState settings known w op).Articulate := by
  cases op with
  | create spec n opSpec =>
      cases known with
      | true => exact articulate_failure _
      | false => exact articulate_ofErrors _
  | startInstances id n opSpec => exact articulate_reviewNew w id n
  | stopInstances id ids skip opSpec =>
      simp only [reviewInState, reviewStop]
      split
      · exact articulate_success
      · exact articulate_failure _
  | scale id required opSpec =>
      simp only [reviewInState, reviewScale]
      split
      · exact articulate_success
      · exact articulate_reviewNew w id _
  | replaceInstances id ids stopFirst opSpec =>
      simp only [reviewInState, reviewReplace]
      split
      · exact articulate_success
      · exact articulate_failure _
  | suspend => exact articulate_success
  | recover => exact articulate_success
  | destroy => exact articulate_success

/-- The review of an application operation is a plain success or gives reasons. -/
theorem articulate_review (settings : AdmissionSettings)
    (stateOf : DeployableId → Option ApplicationState) (op : ApplicationOperation) :
    (review settings stateOf w op).Articulate := by
  simp only [review]
  split
  · exact articulate_failure _
  · split
    · exact articulate_reviewInState w settings _ op
    · exact articulate_failure _
    · split
      · rename_i hrefusal
        exact Admission.articulate_of_byState hrefusal
      · exact articulate_reviewInState w settings true op

end Application

namespace LocalService

variable (w : LocalServiceStores)

/-- A refusal names the instances that are not healthy. -/
theorem articulate_reviewHealthy (id : DeployableId) (ids : SortedSet InstanceId)
    (complaint : String) : (reviewHealthy w id ids complaint).Articulate := by
  unfold reviewHealthy
  split
  · exact articulate_success
  · exact articulate_failure _

/-- The number of instances is refused to a service at host level. -/
theorem articulate_reviewCountUpdate (id : DeployableId) :
    (reviewCountUpdate w id).Articulate := by
  unfold reviewCountUpdate
  split
  · split
    · exact articulate_failure _
    · exact articulate_success
  · exact articulate_failure _

/-- What is left to be checked once the state has admitted an operation. -/
theorem articulate_reviewInState (settings : AdmissionSettings) (known : Bool)
    (op : LocalServiceOperation) : (reviewInState settings known w op).Articulate := by
  cases op with
  | create spec n opSpec =>
      cases known with
      | true => exact articulate_failure _
      | false => exact articulate_ofErrors _
  | updateInstanceCount id n opSpec => exact articulate_reviewCountUpdate w id
  | replaceInstances id ids stopFirst opSpec => exact articulate_reviewHealthy w id ids _
  | stopInstances id ids opSpec => exact articulate_reviewHealthy w id ids _
  | activate => exact articulate_success
  | deactivate => exact articulate_success
  | deployTestInstance => exact articulate_success
  | adjustInstances => exact articulate_success
  | restart => exact articulate_success
  | destroy => exact articulate_success

/-- The review of a local service operation is a plain success or gives reasons. -/
theorem articulate_review (settings : AdmissionSettings)
    (stateOf : DeployableId → Option LocalServiceState) (op : LocalServiceOperation) :
    (review settings stateOf w op).Articulate := by
  simp only [review]
  split
  · exact articulate_failure _
  · split
    · exact articulate_reviewInState w settings _ op
    · exact articulate_failure _
    · split
      · rename_i hrefusal
        exact Admission.articulate_of_byState hrefusal
      · exact articulate_reviewInState w settings true op

end LocalService

/-! ## Lifecycle engines -/

namespace LifecycleEngine

variable {σ ω δ κ W : Type} (k : LifecycleKind σ ω δ κ W)
variable (e : LifecycleEngine σ ω δ κ W) (op : ω)

/-- A refused operation leaves the engine alone. -/
theorem handle_of_refused (h : (e.handle k op).2.isSuccess = false) : (e.handle k op).1 = e := by
  simp only [handle] at h ⊢
  split at h
  · rename_i hrefused
    rw [if_pos hrefused]
  · -- Whatever is routed to an actor keeps the verdict of its review, which was a success.
    rename_i hadmitted
    rw [if_neg hadmitted]
    split at h
    · simp [h] at hadmitted
    · split at h
      · simp [h] at hadmitted
      · simp_all

/-- The engine adds one reason of its own to those of the review. -/
theorem articulate_handle
    (hreview : (k.review e.settings e.stateOf e.world op).Articulate) :
    (e.handle k op).2.Articulate := by
  simp only [handle]
  split
  · exact hreview
  · split
    · exact hreview
    · split
      · exact hreview
      · exact articulate_failure _

end LifecycleEngine

/-! ## The task engine -/

namespace TaskEngine

variable {e : TaskEngine}

/-- A refused operation has left nothing behind that counts: the engine differs in its runners, its
numbers and the jobs asked for at most; no runner of before differs, all new ones were dropped, and
no new job is carried out. -/
structure Untouched (e e' : TaskEngine) : Prop where
  same : e' = { e with runners := e'.runners, next := e'.next, requests := e'.requests }
  runners : ∀ n < e.next, e'.runners.find? n = e.runners.find? n
  discarded : ∀ n < e'.next, e.next ≤ n → e'.Discarded n
  requests : ∃ refused, e'.requests = e.requests ++ refused ∧ ∀ q ∈ refused, q.scheduled = false

/-- An engine that nothing happens to is untouched. -/
theorem Untouched.refl (e : TaskEngine) : e.Untouched e where
  same := rfl
  runners _ _ := rfl
  discarded _ hn hnext := absurd hn (Nat.not_lt.2 hnext)
  requests := ⟨[], by simp⟩

/-- A job that is not carried out counts for nothing. -/
theorem untouched_request (hschedules : e.schedules = false) (kind : JobKind)
    (source task : String) (opSpec : ClusterOpSpec) (n : Nat) :
    e.Untouched (e.request kind source task opSpec n).1 where
  same := rfl
  runners _ _ := rfl
  discarded _ hn hnext := absurd hn (Nat.not_lt.2 hnext)
  requests := ⟨_, rfl, by simp [hschedules]⟩

/-- A refused creation leaves nothing behind that counts. -/
theorem untouched_of_refused_create (hwaiting : e.HandsOverKnown) {spec : TaskSpec}
    {opSpec : ClusterOpSpec} (h : (e.create spec opSpec).2.isSuccess = false) :
    e.Untouched (e.create spec opSpec).1 := by
  cases hspec : e.violations spec with
  | cons v vs => simpa [create, hspec] using .refl e
  | nil =>
      by_cases hknown : (e.stores.record? spec.sourceAppName spec.taskId).isSome = true ∨
          (e.registered? spec.sourceAppName spec.taskId).isSome = true
      · rw [create_of_known hspec hknown]
        exact .refl e
      · simp only [not_or, Bool.not_eq_true, Option.isSome_eq_false_iff,
          Option.isNone_iff_eq_none] at hknown
        cases hschedules : e.schedules with
        | true =>
            rw [create_of_new hspec hknown.1 hknown.2] at h
            simp [hschedules] at h
        | false =>
            rw [create_of_unscheduled hspec hknown.1 hknown.2 hschedules]
            refine ⟨rfl, fun n hn => SortedMap.find?_insert_of_ne _ _ hn.ne, fun n hn hnext => ?_,
              ⟨_, rfl, by simp⟩⟩
            -- The only new number is that of the runner that was dropped.
            obtain rfl : n = e.next := Nat.le_antisymm (Nat.le_of_lt_succ hn) hnext
            refine ⟨hn, fun r hr => ?_, fun hmem => absurd (hwaiting _ hmem) (lt_irrefl _)⟩
            rw [SortedMap.find?_insert_self] at hr
            rw [← Option.some.inj hr]

/-- A refused kill leaves nothing behind that counts. -/
theorem untouched_of_refused_kill {source task : String} {opSpec : ClusterOpSpec}
    (h : (e.kill source task opSpec).2.isSuccess = false) :
    e.Untouched (e.kill source task opSpec).1 := by
  cases hn : e.registered? source task with
  | none => simpa [kill, hn] using .refl e
  | some n =>
      cases hr : e.runners.find? n with
      | none => simpa [kill, hn, stopTask, hr] using .refl e
      | some r =>
          rw [kill_of_registered hn hr] at h ⊢
          cases hschedules : e.schedules with
          | true => simp [hschedules] at h
          | false => exact untouched_request hschedules ..

/-- A refused operation leaves nothing behind that counts. -/
theorem untouched_of_refused (hwaiting : e.HandsOverKnown) {op : TaskOperation}
    (h : (e.handle op).2.isSuccess = false) : e.Untouched (e.handle op).1 := by
  cases op with
  | create spec opSpec => exact untouched_of_refused_create hwaiting h
  | kill source task opSpec => exact untouched_of_refused_kill h

/-- Whoever got a number from a refused operation never completes anything. -/
theorem Untouched.not_mem_completions {e' : TaskEngine} (h : e.Untouched e') (hs : e'.Sound)
    (later : List TaskEvent) {n : Nat} {task : String × String}
    (hcompletes : (n, task) ∈ e'.completions later) : n < e.next ∨ e'.next ≤ n := by
  by_contra hnew
  rw [not_or, Nat.not_lt, Nat.not_le] at hnew
  exact (h.discarded n hnew.2 hnew.1).not_mem_completions hs later task hcompletes

/-- The verdict on a task operation is a plain success or gives reasons. -/
theorem articulate_handle (e : TaskEngine) (op : TaskOperation) : (e.handle op).2.Articulate := by
  cases op with
  | create spec opSpec =>
      simp only [handle, create]
      split
      · exact articulate_failures (_ :: _)
      · split
        · exact articulate_failure _
        · cases hschedules : e.schedules <;> simp only [request, enroll, hschedules]
          · exact articulate_failure _
          · exact articulate_success
  | kill source task opSpec =>
      simp only [handle, kill]
      split
      · exact articulate_failure _
      · split
        · exact articulate_success
        · exact articulate_failure _

end TaskEngine

/-! ## All engines -/

/-- Every operation is answered with a plain success or with reasons, and a refusal means that
nothing has happened.  A lifecycle engine is the same as before.  In a task engine no runner of
before differs and nothing else that counts does; whatever happens later, the completions that are
published are those of runners that are let go, and none of these got its number from the refused
operation. -/
theorem refused_means_untouched :
    (∀ (settings : EngineSettings) (w : ApplicationStores)
        (events : List (EngineEvent ApplicationState ApplicationOperation ApplicationRecord
          ApplicationStores)) (op : ApplicationOperation),
      let e : ApplicationEngine := (LifecycleEngine.start settings w).run Application.kind events
      (e.handle Application.kind op).2.Articulate ∧
        ((e.handle Application.kind op).2.isSuccess = false →
          (e.handle Application.kind op).1 = e)) ∧
    (∀ (settings : EngineSettings) (w : LocalServiceStores)
        (events : List (EngineEvent LocalServiceState LocalServiceOperation LocalServiceRecord
          LocalServiceStores)) (op : LocalServiceOperation),
      let e : LocalServiceEngine := (LifecycleEngine.start settings w).run LocalService.kind events
      (e.handle LocalService.kind op).2.Articulate ∧
        ((e.handle LocalService.kind op).2.isSuccess = false →
          (e.handle LocalService.kind op).1 = e)) ∧
    (∀ (settings : EngineSettings) (stores : TaskStores) (events : List TaskEvent)
        (op : TaskOperation),
      let e := (TaskEngine.start settings stores).run events
      let e' := (e.handle op).1
      (e.handle op).2.Articulate ∧
        ((e.handle op).2.isSuccess = false →
          e.Untouched e' ∧ ∀ later,
            TaskEngine.completedTasks (e'.run later).published =
              TaskEngine.completedTasks e.published ++ (e'.completions later).map (·.2) ∧
            ∀ n task, (n, task) ∈ e'.completions later → n < e.next ∨ e'.next ≤ n)) := by
  refine ⟨fun settings w events op => ?_, fun settings w events op => ?_,
    fun settings stores events op => ?_⟩
  · exact ⟨LifecycleEngine.articulate_handle _ _ op (Application.articulate_review _ _ _ op),
      LifecycleEngine.handle_of_refused _ _ op⟩
  · exact ⟨LifecycleEngine.articulate_handle _ _ op (LocalService.articulate_review _ _ _ op),
      LifecycleEngine.handle_of_refused _ _ op⟩
  · have hs := TaskEngine.sound_run settings stores events
    have hwaiting := TaskEngine.handsOverKnown_run settings stores events
    generalize (TaskEngine.start settings stores).run events = e at hs hwaiting
    refine ⟨TaskEngine.articulate_handle e op, fun hrefused => ?_⟩
    have huntouched := TaskEngine.untouched_of_refused hwaiting hrefused
    have hmoves : TaskEngine.Moves (fun _ => False) e (e.handle op).1 :=
      TaskEngine.moves_handle e op
    have hs' := (hmoves.keeps (fun _ _ _ _ _ => trivial) hs trivial).1
    refine ⟨huntouched, fun later => ⟨?_, fun n task => huntouched.not_mem_completions hs' later⟩⟩
    rw [TaskEngine.completedTasks_run, TaskEngine.published_handle]

/-- The start of a task cannot be scheduled: the client is told so, nobody is registered, and when
the task is asked for again it is another runner that completes. -/
theorem unscheduled_task_completes_nothing :
    let spec : TaskSpec :=
      { sourceAppName := "shop", taskId := "1", executable := { image := "shop" } }
    let op : TaskOperation := .create spec {}
    let e := (TaskEngine.start {} { now := .epoch }).run [.accept false]
    let e' := (e.handle op).1
    (e.handle op).2 = .failure "Could not schedule job to start the task." ∧
      e'.registry.entries = [] ∧ e.next = 0 ∧ e'.next = 1 ∧
      ∀ later task, (0, task) ∉ e'.completions later := by
  intro spec op e e'
  refine ⟨by decide +kernel, by decide +kernel, by decide +kernel, by decide +kernel, ?_⟩
  intro later task hcompletes
  have hrefused : (e.handle op).2.isSuccess = false := by decide +kernel
  have hothers := ((refused_means_untouched.2.2 {} { now := .epoch } [.accept false] op).2
    hrefused).2 later
  rcases hothers.2 0 task hcompletes with hbefore | hlater
  · exact absurd hbefore (by decide +kernel)
  · exact absurd hlater (by decide +kernel)

end Orchestration
