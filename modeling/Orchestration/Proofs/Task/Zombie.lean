import Orchestration.Proofs.Task.Completion
import Orchestration.Proofs.Task.Completions
import Orchestration.Proofs.Task.Identity
import Orchestration.Proofs.Task.Sparing

/-!
# Zombies

A task that is reported to run without a runner is a zombie.  It gets a runner, which asks for the
job that stops the task.  The report is repeated as long as the task runs, so a zombie that has no
runner afterwards is dealt with again.

The job may be refused.  A task of which the start is refused loses its runner again, but a zombie
keeps it.  To the engine it is a task that runs as expected from then on: every further report is
ignored, and nothing stops the task unless a client asks for it or its record ends.

Main results:

- `TaskEngine.askedBy_step`: the runners on behalf of which an event asks for jobs.
- `TaskEngine.Stranded.step`, `TaskEngine.Stranded.run`: a runner without a job stays so, and stays
  registered, as long as its task goes on and nobody asks it for a job.
- `TaskEngine.retriesZombie_iff`: when a zombie is dealt with, or will be.
- `TaskEngine.zombie_retried_iff`: that for every engine, and what happens otherwise in every run.
-/

namespace Orchestration
namespace TaskEngine

/-! ## Who asks for jobs -/

/-- The event has a runner that is there ask for a job: its task is killed, or whoever holds the
runner asks it. -/
def Asks (e : TaskEngine) (n : Nat) : TaskEvent → Prop
  | .handle (.kill source task _) => e.registered? source task = some n
  | .ask _ m _ => m = n
  | _ => False

/-- Between two engines jobs were asked for on behalf of some runners only. -/
def AskedBy (who : Nat → Prop) (e e' : TaskEngine) : Prop :=
  ∃ new, e'.requests = e.requests ++ new ∧ ∀ q ∈ new, who q.runner

section AskedBy

variable {who : Nat → Prop} {e e' : TaskEngine}

/-- Where nothing was asked for, nobody asked. -/
theorem AskedBy.of_eq (h : e'.requests = e.requests) : AskedBy who e e' :=
  ⟨[], by rw [h, List.append_nil], by simp⟩

/-- A single request was made on behalf of a single runner. -/
theorem AskedBy.of_append {q : JobRequest} (h : e'.requests = e.requests ++ [q])
    (hwho : who q.runner) : AskedBy who e e' := by
  refine ⟨[q], h, ?_⟩
  intro q' hq'
  rwa [List.mem_singleton.1 hq']

/-- To read a state asks for no job. -/
theorem Rereads.requests {n : Nat} (h : Rereads n e e') : e'.requests = e.requests := by
  rw [h.same]

/-- A task that is created has its new runner ask for a job. -/
theorem askedBy_create (e : TaskEngine) (spec : TaskSpec) (opSpec : ClusterOpSpec) :
    AskedBy (· = e.next) e (e.create spec opSpec).1 := by
  cases hspec : e.violations spec with
  | cons v vs =>
      apply AskedBy.of_eq
      simp [create, hspec]
  | nil =>
      by_cases hknown : (e.stores.record? spec.sourceAppName spec.taskId).isSome = true ∨
          (e.registered? spec.sourceAppName spec.taskId).isSome = true
      · apply AskedBy.of_eq
        rw [create_of_known hspec hknown]
      · simp only [not_or, Bool.not_eq_true, Option.isSome_eq_false_iff,
          Option.isNone_iff_eq_none] at hknown
        cases hschedules : e.schedules with
        | true =>
            rw [create_of_new hspec hknown.1 hknown.2, hschedules]
            exact .of_append rfl rfl
        | false =>
            rw [create_of_unscheduled hspec hknown.1 hknown.2 hschedules]
            exact .of_append rfl rfl

/-- A task that is killed has the runner that is registered for it ask for a job. -/
theorem askedBy_kill (e : TaskEngine) (source task : String) (opSpec : ClusterOpSpec) :
    AskedBy (fun n => e.registered? source task = some n) e (e.kill source task opSpec).1 := by
  cases hn : e.registered? source task with
  | none =>
      apply AskedBy.of_eq
      simp [kill, hn]
  | some n =>
      cases hr : e.runners.find? n with
      | none =>
          apply AskedBy.of_eq
          simp [kill, hn, stopTask, hr]
      | some r =>
          rw [kill_of_registered hn hr]
          exact .of_append rfl rfl

/-- A zombie has its new runner ask for a job. -/
theorem askedBy_killZombie (e : TaskEngine) (source task : String) :
    AskedBy (· = e.next) e (e.killZombie source task) := by
  cases hn : e.registered? source task with
  | none => exact .of_append (killZombie_of_unregistered hn).2.2 rfl
  | some n =>
      apply AskedBy.of_eq
      simp [killZombie, hn]

/-- An announcement has a job asked for on behalf of a new runner at most. -/
theorem askedBy_hear (e : TaskEngine) : AskedBy (· = e.next) e e.hear := by
  cases hr : e.stores.takeAnnounced.2 with
  | none =>
      apply AskedBy.of_eq
      unfold hear
      split
      · rfl
      · rename_i hsome
        rw [hsome] at hr
        cases hr
  | some r =>
      rw [hear_eq hr]
      split
      · split
        · exact askedBy_killZombie (e.heard r) r.sourceAppName r.taskId
        · exact .of_eq rfl
      · exact .of_eq rfl

/-- To read all the states asks for no job. -/
theorem requests_monitor (e : TaskEngine) : e.monitor.requests = e.requests := by
  have hall (l : List Nat) (e : TaskEngine) :
      (l.foldl (fun e n => (e.refresh n).1) e).requests = e.requests := by
    induction l generalizing e with
    | nil => rfl
    | cons n rest ih =>
        rw [List.foldl_cons, ih]
        exact (rereads_refresh e n).requests
  unfold monitor
  split
  · exact hall _ e
  · rfl

/-- An event asks for jobs on behalf of the runner that it makes, or of one that it has ask. -/
theorem askedBy_step (e : TaskEngine) (ev : TaskEvent) :
    AskedBy (fun n => n = e.next ∨ e.Asks n ev) e (e.step ev) := by
  have hnew {e' : TaskEngine} (h : AskedBy (· = e.next) e e') :
      AskedBy (fun n => n = e.next ∨ e.Asks n ev) e e' := by
    obtain ⟨new, hrequests, hwho⟩ := h
    exact ⟨new, hrequests, fun q hq => .inl (hwho q hq)⟩
  cases ev with
  | handle op =>
      simp only [step]
      split
      · cases op with
        | create spec opSpec => exact hnew (askedBy_create e spec opSpec)
        | kill source task opSpec =>
            obtain ⟨new, hrequests, hwho⟩ := askedBy_kill e source task opSpec
            exact ⟨new, hrequests, fun q hq => .inr (hwho q hq)⟩
      · exact .of_eq rfl
  | register source task =>
      simp only [step]
      split
      · apply AskedBy.of_eq
        unfold register
        split <;> rfl
      · exact .of_eq rfl
  | killZombie source task =>
      simp only [step]
      split
      · exact hnew (askedBy_killZombie e source task)
      · exact .of_eq rfl
  | ask kind n opSpec =>
      simp only [step]
      split
      · exact .of_append rfl (.inr rfl)
      · exact .of_eq rfl
  | complete k succeeded =>
      simp only [step]
      split
      · split
        · exact .of_eq (rereads_completeJob e _ succeeded).requests
        · exact .of_eq rfl
      · exact .of_eq rfl
  | refresh n => exact .of_eq (rereads_refresh e n).requests
  | hear => exact hnew (askedBy_hear e)
  | follow n =>
      apply AskedBy.of_eq
      rw [step]
      rcases follow_cases e n with heq | ⟨r, -, ⟨-, heq⟩ | ⟨-, heq⟩⟩ <;> rw [heq]
      · exact requests_updateRunner e n _
      · exact requests_updateRunner e n _
  | reap =>
      apply AskedBy.of_eq
      rw [step]
      rcases reap_cases e with heq | ⟨n, rest, -, heq | ⟨r, -, heq⟩⟩ <;> rw [heq]
  | monitor => exact .of_eq (requests_monitor e)
  | drop =>
      apply AskedBy.of_eq
      obtain ⟨runners, heq, -⟩ := drop_eq e
      rw [step, heq]
  | _ => exact .of_eq rfl

end AskedBy

/-! ## Runners without a job -/

/-- A runner follows a task that goes on as far as the runner knows, and no job of it was ever
scheduled.  It has not been let go. -/
structure Stranded (e : TaskEngine) (n : Nat) (source task : String) : Prop where
  follows : e.Follows n source task
  tracked : Tracks (· ≠ n) e
  going : ¬ e.IsOver n
  idle : ∀ q ∈ e.requests, q.runner = n → q.kind = .stop ∧ q.scheduled = false

section Stranded

variable {e : TaskEngine} {n : Nat} {source task : String}

/-- A runner without a job is registered. -/
theorem Stranded.registered (h : e.Stranded n source task) (halive : e.alive = true) :
    e.registered? source task = some n := by
  rcases h.tracked.kept n source task h.follows with hheld | hlet | hrefused | hdead
  · exact hheld
  · exact absurd rfl hlet
  · -- Only jobs that stop the task were asked for.
    obtain ⟨opSpec, hrequest⟩ := hrefused
    have hkind := (h.idle _ hrequest rfl).1
    cases hkind
  · rw [halive] at hdead
    cases hdead

/-- A runner stays with its task. -/
theorem follows_step (hs : e.Sound) (ev : TaskEvent) (hf : e.Follows n source task) :
    (e.step ev).Follows n source task := by
  rcases e.step_cases ev with ⟨m, rfl⟩ | ⟨stores, rfl⟩ | hmoves
  · have hunfollowed :
        (e.updateRunner m (fun r => { r with following := false })).Follows n source task := by
      rw [follows_updateRunner]
      · exact hf
      · exact fun _ => ⟨rfl, rfl⟩
    rw [step]
    rcases follow_cases e m with heq | ⟨r, -, ⟨-, heq⟩ | ⟨-, heq⟩⟩ <;> rw [heq]
    · exact hf
    · exact hunfollowed
    · exact hunfollowed
  · exact hf
  · exact (hmoves.settles hs).follows n source task hf

/-- A runner without a job stays so when an event neither has it ask for one nor ends its task. -/
theorem Stranded.step (h : e.Stranded n source task) (hs : e.Sound) {ev : TaskEvent}
    (hasks : ¬ e.Asks n ev) (hruns : ¬ (e.step ev).stores.Finished source task) :
    (e.step ev).Stranded n source task where
  follows := follows_step hs ev h.follows
  tracked := by
    apply h.tracked.step hs
    rintro m hover rfl
    exact h.going hover
  going := by
    intro hover
    have hchanged : (e.step ev).state? n ≠ e.state? n := by
      intro hsame
      apply h.going
      rwa [IsOver, ← hsame]
    rcases excused_step hs ev (follows_step hs ev h.follows) hover hchanged with
      hfinished | ⟨⟨k, q, -, hq, hscheduled, hrunner⟩, -⟩
    · exact hruns hfinished
    · -- No job of the runner can have failed, as none was scheduled.
      have hidle := (h.idle q (List.mem_of_getElem? hq) hrunner).2
      rw [hscheduled] at hidle
      cases hidle
  idle := by
    obtain ⟨new, hrequests, hwho⟩ := askedBy_step e ev
    rw [hrequests]
    intro q hq hrunner
    rcases List.mem_append.1 hq with hold | hnew
    · exact h.idle q hold hrunner
    · rcases hwho q hnew with hnext | hasked
      · have hgiven := hs.fresh n source task h.follows
        omega
      · rw [hrunner] at hasked
        exact absurd hasked hasks

/-- In a run, nobody has a runner ask for a job, and its task goes on as far as the stores tell. -/
def LeftAlone (n : Nat) (source task : String) : TaskEngine → List TaskEvent → Prop
  | _, [] => True
  | e, ev :: rest =>
    ¬ e.Asks n ev ∧ ¬ (e.step ev).stores.Finished source task ∧
      LeftAlone n source task (e.step ev) rest

/-- A runner without a job stays so in every run in which it is left alone. -/
theorem Stranded.run (h : e.Stranded n source task) (hs : e.Sound) {events : List TaskEvent}
    (halone : LeftAlone n source task e events) : (e.run events).Stranded n source task := by
  induction events generalizing e with
  | nil => exact h
  | cons ev rest ih =>
      obtain ⟨hasks, hruns, hrest⟩ := halone
      exact ih (h.step hs hasks hruns) (hs.step ev) hrest

/-- The engine takes a task for one that runs as expected, on account of a runner of which no job
was scheduled: reports that the task runs change nothing, neither those of the store nor those of a
client, and the task cannot be created. -/
structure Shelved (e : TaskEngine) (n : Nat) (source task : String) : Prop where
  registered : e.registered? source task = some n
  idle : ∀ q ∈ e.requests, q.runner = n → q.scheduled = false
  unheard : ∀ r, e.stores.takeAnnounced.2 = some r → r.sourceAppName = source → r.taskId = task →
    e.hear.registry = e.registry ∧ e.hear.requests = e.requests
  unreported : e.killZombie source task = e
  refused : ∀ spec opSpec, spec.sourceAppName = source → spec.taskId = task →
    e.violations spec = [] → e.create spec opSpec = (e, duplicate source task)

/-- The task of a runner without a job is taken for one that runs as expected. -/
theorem Stranded.shelved (h : e.Stranded n source task) (halive : e.alive = true) :
    e.Shelved n source task where
  registered := h.registered halive
  idle q hq hrunner := (h.idle q hq hrunner).2
  unheard := by
    rintro r hr rfl rfl
    exact hear_of_registered hr (h.registered halive)
  unreported := by
    simp [killZombie, h.registered halive]
  refused := by
    rintro spec opSpec rfl rfl hspec
    have hheld := h.registered halive
    exact create_of_known hspec (.inr (by rw [hheld]; rfl)) opSpec

end Stranded

/-! ## Zombies -/

/-- A zombie is dealt with when it is reported, or will be when it is reported again: it had a
runner already, or the job that stops it is scheduled, or it has no runner afterwards. -/
def RetriesZombie (e : TaskEngine) (source task : String) : Prop :=
  e.registered? source task ≠ none ∨
  (∃ n, (e.killZombie source task).requests =
    e.requests ++ [⟨.stop, source, task, e.settings.defaultOpSpec, n, true⟩]) ∨
  (e.killZombie source task).registered? source task = none

section Zombie

variable {e : TaskEngine} {source task : String}

/-- A zombie without a runner gets a new one, whether or not its job is scheduled. -/
theorem killZombie_eq (hfree : e.registered? source task = none) :
    e.killZombie source task =
      ((e.enroll source task).1.request .stop source task e.settings.defaultOpSpec e.next).1 := by
  simp [killZombie, register, hfree, stopTask, enroll]

/-- A zombie is forgotten exactly if it had no runner and its job is refused. -/
theorem retriesZombie_iff :
    e.RetriesZombie source task ↔ e.registered? source task ≠ none ∨ e.schedules = true := by
  by_cases hfree : e.registered? source task = none
  · have hrequests := (killZombie_of_unregistered hfree).2.2
    constructor
    · rintro (hknown | ⟨n, hscheduled⟩ | hgone)
      · exact absurd hfree hknown
      · rw [hrequests, List.append_cancel_left_eq, List.cons.injEq, JobRequest.mk.injEq]
          at hscheduled
        exact .inr hscheduled.1.2.2.2.2.2
      · rw [killZombie_eq hfree] at hgone
        simp [registered?, enroll, request] at hgone
    · rintro (hknown | hschedules)
      · exact absurd hfree hknown
      · refine .inr (.inl ⟨e.next, ?_⟩)
        rw [hrequests, hschedules]
  · exact ⟨fun _ => .inl hfree, fun _ => .inl hfree⟩

/-- The runner of a zombie whose job is refused is one without a job. -/
theorem stranded_killZombie (hs : e.Sound) (hwaiting : e.HandsOverKnown)
    (hcompleted : ∀ source task, .taskCompleted source task ∈ e.published →
      ∃ n, e.Follows n source task)
    (hfree : e.registered? source task = none) (hrefuses : e.schedules = false) :
    (e.killZombie source task).Stranded e.next source task := by
  -- Whatever was let go before has another number than the new runner.
  have htracked : Tracks (· ≠ e.next) e := by
    refine ⟨?_, ?_, ?_⟩
    · intro n source' task' hf
      exact .inr (.inl (hs.fresh n source' task' hf).ne)
    · intro n hn
      exact (hwaiting n hn).ne
    · intro source' task' hc
      obtain ⟨n, hf⟩ := hcompleted source' task' hc
      exact ⟨n, hf, (hs.fresh n source' task' hf).ne⟩
  have hmoves : Moves (fun _ => False) e (e.killZombie source task) :=
    moves_killZombie e source task
  refine ⟨(killZombie_of_unregistered hfree).2.1, ?_, ?_, ?_⟩
  · exact (hmoves.keeps (fun _ _ hs' h' hmove => h'.move hs' hmove) hs htracked).2
  · rw [killZombie_eq hfree]
    rintro ⟨s, hstate, -⟩
    have hfound := find?_enroll_self e source task
    rw [state?_of_find? (e := ((e.enroll source task).1.request ..).1) hfound] at hstate
    cases hstate
  · rw [(killZombie_of_unregistered hfree).2.2, hrefuses]
    intro q hq hrunner
    rcases List.mem_append.1 hq with hold | hnew
    · have hgiven := hs.fresh _ _ _ (hs.requested q hold)
      omega
    · rw [List.mem_singleton.1 hnew]
      exact ⟨rfl, rfl⟩

end Zombie

/-- A zombie is dealt with, or will be, exactly if it had a runner already or its job is scheduled.
Otherwise it keeps the runner that was made for it: in every run in which no client has that runner
ask for a job and the task goes on as far as the stores tell, no job of that runner is ever
scheduled, and no report that the task runs is heeded. -/
theorem zombie_retried_iff (e : TaskEngine) (source task : String) :
    (e.RetriesZombie source task ↔ e.registered? source task ≠ none ∨ e.schedules = true) ∧
    (∀ (settings : EngineSettings) (stores : TaskStores) (events : List TaskEvent),
      e = (start settings stores).run events → ¬ e.RetriesZombie source task →
      ∀ later, LeftAlone e.next source task (e.killZombie source task) later →
        ((e.killZombie source task).run later).alive = true →
        ((e.killZombie source task).run later).Shelved e.next source task) := by
  refine ⟨retriesZombie_iff, ?_⟩
  intro settings stores events he hforgotten later halone halive
  have hs : e.Sound := he ▸ sound_run settings stores events
  have hwaiting : e.HandsOverKnown := he ▸ handsOverKnown_run settings stores events
  have hcompleted : ∀ source task, .taskCompleted source task ∈ e.published →
      ∃ n, e.Follows n source task := by
    rw [he]
    intro source' task' hc
    obtain ⟨n, hf, -⟩ := (tracks_run settings stores events).completed source' task' hc
    exact ⟨n, hf⟩
  have hs' : (e.killZombie source task).Sound := by
    have hmoves : Moves (fun _ => False) e (e.killZombie source task) :=
      moves_killZombie e source task
    exact (hmoves.keeps (fun _ _ _ _ _ => trivial) hs trivial).1
  rw [retriesZombie_iff, not_or, not_not, Bool.not_eq_true] at hforgotten
  have hstranded : (e.killZombie source task).Stranded e.next source task :=
    stranded_killZombie hs hwaiting hcompleted hforgotten.1 hforgotten.2
  exact (hstranded.run hs' halone).shelved halive

/-- A task runs without a runner when no job can be scheduled.  It is reported again once jobs can
be scheduled, by a client and by the store, and is left running: the one job that was asked for is
the one that was refused. -/
theorem refused_zombie_shelved :
    let record : TaskRecord :=
      { sourceAppName := "shop", taskId := "1", instanceId := ⟨"i"⟩, executorId := ⟨"e"⟩
        hostname := "e", state := .running, created := .epoch, updated := .epoch }
    let w : TaskStores := { now := .epoch }
    let e := (start {} (w.update "shop" "1" record).1).run [.accept false]
    let later : List TaskEvent := [.accept true, .killZombie "shop" "1", .hear]
    let e' := (e.killZombie "shop" "1").run later
    ¬ e.RetriesZombie "shop" "1" ∧ e'.Shelved 0 "shop" "1" ∧
      e'.requests = [⟨.stop, "shop", "1", {}, 0, false⟩] ∧ e'.schedules = true ∧
      .taskStateChange "shop" "1" .running ∈ e'.published := by
  intro record w e later e'
  have hforgotten : ¬ e.RetriesZombie "shop" "1" := by
    rw [retriesZombie_iff, not_or, not_not]
    decide +kernel
  have hruns (e : TaskEngine)
      (h : (e.stores.record? "shop" "1").map (·.state) = some .running) :
      ¬ e.stores.Finished "shop" "1" := by
    intro hfinished
    obtain ⟨r, hr, hstate⟩ := Option.map_eq_some_iff.1 h
    have hover := hfinished r hr
    rw [hstate] at hover
    cases hover
  have halone : LeftAlone 0 "shop" "1" (e.killZombie "shop" "1") later := by
    refine ⟨id, hruns _ ?_, id, hruns _ ?_, id, hruns _ ?_, trivial⟩ <;> decide +kernel
  refine ⟨hforgotten, ?_, by decide +kernel, by decide +kernel, by decide +kernel⟩
  exact (zombie_retried_iff e "shop" "1").2 {} (w.update "shop" "1" record).1 [.accept false] rfl
    hforgotten later halone (by decide +kernel)

end TaskEngine
end Orchestration
