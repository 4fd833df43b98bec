import Mathlib.Data.List.Induction
import Orchestration.Proofs.Task.Run

/-!
# Published completions

The completion of a task is published when its runner is let go, and at no other time.  So the
completions that a run publishes can be told one by one, each with the runner that it is due to.

A runner that was dropped before it was handed over is left alone from then on: it is never let go,
whatever its state becomes.

Main results:

- `TaskEngine.completedTasks_run`: the completions that a run publishes are those of the runners
  that are let go in it.
- `TaskEngine.Discarded.not_mem_completions`: a runner that was dropped completes nothing.
-/

namespace Orchestration
namespace TaskEngine

/-! ## Completions of a run -/

/-- The tasks that events publish as complete, in their order. -/
def completedTasks (events : List LifecycleEvent) : List (String × String) :=
  events.filterMap fun
    | .taskCompleted source task => some (source, task)
    | _ => none

/-- The completion that an event publishes: the runner that is let go, with its task. -/
def completes? (e : TaskEngine) : TaskEvent → Option (Nat × String × String)
  | .reap =>
    if e.alive then
      e.handedOver.head?.bind fun n => (e.runners.find? n).map fun r => (n, r.source, r.task)
    else none
  | _ => none

/-- The completions that are published in a run, in their order. -/
def completions (e : TaskEngine) : List TaskEvent → List (Nat × String × String)
  | [] => []
  | ev :: rest => (e.completes? ev).toList ++ completions (e.step ev) rest

/-! ## What publishes nothing -/

section Published

variable (e : TaskEngine) (n : Nat)

/-- A state that is set is not published. -/
@[simp]
theorem published_setState (s : TaskState) : (e.setState n s).published = e.published :=
  published_updateRunner e n _

/-- A state that is read again is not published, whatever it is. -/
@[simp]
theorem published_refresh : (e.refresh n).1.published = e.published := by
  unfold refresh
  split
  · rfl
  · split
    · split <;> simp
    · split
      · dsimp only
        split <;> simp
      · simp

/-- The end of a job is not the completion of a task: the runner is let go later. -/
@[simp]
theorem published_completeJob (succeeded : Bool) :
    (e.completeJob n succeeded).published = e.published := by
  have hread := published_refresh e n
  unfold completeJob
  split
  · split <;> rename_i hrefresh <;> rw [hrefresh] at hread <;> simpa using hread
  · simp

/-- A registration ends in silence. -/
@[simp]
theorem published_deregister : (e.deregister n).published = e.published := by
  rw [deregister_eq]

/-- So does it begin. -/
@[simp]
theorem published_register (source task : String) :
    (e.register source task).1.published = e.published := by
  unfold register
  split <;> rfl

/-- To ask for the stop of a task publishes nothing. -/
@[simp]
theorem published_stopTask (opSpec : ClusterOpSpec) :
    (e.stopTask n opSpec).1.published = e.published := by
  unfold stopTask
  split <;> rfl

/-- A task that nobody knows is stopped in silence. -/
@[simp]
theorem published_killZombie (source task : String) :
    (e.killZombie source task).published = e.published := by
  unfold killZombie
  split <;> simp

/-- A task is created in silence, also where its start cannot be scheduled. -/
@[simp]
theorem published_create (spec : TaskSpec) (opSpec : ClusterOpSpec) :
    (e.create spec opSpec).1.published = e.published := by
  simp only [create]
  split
  · rfl
  · split
    · rfl
    · cases hschedules : e.schedules <;> simp [enroll, request, hschedules, retire]

/-- So is it killed. -/
@[simp]
theorem published_kill (source task : String) (opSpec : ClusterOpSpec) :
    (e.kill source task opSpec).1.published = e.published := by
  unfold kill
  split
  · rfl
  · rename_i m _
    have hstop := published_stopTask e m opSpec
    split <;> rename_i hstopped <;> rw [hstopped] at hstop <;> exact hstop

/-- No operation publishes anything by itself. -/
theorem published_handle (op : TaskOperation) : (e.handle op).1.published = e.published := by
  cases op <;> simp [handle]

/-- A runner that is handed over is not let go yet. -/
theorem published_follow : (e.follow n).published = e.published := by
  rcases follow_cases e n with heq | ⟨r, -, ⟨-, heq⟩ | ⟨-, heq⟩⟩ <;> rw [heq] <;> simp

/-- To look at all the states publishes nothing. -/
theorem published_monitor : e.monitor.published = e.published := by
  have hall (l : List Nat) (e : TaskEngine) :
      (l.foldl (fun e n => (e.refresh n).1) e).published = e.published := by
    induction l generalizing e with
    | nil => rfl
    | cons m rest ih => simp [ih]
  unfold monitor
  split
  · exact hall _ e
  · rfl

/-- An engine that is taken down drops its runners in silence. -/
theorem published_drop : e.drop.published = e.published := by
  obtain ⟨runners, hdrop, -⟩ := drop_eq e
  rw [hdrop]

/-- An announcement is passed on, which completes no task. -/
theorem completedTasks_hear : completedTasks e.hear.published = completedTasks e.published := by
  unfold hear
  split
  · rfl
  · dsimp only
    split
    · rfl
    · split <;> simp [publish, completedTasks]

end Published

/-- Letting a runner go publishes that its task is complete, while the engine exists. -/
theorem completedTasks_reap (e : TaskEngine) :
    completedTasks e.reap.published =
      completedTasks e.published ++ ((e.completes? .reap).toList.map (·.2)) := by
  unfold reap completes?
  cases hwaiting : e.handedOver with
  | nil => cases e.alive <;> simp
  | cons n rest =>
      cases halive : e.alive with
      | false => simp
      | true =>
          cases hr : e.runners.find? n with
          | none => simp [hr]
          | some r => simp [hr, publish, completedTasks]

/-- What an event publishes as complete is the task of the runner that it lets go. -/
theorem completedTasks_step (e : TaskEngine) (ev : TaskEvent) :
    completedTasks (e.step ev).published =
      completedTasks e.published ++ ((e.completes? ev).toList.map (·.2)) := by
  cases ev with
  | reap => exact completedTasks_reap e
  | handle op =>
      simp only [step, completes?]
      split <;> simp [published_handle]
  | register source task =>
      simp only [step, completes?]
      split <;> simp
  | killZombie source task =>
      simp only [step, completes?]
      split <;> simp
  | ask kind n opSpec =>
      simp only [step, completes?]
      split <;> simp [request]
  | complete k succeeded =>
      simp only [step, completes?]
      split
      · split <;> simp
      · simp
  | refresh n => simp [step, completes?]
  | hear => simp [step, completes?, completedTasks_hear]
  | follow n => simp [step, completes?, published_follow]
  | monitor => simp [step, completes?, published_monitor]
  | drop => simp [step, completes?, published_drop]
  | lead leads => simp [step, completes?]
  | accept schedules => simp [step, completes?]
  | outside stores => simp [step, completes?]

/-- The completions that a run publishes are those of the runners that are let go in it. -/
theorem completedTasks_run (e : TaskEngine) (events : List TaskEvent) :
    completedTasks (e.run events).published =
      completedTasks e.published ++ (e.completions events).map (·.2) := by
  induction events generalizing e with
  | nil => simp [run, completions]
  | cons ev rest ih =>
      have hrest := ih (e.step ev)
      rw [completedTasks_step] at hrest
      simpa [run, completions] using hrest

/-! ## Runners that wait to be let go -/

/-- Whoever was handed over has a number that was given out. -/
def HandsOverKnown (e : TaskEngine) : Prop :=
  ∀ n ∈ e.handedOver, n < e.next

/-- Every move keeps to numbers that were given out. -/
theorem HandsOverKnown.move {blamed : Nat → Prop} {e e' : TaskEngine} (h : e.HandsOverKnown)
    (hmove : Move blamed e e') : e'.HandsOverKnown := by
  cases hmove with
  | arrange stores leads schedules _ => exact h
  | set m s r _ _ => simpa [HandsOverKnown, setState] using h
  | enroll source task _ => exact fun n hn => Nat.lt_succ_of_lt (h n hn)
  | ask kind opSpec m r _ => exact h
  | abandon opSpec m r _ _ =>
      rw [HandsOverKnown, retire, handedOver_updateRunner, next_updateRunner, deregister_eq]
      exact h
  | announce source task s => exact h
  | reap =>
      rcases reap_cases e with hreap | ⟨m, rest, hwaiting, hreap | ⟨r, -, hreap⟩⟩
      · rwa [hreap]
      all_goals
        rw [hreap]
        exact fun n hn => h n (hwaiting ▸ List.mem_cons_of_mem m hn)
  | drop =>
      obtain ⟨runners, hdrop, -⟩ := drop_eq e
      rw [hdrop]
      exact h

/-- Only a runner that exists is handed over. -/
theorem HandsOverKnown.follow {e : TaskEngine} (h : e.HandsOverKnown) (hs : e.Sound) (m : Nat) :
    (e.follow m).HandsOverKnown := by
  have hunfollowed : (e.updateRunner m fun r => { r with following := false }).HandsOverKnown := by
    rwa [HandsOverKnown, handedOver_updateRunner, next_updateRunner]
  rcases follow_cases e m with heq | ⟨r, hr, ⟨-, heq⟩ | ⟨-, heq⟩⟩
  · rwa [heq]
  · rwa [heq]
  · rw [heq]
    intro n hn
    rw [next_updateRunner]
    rcases List.mem_append.1 hn with hn | hn
    · exact h n hn
    · rw [List.mem_singleton.1 hn]
      exact hs.fresh m _ _ ⟨r, hr, rfl, rfl⟩

/-- Every event keeps to numbers that were given out. -/
theorem HandsOverKnown.step {e : TaskEngine} (h : e.HandsOverKnown) (hs : e.Sound)
    (ev : TaskEvent) : (e.step ev).HandsOverKnown := by
  rcases e.step_cases ev with ⟨m, rfl⟩ | ⟨stores, rfl⟩ | hmoves
  · exact h.follow hs m
  · exact h
  · have hkeep : ∀ a b : TaskEngine, a.Sound → a.HandsOverKnown → Move (e.JobFails ev) a b →
        b.HandsOverKnown := fun _ _ _ h' hmove => h'.move hmove
    exact (hmoves.keeps hkeep hs h).2

/-- In every run, whoever was handed over has a number that was given out. -/
theorem handsOverKnown_run (settings : EngineSettings) (stores : TaskStores)
    (events : List TaskEvent) : ((start settings stores).run events).HandsOverKnown := by
  induction events using List.reverseRecOn with
  | nil => exact fun n hn => nomatch hn
  | append_singleton events ev ih =>
      rw [run_append_singleton]
      exact ih.step (sound_run settings stores events) ev

/-! ## Runners that were dropped -/

/-- The runner with a number was dropped, and not handed over before. -/
structure Discarded (e : TaskEngine) (n : Nat) : Prop where
  known : n < e.next
  retired : ∀ r, e.runners.find? n = some r → r.retired = true
  waiting : n ∉ e.handedOver

section Discarded

variable {e e' : TaskEngine} {n : Nat}

/-- A change of one runner brings none back that was dropped. -/
theorem Discarded.updateRunner (h : e.Discarded n) (m : Nat) {change : TaskRunner → TaskRunner}
    (hchange : ∀ r, r.retired = true → (change r).retired = true) :
    (e.updateRunner m change).Discarded n where
  known := by
    rw [next_updateRunner]
    exact h.known
  retired r' hr' := by
    rw [find?_updateRunner, Option.map_eq_some_iff] at hr'
    obtain ⟨r, hr, rfl⟩ := hr'
    split
    · exact hchange r (h.retired r hr)
    · exact h.retired r hr
  waiting := by
    rw [handedOver_updateRunner]
    exact h.waiting

/-- No move brings a runner back that was dropped. -/
theorem Discarded.move {blamed : Nat → Prop} (h : e.Discarded n) (hmove : Move blamed e e') :
    e'.Discarded n := by
  cases hmove with
  | arrange stores leads schedules _ => exact ⟨h.known, h.retired, h.waiting⟩
  | set m s r _ _ => exact h.updateRunner m fun _ hretired => hretired
  | enroll source task _ =>
      refine ⟨Nat.lt_succ_of_lt h.known, fun r hr => h.retired r ?_, h.waiting⟩
      exact (SortedMap.find?_insert_of_ne _ _ h.known.ne).symm.trans hr
  | ask kind opSpec m r _ => exact ⟨h.known, h.retired, h.waiting⟩
  | abandon opSpec m r _ _ =>
      refine Discarded.updateRunner ?_ m fun _ _ => rfl
      rw [deregister_eq]
      exact ⟨h.known, h.retired, h.waiting⟩
  | announce source task s => exact ⟨h.known, h.retired, h.waiting⟩
  | reap =>
      rcases reap_cases e with hreap | ⟨m, rest, hwaiting, hreap | ⟨r, -, hreap⟩⟩
      · rwa [hreap]
      all_goals
        have hrest : n ∉ rest := fun hn => h.waiting (hwaiting ▸ List.mem_cons_of_mem m hn)
        rw [hreap]
        exact ⟨h.known, h.retired, hrest⟩
  | drop =>
      obtain ⟨runners, hdrop, hrunners⟩ := drop_eq e
      rw [hdrop]
      refine ⟨h.known, fun r' hr' => ?_, h.waiting⟩
      rw [hrunners, Option.map_eq_some_iff] at hr'
      obtain ⟨r, hr, rfl⟩ := hr'
      simp [h.retired r hr]

/-- A runner that was dropped is not handed over, whatever its state. -/
theorem Discarded.follow (h : e.Discarded n) (m : Nat) : (e.follow m).Discarded n := by
  have hunfollowed : (e.updateRunner m (fun r => { r with following := false })).Discarded n :=
    h.updateRunner m fun _ hretired => hretired
  unfold TaskEngine.follow
  split
  · exact h
  · rename_i r hr
    split
    · exact h
    · split
      · exact hunfollowed
      · rename_i hkept
        split
        · have hne : n ≠ m := by
            rintro rfl
            exact hkept (h.retired r hr)
          refine ⟨hunfollowed.known, hunfollowed.retired, fun hn => ?_⟩
          rcases List.mem_append.1 hn with hn | hn
          · exact h.waiting hn
          · exact hne (List.mem_singleton.1 hn)
        · exact h

/-- No event brings a runner back that was dropped. -/
theorem Discarded.step (h : e.Discarded n) (hs : e.Sound) (ev : TaskEvent) :
    (e.step ev).Discarded n := by
  rcases e.step_cases ev with ⟨m, rfl⟩ | ⟨stores, rfl⟩ | hmoves
  · exact h.follow m
  · exact ⟨h.known, h.retired, h.waiting⟩
  · have hkeep : ∀ a b : TaskEngine, a.Sound → a.Discarded n → Move (e.JobFails ev) a b →
        b.Discarded n := fun _ _ _ h' hmove => h'.move hmove
    exact (hmoves.keeps hkeep hs h).2

/-- A runner that was dropped completes nothing. -/
theorem Discarded.not_mem_completions (h : e.Discarded n) (hs : e.Sound)
    (events : List TaskEvent) (task : String × String) : (n, task) ∉ e.completions events := by
  induction events generalizing e with
  | nil => simp [completions]
  | cons ev rest ih =>
      have hnow : (n, task) ∉ (e.completes? ev).toList := by
        intro hmem
        cases ev with
        | reap =>
            simp only [completes?] at hmem
            split at hmem
            · simp only [Option.mem_toList, Option.bind_eq_some_iff, Option.map_eq_some_iff]
                at hmem
              obtain ⟨m, hm, r, -, heq⟩ := hmem
              obtain rfl : m = n := congrArg Prod.fst heq
              exact h.waiting (List.mem_of_head? hm)
            · simp at hmem
        | _ => simp [completes?] at hmem
      rw [completions, List.mem_append, not_or]
      exact ⟨hnow, ih (h.step hs ev) (hs.step ev)⟩

end Discarded

end TaskEngine
end Orchestration
