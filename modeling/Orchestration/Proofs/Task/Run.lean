import Mathlib.Logic.Relation
import Orchestration.Proofs.Store.GroupCoherence
import Orchestration.Task.Engine

/-!
# Runs of the task engine

The engine takes operations from its clients, hears the announcements of the task store, reads the
states of its runners again and lets go of those whose task is over.  The jobs that it asks for end
at some time, and the stores change under its hands.  A run is any list of such events, in any
order; an event that does not fit the engine does nothing.

All events but two are made of a few moves.  Whoever wants to know that the engine keeps something
looks at the moves.  The two others are stated on their own: `follow` goes by the state that a
runner has when the event begins, and `outside` may leave anything in the stores.

Main results:

- `TaskEngine.step_cases`: everything that an event can do, with what made it possible.
- `TaskEngine.Sound.step`, `TaskEngine.Sound.run`: in every run the registry names runners of its
  keys, and every job was asked for on behalf of a runner of its task.
-/

namespace Orchestration

/-! ## Tasks that are over -/

namespace TaskStores

/-- A task is over as far as the stores tell: its record is in a terminal state or absent. -/
def Finished (w : TaskStores) (source task : String) : Prop :=
  ∀ r, w.record? source task = some r → r.state.isTerminal = true

/-- An update that is accepted is what the store answers for its task from then on. -/
theorem record?_update (w : TaskStores) (source task : String) (r : TaskRecord)
    (source' task' : String) :
    (w.update source task r).1.record? source' task' =
      if (w.update source task r).2 ∧ source' = source ∧ task' = task then some r
      else w.record? source' task' := by
  have hroot : ∀ s : TaskStore, (s.update source task r).tasks = s.tasks.put source task r := by
    intro s
    simp only [TaskStore.update, TaskStore.write]
    split <;> rfl
  unfold update
  split
  · simp
  · cases haccepting : w.gated.accepting with
    | false => simp [record?, Gated.root_write, haccepting]
    | true =>
        simp only [record?, Gated.root_write, Gated.write_snd, haccepting, if_true, hroot,
          true_and]
        split
        · rename_i hkey
          rw [hkey.1, hkey.2]
          exact Groups.get_put_self _ _ _ _
        · rename_i hkey
          exact Groups.get_put_of_ne _ _ hkey

/-- Giving a record up brings no task back. -/
theorem Finished.update {w : TaskStores} {source' task' : String} (h : w.Finished source' task')
    (source task : String) {r : TaskRecord} (hr : r.state.isTerminal = true) :
    (w.update source task r).1.Finished source' task' := by
  intro r' hr'
  rw [record?_update] at hr'
  split at hr'
  · rw [← Option.some.inj hr']
    exact hr
  · exact h r' hr'

/-- To take an announcement changes no record. -/
theorem record?_takeAnnounced (w : TaskStores) (source task : String) :
    w.takeAnnounced.1.record? source task = w.record? source task := by
  unfold takeAnnounced
  split <;> rfl

end TaskStores

/-- The state that was read last is terminal. -/
def TaskRunner.isOver (r : TaskRunner) : Bool :=
  (r.state.map TaskState.isTerminal).getD false

/-- What happens to a task engine.  Runners and jobs go by their numbers. -/
inductive TaskEvent where
  /-- A client submits an operation. -/
  | handle (op : TaskOperation)
  /-- A client asks for the runner of a task. -/
  | register (source task : String)
  /-- A client reports a task that should not run. -/
  | killZombie (source task : String)
  /-- Whoever holds a runner asks it for a job. -/
  | ask (kind : JobKind) (n : Nat) (opSpec : ClusterOpSpec)
  /-- A job that was scheduled has ended.  Nothing keeps a run from saying so more than once. -/
  | complete (k : Nat) (succeeded : Bool)
  /-- Whoever holds a runner has it read the state of its task again. -/
  | refresh (n : Nat)
  /-- The oldest announcement of the store is dealt with. -/
  | hear
  /-- A runner looks whether its task is over. -/
  | follow (n : Nat)
  /-- The runner that was handed over first is let go. -/
  | reap
  /-- All registered runners read the states of their tasks again. -/
  | monitor
  /-- The engine is taken down. -/
  | drop
  /-- The node gains or loses the lead. -/
  | lead (leads : Bool)
  /-- Jobs can be scheduled from now on, or cannot. -/
  | accept (schedules : Bool)
  /-- Somebody else leaves the stores as given. -/
  | outside (stores : TaskStores)

namespace TaskEngine

/-- An engine without runners. -/
def start (settings : EngineSettings) (stores : TaskStores) : TaskEngine :=
  { settings := settings, stores := stores }

/-- One event.  Nobody can ask an engine that was taken down for anything. -/
def step (e : TaskEngine) : TaskEvent → TaskEngine
  | .handle op => if e.alive then (e.handle op).1 else e
  | .register source task => if e.alive then (e.register source task).1 else e
  | .killZombie source task => if e.alive then e.killZombie source task else e
  | .ask kind n opSpec =>
    match e.runners.find? n with
    | some r => (e.request kind r.source r.task opSpec n).1
    | none => e
  | .complete k succeeded =>
    match e.requests[k]? with
    | some q => if q.scheduled then e.completeJob q.runner succeeded else e
    | none => e
  | .refresh n => (e.refresh n).1
  | .hear => e.hear
  | .follow n => e.follow n
  | .reap => e.reap
  | .monitor => e.monitor
  | .drop => e.drop
  | .lead leads => { e with leads := leads }
  | .accept schedules => { e with schedules := schedules }
  | .outside stores => { e with stores := stores }

/-- A whole run. -/
def run (e : TaskEngine) (events : List TaskEvent) : TaskEngine :=
  events.foldl step e

/-- A run goes on where its first part has ended. -/
theorem run_append (e : TaskEngine) (events later : List TaskEvent) :
    e.run (events ++ later) = (e.run events).run later :=
  List.foldl_append

/-- The last event of a run is one more step. -/
theorem run_append_singleton (e : TaskEngine) (events : List TaskEvent) (ev : TaskEvent) :
    e.run (events ++ [ev]) = (e.run events).step ev := by
  simp [run]

/-! ## Changes of one runner -/

section UpdateRunner

variable (e : TaskEngine) (n : Nat) (change : TaskRunner → TaskRunner)

/-- A change of one runner changes nothing else. -/
theorem updateRunner_eq :
    e.updateRunner n change = { e with runners := (e.updateRunner n change).runners } := by
  unfold updateRunner
  split <;> rfl

@[simp]
theorem stores_updateRunner : (e.updateRunner n change).stores = e.stores := by
  rw [updateRunner_eq]

@[simp]
theorem alive_updateRunner : (e.updateRunner n change).alive = e.alive := by
  rw [updateRunner_eq]

@[simp]
theorem next_updateRunner : (e.updateRunner n change).next = e.next := by
  rw [updateRunner_eq]

@[simp]
theorem registry_updateRunner : (e.updateRunner n change).registry = e.registry := by
  rw [updateRunner_eq]

@[simp]
theorem handedOver_updateRunner : (e.updateRunner n change).handedOver = e.handedOver := by
  rw [updateRunner_eq]

@[simp]
theorem requests_updateRunner : (e.updateRunner n change).requests = e.requests := by
  rw [updateRunner_eq]

@[simp]
theorem published_updateRunner : (e.updateRunner n change).published = e.published := by
  rw [updateRunner_eq]

/-- The runners after a change of one. -/
@[simp]
theorem find?_updateRunner (m : Nat) :
    (e.updateRunner n change).runners.find? m =
      (e.runners.find? m).map (fun r => if m = n then change r else r) := by
  unfold updateRunner
  cases hn : e.runners.find? n with
  | none =>
      by_cases hm : m = n
      · simp [hm, hn]
      · simp [hm]
  | some r =>
      by_cases hm : m = n
      · simp [hm, hn]
      · simp [SortedMap.find?_insert_of_ne _ _ hm, hm]

/-- A runner that does not exist cannot be changed. -/
theorem updateRunner_of_none {e : TaskEngine} {n : Nat} (h : e.runners.find? n = none)
    (change : TaskRunner → TaskRunner) : e.updateRunner n change = e := by
  simp [updateRunner, h]

end UpdateRunner

/-- The end of a registration changes the registry alone, and there one key at most. -/
theorem deregister_eq (e : TaskEngine) (n : Nat) :
    e.deregister n = { e with registry := (e.deregister n).registry } := by
  unfold deregister
  split
  · split <;> rfl
  · rfl

/-- Whoever is registered after the end of a registration was so before. -/
theorem find?_deregister {e : TaskEngine} {n m : Nat} {key : String}
    (h : (e.deregister n).registry.find? key = some m) :
    e.registry.find? key = some m := by
  unfold deregister at h
  split at h
  · rename_i r hr
    split at h
    · by_cases hkey : key = r.runId
      · simp [hkey] at h
      · simpa [SortedMap.find?_erase_of_ne _ hkey] using h
    · exact h
  · exact h

/-- The end of a registration spares all other runners. -/
theorem find?_deregister_of_ne {e : TaskEngine} {n m : Nat} {key : String}
    (h : e.registry.find? key = some m) (hm : m ≠ n) :
    (e.deregister n).registry.find? key = some m := by
  unfold deregister
  split
  · rename_i r hr
    split
    · rename_i hheld
      have hkey : key ≠ r.runId := by
        rintro rfl
        rw [h] at hheld
        exact hm (Option.some.inj hheld)
      simpa [SortedMap.find?_erase_of_ne _ hkey] using h
    · exact h
  · exact h

/-- All registered runners are dropped at once. -/
theorem foldl_retire (l : List Nat) (e : TaskEngine) :
    ∃ runners, l.foldl retire e = { e with runners := runners } ∧
      ∀ m, runners.find? m = (e.runners.find? m).map
        (fun r => { r with retired := r.retired || decide (m ∈ l) }) := by
  induction l generalizing e with
  | nil => exact ⟨e.runners, rfl, fun m => by simp⟩
  | cons n rest ih =>
      obtain ⟨runners, hfold, hrunners⟩ := ih (e.retire n)
      refine ⟨runners, ?_, fun m => ?_⟩
      · rw [List.foldl_cons, hfold, retire, updateRunner_eq]
      · rw [hrunners, retire, find?_updateRunner, Option.map_map]
        congr 1
        funext r
        by_cases hm : m = n <;> simp [hm]

/-- The runner that was handed over first is let go, unless the engine was taken down. -/
theorem reap_cases (e : TaskEngine) :
    e.reap = e ∨ ∃ n rest, e.handedOver = n :: rest ∧
      (e.reap = { e with handedOver := rest } ∨ ∃ r, e.runners.find? n = some r ∧
        e.reap = { e with
          handedOver := rest
          registry := (e.deregister n).registry
          published := e.published ++ [.taskCompleted r.source r.task] }) := by
  unfold reap
  cases hwaiting : e.handedOver with
  | nil => exact .inl rfl
  | cons n rest =>
      refine .inr ⟨n, rest, rfl, ?_⟩
      dsimp only
      split
      · exact .inl rfl
      · cases hr : e.runners.find? n with
        | none => exact .inl rfl
        | some r =>
            refine .inr ⟨r, rfl, ?_⟩
            simp only [deregister, hr, publish]
            split <;> rfl

/-- Taking the engine down drops all registered runners and ends their registrations. -/
theorem drop_eq (e : TaskEngine) :
    ∃ runners, e.drop = { e with runners := runners, alive := false, registry := ∅ } ∧
      ∀ m, runners.find? m = (e.runners.find? m).map
        (fun r => { r with retired := r.retired || decide (m ∈ e.registry.values) }) := by
  obtain ⟨runners, hfold, hrunners⟩ := foldl_retire e.registry.values e
  exact ⟨runners, by rw [drop, hfold], hrunners⟩

/-! ## What an event can do -/

/-- The event reports that a job of the runner has failed. -/
def JobFails (e : TaskEngine) (ev : TaskEvent) (n : Nat) : Prop :=
  ∃ k q, ev = .complete k false ∧ e.requests[k]? = some q ∧ q.scheduled = true ∧ q.runner = n

/-- One of the things that events are made of.  Those in `blamed` are the runners a job of which
has just failed. -/
inductive Move (blamed : Nat → Prop) (e : TaskEngine) : TaskEngine → Prop where
  /-- The stores or the surroundings change, and no task is brought back. -/
  | arrange (stores : TaskStores) (leads schedules : Bool)
      (finished : ∀ source task, e.stores.Finished source task → stores.Finished source task) :
      Move blamed e { e with stores := stores, leads := leads, schedules := schedules }
  /-- The state of a runner is set; to a terminal one only if its task is over, or to lost. -/
  | set (n : Nat) (s : TaskState) (r : TaskRunner) (found : e.runners.find? n = some r)
      (settled : s.isTerminal = true →
        e.stores.Finished r.source r.task ∨ blamed n ∧ s = .lost) :
      Move blamed e (e.setState n s)
  /-- A runner is made for a key that is free. -/
  | enroll (source task : String) (free : e.registered? source task = none) :
      Move blamed e (e.enroll source task).1
  /-- A job is asked for on behalf of a runner. -/
  | ask (kind : JobKind) (opSpec : ClusterOpSpec) (n : Nat) (r : TaskRunner)
      (found : e.runners.find? n = some r) :
      Move blamed e (e.request kind r.source r.task opSpec n).1
  /-- A runner of which the start could not be scheduled is dropped. -/
  | abandon (opSpec : ClusterOpSpec) (n : Nat) (r : TaskRunner)
      (found : e.runners.find? n = some r)
      (refused : ⟨.start, r.source, r.task, opSpec, n, false⟩ ∈ e.requests) :
      Move blamed e ((e.deregister n).retire n)
  /-- A change of a state is published. -/
  | announce (source task : String) (s : TaskState) :
      Move blamed e (e.publish (.taskStateChange source task s))
  /-- The runner that was handed over first is let go. -/
  | reap : Move blamed e e.reap
  /-- The engine is taken down. -/
  | drop : Move blamed e e.drop

/-- A row of moves. -/
abbrev Moves (blamed : Nat → Prop) : TaskEngine → TaskEngine → Prop :=
  Relation.ReflTransGen (Move blamed)

section Moves

variable {blamed : Nat → Prop}

/-- Reading a state again may give the record up, and sets the state to what was read. -/
theorem moves_refresh (e : TaskEngine) (n : Nat) : Moves blamed e (e.refresh n).1 := by
  unfold refresh
  cases hr : e.runners.find? n with
  | none => exact .refl
  | some runner =>
      cases hrecord : e.stores.record? runner.source runner.task with
      | none =>
          cases hstate : runner.state with
          | none => simpa only [hrecord, hstate] using .refl
          | some s =>
              simp only [hrecord, hstate]
              refine .single (.set n .lost runner hr fun _ => .inl fun r hfound => ?_)
              rw [hrecord] at hfound
              cases hfound
      | some r =>
          simp only [hrecord]
          split
          · -- The record is given up; the state follows only if the store accepts that.
            have harrange : Move blamed e
                { e with stores := (e.stores.update runner.source runner.task
                  (r.asLost e.stores.now)).1 } :=
              .arrange _ e.leads e.schedules fun source task h => h.update _ _ rfl
            split
            · rename_i haccepted
              refine .tail (.single harrange) (.set n .lost runner hr fun _ => .inl ?_)
              intro r' hr'
              rw [TaskStores.record?_update, if_pos ⟨haccepted, rfl, rfl⟩] at hr'
              rw [← Option.some.inj hr']
              rfl
            · exact .single harrange
          · refine .single (.set n r.state runner hr fun hterminal => .inl fun r' hr' => ?_)
            rw [hrecord] at hr'
            rw [← Option.some.inj hr']
            exact hterminal

/-- There is an answer unless the task has no record. -/
theorem refresh_eq_none {e e' : TaskEngine} {n : Nat} {runner : TaskRunner}
    (hr : e.runners.find? n = some runner) (h : e.refresh n = (e', none)) :
    e' = e ∧ e.stores.record? runner.source runner.task = none := by
  unfold refresh at h
  simp only [hr] at h
  split at h
  · rename_i hrecord
    split at h
    · exact ⟨(Prod.mk.inj h).1.symm, hrecord⟩
    · cases (Prod.mk.inj h).2
  · split at h
    · cases (Prod.mk.inj h).2
    · cases (Prod.mk.inj h).2

/-- The report of a job sets the state to what was read, or to lost. -/
theorem moves_completeJob (e : TaskEngine) (n : Nat) (succeeded : Bool)
    (hblamed : succeeded = false → blamed n) : Moves blamed e (e.completeJob n succeeded) := by
  cases hr : e.runners.find? n with
  | none =>
      have hset : e.setState n .lost = e := updateRunner_of_none hr _
      cases succeeded <;> simp only [completeJob, refresh, hr, hset, if_true] <;> exact .refl
  | some runner =>
      cases succeeded with
      | false =>
          simp only [completeJob, Bool.false_eq_true, if_false]
          exact .single (.set n .lost runner hr fun _ => .inr ⟨hblamed rfl, rfl⟩)
      | true =>
          simp only [completeJob, if_true]
          have hread : Moves blamed e (e.refresh n).1 := moves_refresh e n
          split
          · rename_i e' s hrefresh
            rw [hrefresh] at hread
            exact hread
          · rename_i e' hrefresh
            obtain ⟨rfl, hrecord⟩ := refresh_eq_none hr hrefresh
            refine .single (.set n .lost runner hr fun _ => .inl fun r hfound => ?_)
            rw [hrecord] at hfound
            cases hfound

/-- Runners of a list read the states of their tasks again, one after the other. -/
theorem moves_foldl_refresh (l : List Nat) (e : TaskEngine) :
    Moves blamed e (l.foldl (fun e n => (e.refresh n).1) e) := by
  induction l generalizing e with
  | nil => exact .refl
  | cons n rest ih => exact (moves_refresh e n).trans (ih _)

/-- The runner that was just made. -/
theorem find?_enroll_self (e : TaskEngine) (source task : String) :
    (e.enroll source task).1.runners.find? e.next = some { source := source, task := task } :=
  SortedMap.find?_insert_self _ _ _

/-- The refusal of a task that is asked for again. -/
def duplicate (source task : String) : Verdict :=
  .failure ("Task already exists for " ++ source ++ "/" ++ task ++ " with taskID: " ++
    runTaskId source task)

/-- A task that is asked for again is refused. -/
theorem create_of_known {e : TaskEngine} {spec : TaskSpec} (hspec : e.violations spec = [])
    (hknown : (e.stores.record? spec.sourceAppName spec.taskId).isSome = true ∨
      (e.registered? spec.sourceAppName spec.taskId).isSome = true) (opSpec : ClusterOpSpec) :
    e.create spec opSpec = (e, duplicate spec.sourceAppName spec.taskId) := by
  simp [create, duplicate, hspec, hknown]

/-- A new task gets a runner, which is dropped again if its start cannot be scheduled. -/
theorem create_of_new {e : TaskEngine} {spec : TaskSpec} (hspec : e.violations spec = [])
    (hrecord : e.stores.record? spec.sourceAppName spec.taskId = none)
    (hfree : e.registered? spec.sourceAppName spec.taskId = none) (opSpec : ClusterOpSpec) :
    e.create spec opSpec =
      let asked := ((e.enroll spec.sourceAppName spec.taskId).1.request .start spec.sourceAppName
        spec.taskId opSpec e.next).1
      if e.schedules then (asked, .success)
      else ((asked.deregister e.next).retire e.next,
        .failure "Could not schedule job to start the task.") := by
  cases hschedules : e.schedules <;>
    simp [create, hspec, hrecord, hfree, enroll, request, hschedules]

/-- What is left of a task of which the start could not be scheduled: a runner that was dropped, the
next number, and the record of the job that was asked for. -/
theorem create_of_unscheduled {e : TaskEngine} {spec : TaskSpec}
    (hspec : e.violations spec = [])
    (hrecord : e.stores.record? spec.sourceAppName spec.taskId = none)
    (hfree : e.registered? spec.sourceAppName spec.taskId = none)
    (hschedules : e.schedules = false) (opSpec : ClusterOpSpec) :
    e.create spec opSpec =
      ({ e with
          runners := e.runners.insert e.next
            { source := spec.sourceAppName, task := spec.taskId, retired := true }
          next := e.next + 1
          requests := e.requests ++
            [⟨.start, spec.sourceAppName, spec.taskId, opSpec, e.next, false⟩] },
        .failure "Could not schedule job to start the task.") := by
  rw [create_of_new hspec hrecord hfree]
  simp only [registered?] at hfree
  simp [hschedules, request, enroll, deregister, retire, updateRunner, TaskRunner.runId,
    SortedMap.erase_insert_self hfree, SortedMap.insert_insert_self]

/-- A task is killed through the runner that is registered for it. -/
theorem kill_of_registered {e : TaskEngine} {source task : String} {n : Nat} {r : TaskRunner}
    (hn : e.registered? source task = some n) (hr : e.runners.find? n = some r)
    (opSpec : ClusterOpSpec) :
    e.kill source task opSpec = ((e.request .stop r.source r.task opSpec n).1,
      if e.schedules then .success
      else .failure "Could not schedule job to stop the task.") := by
  cases hschedules : e.schedules <;> simp [kill, hn, stopTask, hr, request, hschedules]

/-- A creation that is not refused makes a runner and asks for the start; without a schedule the
runner is dropped again. -/
theorem moves_create (e : TaskEngine) (spec : TaskSpec) (opSpec : ClusterOpSpec) :
    Moves blamed e (e.create spec opSpec).1 := by
  cases hspec : e.violations spec with
  | cons v vs => simpa [create, hspec] using .refl
  | nil =>
      by_cases hknown : (e.stores.record? spec.sourceAppName spec.taskId).isSome = true ∨
          (e.registered? spec.sourceAppName spec.taskId).isSome = true
      · rw [create_of_known hspec hknown]
      · simp only [not_or, Bool.not_eq_true, Option.isSome_eq_false_iff,
          Option.isNone_iff_eq_none] at hknown
        rw [create_of_new hspec hknown.1 hknown.2]
        have hfound := find?_enroll_self e spec.sourceAppName spec.taskId
        have hask : Moves blamed e ((e.enroll spec.sourceAppName spec.taskId).1.request .start
            spec.sourceAppName spec.taskId opSpec e.next).1 :=
          .tail (.single (.enroll _ _ hknown.2)) (.ask .start opSpec e.next _ hfound)
        cases hschedules : e.schedules with
        | true => exact hask
        | false =>
            refine hask.tail (.abandon opSpec e.next _ hfound ?_)
            simp [enroll, request, hschedules]

/-- A runner that is asked to stop its task asks for a job. -/
theorem moves_stopTask (e : TaskEngine) (n : Nat) (opSpec : ClusterOpSpec) :
    Moves blamed e (e.stopTask n opSpec).1 := by
  unfold stopTask
  split
  · rename_i r hr
    exact .single (.ask .stop opSpec n r hr)
  · exact .refl

/-- A kill asks for the stop of a task that is registered. -/
theorem moves_kill (e : TaskEngine) (source task : String) (opSpec : ClusterOpSpec) :
    Moves blamed e (e.kill source task opSpec).1 := by
  unfold kill
  split
  · exact .refl
  · rename_i n hn
    have hstop : Moves blamed e (e.stopTask n opSpec).1 := moves_stopTask e n opSpec
    cases hstopped : e.stopTask n opSpec with
    | mk e' scheduled =>
        rw [hstopped] at hstop
        cases scheduled <;> exact hstop

/-- A task that nobody follows gets a runner. -/
theorem moves_register (e : TaskEngine) (source task : String) :
    Moves blamed e (e.register source task).1 := by
  unfold register
  split
  · exact .refl
  · rename_i hfree
    exact .single (.enroll source task hfree)

/-- A zombie is registered, and its stop is asked for. -/
theorem moves_killZombie (e : TaskEngine) (source task : String) :
    Moves blamed e (e.killZombie source task) := by
  unfold killZombie
  split
  · exact .refl
  · exact (moves_register e source task).trans (moves_stopTask _ _ _)

/-- An announcement is passed on, and has a zombie stopped at most. -/
theorem moves_hear (e : TaskEngine) : Moves blamed e e.hear := by
  have htaken : ∀ source task, e.stores.Finished source task →
      e.stores.takeAnnounced.1.Finished source task := by
    intro source task h r hr
    rw [TaskStores.record?_takeAnnounced] at hr
    exact h r hr
  unfold hear
  split
  · exact .refl
  · rename_i stores r hstores
    have harrange : Move blamed e { e with stores := stores } := by
      have hstores' : e.stores.takeAnnounced.1 = stores := by rw [hstores]
      exact .arrange stores e.leads e.schedules (hstores' ▸ htaken)
    dsimp only
    split
    · exact .single harrange
    · have hannounced : Moves blamed e (({ e with stores := stores } : TaskEngine).publish
          (.taskStateChange r.sourceAppName r.taskId r.state)) :=
        .tail (.single harrange) (.announce _ _ _)
      split
      · exact hannounced.trans (moves_killZombie _ _ _)
      · exact hannounced

/-- An operation is a creation or a kill. -/
theorem moves_handle (e : TaskEngine) (op : TaskOperation) : Moves blamed e (e.handle op).1 := by
  cases op with
  | create spec opSpec => exact moves_create e spec opSpec
  | kill source task opSpec => exact moves_kill e source task opSpec

/-- Every event but two is a row of moves. -/
theorem step_cases (e : TaskEngine) (ev : TaskEvent) :
    (∃ n, ev = .follow n) ∨ (∃ stores, ev = .outside stores) ∨
      Moves (e.JobFails ev) e (e.step ev) := by
  cases ev with
  | handle op =>
      refine .inr (.inr ?_)
      simp only [step]
      split
      · exact moves_handle e op
      · exact .refl
  | register source task =>
      refine .inr (.inr ?_)
      simp only [step]
      split
      · exact moves_register e source task
      · exact .refl
  | killZombie source task =>
      refine .inr (.inr ?_)
      simp only [step]
      split
      · exact moves_killZombie e source task
      · exact .refl
  | ask kind n opSpec =>
      refine .inr (.inr ?_)
      simp only [step]
      split
      · rename_i r hr
        exact .single (.ask kind opSpec n r hr)
      · exact .refl
  | complete k succeeded =>
      refine .inr (.inr ?_)
      simp only [step]
      split
      · rename_i q hq
        split
        · rename_i hscheduled
          refine moves_completeJob e q.runner succeeded fun hfailed => ?_
          exact ⟨k, q, by rw [hfailed], hq, hscheduled, rfl⟩
        · exact .refl
      · exact .refl
  | refresh n => exact .inr (.inr (moves_refresh e n))
  | hear => exact .inr (.inr (moves_hear e))
  | follow n => exact .inl ⟨n, rfl⟩
  | reap => exact .inr (.inr (.single .reap))
  | monitor =>
      refine .inr (.inr ?_)
      simp only [step, monitor]
      split
      · exact moves_foldl_refresh _ e
      · exact .refl
  | drop => exact .inr (.inr (.single .drop))
  | lead leads =>
      exact .inr (.inr (.single (.arrange e.stores leads e.schedules fun _ _ h => h)))
  | accept schedules =>
      exact .inr (.inr (.single (.arrange e.stores e.leads schedules fun _ _ h => h)))
  | outside stores => exact .inr (.inl ⟨stores, rfl⟩)

end Moves

/-- A runner is followed until it is dropped or its task is over; then it is handed over. -/
theorem follow_cases (e : TaskEngine) (n : Nat) :
    e.follow n = e ∨ ∃ r, e.runners.find? n = some r ∧
      (r.retired = true ∧
          e.follow n = e.updateRunner n (fun r => { r with following := false }) ∨
        r.isOver = true ∧
          e.follow n = { e.updateRunner n (fun r => { r with following := false }) with
            handedOver := e.handedOver ++ [n] }) := by
  unfold follow
  cases hr : e.runners.find? n with
  | none => exact .inl rfl
  | some r =>
      dsimp only
      split
      · exact .inl rfl
      · split
        · rename_i hretired
          exact .inr ⟨r, rfl, .inl ⟨hretired, rfl⟩⟩
        · split
          · rename_i hover
            exact .inr ⟨r, rfl, .inr ⟨hover, rfl⟩⟩
          · exact .inl rfl

/-! ## Runners and what names them -/

/-- The runner with a number follows a task. -/
def Follows (e : TaskEngine) (n : Nat) (source task : String) : Prop :=
  ∃ r, e.runners.find? n = some r ∧ r.source = source ∧ r.task = task

/-- A runner follows one task only. -/
theorem Follows.unique {e : TaskEngine} {n : Nat} {source task source' task' : String}
    (h : e.Follows n source task) (h' : e.Follows n source' task') :
    source = source' ∧ task = task' := by
  obtain ⟨r, hr, rfl, rfl⟩ := h
  obtain ⟨r', hr', rfl, rfl⟩ := h'
  rw [hr] at hr'
  cases hr'
  exact ⟨rfl, rfl⟩

/-- A change of one runner may leave its task alone. -/
theorem follows_updateRunner (e : TaskEngine) (n : Nat) {change : TaskRunner → TaskRunner}
    (hchange : ∀ r, (change r).source = r.source ∧ (change r).task = r.task) (m : Nat)
    (source task : String) :
    (e.updateRunner n change).Follows m source task ↔ e.Follows m source task := by
  have hkeep : ∀ r, (if m = n then change r else r).source = r.source ∧
      (if m = n then change r else r).task = r.task := by
    intro r
    split
    · exact hchange r
    · exact ⟨rfl, rfl⟩
  constructor
  · rintro ⟨r', hr', rfl, rfl⟩
    rw [find?_updateRunner, Option.map_eq_some_iff] at hr'
    obtain ⟨r, hr, rfl⟩ := hr'
    exact ⟨r, hr, (hkeep r).1.symm, (hkeep r).2.symm⟩
  · rintro ⟨r, hr, rfl, rfl⟩
    refine ⟨_, ?_, (hkeep r).1, (hkeep r).2⟩
    rw [find?_updateRunner, hr, Option.map_some]

/-- Taking the engine down leaves the tasks of all runners alone. -/
theorem follows_drop (e : TaskEngine) (n : Nat) (source task : String) :
    e.drop.Follows n source task ↔ e.Follows n source task := by
  obtain ⟨runners, hdrop, hrunners⟩ := drop_eq e
  rw [hdrop]
  constructor
  · rintro ⟨r', hr', rfl, rfl⟩
    rw [hrunners, Option.map_eq_some_iff] at hr'
    obtain ⟨r, hr, rfl⟩ := hr'
    exact ⟨r, hr, rfl, rfl⟩
  · rintro ⟨r, hr, rfl, rfl⟩
    exact ⟨_, (hrunners n).trans (congrArg _ hr), rfl, rfl⟩

/-- The runner that was just made follows its task. -/
theorem follows_enroll_self (e : TaskEngine) (source task : String) :
    (e.enroll source task).1.Follows e.next source task :=
  ⟨_, find?_enroll_self e source task, rfl, rfl⟩

/-- All other runners follow theirs. -/
theorem follows_enroll_of_ne (e : TaskEngine) (source task : String) {n : Nat} (hn : n ≠ e.next)
    (source' task' : String) :
    (e.enroll source task).1.Follows n source' task' ↔ e.Follows n source' task' := by
  unfold Follows
  rw [show (e.enroll source task).1.runners.find? n = e.runners.find? n from
    SortedMap.find?_insert_of_ne _ _ hn]

/-- The registry names runners of its keys, and jobs are asked for on behalf of runners of their
tasks. -/
structure Sound (e : TaskEngine) : Prop where
  /-- Numbers that were not given out belong to nobody. -/
  fresh : ∀ n source task, e.Follows n source task → n < e.next
  /-- Whoever is registered has the key of its task. -/
  registered : ∀ key n, e.registry.find? key = some n →
    ∃ source task, e.Follows n source task ∧ runTaskId source task = key
  /-- Whoever asked for a job follows the task of the job. -/
  requested : ∀ q ∈ e.requests, e.Follows q.runner q.source q.task

/-- An engine without runners is sound. -/
theorem sound_start (settings : EngineSettings) (stores : TaskStores) :
    (start settings stores).Sound where
  fresh n source task h := by
    obtain ⟨r, hr, -⟩ := h
    cases hr
  registered key n hn := by cases hn
  requested q hq := by cases hq

/-- Nothing gets out of order when all runners stay with their tasks, nobody else is registered and
no new job is asked for. -/
theorem Sound.extend {e e' : TaskEngine} (hs : e.Sound)
    (hfollows : ∀ n source task, e'.Follows n source task ↔ e.Follows n source task)
    (hnext : e'.next = e.next)
    (hregistry : ∀ key n, e'.registry.find? key = some n → e.registry.find? key = some n)
    (hrequests : e'.requests = e.requests) : e'.Sound where
  fresh n source task h := hnext ▸ hs.fresh n source task ((hfollows ..).1 h)
  registered key n hn := by
    obtain ⟨source, task, h, hkey⟩ := hs.registered key n (hregistry key n hn)
    exact ⟨source, task, (hfollows ..).2 h, hkey⟩
  requested q hq := (hfollows ..).2 (hs.requested q (hrequests ▸ hq))

/-- A change of one runner that leaves its task alone brings nothing out of order. -/
theorem Sound.updateRunner {e : TaskEngine} (hs : e.Sound) (n : Nat)
    {change : TaskRunner → TaskRunner}
    (hchange : ∀ r, (change r).source = r.source ∧ (change r).task = r.task) :
    (e.updateRunner n change).Sound := by
  refine hs.extend (follows_updateRunner e n hchange) (next_updateRunner e n change)
    (fun key m hm => ?_) (requests_updateRunner e n change)
  rwa [registry_updateRunner] at hm

/-- A registration that ends leaves the others right. -/
theorem Sound.deregister {e : TaskEngine} (hs : e.Sound) (n : Nat) : (e.deregister n).Sound := by
  have hregistry : ∀ key m, (e.deregister n).registry.find? key = some m →
      e.registry.find? key = some m := fun _ _ h => find?_deregister h
  rw [deregister_eq]
  exact hs.extend (fun _ _ _ => .rfl) rfl hregistry rfl

/-- A new runner is registered under the key of its task. -/
theorem Sound.enroll {e : TaskEngine} (hs : e.Sound) (source task : String) :
    (e.enroll source task).1.Sound := by
  have hold : ∀ n source' task', e.Follows n source' task' →
      (e.enroll source task).1.Follows n source' task' := fun n source' task' h =>
    (follows_enroll_of_ne e source task (hs.fresh _ _ _ h).ne ..).2 h
  refine ⟨fun n source' task' h => ?_, fun key n hn => ?_, fun q hq => hold _ _ _ ?_⟩
  · by_cases hn : n = e.next
    · exact hn ▸ Nat.lt_succ_self e.next
    · exact Nat.lt_succ_of_lt (hs.fresh _ _ _ ((follows_enroll_of_ne e source task hn ..).1 h))
  · by_cases hkey : key = runTaskId source task
    · simp only [TaskEngine.enroll, hkey, SortedMap.find?_insert_self, Option.some.injEq] at hn
      subst hn
      exact ⟨source, task, follows_enroll_self e source task, hkey.symm⟩
    · simp only [TaskEngine.enroll, SortedMap.find?_insert_of_ne _ _ hkey] at hn
      obtain ⟨source', task', h, hrun⟩ := hs.registered key n hn
      exact ⟨source', task', hold _ _ _ h, hrun⟩
  · exact hs.requested q hq

section Move

variable {blamed : Nat → Prop} {e e' : TaskEngine}

/-- Every move keeps the registry and the jobs in order. -/
theorem Sound.move (hs : e.Sound) (h : Move blamed e e') : e'.Sound := by
  cases h with
  | arrange stores leads schedules _ => exact ⟨hs.fresh, hs.registered, hs.requested⟩
  | set n s r found _ => exact hs.updateRunner n fun _ => ⟨rfl, rfl⟩
  | enroll source task _ => exact hs.enroll source task
  | ask kind opSpec n r found =>
      refine ⟨hs.fresh, hs.registered, fun q hq => ?_⟩
      rcases List.mem_append.1 hq with hq | hq
      · exact hs.requested q hq
      · rw [List.mem_singleton.1 hq]
        exact ⟨r, found, rfl, rfl⟩
  | abandon opSpec n r found _ => exact (hs.deregister n).updateRunner n fun _ => ⟨rfl, rfl⟩
  | announce source task s => exact ⟨hs.fresh, hs.registered, hs.requested⟩
  | reap =>
      rcases reap_cases e with hreap | ⟨n, rest, -, hreap | ⟨r, -, hreap⟩⟩
      · rwa [hreap]
      · rw [hreap]
        exact ⟨hs.fresh, hs.registered, hs.requested⟩
      · rw [hreap]
        exact hs.extend (fun _ _ _ => .rfl) rfl (fun _ _ h => find?_deregister h) rfl
  | drop =>
      obtain ⟨runners, hdrop, -⟩ := drop_eq e
      refine hs.extend (follows_drop e) (by rw [hdrop]) (fun key m hm => ?_) (by rw [hdrop])
      rw [hdrop] at hm
      cases hm

/-- What every move keeps, a row of moves keeps. -/
theorem Moves.keeps {p : TaskEngine → Prop} (hp : ∀ a b, a.Sound → p a → Move blamed a b → p b)
    (h : Moves blamed e e') (hs : e.Sound) (he : p e) : e'.Sound ∧ p e' := by
  induction h with
  | refl => exact ⟨hs, he⟩
  | tail _ hmove ih => exact ⟨ih.1.move hmove, hp _ _ ih.1 ih.2 hmove⟩

end Move

/-- A runner that looks whether its task is over stays with the task. -/
theorem Sound.follow {e : TaskEngine} (hs : e.Sound) (n : Nat) : (e.follow n).Sound := by
  have hunfollowed : (e.updateRunner n (fun r => { r with following := false })).Sound :=
    hs.updateRunner n fun _ => ⟨rfl, rfl⟩
  rcases follow_cases e n with heq | ⟨r, -, ⟨-, heq⟩ | ⟨-, heq⟩⟩
  · rwa [heq]
  · rwa [heq]
  · rw [heq]
    exact ⟨hunfollowed.fresh, hunfollowed.registered, hunfollowed.requested⟩

/-- Every event keeps the registry and the jobs in order. -/
theorem Sound.step {e : TaskEngine} (hs : e.Sound) (ev : TaskEvent) : (e.step ev).Sound := by
  rcases e.step_cases ev with ⟨n, rfl⟩ | ⟨stores, rfl⟩ | hmoves
  · exact hs.follow n
  · exact ⟨hs.fresh, hs.registered, hs.requested⟩
  · exact (hmoves.keeps (fun _ _ _ _ _ => trivial) hs trivial).1

/-- Every run keeps the registry and the jobs in order. -/
theorem Sound.run {e : TaskEngine} (hs : e.Sound) (events : List TaskEvent) :
    (e.run events).Sound := by
  induction events generalizing e with
  | nil => exact hs
  | cons ev rest ih => exact ih (hs.step ev)

/-- The registry and the jobs are in order in every run of an engine that had no runners. -/
theorem sound_run (settings : EngineSettings) (stores : TaskStores) (events : List TaskEvent) :
    ((start settings stores).run events).Sound :=
  (sound_start settings stores).run events

end TaskEngine
end Orchestration
