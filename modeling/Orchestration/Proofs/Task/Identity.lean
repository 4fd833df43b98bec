import Orchestration.Proofs.Collection.Lookup
import Orchestration.Proofs.Task.Run

/-!
# How the task engine tells tasks apart

A task is its source application with its task id.  The stores and the jobs go by the two names.
The registry of runners goes by one text that joins them with a dash, and names may hold dashes
themselves: two tasks may have one key.

So the engine knows a task apart from all others exactly while no runner of another task holds its
key.  While one does, whatever a client or a report says about the task is taken to be about the
other one.  Names without dashes never share a key.

Main results:

- `runTaskId_eq_iff`: which tasks share a key.
- `TaskEngine.Sound.hasRunner_iff`: the runner of a task is the one that holds its key, or another
  task holds it.
- `TaskEngine.Sound.identifies`, `TaskEngine.Sound.mistakes`: what the engine does for a task of
  which the key is held by nobody else, and for one of which it is.
- `TaskEngine.identifies_iff_not_shadowed`: that for every run.
-/

namespace Orchestration

/-! ## Keys -/

/-- The joined name, character by character. -/
theorem toList_runTaskId (source task : String) :
    (runTaskId source task).toList = source.toList ++ '-' :: task.toList := by
  simp [runTaskId]

/-- Two tasks share a key exactly if a dash inside of a name of one of them stands where the other
one has the dash of the key. -/
theorem runTaskId_eq_iff (source task source' task' : String) :
    runTaskId source task = runTaskId source' task' ↔
      (source = source' ∧ task = task') ∨
      (∃ x, source' = source ++ "-" ++ x ∧ task = x ++ "-" ++ task') ∨
      (∃ x, source = source' ++ "-" ++ x ∧ task' = x ++ "-" ++ task) := by
  constructor
  · intro hkey
    have hlist := congrArg String.toList hkey
    rw [toList_runTaskId, toList_runTaskId, List.append_eq_append_iff] at hlist
    -- One source begins with the other; `c` is what it has beyond, up to its own dash.
    rcases hlist with ⟨c, hsource, htask⟩ | ⟨c, hsource, htask⟩
    · cases c with
      | nil =>
          refine .inl ⟨?_, ?_⟩
          · exact String.toList_inj.1 (by simpa using hsource.symm)
          · exact String.toList_inj.1 (by simpa using htask)
      | cons d x =>
          obtain ⟨rfl, htask⟩ := List.cons.inj htask
          refine .inr (.inl ⟨String.ofList x, ?_, ?_⟩) <;> apply String.toList_inj.1
          · simpa using hsource
          · simpa using htask
    · cases c with
      | nil =>
          refine .inl ⟨?_, ?_⟩
          · exact String.toList_inj.1 (by simpa using hsource)
          · exact String.toList_inj.1 (by simpa using htask.symm)
      | cons d x =>
          obtain ⟨rfl, htask⟩ := List.cons.inj htask
          refine .inr (.inr ⟨String.ofList x, ?_, ?_⟩) <;> apply String.toList_inj.1
          · simpa using hsource
          · simpa using htask
  · rintro (⟨rfl, rfl⟩ | ⟨x, rfl, rfl⟩ | ⟨x, rfl, rfl⟩)
    · rfl
    · simp [runTaskId, String.append_assoc]
    · simp [runTaskId, String.append_assoc]

/-- A task of which no name holds a dash shares its key with no other. -/
theorem eq_of_runTaskId_eq {source task source' task' : String} (hsource : '-' ∉ source.toList)
    (htask : '-' ∉ task.toList) (h : runTaskId source task = runTaskId source' task') :
    source = source' ∧ task = task' := by
  rcases (runTaskId_eq_iff ..).1 h with hsame | ⟨x, -, rfl⟩ | ⟨x, rfl, -⟩
  · exact hsame
  · simp at htask
  · simp at hsource

namespace TaskEngine

/-! ## Runners of a task, and runners that stand in its way -/

/-- A runner of the task is registered, under whatever key. -/
def HasRunner (e : TaskEngine) (source task : String) : Prop :=
  ∃ n ∈ e.registry.values, e.Follows n source task

/-- A runner of another task holds the key of the task. -/
def Shadowed (e : TaskEngine) (source task : String) : Prop :=
  ∃ n source' task', e.registered? source task = some n ∧ e.Follows n source' task' ∧
    ¬ (source' = source ∧ task' = task)

/-- The engine tells a task apart from all others.  `killed` and `spared`: a request to kill it asks
for a job that stops it, for its own runner, exactly if that is registered.  `stopped`: if it is
reported to run without a runner, it gets one, and a job that stops it.  `created`: it is refused as
a duplicate only if its own runner is registered or its own record is stored. -/
structure Identifies (e : TaskEngine) (source task : String) : Prop where
  killed : e.HasRunner source task → ∀ opSpec, ∃ n, e.Follows n source task ∧
    (e.kill source task opSpec).1.requests =
      e.requests ++ [⟨.stop, source, task, opSpec, n, e.schedules⟩]
  spared : ¬ e.HasRunner source task → ∀ opSpec, (e.kill source task opSpec).1 = e
  stopped : ¬ e.HasRunner source task → e.alive = true → e.leads = true →
    ∀ r, e.stores.takeAnnounced.2 = some r → r.state = .running → r.sourceAppName = source →
      r.taskId = task → e.hear.HasRunner source task ∧ ∃ n, e.hear.Follows n source task ∧
        e.hear.requests =
          e.requests ++ [⟨.stop, source, task, e.settings.defaultOpSpec, n, e.schedules⟩]
  created : ∀ spec opSpec, spec.sourceAppName = source → spec.taskId = task →
    e.violations spec = [] →
    (e.create spec opSpec).2 = duplicate source task →
    e.HasRunner source task ∨ (e.stores.record? source task).isSome = true

/-- The engine takes a task for another one, which shares its key.  `killed`: a request to kill it
asks for a job that stops the other one.  `ignored`: if it is reported to run, it gets neither a
runner nor a job.  `refused`: it is refused as a duplicate. -/
structure Mistakes (e : TaskEngine) (source task source' task' : String) : Prop where
  other : ¬ (source' = source ∧ task' = task)
  key : runTaskId source' task' = runTaskId source task
  unfollowed : ¬ e.HasRunner source task
  killed : ∀ opSpec, ∃ n, e.Follows n source' task' ∧ (e.kill source task opSpec).1.requests =
    e.requests ++ [⟨.stop, source', task', opSpec, n, e.schedules⟩]
  ignored : ∀ r, e.stores.takeAnnounced.2 = some r → r.sourceAppName = source → r.taskId = task →
    e.hear.registry = e.registry ∧ e.hear.requests = e.requests
  refused : ∀ spec opSpec, spec.sourceAppName = source → spec.taskId = task →
    e.violations spec = [] → e.create spec opSpec = (e, duplicate source task)

section Sound

variable {e : TaskEngine} {source task : String}

/-- Whoever is registered for a task has its key. -/
theorem Sound.key_eq (hs : e.Sound) {n : Nat} {source' task' : String}
    (hn : e.registered? source task = some n) (hfollows : e.Follows n source' task') :
    runTaskId source' task' = runTaskId source task := by
  obtain ⟨source'', task'', h, hkey⟩ := hs.registered _ n hn
  obtain ⟨rfl, rfl⟩ := h.unique hfollows
  exact hkey

/-- The runner of a task, if it is registered at all, is registered under the key of the task. -/
theorem Sound.hasRunner_iff (hs : e.Sound) :
    e.HasRunner source task ↔
      ∃ n, e.registered? source task = some n ∧ e.Follows n source task := by
  constructor
  · rintro ⟨n, hn, hfollows⟩
    obtain ⟨key, hkey⟩ := (SortedMap.mem_values_iff _ _).1 hn
    obtain ⟨source', task', h, hrun⟩ := hs.registered key n hkey
    obtain ⟨rfl, rfl⟩ := h.unique hfollows
    exact ⟨n, by rw [registered?, hrun, hkey], hfollows⟩
  · rintro ⟨n, hn, hfollows⟩
    exact ⟨n, (SortedMap.mem_values_iff _ _).2 ⟨_, hn⟩, hfollows⟩

/-- Whoever is registered for a task follows it, unless the task is shadowed. -/
theorem Sound.registered?_eq_none_or (hs : e.Sound) (hclear : ¬ e.Shadowed source task) :
    e.registered? source task = none ∨
      ∃ n, e.registered? source task = some n ∧ e.Follows n source task := by
  cases hn : e.registered? source task with
  | none => exact .inl rfl
  | some n =>
      obtain ⟨source', task', h, -⟩ := hs.registered _ n hn
      by_cases hown : source' = source ∧ task' = task
      · obtain ⟨rfl, rfl⟩ := hown
        exact .inr ⟨n, rfl, h⟩
      · exact absurd ⟨n, source', task', hn, h, hown⟩ hclear

/-- A task that is shadowed has no runner. -/
theorem Sound.not_hasRunner_of_shadowed (hs : e.Sound) (h : e.Shadowed source task) :
    ¬ e.HasRunner source task := by
  intro hown
  obtain ⟨n, source', task', hn, hfollows, hother⟩ := h
  obtain ⟨n', hn', hfollows'⟩ := hs.hasRunner_iff.1 hown
  rw [hn] at hn'
  cases hn'
  exact hother (hfollows.unique hfollows')

/-- A request to kill a task asks for a job for whatever task the registered runner follows. -/
theorem requests_kill {n : Nat} {source' task' : String} (hn : e.registered? source task = some n)
    (hfollows : e.Follows n source' task') (opSpec : ClusterOpSpec) :
    (e.kill source task opSpec).1.requests =
      e.requests ++ [⟨.stop, source', task', opSpec, n, e.schedules⟩] := by
  obtain ⟨r, hr, rfl, rfl⟩ := hfollows
  rw [kill_of_registered hn hr]
  rfl

/-- The engine once an announcement was heard and published. -/
def heard (e : TaskEngine) (r : TaskRecord) : TaskEngine :=
  ({ e with stores := e.stores.takeAnnounced.1 } : TaskEngine).publish
    (.taskStateChange r.sourceAppName r.taskId r.state)

/-- What the engine does with an announcement. -/
theorem hear_eq {r : TaskRecord} (hr : e.stores.takeAnnounced.2 = some r) :
    e.hear =
      if e.alive then
        if r.state = .running ∧ e.leads = true then (e.heard r).killZombie r.sourceAppName r.taskId
        else e.heard r
      else { e with stores := e.stores.takeAnnounced.1 } := by
  unfold hear
  split
  · rename_i stores hnone
    rw [hnone] at hr
    cases hr
  · rename_i stores r' hsome
    rw [hsome] at hr
    cases hr
    cases halive : e.alive <;> simp [hsome, heard, publish, halive]

/-- The announcement of a task that has a runner asks for nothing. -/
theorem hear_of_registered {r : TaskRecord} {n : Nat} (hr : e.stores.takeAnnounced.2 = some r)
    (hn : e.registered? r.sourceAppName r.taskId = some n) :
    e.hear.registry = e.registry ∧ e.hear.requests = e.requests := by
  have hzombie : (e.heard r).killZombie r.sourceAppName r.taskId = e.heard r := by
    have hheld : (e.heard r).registered? r.sourceAppName r.taskId = some n := hn
    simp [killZombie, hheld]
  rw [hear_eq hr, hzombie, ite_self]
  split <;> exact ⟨rfl, rfl⟩

/-- A task that is stopped as a zombie has a runner afterwards, which asked for a job. -/
theorem killZombie_of_unregistered (h : e.registered? source task = none) :
    (e.killZombie source task).HasRunner source task ∧
      (e.killZombie source task).Follows e.next source task ∧
      (e.killZombie source task).requests =
        e.requests ++ [⟨.stop, source, task, e.settings.defaultOpSpec, e.next, e.schedules⟩] := by
  have hzombie : e.killZombie source task =
      ((e.enroll source task).1.request .stop source task e.settings.defaultOpSpec e.next).1 := by
    simp [killZombie, register, h, stopTask, enroll]
  have hfollows : (e.killZombie source task).Follows e.next source task := by
    rw [hzombie]
    exact follows_enroll_self e source task
  refine ⟨⟨e.next, ?_, hfollows⟩, hfollows, ?_⟩
  · rw [SortedMap.mem_values_iff]
    refine ⟨runTaskId source task, ?_⟩
    rw [hzombie]
    exact SortedMap.find?_insert_self _ _ _
  · rw [hzombie]
    rfl

/-- A task of which nobody else holds the key is told apart from all others. -/
theorem Sound.identifies (hs : e.Sound) (hclear : ¬ e.Shadowed source task) :
    e.Identifies source task where
  killed hown opSpec := by
    obtain ⟨n, hn, hfollows⟩ := hs.hasRunner_iff.1 hown
    exact ⟨n, hfollows, requests_kill hn hfollows opSpec⟩
  spared hnone opSpec := by
    have hfree := (hs.registered?_eq_none_or hclear).resolve_right fun h =>
      hnone (hs.hasRunner_iff.2 h)
    simp [kill, hfree]
  stopped hnone halive hleads r hr hrunning hsource htask := by
    subst hsource htask
    have hfree : (e.heard r).registered? r.sourceAppName r.taskId = none :=
      (hs.registered?_eq_none_or hclear).resolve_right fun h => hnone (hs.hasRunner_iff.2 h)
    obtain ⟨hrunner, hfollows, hrequests⟩ := killZombie_of_unregistered hfree
    rw [hear_eq hr, if_pos halive, if_pos ⟨hrunning, hleads⟩]
    exact ⟨hrunner, _, hfollows, hrequests⟩
  created spec opSpec hsource htask hspec hrefused := by
    by_contra hneither
    rw [not_or, Bool.not_eq_true, Option.isSome_eq_false_iff, Option.isNone_iff_eq_none]
      at hneither
    have hfree := (hs.registered?_eq_none_or hclear).resolve_right fun h =>
      hneither.1 (hs.hasRunner_iff.2 h)
    subst hsource htask
    have hverdict := congrArg Prod.snd (create_of_new hspec hneither.2 hfree opSpec)
    rw [hrefused] at hverdict
    -- Whichever verdict it is, it is not the refusal of a duplicate.
    cases hschedules : e.schedules with
    | true => simp [hschedules, duplicate, Verdict.failure, Verdict.success] at hverdict
    | false =>
        simp only [hschedules, duplicate, Verdict.failure, Bool.false_eq_true, if_false,
          Verdict.mk.injEq, List.cons.injEq, true_and, and_true] at hverdict
        have hhead := congrArg (fun t => t.toList.head?) hverdict
        simp at hhead

/-- A task of which another one holds the key is taken for that one. -/
theorem Sound.mistakes (hs : e.Sound) {n : Nat} {source' task' : String}
    (hn : e.registered? source task = some n) (hfollows : e.Follows n source' task')
    (hother : ¬ (source' = source ∧ task' = task)) : e.Mistakes source task source' task' where
  other := hother
  key := hs.key_eq hn hfollows
  unfollowed := hs.not_hasRunner_of_shadowed ⟨n, source', task', hn, hfollows, hother⟩
  killed opSpec := ⟨n, hfollows, requests_kill hn hfollows opSpec⟩
  ignored r hr hsource htask := by
    subst hsource htask
    exact hear_of_registered hr hn
  refused spec opSpec hsource htask hspec := by
    subst hsource htask
    exact create_of_known hspec (.inr (by rw [hn]; rfl)) opSpec

end Sound

/-- In every run, the engine tells a task apart from all others exactly while no runner of another
task holds its key.  While one does, the task is taken for that one.  It never happens to a task of
which no name holds a dash. -/
theorem identifies_iff_not_shadowed (settings : EngineSettings) (stores : TaskStores)
    (events : List TaskEvent) (source task : String) :
    let e := (start settings stores).run events
    (e.Identifies source task ↔ ¬ e.Shadowed source task) ∧
      (e.Shadowed source task → ∃ source' task', e.Mistakes source task source' task') ∧
      ('-' ∉ source.toList → '-' ∉ task.toList → ¬ e.Shadowed source task) := by
  intro e
  have hs : e.Sound := sound_run settings stores events
  have hmistakes : e.Shadowed source task →
      ∃ source' task', e.Mistakes source task source' task' := by
    rintro ⟨n, source', task', hn, hfollows, hother⟩
    exact ⟨source', task', hs.mistakes hn hfollows hother⟩
  refine ⟨⟨fun hidentifies hshadowed => ?_, hs.identifies⟩, hmistakes, fun hsource htask => ?_⟩
  · obtain ⟨source', task', hmistake⟩ := hmistakes hshadowed
    obtain ⟨n, -, hkilled⟩ := hmistake.killed e.settings.defaultOpSpec
    have hspared := hidentifies.spared hmistake.unfollowed e.settings.defaultOpSpec
    rw [hspared] at hkilled
    simp at hkilled
  · rintro ⟨n, source', task', hn, hfollows, hother⟩
    have hkey := hs.key_eq hn hfollows
    obtain ⟨rfl, rfl⟩ := eq_of_runTaskId_eq hsource htask hkey.symm
    exact hother ⟨rfl, rfl⟩

/-- The task `1` of `shop-eu` runs.  The task `eu-1` of `shop` does not, but it has the same key: a
request to kill it stops the other one. -/
theorem task_killed_for_another :
    let spec : TaskSpec :=
      { sourceAppName := "shop-eu", taskId := "1", executable := { image := "shop" } }
    let e := (start {} { now := .epoch }).run [.handle (.create spec {})]
    ¬ e.HasRunner "shop" "eu-1" ∧
      (e.kill "shop" "eu-1" {}).1.requests =
        e.requests ++ [⟨.stop, "shop-eu", "1", {}, 0, true⟩] ∧
      ¬ e.Identifies "shop" "eu-1" := by
  intro spec e
  have hrun : e.registered? "shop" "eu-1" = some 0 ∧
      e.runners.find? 0 = some { source := "shop-eu", task := "1" } ∧ e.schedules = true := by
    simp only [e, spec]
    decide +kernel
  obtain ⟨hregistered, hrunner, hschedules⟩ := hrun
  obtain ⟨hiff, hmistakes, -⟩ :=
    identifies_iff_not_shadowed {} { now := .epoch } [.handle (.create spec {})] "shop" "eu-1"
  have hfollows : e.Follows 0 "shop-eu" "1" := ⟨_, hrunner, rfl, rfl⟩
  have hshadowed : e.Shadowed "shop" "eu-1" :=
    ⟨0, "shop-eu", "1", hregistered, hfollows, by simp⟩
  obtain ⟨source', task', hmistake⟩ := hmistakes hshadowed
  refine ⟨hmistake.unfollowed, ?_, fun hidentifies => hiff.1 hidentifies hshadowed⟩
  rw [requests_kill hregistered hfollows, hschedules]

end TaskEngine
end Orchestration
