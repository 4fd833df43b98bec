import Orchestration.Proofs.Store.TaskCoherence
import Orchestration.Proofs.Task.Handover
import Orchestration.Proofs.Task.Zombie

/-!
# What a runner makes of the record of its task

A runner holds the state of its task as it was read last.  A terminal state cannot be taken back: it
is the end of the runner.  So the runner must not run ahead of the record.  That is at stake when a
record is stale.  The runner then gives its task up, which is a write that the store may refuse; and
it holds the task for lost only if the store did not.

A verdict that was refused leaves no trace at all.  The runner stays registered, and when the
registered runners read the states of their tasks again the verdict is pronounced anew.

Main results:

- `TaskStores.update_asLost`: giving a task up is refused by the gate or not at all.
- `TaskEngine.refresh_cases`: everything that a look at the stores can do.
- `TaskEngine.find?_foldl_refresh`, `TaskEngine.record?_foldl_refresh`: what runners and records
  become when a row of runners looks.
- `TaskEngine.Pending.step`, `TaskEngine.Pending.run`: a runner stays registered while its task goes
  on.
- `TaskEngine.runner_in_step_with_record`: a look never runs ahead of the record, and a refused
  verdict is tried again.
-/

namespace Orchestration

/-- What is stale was not written later. -/
theorem not_lt_of_isStaleAt {now updated : Timestamp} (h : isStaleAt now updated = true) :
    ¬ now < updated := by
  have hnanos : now.nanos < 2000000000 := by
    have hvalid := now.valid
    simp only [Moment.isValid, Bool.and_eq_true, decide_eq_true_eq] at hvalid
    exact hvalid.1.2
  have hage : staleAge < now.unixNanos - updated.unixNanos := of_decide_eq_true h
  simp only [staleAge, Timestamp.unixNanos] at hage
  rw [Timestamp.lt_iff]
  omega

/-! ## Records that are given up -/

namespace TaskStores

/-- A task is to be given up: it is active, and its record was not written for too long. -/
def isLost (w : TaskStores) (r : TaskRecord) : Bool :=
  r.state.isActive && r.isStale w.now

/-- The record of a task once a runner has looked at it. -/
def looked (w : TaskStores) (source task : String) : Option TaskRecord :=
  (w.record? source task).map fun r =>
    if w.isLost r && w.gated.accepting then r.asLost w.now else r

/-- The state that a runner holds once it has looked at the record of its task, given the one that
it held before. -/
def seen (w : TaskStores) (source task : String) (state : Option TaskState) : Option TaskState :=
  match w.record? source task with
  | none => state.map fun _ => .lost
  | some r =>
    if w.isLost r then if w.gated.accepting then some .lost else state else some r.state

section Update

variable {w : TaskStores} {source task : String} {r : TaskRecord}

/-- A write behind a gate that is shut does nothing. -/
theorem update_of_refusing (h : w.gated.accepting = false) (source task : String)
    (r : TaskRecord) : w.update source task r = (w, false) := by
  unfold update
  split
  · rfl
  · simp [Gated.write, h]

/-- A write takes no time. -/
theorem now_update (w : TaskStores) (source task : String) (r : TaskRecord) :
    (w.update source task r).1.now = w.now := by
  unfold update
  split <;> rfl

/-- Whether writes are accepted does not depend on what is written. -/
theorem accepting_update (w : TaskStores) (source task : String) (r : TaskRecord) :
    (w.update source task r).1.gated.accepting = w.gated.accepting := by
  unfold update
  split
  · rfl
  · exact Gated.accepting_write ..

/-- Giving a task up is refused by the gate or not at all: it does not come too late, even for a
store that keeps the newest record. -/
theorem update_asLost (hr : w.record? source task = some r) (hlost : w.isLost r = true) :
    (w.update source task (r.asLost w.now)).2 = w.gated.accepting := by
  have hstale : isStaleAt w.now r.updated = true := by
    rw [isLost, Bool.and_eq_true] at hlost
    exact hlost.2
  have hnewest : w.isOutdated source task (r.asLost w.now) = false := by
    rw [isOutdated, hr, Bool.and_eq_false_iff]
    exact .inr (decide_eq_false (not_lt_of_isStaleAt hstale))
  rw [update, if_neg (by rw [hnewest]; exact Bool.false_ne_true)]
  exact Gated.write_snd ..

/-- A task that is given up has the record that says so, and no other task's record changes. -/
theorem record?_update_asLost (hr : w.record? source task = some r) (hlost : w.isLost r = true)
    (hgate : w.gated.accepting = true) (source' task' : String) :
    (w.update source task (r.asLost w.now)).1.record? source' task' =
      if source' = source ∧ task' = task then some (r.asLost w.now)
      else w.record? source' task' := by
  rw [record?_update, update_asLost hr hlost, hgate]
  simp

end Update

/-! ### Looking twice -/

/-- Between two stores some records were given up, of those that were to be given up. -/
structure Reviewed (w w' : TaskStores) : Prop where
  now_eq : w'.now = w.now
  accepting_eq : w'.gated.accepting = w.gated.accepting
  record : ∀ source task, w'.record? source task = w.record? source task ∨
    w'.record? source task = w.looked source task

section Reviewed

variable {w w' w'' : TaskStores}

/-- Stores that nobody looked at are reviewed. -/
theorem Reviewed.refl (w : TaskStores) : Reviewed w w :=
  ⟨rfl, rfl, fun _ _ => .inl rfl⟩

/-- A task that was given up is not to be given up again. -/
theorem isLost_asLost (w : TaskStores) (r : TaskRecord) (now : Timestamp) :
    w.isLost (r.asLost now) = false :=
  rfl

/-- A record is as old after a review as before. -/
theorem Reviewed.isLost (h : Reviewed w w') (r : TaskRecord) : w'.isLost r = w.isLost r := by
  rw [TaskStores.isLost, h.now_eq, TaskStores.isLost]

/-- Whoever looks at a record a second time finds what the first look left. -/
theorem Reviewed.looked (h : Reviewed w w') (source task : String) :
    w'.looked source task = w.looked source task := by
  rcases h.record source task with hsame | hlooked
  · simp only [TaskStores.looked, hsame, h.isLost, h.accepting_eq, h.now_eq]
  · rw [TaskStores.looked, hlooked, TaskStores.looked, Option.map_map]
    congr 1
    funext r
    simp only [Function.comp_apply, h.isLost, h.accepting_eq, h.now_eq]
    cases hlost : w.isLost r && w.gated.accepting with
    | true => simp [isLost_asLost]
    | false => simp [hlost]

/-- So does a runner that looks after another one. -/
theorem Reviewed.seen (h : Reviewed w w') (source task : String) (state : Option TaskState) :
    w'.seen source task state = w.seen source task state := by
  rcases h.record source task with hsame | hlooked
  · simp only [TaskStores.seen, hsame, h.isLost, h.accepting_eq]
  · simp only [TaskStores.seen, hlooked, TaskStores.looked]
    cases hrecord : w.record? source task with
    | none => rfl
    | some r =>
        simp only [Option.map_some, h.isLost, h.accepting_eq]
        cases hlost : w.isLost r <;> cases hgate : w.gated.accepting <;>
          simp [hlost, TaskRecord.asLost]

/-- A runner that looks twice holds what it held after the first look. -/
theorem seen_seen (w : TaskStores) (source task : String) (state : Option TaskState) :
    w.seen source task (w.seen source task state) = w.seen source task state := by
  unfold seen
  cases w.record? source task with
  | none => cases state <;> rfl
  | some r =>
      dsimp only
      split
      · split <;> rfl
      · rfl

/-- A review after a review is a review: a record that was given up once is not given up again. -/
theorem Reviewed.trans (h : Reviewed w w') (h' : Reviewed w' w'') : Reviewed w w'' where
  now_eq := h'.now_eq.trans h.now_eq
  accepting_eq := h'.accepting_eq.trans h.accepting_eq
  record source task := by
    rcases h'.record source task with hsame | hlooked
    · rw [hsame]
      exact h.record source task
    · rw [hlooked, h.looked]
      exact .inr rfl

/-- A record that was looked at stays as the look has left it. -/
theorem Reviewed.record_of_looked (h : Reviewed w w') {source task : String}
    (hlooked : w'.record? source task = w.looked source task) (h' : Reviewed w' w'') :
    w''.record? source task = w.looked source task := by
  rcases h'.record source task with hsame | hagain
  · rw [hsame, hlooked]
  · rw [hagain, h.looked]

end Reviewed

end TaskStores

namespace TaskEngine

/-! ## One look -/

section Refresh

variable {e : TaskEngine} {n : Nat} {runner : TaskRunner} {r : TaskRecord}

/-- A task that was never recorded has no state. -/
theorem refresh_of_unseen (hn : e.runners.find? n = some runner)
    (hr : e.stores.record? runner.source runner.task = none) (hstate : runner.state = none) :
    e.refresh n = (e, none) := by
  simp [refresh, hn, hr, hstate]

/-- A task of which the record is gone is lost. -/
theorem refresh_of_gone (hn : e.runners.find? n = some runner)
    (hr : e.stores.record? runner.source runner.task = none) (hstate : runner.state ≠ none) :
    e.refresh n = (e.setState n .lost, some .lost) := by
  obtain ⟨s, hs⟩ := Option.ne_none_iff_exists'.1 hstate
  simp [refresh, hn, hr, hs]

/-- A task is given up, and the store takes that. -/
theorem refresh_of_accepted (hn : e.runners.find? n = some runner)
    (hr : e.stores.record? runner.source runner.task = some r) (hlost : e.stores.isLost r = true)
    (hgate : e.stores.gated.accepting = true) :
    e.refresh n = (({ e with
      stores := (e.stores.update runner.source runner.task (r.asLost e.stores.now)).1 } :
        TaskEngine).setState n .lost, some .lost) := by
  have hanswer := TaskStores.update_asLost hr hlost
  rw [hgate] at hanswer
  rw [TaskStores.isLost] at hlost
  simp only [refresh, hn, hr, hlost, hanswer, if_true]

/-- A task is given up, and the store refuses that. -/
theorem refresh_of_refused (hn : e.runners.find? n = some runner)
    (hr : e.stores.record? runner.source runner.task = some r) (hlost : e.stores.isLost r = true)
    (hgate : e.stores.gated.accepting = false) : e.refresh n = (e, some .lost) := by
  rw [TaskStores.isLost] at hlost
  simp [refresh, hn, hr, hlost, TaskStores.update_of_refusing hgate]

/-- Every other record is taken as it is. -/
theorem refresh_of_current (hn : e.runners.find? n = some runner)
    (hr : e.stores.record? runner.source runner.task = some r)
    (hlost : e.stores.isLost r = false) : e.refresh n = (e.setState n r.state, some r.state) := by
  rw [TaskStores.isLost] at hlost
  simp [refresh, hn, hr, hlost]

/-- Everything that a look at the stores can do. -/
theorem refresh_cases (hn : e.runners.find? n = some runner) :
    (e.stores.record? runner.source runner.task = none ∧ runner.state = none ∧
      e.refresh n = (e, none)) ∨
    (e.stores.record? runner.source runner.task = none ∧ runner.state ≠ none ∧
      e.refresh n = (e.setState n .lost, some .lost)) ∨
    (∃ r, e.stores.record? runner.source runner.task = some r ∧ e.stores.isLost r = true ∧
      e.stores.gated.accepting = true ∧
      e.refresh n = (({ e with
        stores := (e.stores.update runner.source runner.task (r.asLost e.stores.now)).1 } :
          TaskEngine).setState n .lost, some .lost)) ∨
    (∃ r, e.stores.record? runner.source runner.task = some r ∧ e.stores.isLost r = true ∧
      e.stores.gated.accepting = false ∧ e.refresh n = (e, some .lost)) ∨
    (∃ r, e.stores.record? runner.source runner.task = some r ∧ e.stores.isLost r = false ∧
      e.refresh n = (e.setState n r.state, some r.state)) := by
  cases hr : e.stores.record? runner.source runner.task with
  | none =>
      by_cases hstate : runner.state = none
      · exact .inl ⟨rfl, hstate, refresh_of_unseen hn hr hstate⟩
      · exact .inr (.inl ⟨rfl, hstate, refresh_of_gone hn hr hstate⟩)
  | some r =>
      cases hlost : e.stores.isLost r with
      | false =>
          exact .inr (.inr (.inr (.inr ⟨r, rfl, hlost, refresh_of_current hn hr hlost⟩)))
      | true =>
          cases hgate : e.stores.gated.accepting with
          | true =>
              have haccepted := refresh_of_accepted hn hr hlost hgate
              exact .inr (.inr (.inl ⟨r, rfl, hlost, rfl, haccepted⟩))
          | false =>
              have hrefused := refresh_of_refused hn hr hlost hgate
              exact .inr (.inr (.inr (.inl ⟨r, rfl, hlost, rfl, hrefused⟩)))

end Refresh

/-- A number that belongs to no runner is not looked after. -/
theorem refresh_of_none {e : TaskEngine} {n : Nat} (hn : e.runners.find? n = none) :
    e.refresh n = (e, none) := by
  simp [refresh, hn]

section Look

variable (e : TaskEngine) (n : Nat)

/-- The runners once one of them has looked. -/
theorem find?_refresh (m : Nat) :
    (e.refresh n).1.runners.find? m = (e.runners.find? m).map fun r =>
      if m = n then { r with state := e.stores.seen r.source r.task r.state } else r := by
  by_cases hm : m = n
  · subst hm
    cases hn : e.runners.find? m with
    | none => simp [refresh_of_none hn, hn]
    | some runner =>
        obtain ⟨source, task, state, retired, following⟩ := runner
        rcases refresh_cases hn with ⟨hr, hstate, heq⟩ | ⟨hr, hstate, heq⟩ |
          ⟨r, hr, hlost, hgate, heq⟩ | ⟨r, hr, hlost, hgate, heq⟩ | ⟨r, hr, hlost, heq⟩
        · dsimp only at hr hstate
          simp [heq, hn, TaskStores.seen, hr, hstate]
        · dsimp only at hr hstate
          obtain ⟨s, rfl⟩ := Option.ne_none_iff_exists'.1 hstate
          simp [heq, hn, TaskStores.seen, hr, setState]
        · dsimp only at hr
          simp [heq, hn, TaskStores.seen, hr, hlost, hgate, setState]
        · dsimp only at hr
          simp [heq, hn, TaskStores.seen, hr, hlost, hgate]
        · dsimp only at hr
          simp [heq, hn, TaskStores.seen, hr, hlost, setState]
  · rw [(rereads_refresh e n).others m hm]
    simp [hm]

/-- The records once a runner has looked: that of its task is the one that the look leaves, and no
other one changes. -/
theorem record?_refresh {runner : TaskRunner} (hn : e.runners.find? n = some runner)
    (source task : String) :
    (e.refresh n).1.stores.record? source task =
      if source = runner.source ∧ task = runner.task then e.stores.looked source task
      else e.stores.record? source task := by
  have hsame : (e.refresh n).1.stores = e.stores →
      e.stores.looked runner.source runner.task = e.stores.record? runner.source runner.task →
      (e.refresh n).1.stores.record? source task =
        if source = runner.source ∧ task = runner.task then e.stores.looked source task
        else e.stores.record? source task := by
    intro hstores hlooked
    rw [hstores]
    split <;> rename_i hkey
    · rw [hkey.1, hkey.2, hlooked]
    · rfl
  rcases refresh_cases hn with ⟨hr, -, heq⟩ | ⟨hr, -, heq⟩ | ⟨r, hr, hlost, hgate, heq⟩ |
    ⟨r, hr, hlost, hgate, heq⟩ | ⟨r, hr, hlost, heq⟩
  · exact hsame (by rw [heq]) (by rw [TaskStores.looked, hr, Option.map_none])
  · exact hsame (by rw [heq, setState, stores_updateRunner])
      (by rw [TaskStores.looked, hr, Option.map_none])
  · rw [heq, setState, stores_updateRunner]
    dsimp only
    rw [TaskStores.record?_update_asLost hr hlost hgate]
    split <;> rename_i hkey
    · rw [hkey.1, hkey.2, TaskStores.looked, hr, Option.map_some, hlost, hgate]
      rfl
    · rfl
  · exact hsame (by rw [heq]) (by simp [TaskStores.looked, hr, hgate])
  · exact hsame (by rw [heq, setState, stores_updateRunner])
      (by simp [TaskStores.looked, hr, hlost])

/-- A look gives up no more than one record, and that only if it is to be given up. -/
theorem reviewed_refresh : TaskStores.Reviewed e.stores (e.refresh n).1.stores := by
  cases hn : e.runners.find? n with
  | none =>
      rw [refresh_of_none hn]
      exact .refl e.stores
  | some runner =>
      have hclock : (e.refresh n).1.stores.now = e.stores.now ∧
          (e.refresh n).1.stores.gated.accepting = e.stores.gated.accepting := by
        rcases refresh_cases hn with ⟨-, -, heq⟩ | ⟨-, -, heq⟩ | ⟨r, -, -, -, heq⟩ |
          ⟨r, -, -, -, heq⟩ | ⟨r, -, -, heq⟩ <;> rw [heq]
        · exact ⟨rfl, rfl⟩
        · simp [setState]
        · simp [setState, TaskStores.now_update, TaskStores.accepting_update]
        · exact ⟨rfl, rfl⟩
        · simp [setState]
      refine ⟨hclock.1, hclock.2, fun source task => ?_⟩
      rw [record?_refresh e n hn]
      split
      · exact .inr rfl
      · exact .inl rfl

end Look

/-! ## Many looks -/

section Looks

variable (e : TaskEngine) (l : List Nat)

/-- A row of looks gives up no records but those that are to be given up. -/
theorem reviewed_foldl_refresh :
    TaskStores.Reviewed e.stores (l.foldl (fun e n => (e.refresh n).1) e).stores := by
  induction l generalizing e with
  | nil => exact .refl e.stores
  | cons n rest ih => exact (reviewed_refresh e n).trans (ih (e.refresh n).1)

/-- The runners after a row of looks: each of them that was in the row holds what it would hold had
it looked alone. -/
theorem find?_foldl_refresh (m : Nat) :
    (l.foldl (fun e n => (e.refresh n).1) e).runners.find? m = (e.runners.find? m).map fun r =>
      if m ∈ l then { r with state := e.stores.seen r.source r.task r.state } else r := by
  induction l generalizing e with
  | nil => simp
  | cons n rest ih =>
      rw [List.foldl_cons, ih, find?_refresh, Option.map_map]
      congr 1
      funext r
      simp only [Function.comp_apply, (reviewed_refresh e n).seen, List.mem_cons]
      by_cases hm : m = n <;> by_cases hrest : m ∈ rest <;> simp [hm, hrest, TaskStores.seen_seen]

/-- The record of a task after a row of looks in which a runner of the task took part. -/
theorem record?_foldl_refresh {n : Nat} (hn : n ∈ l) {source task : String}
    (hf : e.Follows n source task) :
    (l.foldl (fun e n => (e.refresh n).1) e).stores.record? source task =
      e.stores.looked source task := by
  induction l generalizing e with
  | nil => cases hn
  | cons m rest ih =>
      rw [List.foldl_cons]
      rcases List.mem_cons.1 hn with rfl | hrest
      · obtain ⟨r, hr, rfl, rfl⟩ := hf
        refine (reviewed_refresh e n).record_of_looked ?_ (reviewed_foldl_refresh _ rest)
        rw [record?_refresh e n hr, if_pos ⟨rfl, rfl⟩]
      · have hf' : (e.refresh m).1.Follows n source task := by
          obtain ⟨r, hr, rfl, rfl⟩ := hf
          refine ⟨_, by rw [find?_refresh, hr, Option.map_some], ?_, ?_⟩ <;> split <;> rfl
        rw [ih _ hrest hf', (reviewed_refresh e m).looked]

end Looks

/-- What becomes of a registered runner and of the record of its task when the leader has the
registered runners look. -/
theorem step_monitor {e : TaskEngine} {n : Nat} {source task : String} (hleads : e.leads = true)
    (halive : e.alive = true) (hn : n ∈ e.registry.values) (hf : e.Follows n source task) :
    (e.step .monitor).stores.record? source task = e.stores.looked source task ∧
      (e.step .monitor).state? n = e.stores.seen source task (e.state? n) := by
  have hmonitor : e.step .monitor = e.registry.values.foldl (fun e n => (e.refresh n).1) e := by
    rw [step, monitor, hleads, halive]
    rfl
  rw [hmonitor]
  refine ⟨record?_foldl_refresh e _ hn hf, ?_⟩
  obtain ⟨r, hr, rfl, rfl⟩ := hf
  rw [state?, find?_foldl_refresh, hr, Option.map_some, if_pos hn, Option.bind_some,
    state?_of_find? hr]

/-! ## Runners that stay registered -/

/-- Nobody who was registered has lost the registration. -/
def Retains (e e' : TaskEngine) : Prop :=
  ∀ key n, e.registry.find? key = some n → e'.registry.find? key = some n

section Retains

variable {e e' e'' : TaskEngine}

/-- Whoever leaves the registry alone lets everybody keep the registration. -/
theorem Retains.of_eq (h : e'.registry = e.registry) : Retains e e' :=
  fun _ _ hheld => h ▸ hheld

/-- What is kept twice is kept. -/
theorem Retains.trans (h : Retains e e') (h' : Retains e' e'') : Retains e e'' :=
  fun key n hheld => h' key n (h key n hheld)

/-- A new runner takes nobody's place. -/
theorem retains_enroll {source task : String} (hfree : e.registered? source task = none) :
    Retains e (e.enroll source task).1 := by
  intro key n hheld
  have hkey : key ≠ runTaskId source task := by
    rintro rfl
    rw [registered?, hheld] at hfree
    cases hfree
  exact (SortedMap.find?_insert_of_ne _ _ hkey).trans hheld

/-- To ask for a stop ends no registration. -/
theorem registry_stopTask (e : TaskEngine) (n : Nat) (opSpec : ClusterOpSpec) :
    (e.stopTask n opSpec).1.registry = e.registry := by
  unfold stopTask
  split <;> rfl

/-- A task is registered anew only if it was not registered. -/
theorem retains_register (e : TaskEngine) (source task : String) :
    Retains e (e.register source task).1 := by
  unfold register
  split
  · exact .of_eq rfl
  · rename_i hfree
    exact retains_enroll hfree

/-- So is a zombie, of which the registration stays. -/
theorem retains_killZombie (e : TaskEngine) (source task : String) :
    Retains e (e.killZombie source task) := by
  unfold killZombie
  split
  · exact .of_eq rfl
  · exact (retains_register e source task).trans (.of_eq (registry_stopTask _ _ _))

/-- A creation registers a new runner, and drops no other one. -/
theorem retains_create (e : TaskEngine) (spec : TaskSpec) (opSpec : ClusterOpSpec) :
    Retains e (e.create spec opSpec).1 := by
  cases hspec : e.violations spec with
  | cons v vs => exact .of_eq (by simp [create, hspec])
  | nil =>
      by_cases hknown : (e.stores.record? spec.sourceAppName spec.taskId).isSome = true ∨
          (e.registered? spec.sourceAppName spec.taskId).isSome = true
      · rw [create_of_known hspec hknown]
        exact .of_eq rfl
      · simp only [not_or, Bool.not_eq_true, Option.isSome_eq_false_iff,
          Option.isNone_iff_eq_none] at hknown
        cases hschedules : e.schedules with
        | true =>
            rw [create_of_new hspec hknown.1 hknown.2, hschedules]
            exact (retains_enroll hknown.2).trans (.of_eq rfl)
        | false =>
            -- The runner that is dropped again is the one that was just made.
            rw [create_of_unscheduled hspec hknown.1 hknown.2 hschedules]
            exact .of_eq rfl

/-- No operation ends a registration. -/
theorem retains_handle (e : TaskEngine) (op : TaskOperation) : Retains e (e.handle op).1 := by
  cases op with
  | create spec opSpec => exact retains_create e spec opSpec
  | kill source task opSpec =>
      simp only [handle, kill]
      split
      · exact .of_eq rfl
      · rename_i n _
        have hstop := registry_stopTask e n opSpec
        split <;> rename_i hstopped <;> rw [hstopped] at hstop <;> exact .of_eq hstop

/-- Nor does an announcement. -/
theorem retains_hear (e : TaskEngine) : Retains e e.hear := by
  cases hr : e.stores.takeAnnounced.2 with
  | none =>
      have hnothing : e.hear = e := by
        unfold hear
        split <;> rename_i hsome
        · rfl
        · rw [hsome] at hr
          cases hr
      exact .of_eq (by rw [hnothing])
  | some r =>
      have hheard : Retains e (e.heard r) := .of_eq rfl
      rw [hear_eq hr]
      split
      · split
        · exact hheard.trans (retains_killZombie _ _ _)
        · exact hheard
      · exact .of_eq rfl

/-- All events but two let nobody go: the one that does, and the one that takes the engine down. -/
theorem retains_step (e : TaskEngine) {ev : TaskEvent} (hreap : ev ≠ .reap) (hdrop : ev ≠ .drop) :
    Retains e (e.step ev) := by
  cases ev with
  | handle op =>
      simp only [step]
      split
      · exact retains_handle e op
      · exact .of_eq rfl
  | register source task =>
      simp only [step]
      split
      · exact retains_register e source task
      · exact .of_eq rfl
  | killZombie source task =>
      simp only [step]
      split
      · exact retains_killZombie e source task
      · exact .of_eq rfl
  | ask kind n opSpec =>
      simp only [step]
      split <;> exact .of_eq rfl
  | complete k succeeded =>
      simp only [step]
      split
      · split
        · exact .of_eq (by rw [(rereads_completeJob e _ succeeded).same])
        · exact .of_eq rfl
      · exact .of_eq rfl
  | refresh n => exact .of_eq (by rw [step, (rereads_refresh e n).same])
  | hear => exact retains_hear e
  | follow n =>
      rw [step]
      rcases follow_cases e n with heq | ⟨r, -, ⟨-, heq⟩ | ⟨-, heq⟩⟩ <;> rw [heq] <;>
        exact .of_eq (by simp)
  | reap => exact absurd rfl hreap
  | monitor =>
      have hall (l : List Nat) (e : TaskEngine) :
          (l.foldl (fun e n => (e.refresh n).1) e).registry = e.registry := by
        induction l generalizing e with
        | nil => rfl
        | cons n rest ih => rw [List.foldl_cons, ih, (rereads_refresh e n).same]
      simp only [step, monitor]
      split
      · exact .of_eq (hall _ e)
      · exact .of_eq rfl
  | drop => exact absurd rfl hdrop
  | _ => exact .of_eq rfl

end Retains

/-- A runner is registered, its task goes on as far as the runner knows, and it was not handed
over. -/
structure Pending (e : TaskEngine) (n : Nat) (source task : String) : Prop where
  alive : e.alive = true
  registered : e.registered? source task = some n
  follows : e.Follows n source task
  waiting : n ∉ e.handedOver
  going : ¬ e.IsOver n

/-- In a run the engine is not taken down, no job of the runner fails, and its task goes on as far
as the stores tell. -/
def GoesOn (n : Nat) (source task : String) : TaskEngine → List TaskEvent → Prop
  | _, [] => True
  | e, ev :: rest =>
    ev ≠ .drop ∧ ¬ e.JobFails ev n ∧ ¬ (e.step ev).stores.Finished source task ∧
      GoesOn n source task (e.step ev) rest

section Pending

variable {e : TaskEngine} {n : Nat} {source task : String}

/-- No event lets a runner go while its task goes on. -/
theorem Pending.step (h : e.Pending n source task) (hs : e.Sound) {ev : TaskEvent}
    (hdrop : ev ≠ .drop) (hjobs : ¬ e.JobFails ev n)
    (hruns : ¬ (e.step ev).stores.Finished source task) : (e.step ev).Pending n source task := by
  have hfollows := follows_step hs ev h.follows
  have hgoing : ¬ (e.step ev).IsOver n := by
    intro hover
    have hchanged : (e.step ev).state? n ≠ e.state? n := by
      intro hsame
      apply h.going
      rwa [IsOver, ← hsame]
    rcases excused_step hs ev hfollows hover hchanged with hfinished | ⟨hfails, -⟩
    · exact hruns hfinished
    · exact hjobs hfails
  by_cases hreap : ev = .reap
  · subst hreap
    have hhead : e.handedOver.head? ≠ some n := fun hhead => h.waiting (List.mem_of_head? hhead)
    refine ⟨?_, find?_reap_of_ne h.registered hhead, hfollows, ?_, hgoing⟩
    · rw [TaskEngine.step]
      rcases reap_cases e with heq | ⟨m, rest, -, heq | ⟨r, -, heq⟩⟩ <;> rw [heq] <;> exact h.alive
    · have hwaiting := h.waiting
      rw [TaskEngine.step]
      rcases reap_cases e with heq | ⟨m, rest, hrest, heq | ⟨r, -, heq⟩⟩ <;> rw [heq]
      · exact hwaiting
      · exact fun hmem => hwaiting (hrest ▸ List.mem_cons_of_mem m hmem)
      · exact fun hmem => hwaiting (hrest ▸ List.mem_cons_of_mem m hmem)
  have hregistered := retains_step e hreap hdrop _ n h.registered
  by_cases hfollow : ∃ m, ev = .follow m
  · obtain ⟨m, rfl⟩ := hfollow
    refine ⟨?_, hregistered, hfollows, ?_, hgoing⟩
    · rw [TaskEngine.step]
      rcases follow_cases e m with heq | ⟨r, -, ⟨-, heq⟩ | ⟨-, heq⟩⟩ <;> rw [heq] <;>
        simpa using h.alive
    · rw [TaskEngine.step]
      rcases follow_cases e m with heq | ⟨r, hr, ⟨-, heq⟩ | ⟨hover, heq⟩⟩ <;> rw [heq]
      · exact h.waiting
      · simpa using h.waiting
      · -- Only a runner whose task is over is handed over.
        have hother : n ≠ m := by
          rintro rfl
          exact h.going ((isOver_iff_of_find? hr).2 hover)
        simpa [hother] using h.waiting
  · have hspares := spares_step e (fun m hm => hfollow ⟨m, hm⟩) hreap hdrop
    exact ⟨hspares.alive.trans h.alive, hregistered, hfollows, hspares.handedOver ▸ h.waiting,
      hgoing⟩

/-- A runner stays registered in every run in which its task goes on. -/
theorem Pending.run (h : e.Pending n source task) (hs : e.Sound) {events : List TaskEvent}
    (hruns : GoesOn n source task e events) : (e.run events).Pending n source task := by
  induction events generalizing e with
  | nil => exact h
  | cons ev rest ih =>
      obtain ⟨hdrop, hjobs, hgoes, hrest⟩ := hruns
      exact ih (h.step hs hdrop hjobs hgoes) (hs.step ev) hrest

end Pending

/-! ## In step with the record -/

/-- What a runner makes of the record of its task when it looks. -/
structure KeepsStep (e : TaskEngine) (n : Nat) (runner : TaskRunner) : Prop where
  /-- A task that was never recorded has no state. -/
  unseen : e.stores.record? runner.source runner.task = none → runner.state = none →
    e.refresh n = (e, none)
  /-- A task of which the record is gone is lost. -/
  gone : e.stores.record? runner.source runner.task = none → runner.state ≠ none →
    e.refresh n = (e.setState n .lost, some .lost)
  /-- A task that is to be given up is reported as lost, whether or not the store takes that. -/
  lost : ∀ r, e.stores.record? runner.source runner.task = some r → e.stores.isLost r = true →
    (e.refresh n).2 = some .lost
  /-- The runner holds its task for lost once the record says so. -/
  accepted : ∀ r, e.stores.record? runner.source runner.task = some r → e.stores.isLost r = true →
    e.stores.gated.accepting = true →
      (e.refresh n).1.state? n = some .lost ∧
      ∀ source task, (e.refresh n).1.stores.record? source task =
        if source = runner.source ∧ task = runner.task then some (r.asLost e.stores.now)
        else e.stores.record? source task
  /-- A verdict that the store refuses leaves no trace. -/
  refused : ∀ r, e.stores.record? runner.source runner.task = some r → e.stores.isLost r = true →
    e.stores.gated.accepting = false → (e.refresh n).1 = e
  /-- Every other record is taken as it is. -/
  current : ∀ r, e.stores.record? runner.source runner.task = some r → e.stores.isLost r = false →
    e.refresh n = (e.setState n r.state, some r.state)
  /-- A look concerns the runner, and the stores. -/
  rereads : Rereads n e (e.refresh n).1
  /-- The runner holds its task to be over only if the record does, or if it did so before. -/
  behind : (e.refresh n).1.IsOver n →
    (e.refresh n).1.stores.Finished runner.source runner.task ∨ (e.refresh n).1 = e

/-- A runner that looks keeps in step with the record of its task. -/
theorem keepsStep_refresh {e : TaskEngine} {n : Nat} {runner : TaskRunner}
    (hn : e.runners.find? n = some runner) : e.KeepsStep n runner := by
  have hstate : (e.refresh n).1.state? n =
      e.stores.seen runner.source runner.task runner.state := by
    rw [state?, find?_refresh, hn, Option.map_some, if_pos rfl, Option.bind_some]
  have hrecord := record?_refresh e n hn
  refine
    { unseen := refresh_of_unseen hn
      gone := refresh_of_gone hn
      lost := fun r hr hlost => ?_
      accepted := fun r hr hlost hgate => ⟨?_, fun source task => ?_⟩
      refused := fun r hr hlost hgate => by rw [refresh_of_refused hn hr hlost hgate]
      current := fun r => refresh_of_current hn
      rereads := rereads_refresh e n
      behind := fun hover => ?_ }
  · cases hgate : e.stores.gated.accepting with
    | true => rw [refresh_of_accepted hn hr hlost hgate]
    | false => rw [refresh_of_refused hn hr hlost hgate]
  · simp [hstate, TaskStores.seen, hr, hlost, hgate]
  · rw [hrecord]
    split <;> rename_i hkey
    · simp [hkey, TaskStores.looked, hr, hlost, hgate]
    · rfl
  · rcases refresh_cases hn with ⟨-, -, heq⟩ | ⟨hr, -, heq⟩ | ⟨r, hr, hlost, hgate, -⟩ |
      ⟨-, -, -, -, heq⟩ | ⟨r, hr, hlost, heq⟩
    · exact .inr (by rw [heq])
    · refine .inl fun r' hr' => ?_
      rw [heq, setState, stores_updateRunner, hr] at hr'
      cases hr'
    · refine .inl fun r' hr' => ?_
      rw [hrecord, if_pos ⟨rfl, rfl⟩, TaskStores.looked, hr] at hr'
      simp only [Option.map_some, hlost, hgate, Bool.and_self, if_true, Option.some.injEq] at hr'
      rw [← hr']
      rfl
    · exact .inr (by rw [heq])
    · refine .inl fun r' hr' => ?_
      obtain ⟨s, hs, hterminal⟩ := hover
      rw [hstate, TaskStores.seen, hr] at hs
      simp only [hlost, Bool.false_eq_true, if_false, Option.some.injEq] at hs
      rw [heq, setState, stores_updateRunner, hr] at hr'
      rw [← Option.some.inj hr', hs]
      exact hterminal

/-- A runner never runs ahead of the record of its task.  What it makes of any record, at any time
and whatever it held before, keeps it in step.  A verdict that the store has refused is tried again
by the next look of all registered runners: whatever happens before, as long as the task goes on and
no job of the runner fails, the runner is still registered, and then the record is rewritten and the
task held for lost, or neither.  A store behind a cache refuses no verdict on account of its being
late. -/
theorem runner_in_step_with_record :
    (∀ (e : TaskEngine) n runner, e.runners.find? n = some runner → e.KeepsStep n runner) ∧
    (∀ (settings : EngineSettings) (stores : TaskStores) (events : List TaskEvent) n source task r,
      let e : TaskEngine := (start settings stores).run events
      e.Pending n source task → e.stores.record? source task = some r →
      e.stores.isLost r = true → e.stores.gated.accepting = false →
        e.refresh n = (e, some .lost) ∧
        ∀ later, GoesOn n source task e later →
          let e' : TaskEngine := e.run later
          e'.leads = true → ∀ r', e'.stores.record? source task = some r' →
            e'.stores.isLost r' = true →
            (e'.stores.gated.accepting = true →
              (e'.step .monitor).stores.record? source task = some (r'.asLost e'.stores.now) ∧
              (e'.step .monitor).state? n = some .lost) ∧
            (e'.stores.gated.accepting = false →
              (e'.step .monitor).stores.record? source task = some r' ∧
              (e'.step .monitor).state? n = e'.state? n)) ∧
    ∀ (p : TaskProxy) now source task r, p.Coherent → p.store.root.Keyed →
      p.store.root.tasks.get source task = some r → r.isStale now = true →
        (p.get now source task).1 = some r ∧
        (p.update now source task (r.asLost now)).2 = p.store.accepting ∧
        p.Guarded source task (r.asLost now) (p.update now source task (r.asLost now)) := by
  refine ⟨fun e n runner hn => keepsStep_refresh hn, ?_, ?_⟩
  · intro settings stores events n source task r e hpending hr hlost hgate
    have hs : e.Sound := sound_run settings stores events
    constructor
    · obtain ⟨runner, hn, rfl, rfl⟩ := hpending.follows
      have hstep := keepsStep_refresh hn
      exact Prod.ext (hstep.refused r hr hlost hgate) (hstep.lost r hr hlost)
    · intro later hruns e' hleads r' hr' hlost'
      have hlater : e'.Pending n source task := hpending.run hs hruns
      have hmem : n ∈ e'.registry.values :=
        (SortedMap.mem_values_iff e'.registry n).2 ⟨_, hlater.registered⟩
      obtain ⟨hrecord, hstate⟩ := step_monitor hleads hlater.alive hmem hlater.follows
      rw [hrecord, hstate, TaskStores.looked, TaskStores.seen, hr']
      constructor
      · intro hgate'
        simp [hlost', hgate']
      · intro hgate'
        simp [hlost', hgate']
  · intro p now source task r hp hroot hr hstale
    have hguard := hp.update_guarded hroot now source task (r.asLost now)
    have hnewest : ¬ p.store.root.HoldsNewer source task (r.asLost now) := by
      rintro ⟨held, hheld, hlt⟩
      rw [hr] at hheld
      cases hheld
      exact not_lt_of_isStaleAt hstale hlt
    refine ⟨(hp.get_fst hroot now source task).trans hr, ?_, hguard⟩
    have hrefused := hguard.refused_iff
    cases hgate : p.store.accepting with
    | true =>
        rw [hgate] at hrefused
        simpa [hnewest] using hrefused
    | false => exact hrefused.2 (.inl hgate)

/-- An hour after a task was heard of, its store refuses to give it up.  Its runner is asked in
vain, and then the store takes writes again: at the next look of all runners the record is rewritten
and the task held for lost.  So it would be behind a cache. -/
theorem refused_verdict_tried_again :
    let record : TaskRecord :=
      { sourceAppName := "SHOP", taskId := "1", instanceId := ⟨"SHOP-1-a"⟩, executorId := ⟨"node"⟩
        hostname := "node", state := .running, created := .epoch, updated := .epoch }
    let root : TaskStore := TaskStore.write {} "SHOP" "1" record
    let hour : Timestamp := .ofUnixSeconds 3600
    let shut : TaskStores := { now := hour, gated := { root := root, accepting := false } }
    let opened : TaskStores := { now := hour, gated := { root := root } }
    let later : List TaskEvent := [.refresh 0, .outside opened]
    let e : TaskEngine := (start {} shut).run [.register "SHOP" "1"]
    e.KeepsStep 0 { source := "SHOP", task := "1" } ∧ e.refresh 0 = (e, some .lost) ∧
      ((e.run later).step .monitor).stores.record? "SHOP" "1" = some (record.asLost hour) ∧
      ((e.run later).step .monitor).state? 0 = some .lost ∧
      (TaskProxy.update { store := { root := root } } hour "SHOP" "1" (record.asLost hour)).2 =
        true := by
  intro record root hour shut opened later e
  obtain ⟨hlook, hretry, hcache⟩ := runner_in_step_with_record
  have hfound : e.runners.find? 0 = some { source := "SHOP", task := "1" } := rfl
  have hpending : e.Pending 0 "SHOP" "1" :=
    ⟨rfl, rfl, ⟨_, hfound, rfl, rfl⟩, List.not_mem_nil, by rintro ⟨s, hs, -⟩; cases hs⟩
  have hget : root.tasks.get "SHOP" "1" = some record := Groups.get_put_self _ _ _ _
  have hstale : record.isStale hour = true := by decide
  obtain ⟨hrefused, hlater⟩ :=
    hretry {} shut [.register "SHOP" "1"] 0 "SHOP" "1" record hpending hget hstale rfl
  have hrun : e.run later = { e with stores := opened } := by
    show (e.step (.refresh 0)).step (.outside opened) = _
    rw [step, step, hrefused]
  have hgoing : ¬ opened.Finished "SHOP" "1" := fun hfinished =>
    Bool.false_ne_true (hfinished record hget)
  have hruns : GoesOn 0 "SHOP" "1" e later := by
    have hunfinished : ¬ (e.step (.refresh 0)).stores.Finished "SHOP" "1" := by
      rw [step, hrefused]
      exact hgoing
    have hnever (ev : TaskEvent) (hev : ∀ k, ev ≠ .complete k false) (e : TaskEngine) :
        ¬ e.JobFails ev 0 := by
      rintro ⟨k, q, hcomplete, -⟩
      exact hev k hcomplete
    exact ⟨TaskEvent.noConfusion, hnever _ (fun _ => TaskEvent.noConfusion) _, hunfinished,
      TaskEvent.noConfusion, hnever _ (fun _ => TaskEvent.noConfusion) _, hgoing, trivial⟩
  have htried := hlater later hruns
  rw [hrun] at htried
  obtain ⟨hwritten, hheld⟩ := (htried rfl record hget hstale).1 rfl
  have hkeyed : root.Keyed := (Groups.KeyedBy.empty TaskRecord.taskId).put "SHOP" rfl
  obtain ⟨-, hcached, -⟩ := hcache { store := { root := root } } hour "SHOP" "1" record
    (TaskProxy.coherent_purge { store := { root := root } }) hkeyed hget hstale
  rw [hrun]
  exact ⟨hlook e 0 _ hfound, hrefused, hwritten, hheld, hcached⟩

end TaskEngine
end Orchestration
