import Orchestration.Proofs.Store.GroupCoherence
import Orchestration.Proofs.Store.History
import Orchestration.Store.Tasks

/-!
# The task cache agrees with its store

The task proxy refuses a write that is older than the record that it knows.  What it knows is its
cache, and that may not be loaded yet, may have been purged, may have been thinned out by a cleanup,
or may hold a group that nobody ever read.  The promise is about the store: a record of the store is
never replaced by an older one.

The promise holds because the guard loads the group before it compares, and because a loaded group
is the group of the store.

Main results:

- `TaskProxy.laws`: every request keeps cache and store coherent.
- `TaskProxy.Coherent.write_guarded`, `TaskProxy.Coherent.update_guarded`: a write is refused
  exactly when the gate is shut or the store holds a newer record, and then nothing changes that
  anybody could read.
- `TaskProxy.advances_step`, `TaskProxy.advances_run`: as long as a record is not deleted, its time
  never goes back.
- `TaskProxy.task_answers_after_history`: all of that after every history.
-/

namespace Orchestration

namespace Tasks

/-- Every task is kept under the identifier that it carries. -/
def Keyed (t : Tasks) : Prop :=
  Groups.KeyedBy TaskRecord.taskId t

/-- Every task is in some state that can be asked for. -/
theorem select_members (t : Tasks) (now : Timestamp) (source : String) :
    t.select now source Named.members true = (t.group source).values := by
  apply List.filter_eq_self.2
  intro r _
  cases h : r.state <;> rfl

end Tasks

/-- The store holds a record of a task that is newer than a given one. -/
def TaskStore.HoldsNewer (s : TaskStore) (source task : String) (r : TaskRecord) : Prop :=
  ∃ held, s.tasks.get source task = some held ∧ r.updated < held.updated

/-! ## Requests -/

/-- The requests that a task proxy takes, each at its own moment. -/
inductive TaskRequest where
  | select (now : Timestamp) (source : String) (states : List TaskState) (includeStale : Bool)
  | get (now : Timestamp) (source task : String)
  | write (now : Timestamp) (source task : String) (r : TaskRecord)
  | update (now : Timestamp) (source task : String) (r : TaskRecord)
  | delete (source task : String)
  | cleanup (drop : TaskRecord → Bool)

/-- A write files a task under the identifier that it carries. -/
def TaskRequest.Keyed : TaskRequest → Prop
  | .write _ _ task r => r.taskId = task
  | .update _ _ task r => r.taskId = task
  | _ => True

/-- The tasks of a store are kept under their own identifiers. -/
def TaskStore.Keyed (s : TaskStore) : Prop :=
  s.tasks.Keyed

instance : CachingProxy TaskProxy TaskRequest TaskStore where
  root p := p.store.root
  request p
    | .select now source states includeStale => (p.select now source states includeStale).2
    | .get now source task => (p.get now source task).2
    | .write now source task r => (p.write now source task r).1
    | .update now source task r => (p.update now source task r).1
    | .delete source task => (p.delete source task).1
    | .cleanup drop => (p.cleanup drop).1
  withRoot p r := { p with store := { p.store with root := r } }
  withGate p b := { p with store := { p.store with accepting := b } }
  purge := TaskProxy.purge

namespace TaskProxy

/-! ### Loading -/

/-- Loading a group leaves the store alone. -/
@[simp]
theorem root_load (p : TaskProxy) (now : Timestamp) (source : String) :
    (p.load now source).store.root = p.store.root := by
  unfold load
  split <;> rfl

@[simp]
theorem accepting_load (p : TaskProxy) (now : Timestamp) (source : String) :
    (p.load now source).store.accepting = p.store.accepting := by
  unfold load
  split <;> rfl

/-- Loading a group announces nothing. -/
@[simp]
theorem announced_load (p : TaskProxy) (now : Timestamp) (source : String) :
    (p.load now source).announced = p.announced := by
  unfold load
  split <;> rfl

/-- A group that was loaded is there. -/
theorem contains_load (p : TaskProxy) (now : Timestamp) (source : String) :
    (p.load now source).cache.contains source = true := by
  unfold load
  split <;> rename_i hthere
  · exact hthere
  · simp [Groups.replace, SortedMap.contains]

/-- A group that is there is not loaded again. -/
theorem load_load (p : TaskProxy) (now : Timestamp) (source : String) :
    (p.load now source).load now source = p.load now source := by
  rw [load, if_pos (p.contains_load now source)]

/-! ### What single requests do -/

/-- A write that is older than what the proxy knows is refused. -/
theorem write_of_newer {p : TaskProxy} {now : Timestamp} {source task : String} {r : TaskRecord}
    (h : (p.load now source).knowsNewer source task r = true) :
    p.write now source task r = (p.load now source, false) := by
  simp [write, h]

/-- So is a write that the gate does not accept. -/
theorem write_of_refusing {p : TaskProxy} (h : p.store.accepting = false) (now : Timestamp)
    (source task : String) (r : TaskRecord) :
    p.write now source task r = (p.load now source, false) := by
  simp [write, Gated.write, h]

/-- Every other write goes to the store and then to the cache. -/
theorem write_of_accepting {p : TaskProxy} {now : Timestamp} {source task : String} {r : TaskRecord}
    (hgate : p.store.accepting = true)
    (hknown : (p.load now source).knowsNewer source task r = false) :
    p.write now source task r =
      ({ p.load now source with
          store := { (p.load now source).store with root := p.store.root.write source task r }
          cache := (p.load now source).cache.putKnown source task r }, true) := by
  simp [write, Gated.write, hgate, hknown]

/-- An update is a write that is announced when it is accepted and the state is another one. -/
theorem update_eq (p : TaskProxy) (now : Timestamp) (source task : String) (r : TaskRecord) :
    p.update now source task r =
      let q := p.write now source task r
      (if q.2 && Tasks.announces (p.get now source task).1 r then
        { q.1 with announced := q.1.announced ++ [r] } else q.1, q.2) := by
  have hwrite : (p.load now source).write now source task r = p.write now source task r := by
    rw [write, load_load, write]
  simp only [update, get, hwrite]
  rcases p.write now source task r with ⟨q, _ | _⟩
  · rfl
  · by_cases hnew : Tasks.announces ((p.load now source).cache.get source task) r = true
    · simp [hnew]
    · simp [hnew]

/-- A write reaches the store when it is accepted, and leaves it alone otherwise. -/
theorem root_write (p : TaskProxy) (now : Timestamp) (source task : String) (r : TaskRecord) :
    (p.write now source task r).1.store.root =
      if (p.write now source task r).2 then p.store.root.write source task r
      else p.store.root := by
  cases hknown : (p.load now source).knowsNewer source task r with
  | true => simp [write_of_newer hknown]
  | false =>
      cases hgate : p.store.accepting with
      | true => simp [write_of_accepting hgate hknown]
      | false => simp [write_of_refusing hgate]

/-- So does an update. -/
theorem root_update (p : TaskProxy) (now : Timestamp) (source task : String) (r : TaskRecord) :
    (p.update now source task r).1.store.root =
      if (p.update now source task r).2 then p.store.root.write source task r
      else p.store.root := by
  have hwrite := p.root_write now source task r
  rw [update_eq]
  dsimp only
  split
  · exact hwrite
  · exact hwrite

/-- A deletion that the gate accepts goes to the store and then to the cache. -/
theorem delete_of_accepting {p : TaskProxy} (h : p.store.accepting = true)
    (source task : String) :
    p.delete source task =
      ({ p with
          store := { p.store with root := p.store.root.delete source task }
          cache := p.cache.remove source task }, true) := by
  simp [delete, Gated.write, h]

/-- A deletion that the gate refuses changes nothing. -/
theorem delete_of_refusing {p : TaskProxy} (h : p.store.accepting = false)
    (source task : String) : p.delete source task = (p, false) := by
  simp [delete, Gated.write, h]

/-- A deletion is answered by the gate, and reaches the store when the gate accepts it. -/
theorem delete_spec (p : TaskProxy) (source task : String) :
    (p.delete source task).2 = p.store.accepting ∧
      (p.delete source task).1.store.root =
        if p.store.accepting then p.store.root.delete source task else p.store.root := by
  cases hgate : p.store.accepting with
  | true => simp [delete_of_accepting hgate]
  | false => simp [delete_of_refusing hgate]

/-- A cleanup does to the store what the store does, and says what the store says. -/
theorem cleanup_spec (p : TaskProxy) (drop : TaskRecord → Bool) :
    (p.cleanup drop).2 = (p.store.root.cleanup drop).2 ∧
      (p.cleanup drop).1.store.root = (p.store.root.cleanup drop).1 :=
  ⟨rfl, rfl⟩

/-! ## Coherence -/

/-- Every group in the cache is the group of the store. -/
def Coherent (p : TaskProxy) : Prop :=
  Groups.Reflects p.cache p.store.root.tasks

/-- An empty cache is coherent with every store. -/
theorem coherent_purge (p : TaskProxy) : p.purge.Coherent :=
  Groups.reflects_empty p.store.root.tasks

/-- Loading a group keeps cache and store coherent. -/
theorem Coherent.load {p : TaskProxy} (h : p.Coherent) (hroot : p.store.root.Keyed)
    (now : Timestamp) (source : String) : (p.load now source).Coherent := by
  unfold TaskProxy.load
  split
  · exact h
  · simp only [Gated.read, Tasks.select_members]
    exact Groups.Reflects.replace h (hroot source) fun _ _ => rfl

/-- A loaded group is the group of the store. -/
theorem Coherent.group_load {p : TaskProxy} (h : p.Coherent) (hroot : p.store.root.Keyed)
    (now : Timestamp) (source : String) :
    (p.load now source).cache.group source = p.store.root.tasks.group source := by
  rw [← p.root_load now source]
  exact (h.load hroot now source).group_eq (p.contains_load now source)

/-- Once its group is loaded, the proxy knows a newer record exactly when the store holds one. -/
theorem Coherent.knowsNewer_load {p : TaskProxy} (h : p.Coherent) (hroot : p.store.root.Keyed)
    (now : Timestamp) (source task : String) (r : TaskRecord) :
    (p.load now source).knowsNewer source task r = true ↔
      p.store.root.HoldsNewer source task r := by
  have hget : (p.load now source).cache.get source task = p.store.root.tasks.get source task := by
    rw [Groups.get, h.group_load hroot, Groups.get]
  simp only [knowsNewer, hget, TaskStore.HoldsNewer]
  cases p.store.root.tasks.get source task with
  | none => simp
  | some held => simp

/-- A write keeps cache and store coherent, accepted or not. -/
theorem Coherent.write {p : TaskProxy} (h : p.Coherent) (hroot : p.store.root.Keyed)
    (now : Timestamp) (source task : String) (r : TaskRecord) :
    (p.write now source task r).1.Coherent := by
  have hload := h.load hroot now source
  cases hknown : (p.load now source).knowsNewer source task r with
  | true =>
      rw [write_of_newer hknown]
      exact hload
  | false =>
      cases hgate : p.store.accepting with
      | true =>
          rw [write_of_accepting hgate hknown, ← p.root_load now source]
          exact Groups.Reflects.put hload source task r
      | false =>
          rw [write_of_refusing hgate]
          exact hload

/-- So does an update: an announcement is not part of the cache. -/
theorem Coherent.update {p : TaskProxy} (h : p.Coherent) (hroot : p.store.root.Keyed)
    (now : Timestamp) (source task : String) (r : TaskRecord) :
    (p.update now source task r).1.Coherent := by
  have hwrite := h.write hroot now source task r
  rw [update_eq]
  dsimp only
  split
  · exact hwrite
  · exact hwrite

/-- A deletion keeps cache and store coherent, accepted or not. -/
theorem Coherent.delete {p : TaskProxy} (h : p.Coherent) (source task : String) :
    (p.delete source task).1.Coherent := by
  cases hgate : p.store.accepting with
  | true =>
      rw [delete_of_accepting hgate]
      exact Groups.Reflects.remove h source task
  | false =>
      rw [delete_of_refusing hgate]
      exact h

/-- A cleanup keeps cache and store coherent. -/
theorem Coherent.cleanup {p : TaskProxy} (h : p.Coherent) (drop : TaskRecord → Bool) :
    (p.cleanup drop).1.Coherent :=
  Groups.Reflects.retain h fun r => !drop r

/-! ### Accepted and refused writes -/

/-- One proxy answers every read as another. -/
def AnswersAs (p q : TaskProxy) : Prop :=
  ∀ now source,
    (∀ states includeStale,
      (p.select now source states includeStale).1 = (q.select now source states includeStale).1) ∧
    ∀ task, (p.get now source task).1 = (q.get now source task).1

/-- A coherent proxy lists the tasks that the store lists. -/
theorem Coherent.select_fst {p : TaskProxy} (h : p.Coherent) (hroot : p.store.root.Keyed)
    (now : Timestamp) (source : String) (states : List TaskState) (includeStale : Bool) :
    (p.select now source states includeStale).1 =
      p.store.root.tasks.select now source states includeStale := by
  show List.filter _ ((p.load now source).cache.group source).values = _
  rw [h.group_load hroot]
  rfl

/-- A coherent proxy finds the tasks that the store finds. -/
theorem Coherent.get_fst {p : TaskProxy} (h : p.Coherent) (hroot : p.store.root.Keyed)
    (now : Timestamp) (source task : String) :
    (p.get now source task).1 = p.store.root.tasks.get source task := by
  show SortedMap.find? ((p.load now source).cache.group source) task = _
  rw [h.group_load hroot]
  rfl

/-- Coherent proxies over one store answer alike. -/
theorem Coherent.answersAs {p q : TaskProxy} (hp : p.Coherent) (hq : q.Coherent)
    (hroot : p.store.root.Keyed) (hstore : q.store.root = p.store.root) : q.AnswersAs p := by
  intro now source
  have hroot' : q.store.root.Keyed := by
    rw [hstore]
    exact hroot
  constructor
  · intro states includeStale
    rw [hq.select_fst hroot', hp.select_fst hroot, hstore]
  · intro task
    rw [hq.get_fst hroot', hp.get_fst hroot, hstore]

/-- What comes of a write: it is refused exactly when the gate is shut or the store holds a newer
record, one that is accepted reaches the store, and one that is refused changes nothing that anybody
could read. -/
structure Guarded (p : TaskProxy) (source task : String) (r : TaskRecord)
    (outcome : TaskProxy × Bool) : Prop where
  refused_iff : outcome.2 = false ↔
    p.store.accepting = false ∨ p.store.root.HoldsNewer source task r
  root_eq : outcome.1.store.root =
    if outcome.2 then p.store.root.write source task r else p.store.root
  accepting_eq : outcome.1.store.accepting = p.store.accepting
  unchanged : outcome.2 = false → outcome.1.AnswersAs p ∧ outcome.1.announced = p.announced

/-- A write is guarded by what the store holds. -/
theorem Coherent.write_guarded {p : TaskProxy} (h : p.Coherent) (hroot : p.store.root.Keyed)
    (now : Timestamp) (source task : String) (r : TaskRecord) :
    p.Guarded source task r (p.write now source task r) := by
  have hnewer := h.knowsNewer_load hroot now source task r
  have hload := h.load hroot now source
  have hsame : (p.load now source).AnswersAs p := h.answersAs hload hroot (p.root_load now source)
  cases hknown : (p.load now source).knowsNewer source task r with
  | true =>
      rw [write_of_newer hknown]
      exact ⟨by simp [hnewer.1 hknown], by simp, by simp, fun _ => ⟨hsame, by simp⟩⟩
  | false =>
      have hnot : ¬ p.store.root.HoldsNewer source task r := by
        rw [← hnewer, hknown]
        simp
      cases hgate : p.store.accepting with
      | true =>
          rw [write_of_accepting hgate hknown]
          exact ⟨by simp [hgate, hnot], by simp, by simp, by simp⟩
      | false =>
          rw [write_of_refusing hgate]
          exact ⟨by simp [hgate], by simp, by simp, fun _ => ⟨hsame, by simp⟩⟩

/-- So is an update, which is announced only when it is accepted. -/
theorem Coherent.update_guarded {p : TaskProxy} (h : p.Coherent) (hroot : p.store.root.Keyed)
    (now : Timestamp) (source task : String) (r : TaskRecord) :
    p.Guarded source task r (p.update now source task r) := by
  have hwrite := h.write_guarded hroot now source task r
  rw [update_eq]
  rcases hq : p.write now source task r with ⟨q, accepted⟩
  rw [hq] at hwrite
  cases accepted with
  | false => exact hwrite
  | true =>
      dsimp only
      split
      · exact ⟨hwrite.refused_iff, hwrite.root_eq, hwrite.accepting_eq, by simp⟩
      · exact hwrite

/-! ## Histories -/

/-- Every request keeps tasks under their own identifiers. -/
theorem keyed_request (p : TaskProxy) (op : TaskRequest) (hop : op.Keyed)
    (h : p.store.root.Keyed) : (CachingProxy.request p op).store.root.Keyed := by
  cases op with
  | select now source states includeStale =>
      show (p.load now source).store.root.Keyed
      rw [root_load]
      exact h
  | get now source task =>
      show (p.load now source).store.root.Keyed
      rw [root_load]
      exact h
  | write now source task r =>
      show (p.write now source task r).1.store.root.Keyed
      rw [root_write]
      split
      · exact Groups.KeyedBy.put h source hop
      · exact h
  | update now source task r =>
      show (p.update now source task r).1.store.root.Keyed
      rw [root_update]
      split
      · exact Groups.KeyedBy.put h source hop
      · exact h
  | delete source task =>
      show (p.delete source task).1.store.root.Keyed
      rw [(p.delete_spec source task).2]
      split
      · exact Groups.KeyedBy.remove h source task
      · exact h
  | cleanup drop => exact Groups.KeyedBy.retain h fun r => !drop r

/-- Every request keeps cache and store coherent. -/
theorem laws : Observed.Laws (P := TaskProxy) TaskRequest.Keyed TaskStore.Keyed Coherent where
  sound_request := keyed_request
  coherent_request p op hop hroot h := by
    cases op with
    | select now source states includeStale => exact h.load hroot now source
    | get now source task => exact h.load hroot now source
    | write now source task r => exact h.write hroot now source task r
    | update now source task r => exact h.update hroot now source task r
    | delete source task => exact h.delete source task
    | cleanup drop => exact h.cleanup drop
  root_withRoot _ _ := rfl
  root_withGate _ _ := rfl
  coherent_withGate _ _ h := h
  root_purge _ := rfl
  coherent_purge := coherent_purge

/-! ## The time of a record -/

/-- An event that takes the record of a task away: a deletion of the task that the gate accepts, a
cleanup whose test the record passes, or whatever is done behind the back of the proxy. -/
def Takes (p : TaskProxy) (source task : String) : StoreEvent TaskRequest TaskStore → Prop
  | .request (.delete source' task') =>
      p.store.accepting = true ∧ source = source' ∧ task = task'
  | .request (.cleanup drop) =>
      ∃ held, p.store.root.tasks.get source task = some held ∧ drop held = true
  | .outside _ => True
  | _ => False

/-- A history in which nothing takes the record of a task away. -/
def Spares (s : Observed TaskProxy) (source task : String) :
    List (StoreEvent TaskRequest TaskStore) → Prop
  | [] => True
  | e :: rest => ¬ s.proxy.Takes source task e ∧ Spares (s.step e) source task rest

/-- The store holds a record of a task that is as new as a given one. -/
def HoldsSince (p : TaskProxy) (source task : String) (r : TaskRecord) : Prop :=
  ∃ held, p.store.root.tasks.get source task = some held ∧ r.updated ≤ held.updated

/-- A write that is guarded does not turn the time of a record back. -/
theorem Guarded.holdsSince {p : TaskProxy} {source' task' : String} {r' : TaskRecord}
    {outcome : TaskProxy × Bool} (hguard : p.Guarded source' task' r' outcome)
    {source task : String} {r : TaskRecord} (h : p.HoldsSince source task r) :
    outcome.1.HoldsSince source task r := by
  obtain ⟨held, hget, hle⟩ := h
  cases haccepted : outcome.2 with
  | false =>
      refine ⟨held, ?_, hle⟩
      rw [hguard.root_eq, haccepted]
      exact hget
  | true =>
      have hroot : outcome.1.store.root = p.store.root.write source' task' r' := by
        rw [hguard.root_eq, haccepted]
        rfl
      by_cases hkey : source = source' ∧ task = task'
      · obtain ⟨rfl, rfl⟩ := hkey
        have hnot : ¬ p.store.root.HoldsNewer source task r' := fun hnewer => by
          rw [hguard.refused_iff.2 (.inr hnewer)] at haccepted
          cases haccepted
        have hnewest : held.updated ≤ r'.updated :=
          Timestamp.not_lt.1 fun hlt => hnot ⟨held, hget, hlt⟩
        refine ⟨r', ?_, Timestamp.le_trans hle hnewest⟩
        rw [hroot]
        exact Groups.get_put_self _ _ _ _
      · refine ⟨held, ?_, hle⟩
        rw [hroot]
        exact (Groups.get_put_of_ne _ _ hkey).trans hget

/-- No event turns the time of a record back, unless it takes the record away. -/
theorem advances_step {s : Observed TaskProxy} {e : StoreEvent TaskRequest TaskStore}
    {source task : String} {r : TaskRecord} (hl : s.leadership.listeners ≠ [])
    (hroot : s.proxy.store.root.Keyed) (hc : s.proxy.Coherent)
    (hspares : ¬ s.proxy.Takes source task e) (h : s.proxy.HoldsSince source task r) :
    (s.step e).proxy.HoldsSince source task r := by
  cases e with
  | request op =>
      cases op with
      | select now source' states includeStale =>
          show (s.proxy.load now source').HoldsSince source task r
          rw [HoldsSince, root_load]
          exact h
      | get now source' task' =>
          show (s.proxy.load now source').HoldsSince source task r
          rw [HoldsSince, root_load]
          exact h
      | write now source' task' r' =>
          exact (hc.write_guarded hroot now source' task' r').holdsSince h
      | update now source' task' r' =>
          exact (hc.update_guarded hroot now source' task' r').holdsSince h
      | delete source' task' =>
          show (s.proxy.delete source' task').1.HoldsSince source task r
          rw [HoldsSince, (s.proxy.delete_spec source' task').2]
          split <;> rename_i hgate
          · have hkey : ¬ (source = source' ∧ task = task') := fun hkey => hspares ⟨hgate, hkey⟩
            obtain ⟨held, hget, hle⟩ := h
            exact ⟨held, (Groups.get_remove_of_ne _ hkey).trans hget, hle⟩
          · exact h
      | cleanup drop =>
          obtain ⟨held, hget, hle⟩ := h
          have hkept : drop held = false :=
            Bool.eq_false_iff.2 fun hdrop => hspares ⟨held, hget, hdrop⟩
          refine ⟨held, (Groups.get_retain _ _ _ _).trans ?_, hle⟩
          rw [hget]
          simp [hkept]
  | outside root => exact absurd trivial hspares
  | gate b => exact h
  | lead leader =>
      rw [Observed.proxy_step_lead hl]
      split
      · exact h
      · exact h
  | invalidate => exact h

/-- The time of a record never goes back in a history that does not take the record away. -/
theorem advances_run {s : Observed TaskProxy} {later : List (StoreEvent TaskRequest TaskStore)}
    {source task : String} {r : TaskRecord} (hl : s.leadership.listeners ≠ [])
    (hroot : s.proxy.store.root.Keyed) (hc : s.proxy.Coherent)
    (hlater : ∀ e ∈ later, e.Meets TaskRequest.Keyed TaskStore.Keyed)
    (hspares : Spares s source task later) (h : s.proxy.HoldsSince source task r) :
    (s.run later).proxy.HoldsSince source task r := by
  induction later generalizing s with
  | nil => exact h
  | cons e rest ih =>
      obtain ⟨he, hrest⟩ := hspares
      have hmeets := hlater e List.mem_cons_self
      -- What spares the record does not happen behind the back of the proxy: the cache stays fresh.
      have hfresh : s.freshens true e = true := by
        cases e with
        | outside root => exact absurd trivial he
        | lead leader => simp [Observed.freshens]
        | _ => rfl
      exact ih (Observed.listeners_step hl e) (Observed.sound_step laws hl hmeets hroot)
        (Observed.coherent_step laws hl hmeets hroot (fun _ => hc) hfresh)
        (fun e' he' => hlater e' (List.mem_cons_of_mem e he')) hrest
        (advances_step hl hroot hc he h)

/-! ## Answers -/

/-- Take any history of a task proxy in which tasks are filed under the identifiers that they carry,
with any clock at each request.  As long as the cache is fresh, every listing and look-up is
answered as the store would answer it at the same moment; a write or an update is refused exactly
when the gate is shut or the store holds a newer record, and then changes nothing; and whatever
happens later, the time of a record never goes back until the record is taken away. -/
theorem task_answers_after_history (leader : Bool) (store : Gated TaskStore)
    (history : List (StoreEvent TaskRequest TaskStore)) (hroot : store.root.Keyed)
    (hhistory : ∀ e ∈ history, e.Meets TaskRequest.Keyed TaskStore.Keyed) :
    let s : Observed TaskProxy := Observed.start leader { store := store }
    let p : TaskProxy := (s.run history).proxy
    (s.isFresh true history = true →
      (∀ now source,
        (∀ states includeStale, (p.select now source states includeStale).1 =
          p.store.root.tasks.select now source states includeStale) ∧
        ∀ task, (p.get now source task).1 = p.store.root.tasks.get source task) ∧
      (∀ now source task r,
        p.Guarded source task r (p.write now source task r) ∧
        p.Guarded source task r (p.update now source task r)) ∧
      ∀ later : List (StoreEvent TaskRequest TaskStore),
        (∀ e ∈ later, e.Meets TaskRequest.Keyed TaskStore.Keyed) →
        ∀ source task held, p.store.root.tasks.get source task = some held →
          Spares (s.run history) source task later →
          ((s.run history).run later).proxy.HoldsSince source task held) ∧
    (∀ now source,
      (∀ states includeStale,
        (p.select now source states includeStale).2.store.root = p.store.root) ∧
      ∀ task, (p.get now source task).2.store.root = p.store.root) ∧
    (∀ source task, (p.delete source task).2 = p.store.accepting ∧
      (p.delete source task).1.store.root =
        if p.store.accepting then p.store.root.delete source task else p.store.root) ∧
    (p.store.accepting = false → ∀ source task, p.delete source task = (p, false)) ∧
    ∀ drop, (p.cleanup drop).2 = (p.store.root.cleanup drop).2 ∧
      (p.cleanup drop).1.store.root = (p.store.root.cleanup drop).1 := by
  intro s p
  have hempty : Coherent { store := store } := coherent_purge { store := store }
  obtain ⟨hkeyed, hcoherent⟩ := Observed.start_sound_coherent laws leader hroot hempty hhistory
  refine ⟨fun hfresh => ?_, fun now source => ?_, p.delete_spec, delete_of_refusing, p.cleanup_spec⟩
  · have h : p.Coherent := hcoherent hfresh
    refine ⟨fun now source => ⟨h.select_fst hkeyed now source, h.get_fst hkeyed now source⟩,
      fun now source task r =>
        ⟨h.write_guarded hkeyed now source task r, h.update_guarded hkeyed now source task r⟩, ?_⟩
    intro later hlater source task held hget hspares
    exact advances_run (Observed.listeners_run (Observed.listeners_start _ _) history) hkeyed h
      hlater hspares ⟨held, hget, Timestamp.le_refl _⟩
  · exact ⟨fun _ _ => root_load p now source, fun _ => root_load p now source⟩

/-- A task completes and the cache is purged.  A report of an hour before is refused although the
cache has forgotten the task, so is a deletion behind a shut gate, and after another purge the store
still holds a record that is as new. -/
theorem task_answers_after_late_report :
    let late : TaskRecord :=
      { sourceAppName := "SHOP", taskId := "run-1", instanceId := ⟨"SHOP-1-a"⟩
        executorId := ⟨"node"⟩, hostname := "node", state := .running
        created := .epoch, updated := .epoch }
    let done : TaskRecord := { late with state := .runCompleted, updated := .ofUnixSeconds 3600 }
    let history : List (StoreEvent TaskRequest TaskStore) :=
      [.request (.update .epoch "SHOP" "run-1" done), .lead true]
    let later : List (StoreEvent TaskRequest TaskStore) :=
      [.request (.update .epoch "SHOP" "run-1" late), .gate false,
        .request (.delete "SHOP" "run-1"), .invalidate]
    let s : Observed TaskProxy := Observed.start false { store := { root := {} } }
    let p : TaskProxy := (s.run history).proxy
    (p.update .epoch "SHOP" "run-1" late).2 = false ∧
      ((s.run history).run later).proxy.HoldsSince "SHOP" "run-1" done := by
  intro late done history later s p
  have hroot : TaskStore.Keyed {} := Groups.KeyedBy.empty TaskRecord.taskId
  have hhistory : ∀ e ∈ history, e.Meets TaskRequest.Keyed TaskStore.Keyed := by
    simp [history, StoreEvent.Meets, TaskRequest.Keyed, done, late]
  have hlater : ∀ e ∈ later, e.Meets TaskRequest.Keyed TaskStore.Keyed := by
    simp [later, StoreEvent.Meets, TaskRequest.Keyed, late]
  obtain ⟨-, hguard, hadvances⟩ :=
    (task_answers_after_history false { root := {} } history hroot hhistory).1 rfl
  have hheld : p.store.root.tasks.get "SHOP" "run-1" = some done := rfl
  have hnewer : late.updated < done.updated := by decide
  refine ⟨?_, hadvances later hlater "SHOP" "run-1" done hheld ?_⟩
  · exact (hguard .epoch "SHOP" "run-1" late).2.refused_iff.2 (.inr ⟨done, hheld, hnewer⟩)
  · exact ⟨fun h => h, fun h => h, fun h => Bool.false_ne_true h.1, fun h => h, trivial⟩

end TaskProxy
end Orchestration
