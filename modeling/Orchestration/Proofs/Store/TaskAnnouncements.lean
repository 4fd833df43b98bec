import Orchestration.Proofs.Store.TaskCoherence

/-!
# The announcements of the task cache

Whoever watches a task proxy wants to hear of every change of the state of a task, once and in the
order in which the changes were made.  An update is announced when it is accepted and the state of
the task was another one before.  What the state was before, the proxy looks up in its cache, and
that may be empty by then, or purged, or thinned out by deletions and cleanups that nobody
announces.

The look-up loads the group first, and a loaded group is the group of the store.  So the proxy
compares with the durable record, as long as nobody writes behind its back and every task is filed
under the identifier that it carries.  A task under a foreign key is lost from the cache with the
next purge, and then its update to the same state is announced again.

Main results:

- `TaskProxy.announced_step`: what a single event makes any proxy announce.
- `TaskProxy.announced_run`: the announcements of a history are its changes, in their order.
- `TaskProxy.announces_changes`: the same from a new proxy on, with what an accepted update is.
-/

namespace Orchestration
namespace TaskProxy

/-! ## Changes -/

/-- The record that an event reports where it changes the state of a task: that of an update which
is accepted, if the durable record just before has another state or is missing. -/
def change? (p : TaskProxy) : StoreEvent TaskRequest TaskStore → Option TaskRecord
  | .request (.update now source task r) =>
    if (p.update now source task r).2 && Tasks.announces (p.store.root.tasks.get source task) r
    then some r else none
  | _ => none

/-- The records that a history reports where it changes the states of tasks, in their order. -/
def changes (s : Observed TaskProxy) : List (StoreEvent TaskRequest TaskStore) → List TaskRecord
  | [] => []
  | e :: rest => (s.proxy.change? e).toList ++ changes (s.step e) rest

/-! ## What is announced -/

/-- The record that an event makes a proxy announce: that of an update which is accepted, if the
record that the proxy itself finds has another state or is missing. -/
def announcement? (p : TaskProxy) : StoreEvent TaskRequest TaskStore → Option TaskRecord
  | .request (.update now source task r) =>
    if (p.update now source task r).2 && Tasks.announces (p.get now source task).1 r
    then some r else none
  | _ => none

/-- A write announces nothing. -/
@[simp]
theorem announced_write (p : TaskProxy) (now : Timestamp) (source task : String) (r : TaskRecord) :
    (p.write now source task r).1.announced = p.announced := by
  cases hknown : (p.load now source).knowsNewer source task r with
  | true => simp [write_of_newer hknown]
  | false =>
      cases hgate : p.store.accepting with
      | true => simp [write_of_accepting hgate hknown]
      | false => simp [write_of_refusing hgate]

/-- A deletion announces nothing. -/
@[simp]
theorem announced_delete (p : TaskProxy) (source task : String) :
    (p.delete source task).1.announced = p.announced := by
  cases hgate : p.store.accepting with
  | true => simp [delete_of_accepting hgate]
  | false => simp [delete_of_refusing hgate]

/-- An update announces its record if it is accepted and the state is another one than the proxy
knows. -/
theorem announced_update (p : TaskProxy) (now : Timestamp) (source task : String)
    (r : TaskRecord) :
    (p.update now source task r).1.announced =
      p.announced ++ (p.announcement? (.request (.update now source task r))).toList := by
  have hanswer : (p.update now source task r).2 = (p.write now source task r).2 := by
    rw [update_eq]
  rw [announcement?, hanswer, update_eq]
  dsimp only
  split
  · simp
  · simp

/-- No other event announces anything, whatever the cache holds. -/
theorem announced_step {s : Observed TaskProxy} (hl : s.leadership.listeners ≠ [])
    (e : StoreEvent TaskRequest TaskStore) :
    (s.step e).proxy.announced = s.proxy.announced ++ (s.proxy.announcement? e).toList := by
  cases e with
  | request op =>
      cases op with
      | select now source states includeStale =>
          show (s.proxy.load now source).announced = _
          simp [announcement?]
      | get now source task =>
          show (s.proxy.load now source).announced = _
          simp [announcement?]
      | write now source task r =>
          show (s.proxy.write now source task r).1.announced = _
          simp [announcement?]
      | update now source task r => exact s.proxy.announced_update now source task r
      | delete source task =>
          show (s.proxy.delete source task).1.announced = _
          simp [announcement?]
      | cleanup drop => exact (List.append_nil _).symm
  | lead leader =>
      rw [Observed.proxy_step_lead hl]
      split <;> exact (List.append_nil _).symm
  | _ => exact (List.append_nil _).symm

/-- A coherent proxy announces the changes of the durable records. -/
theorem Coherent.announcement?_eq {p : TaskProxy} (h : p.Coherent) (hroot : p.store.root.Keyed)
    (e : StoreEvent TaskRequest TaskStore) : p.announcement? e = p.change? e := by
  cases e with
  | request op =>
      cases op with
      | update now source task r => rw [announcement?, change?, h.get_fst hroot]
      | _ => rfl
  | _ => rfl

/-! ## Histories -/

/-- An event of which the requests file tasks under their own identifiers, and which is no write
behind the back of the proxy. -/
def Orderly (e : StoreEvent TaskRequest TaskStore) : Prop :=
  e.Meets TaskRequest.Keyed fun _ => False

/-- An orderly event keeps tasks under their own identifiers, and the cache coherent. -/
theorem Orderly.step {s : Observed TaskProxy} {e : StoreEvent TaskRequest TaskStore}
    (he : Orderly e) (hl : s.leadership.listeners ≠ []) (hroot : s.proxy.store.root.Keyed)
    (hc : s.proxy.Coherent) :
    (s.step e).proxy.store.root.Keyed ∧ (s.step e).proxy.Coherent := by
  have hmeets : e.Meets TaskRequest.Keyed TaskStore.Keyed := by
    cases e with
    | outside root => exact he.elim
    | _ => exact he
  have hfresh : s.freshens true e = true := by
    cases e with
    | outside root => exact he.elim
    | lead leader => simp [Observed.freshens]
    | _ => rfl
  exact ⟨Observed.sound_step laws hl hmeets hroot,
    Observed.coherent_step laws hl hmeets hroot (fun _ => hc) hfresh⟩

/-- An orderly history keeps tasks under their own identifiers, and the cache coherent. -/
theorem keyed_coherent_run {s : Observed TaskProxy}
    {history : List (StoreEvent TaskRequest TaskStore)} (hl : s.leadership.listeners ≠ [])
    (hroot : s.proxy.store.root.Keyed) (hc : s.proxy.Coherent)
    (hhistory : ∀ e ∈ history, Orderly e) :
    (s.run history).proxy.store.root.Keyed ∧ (s.run history).proxy.Coherent := by
  induction history generalizing s with
  | nil => exact ⟨hroot, hc⟩
  | cons e rest ih =>
      obtain ⟨hroot', hc'⟩ := (hhistory e List.mem_cons_self).step hl hroot hc
      exact ih (Observed.listeners_step hl e) hroot' hc' fun e' he' =>
        hhistory e' (List.mem_cons_of_mem e he')

/-- What is announced in an orderly history are its changes, in their order. -/
theorem announced_run {s : Observed TaskProxy} {history : List (StoreEvent TaskRequest TaskStore)}
    (hl : s.leadership.listeners ≠ []) (hroot : s.proxy.store.root.Keyed) (hc : s.proxy.Coherent)
    (hhistory : ∀ e ∈ history, Orderly e) :
    (s.run history).proxy.announced = s.proxy.announced ++ changes s history := by
  induction history generalizing s with
  | nil => exact (List.append_nil _).symm
  | cons e rest ih =>
      obtain ⟨hroot', hc'⟩ := (hhistory e List.mem_cons_self).step hl hroot hc
      have hrest : ∀ e' ∈ rest, Orderly e' := fun e' he' =>
        hhistory e' (List.mem_cons_of_mem e he')
      calc (s.run (e :: rest)).proxy.announced
          = (s.step e).proxy.announced ++ changes (s.step e) rest :=
            ih (Observed.listeners_step hl e) hroot' hc' hrest
        _ = s.proxy.announced ++ (s.proxy.change? e).toList ++ changes (s.step e) rest := by
            rw [announced_step hl e, hc.announcement?_eq hroot e]
        _ = s.proxy.announced ++ changes s (e :: rest) := List.append_assoc _ _ _

/-- Take any history of a task proxy with a new cache in which tasks are filed under the identifiers
that they carry and nobody writes behind the back of the proxy.  What the proxy announces are the
records of the updates that are accepted and change the state of the durable record, in their order
and nothing else; and an update is accepted exactly when the gate is open and the store holds no
newer record. -/
theorem announces_changes (leader : Bool) (store : Gated TaskStore)
    (history : List (StoreEvent TaskRequest TaskStore)) (hroot : store.root.Keyed)
    (hhistory : ∀ e ∈ history, Orderly e) :
    let s : Observed TaskProxy := Observed.start leader { store := store }
    (s.run history).proxy.announced = changes s history ∧
    ∀ before now source task r after,
      history = before ++ .request (.update now source task r) :: after →
      let p : TaskProxy := (s.run before).proxy
      (p.update now source task r).2 = true ↔
        p.store.accepting = true ∧ ¬ p.store.root.HoldsNewer source task r := by
  intro s
  have hl : s.leadership.listeners ≠ [] := Observed.listeners_start leader _
  have hempty : Coherent { store := store } := coherent_purge { store := store }
  refine ⟨(announced_run hl hroot hempty hhistory).trans (List.nil_append _), ?_⟩
  rintro before now source task r after rfl p
  have hbefore : ∀ e ∈ before, Orderly e := fun e he => hhistory e (List.mem_append_left _ he)
  obtain ⟨hkeyed, hc⟩ := keyed_coherent_run hl hroot hempty hbefore
  have hrefused := (hc.update_guarded hkeyed now source task r).refused_iff
  rw [← Bool.not_eq_false, hrefused, not_or, Bool.not_eq_false]

/-- A task is announced when it runs, not when that is reported again, not when a raw write says
that it has stopped, not when a later report agrees with that or an earlier one does not, but again
once its record was deleted, unless the gate is shut. -/
theorem announces_run_then_rerun :
    let run (state : TaskState) (seconds : Nat) : TaskRecord :=
      { sourceAppName := "SHOP", taskId := "run-1", instanceId := ⟨"SHOP-1-a"⟩
        executorId := ⟨"node"⟩, hostname := "node", state := state
        created := .epoch, updated := .ofUnixSeconds seconds }
    let report (r : TaskRecord) : StoreEvent TaskRequest TaskStore :=
      .request (.update .epoch "SHOP" "run-1" r)
    let history : List (StoreEvent TaskRequest TaskStore) :=
      [report (run .running 60), .invalidate, report (run .running 120),
        .request (.write .epoch "SHOP" "run-1" (run .stopped 180)), .lead false,
        report (run .stopped 240), report (run .running 200),
        .request (.delete "SHOP" "run-1"), .gate false, report (run .stopped 300),
        .gate true, report (run .stopped 360)]
    let s : Observed TaskProxy := Observed.start true { store := { root := {} } }
    (s.run history).proxy.announced.map (fun r => (r.state, r.updated)) =
      [(.running, .ofUnixSeconds 60), (.stopped, .ofUnixSeconds 360)] := by
  intro run report history s
  have hroot : TaskStore.Keyed {} := Groups.KeyedBy.empty TaskRecord.taskId
  have hhistory : ∀ e ∈ history, Orderly e := by
    simp [history, report, run, Orderly, StoreEvent.Meets, TaskRequest.Keyed]
  rw [(announces_changes true { root := {} } history hroot hhistory).1]
  simp only [history, report, run]
  decide +kernel

/-- A task is filed under a foreign key, and the cache is purged: the proxy files the task under its
own identifier when it loads the group, misses it under the key, and announces the next report
although the durable record is in the same state. -/
theorem announced_again_under_foreign_key :
    let r : TaskRecord :=
      { sourceAppName := "SHOP", taskId := "run-1", instanceId := ⟨"SHOP-1-a"⟩
        executorId := ⟨"node"⟩, hostname := "node", state := .running
        created := .epoch, updated := .epoch }
    let report : StoreEvent TaskRequest TaskStore := .request (.update .epoch "SHOP" "other" r)
    let history : List (StoreEvent TaskRequest TaskStore) := [report, .invalidate, report]
    let s : Observed TaskProxy := Observed.start true { store := { root := {} } }
    changes s history = [r] ∧ (s.run history).proxy.announced = [r, r] :=
  ⟨rfl, rfl⟩

end TaskProxy
end Orchestration
