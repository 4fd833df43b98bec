import Orchestration.Proofs.Task.Run

/-!
# What most events leave alone

Runners are handed over by a single event, let go by another one, and dropped by a third.  All other
events read states again, ask for jobs, or make new runners; they spare the runners that are there.

A new runner has a number of its own, also where the start of its task cannot be scheduled and it is
dropped at once.  So a runner that was handed over or let go does not come back under its number.

Main results:

- `TaskEngine.rereads_refresh`, `TaskEngine.rereads_completeJob`: a look at the stores and the end
  of a job concern one runner, and no registration.
- `TaskEngine.spares_step`: the events that spare all runners.
-/

namespace Orchestration
namespace TaskEngine

/-! ## What a look at the stores leaves alone -/

/-- A runner, apart from the state that it read. -/
def profile? (e : TaskEngine) (n : Nat) : Option TaskRunner :=
  (e.runners.find? n).map fun r => { r with state := none }

/-- The profile of a runner that is there. -/
theorem profile?_of_find? {e : TaskEngine} {n : Nat} {r : TaskRunner}
    (h : e.runners.find? n = some r) : e.profile? n = some { r with state := none } := by
  rw [profile?, h]
  rfl

/-- Whoever has a profile is there, and what the profile says of it is so. -/
theorem find?_of_profile? {e : TaskEngine} {n : Nat} {p : TaskRunner} (h : e.profile? n = some p) :
    ∃ r, e.runners.find? n = some r ∧ r.following = p.following ∧ r.retired = p.retired ∧
      r.source = p.source ∧ r.task = p.task := by
  obtain ⟨r, hr, rfl⟩ := Option.map_eq_some_iff.1 h
  exact ⟨r, hr, rfl, rfl, rfl, rfl⟩

/-- Two engines differ in the stores, and in the state of one runner at most. -/
structure Rereads (n : Nat) (e e' : TaskEngine) : Prop where
  same : e' = { e with stores := e'.stores, runners := e'.runners }
  others : ∀ m, m ≠ n → e'.runners.find? m = e.runners.find? m
  own : e'.profile? n = e.profile? n

section Rereads

variable {n : Nat} {e e' e'' : TaskEngine}

/-- Where nothing was read, nothing differs. -/
theorem Rereads.refl (n : Nat) (e : TaskEngine) : Rereads n e e :=
  ⟨rfl, fun _ _ => rfl, rfl⟩

/-- The state that is read is that of the runner alone. -/
theorem Rereads.setState (h : Rereads n e e') (s : TaskState) :
    Rereads n e (e'.setState n s) where
  same := by
    rw [TaskEngine.setState, updateRunner_eq, h.same]
  others m hm := by
    rw [TaskEngine.setState, find?_updateRunner, ← h.others m hm]
    simp [hm]
  own := by
    rw [← h.own, profile?, TaskEngine.setState, find?_updateRunner, profile?]
    cases e'.runners.find? n <;> simp

/-- The stores may be any others. -/
theorem rereads_stores (n : Nat) (e : TaskEngine) (stores : TaskStores) :
    Rereads n e { e with stores := stores } :=
  ⟨rfl, fun _ _ => rfl, rfl⟩

/-- A state that is read again is that of one runner. -/
theorem rereads_refresh (e : TaskEngine) (n : Nat) : Rereads n e (e.refresh n).1 := by
  unfold refresh
  split
  · exact .refl n e
  · split
    · split
      · exact .refl n e
      · exact (Rereads.refl n e).setState .lost
    · split
      · dsimp only
        split
        · exact (rereads_stores n e _).setState .lost
        · exact rereads_stores n e _
      · exact (Rereads.refl n e).setState _

/-- So is the state that the end of a job leads to. -/
theorem rereads_completeJob (e : TaskEngine) (n : Nat) (succeeded : Bool) :
    Rereads n e (e.completeJob n succeeded) := by
  have hread : Rereads n e (e.refresh n).1 := rereads_refresh e n
  unfold completeJob
  split
  · split <;> rename_i hrefresh <;> rw [hrefresh] at hread
    · exact hread
    · exact hread.setState .lost
  · exact (Rereads.refl n e).setState .lost

end Rereads

/-! ## What most events leave alone -/

/-- Between two engines no runner is handed over, let go or dropped, if it was there before, and
none of them is registered anew. -/
structure Spares (e e' : TaskEngine) : Prop where
  handedOver : e'.handedOver = e.handedOver
  alive : e'.alive = e.alive
  next : e.next ≤ e'.next
  profile : ∀ n < e.next, e'.profile? n = e.profile? n
  registered : ∀ key n, e'.registry.find? key = some n →
    e.registry.find? key = some n ∨ e.next ≤ n

section Spares

variable {e e' e'' : TaskEngine}

/-- Whoever changes neither the runners, apart from their states, nor how they are registered spares
them all. -/
theorem Spares.of_eq (hhanded : e'.handedOver = e.handedOver) (halive : e'.alive = e.alive)
    (hnext : e'.next = e.next) (hprofile : ∀ n, e'.profile? n = e.profile? n)
    (hregistry : e'.registry = e.registry) : Spares e e' where
  handedOver := hhanded
  alive := halive
  next := hnext.ge
  profile n _ := hprofile n
  registered _ _ hn := .inl (hregistry ▸ hn)

/-- Whoever does nothing spares them all. -/
theorem Spares.refl (e : TaskEngine) : Spares e e :=
  .of_eq rfl rfl rfl (fun _ => rfl) rfl

/-- Who is spared twice is spared: a runner that is new in between has a number of its own, too. -/
theorem Spares.trans (h : Spares e e') (h' : Spares e' e'') : Spares e e'' where
  handedOver := h'.handedOver.trans h.handedOver
  alive := h'.alive.trans h.alive
  next := h.next.trans h'.next
  profile n hn := (h'.profile n (hn.trans_le h.next)).trans (h.profile n hn)
  registered key n hn := by
    rcases h'.registered key n hn with hn | hn
    · exact h.registered key n hn
    · exact .inr (h.next.trans hn)

/-- To read a state again spares the runners. -/
theorem Rereads.spares {n : Nat} (h : Rereads n e e') : Spares e e' := by
  refine .of_eq ?_ ?_ ?_ (fun m => ?_) ?_
  · rw [h.same]
  · rw [h.same]
  · rw [h.same]
  · by_cases hm : m = n
    · rw [hm, h.own]
    · rw [profile?, h.others m hm, profile?]
  · rw [h.same]

/-- A request for a job is put in the queue, and concerns no runner. -/
theorem spares_request (e : TaskEngine) (kind : JobKind) (source task : String)
    (opSpec : ClusterOpSpec) (n : Nat) : Spares e (e.request kind source task opSpec n).1 :=
  .of_eq rfl rfl rfl (fun _ => rfl) rfl

/-- To stop a task is to ask for a job, at most. -/
theorem spares_stopTask (e : TaskEngine) (n : Nat) (opSpec : ClusterOpSpec) :
    Spares e (e.stopTask n opSpec).1 := by
  unfold stopTask
  split
  · exact spares_request ..
  · exact .refl e

/-- A new runner has a number of its own. -/
theorem spares_enroll (e : TaskEngine) (source task : String) :
    Spares e (e.enroll source task).1 where
  handedOver := rfl
  alive := rfl
  next := Nat.le_succ e.next
  profile n hn := by
    rw [profile?, profile?, show (e.enroll source task).1.runners.find? n = e.runners.find? n from
      SortedMap.find?_insert_of_ne _ _ hn.ne]
  registered key n hn := by
    by_cases hkey : key = runTaskId source task
    · simp only [enroll, hkey, SortedMap.find?_insert_self, Option.some.injEq] at hn
      exact .inr hn.le
    · exact .inl ((SortedMap.find?_insert_of_ne _ _ hkey).symm.trans hn)

/-- A task that is registered twice keeps its runner. -/
theorem spares_register (e : TaskEngine) (source task : String) :
    Spares e (e.register source task).1 := by
  unfold register
  split
  · exact .refl e
  · exact spares_enroll e source task

/-- A task that nobody knows any more gets a runner of its own to be stopped with. -/
theorem spares_killZombie (e : TaskEngine) (source task : String) :
    Spares e (e.killZombie source task) := by
  unfold killZombie
  split
  · exact .refl e
  · exact (spares_register e source task).trans (spares_stopTask _ _ _)

/-- A task that is refused a start has a runner that nobody knew before. -/
theorem spares_create (e : TaskEngine) (spec : TaskSpec) (opSpec : ClusterOpSpec) :
    Spares e (e.create spec opSpec).1 := by
  cases hspec : e.violations spec with
  | cons v vs => simpa [create, hspec] using .refl e
  | nil =>
      by_cases hknown : (e.stores.record? spec.sourceAppName spec.taskId).isSome = true ∨
          (e.registered? spec.sourceAppName spec.taskId).isSome = true
      · rw [create_of_known hspec hknown]
        exact .refl e
      · simp only [not_or, Bool.not_eq_true, Option.isSome_eq_false_iff,
          Option.isNone_iff_eq_none] at hknown
        cases hschedules : e.schedules with
        | true =>
            rw [create_of_new hspec hknown.1 hknown.2, hschedules]
            exact (spares_enroll e _ _).trans (spares_request ..)
        | false =>
            rw [create_of_unscheduled hspec hknown.1 hknown.2 hschedules]
            refine ⟨rfl, rfl, Nat.le_succ e.next, fun n hn => ?_, fun _ _ hn => .inl hn⟩
            exact congrArg (Option.map _) (SortedMap.find?_insert_of_ne _ _ hn.ne)

/-- Whatever is submitted, it spares the runners. -/
theorem spares_handle (e : TaskEngine) (op : TaskOperation) : Spares e (e.handle op).1 := by
  cases op with
  | create spec opSpec => exact spares_create e spec opSpec
  | kill source task opSpec =>
      simp only [handle, kill]
      split
      · exact .refl e
      · rename_i n _
        have hstop : Spares e (e.stopTask n opSpec).1 := spares_stopTask e n opSpec
        split <;> rename_i hstopped <;> rw [hstopped] at hstop <;> exact hstop

/-- So does an announcement, which at most has a task stopped that nobody knows. -/
theorem spares_hear (e : TaskEngine) : Spares e e.hear := by
  have hstores (stores : TaskStores) : Spares e { e with stores := stores } :=
    .of_eq rfl rfl rfl (fun _ => rfl) rfl
  unfold hear
  split
  · exact .refl e
  · dsimp only
    split
    · exact hstores _
    · have hpublish (stores : TaskStores) (event : LifecycleEvent) :
          Spares e (({ e with stores := stores } : TaskEngine).publish event) :=
        .of_eq rfl rfl rfl (fun _ => rfl) rfl
      split
      · exact (hpublish _ _).trans (spares_killZombie _ _ _)
      · exact hpublish _ _

/-- A look at all the states is a look at one after the other. -/
theorem spares_monitor (e : TaskEngine) : Spares e e.monitor := by
  have hall (l : List Nat) (e : TaskEngine) :
      Spares e (l.foldl (fun e n => (e.refresh n).1) e) := by
    induction l generalizing e with
    | nil => exact .refl e
    | cons n rest ih => exact (rereads_refresh e n).spares.trans (ih _)
  unfold monitor
  split
  · exact hall _ e
  · exact .refl e

/-- All events but three spare the runners: those that follow them, let them go, or take the engine
down. -/
theorem spares_step (e : TaskEngine) {ev : TaskEvent} (hfollow : ∀ n, ev ≠ .follow n)
    (hreap : ev ≠ .reap) (hdrop : ev ≠ .drop) : Spares e (e.step ev) := by
  cases ev with
  | handle op =>
      simp only [step]
      split
      · exact spares_handle e op
      · exact .refl e
  | register source task =>
      simp only [step]
      split
      · exact spares_register e source task
      · exact .refl e
  | killZombie source task =>
      simp only [step]
      split
      · exact spares_killZombie e source task
      · exact .refl e
  | ask kind n opSpec =>
      simp only [step]
      split
      · exact spares_request ..
      · exact .refl e
  | complete k succeeded =>
      simp only [step]
      split
      · split
        · exact (rereads_completeJob e _ succeeded).spares
        · exact .refl e
      · exact .refl e
  | refresh n => exact (rereads_refresh e n).spares
  | hear => exact spares_hear e
  | follow n => exact absurd rfl (hfollow n)
  | reap => exact absurd rfl hreap
  | monitor => exact spares_monitor e
  | drop => exact absurd rfl hdrop
  | _ => exact .of_eq rfl rfl rfl (fun _ => rfl) rfl

end Spares

end TaskEngine
end Orchestration
