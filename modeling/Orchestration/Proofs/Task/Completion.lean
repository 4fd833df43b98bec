import Mathlib.Data.List.Induction
import Orchestration.Proofs.Task.Run

/-!
# When the task engine lets a runner go

A runner holds the state of its task as it was last read.  Once that state is terminal the runner is
handed over, its registration ends and its task counts as complete.

The state becomes terminal when the record of the task is in a terminal state or absent, and also
when a job of the runner fails: then the task counts as lost, whatever its record says.  Nothing
else ends a registration, but a start that could not be scheduled, or the end of the engine; as long
as a runner is registered, its task can be killed.

Main results:

- `TaskEngine.Move.settles`, `TaskEngine.excused_step`: what makes the state of a runner terminal.
- `TaskEngine.Tracks.move`, `TaskEngine.Tracks.step`: what every event keeps of the registrations.
- `TaskEngine.letsGo_run`: runners are let go for these reasons only, in every run.
-/

namespace Orchestration
namespace TaskEngine

/-! ## What makes a state terminal -/

/-- The state that a runner read last. -/
def state? (e : TaskEngine) (n : Nat) : Option TaskState :=
  (e.runners.find? n).bind (·.state)

/-- The state of a runner that is there. -/
theorem state?_of_find? {e : TaskEngine} {n : Nat} {r : TaskRunner}
    (h : e.runners.find? n = some r) : e.state? n = r.state := by
  simp [state?, h]

/-- A terminal state was read last. -/
def IsOver (e : TaskEngine) (n : Nat) : Prop :=
  ∃ s, e.state? n = some s ∧ s.isTerminal = true

/-- Whether a runner that is there has read a terminal state. -/
theorem isOver_iff_of_find? {e : TaskEngine} {n : Nat} {r : TaskRunner}
    (h : e.runners.find? n = some r) : e.IsOver n ↔ r.isOver = true := by
  rw [IsOver, state?_of_find? h, TaskRunner.isOver]
  cases r.state <;> simp

/-- Only runners have states. -/
theorem IsOver.follows {e : TaskEngine} {n : Nat} (h : e.IsOver n) :
    ∃ source task, e.Follows n source task := by
  obtain ⟨s, hs, -⟩ := h
  obtain ⟨r, hr, -⟩ := Option.bind_eq_some_iff.1 hs
  exact ⟨r.source, r.task, r, hr, rfl, rfl⟩

/-- A change of one runner changes the state of that one at most. -/
theorem state?_updateRunner (e : TaskEngine) (n : Nat) (change : TaskRunner → TaskRunner)
    (m : Nat) :
    (e.updateRunner n change).state? m =
      (e.runners.find? m).bind (fun r => if m = n then (change r).state else r.state) := by
  rw [state?, find?_updateRunner]
  cases e.runners.find? m with
  | none => rfl
  | some r =>
      rw [Option.map_some, Option.bind_some, Option.bind_some]
      split <;> rfl

/-- A change that spares the state of a runner spares all of them. -/
theorem state?_updateRunner_of_eq (e : TaskEngine) (n : Nat) {change : TaskRunner → TaskRunner}
    (hchange : ∀ r, (change r).state = r.state) (m : Nat) :
    (e.updateRunner n change).state? m = e.state? m := by
  rw [state?_updateRunner]
  simp only [hchange, ite_self]
  rfl

/-- The state of a runner may be terminal: the task is over as far as the stores tell, or a job of
the runner has just failed and the task counts as lost. -/
def Excused (e : TaskEngine) (blamed : Nat → Prop) (n : Nat) (source task : String) : Prop :=
  e.stores.Finished source task ∨ blamed n ∧ e.state? n = some .lost

/-- All runners stay with their tasks, no task is brought back, and a state that has become terminal
is excused. -/
structure Settles (blamed : Nat → Prop) (e e' : TaskEngine) : Prop where
  follows : ∀ n source task, e.Follows n source task → e'.Follows n source task
  finished : ∀ source task, e.stores.Finished source task → e'.stores.Finished source task
  excused : ∀ n source task, e'.Follows n source task → e'.IsOver n → e'.state? n ≠ e.state? n →
    e'.Excused blamed n source task

section Settles

variable {blamed : Nat → Prop} {e e' e'' : TaskEngine}

/-- Where no state changes, there is none to excuse. -/
theorem Settles.of_state?_eq
    (hfollows : ∀ n source task, e.Follows n source task → e'.Follows n source task)
    (hstores : e'.stores = e.stores) (hstate : ∀ n, e'.state? n = e.state? n) :
    Settles blamed e e' :=
  ⟨hfollows, fun _ _ h => hstores ▸ h, fun n _ _ _ _ hne => absurd (hstate n) hne⟩

/-- Nothing is to be excused where nothing happens. -/
theorem Settles.refl (e : TaskEngine) : Settles blamed e e :=
  .of_state?_eq (fun _ _ _ h => h) rfl fun _ => rfl

/-- A state that was excused stays so until it changes again. -/
theorem Settles.trans (h : Settles blamed e e') (h' : Settles blamed e' e'') :
    Settles blamed e e'' where
  follows n source task hf := h'.follows _ _ _ (h.follows _ _ _ hf)
  finished source task hf := h'.finished _ _ (h.finished _ _ hf)
  excused n source task hf hover hne := by
    -- If the state did not change again, the excuse of the first half still holds.
    by_cases hlast : e''.state? n = e'.state? n
    · have hover' : e'.IsOver n := by rwa [IsOver, ← hlast]
      obtain ⟨source', task', hf'⟩ := hover'.follows
      obtain ⟨rfl, rfl⟩ := (h'.follows _ _ _ hf').unique hf
      rcases h.excused n source' task' hf' hover' (hlast ▸ hne) with hfinished | ⟨hfails, hlost⟩
      · exact .inl (h'.finished _ _ hfinished)
      · exact .inr ⟨hfails, hlast.trans hlost⟩
    · exact h'.excused n source task hf hover hlast

/-- No move makes a state terminal without an excuse. -/
theorem Move.settles (hs : e.Sound) (h : Move blamed e e') : Settles blamed e e' := by
  cases h with
  | arrange stores leads schedules finished =>
      exact ⟨fun _ _ _ h => h, finished, fun n _ _ _ _ hne => absurd rfl hne⟩
  | set n s r found settled =>
      have hfollows : ∀ m source task,
          (e.setState n s).Follows m source task ↔ e.Follows m source task :=
        follows_updateRunner e n fun _ => ⟨rfl, rfl⟩
      refine ⟨fun m source task h => (hfollows m source task).2 h, ?_, ?_⟩
      · intro source task h
        rwa [setState, stores_updateRunner]
      · intro m source task hf hover hne
        have hm : m = n := by
          by_contra hm
          refine hne ?_
          rw [setState, state?_updateRunner]
          simp only [hm, if_false]
          rfl
        subst hm
        have hstate : (e.setState m s).state? m = some s := by
          rw [setState, state?_updateRunner, found, Option.bind_some, if_pos rfl]
        obtain ⟨rfl, rfl⟩ := Follows.unique ⟨r, found, rfl, rfl⟩ ((hfollows m source task).1 hf)
        obtain ⟨s', hs', hterminal⟩ := hover
        obtain rfl : s = s' := Option.some.inj (hstate.symm.trans hs')
        rw [Excused, hstate, setState, stores_updateRunner]
        rcases settled hterminal with hfinished | ⟨hblamed, hlost⟩
        · exact .inl hfinished
        · exact .inr ⟨hblamed, congrArg some hlost⟩
  | enroll source task free =>
      refine .of_state?_eq (fun n source' task' h => ?_) rfl fun n => ?_
      · exact (follows_enroll_of_ne e source task (hs.fresh _ _ _ h).ne ..).2 h
      · by_cases hn : n = e.next
        · have hnone : e.runners.find? e.next = none := by
            by_contra hsome
            obtain ⟨r, hr⟩ := Option.ne_none_iff_exists'.1 hsome
            exact absurd (hs.fresh _ _ _ ⟨r, hr, rfl, rfl⟩) (lt_irrefl _)
          rw [hn, state?_of_find? (find?_enroll_self e source task), state?, hnone]
          rfl
        · rw [state?, state?, show (e.enroll source task).1.runners.find? n = e.runners.find? n from
            SortedMap.find?_insert_of_ne _ _ hn]
  | ask kind opSpec n r found => exact .of_state?_eq (fun _ _ _ h => h) rfl fun _ => rfl
  | abandon opSpec n r found refused =>
      have hderegister : Settles blamed e (e.deregister n) := by
        rw [deregister_eq]
        exact .of_state?_eq (fun _ _ _ h => h) rfl fun _ => rfl
      have hfollows : ∀ m source task, ((e.deregister n).retire n).Follows m source task ↔
          (e.deregister n).Follows m source task :=
        follows_updateRunner _ n fun _ => ⟨rfl, rfl⟩
      have hstate : ∀ m, ((e.deregister n).retire n).state? m = (e.deregister n).state? m :=
        state?_updateRunner_of_eq _ n fun _ => rfl
      exact hderegister.trans
        (.of_state?_eq (fun m source task => (hfollows m source task).2)
          (stores_updateRunner ..) hstate)
  | announce source task s => exact .of_state?_eq (fun _ _ _ h => h) rfl fun _ => rfl
  | reap =>
      rcases reap_cases e with hreap | ⟨n, rest, -, hreap | ⟨r, -, hreap⟩⟩ <;> rw [hreap] <;>
        exact .of_state?_eq (fun _ _ _ h => h) rfl fun _ => rfl
  | drop =>
      obtain ⟨runners, hdrop, hrunners⟩ := drop_eq e
      refine .of_state?_eq (fun n source task => (follows_drop e n source task).2) ?_ fun n => ?_
      · rw [hdrop]
      · rw [hdrop, state?, hrunners, state?]
        cases e.runners.find? n <;> rfl

/-- What every move excuses is excused after all of them. -/
theorem Moves.settles (hs : e.Sound) (h : Moves blamed e e') : Settles blamed e e' :=
  (h.keeps (fun _ _ hs' hkept hmove => hkept.trans (hmove.settles hs')) hs (.refl e)).2

end Settles

/-- No event makes the state of a runner terminal without an excuse. -/
theorem excused_step {e : TaskEngine} (hs : e.Sound) (ev : TaskEvent) {n : Nat}
    {source task : String} (hf : (e.step ev).Follows n source task) (hover : (e.step ev).IsOver n)
    (hne : (e.step ev).state? n ≠ e.state? n) :
    (e.step ev).Excused (e.JobFails ev) n source task := by
  rcases e.step_cases ev with ⟨m, rfl⟩ | ⟨stores, rfl⟩ | hmoves
  · have hunfollowed : ∀ k, (e.updateRunner m (fun r => { r with following := false })).state? k =
        e.state? k := state?_updateRunner_of_eq e m fun _ => rfl
    have hstate : (e.follow m).state? n = e.state? n := by
      rcases follow_cases e m with heq | ⟨r, -, ⟨-, heq⟩ | ⟨-, heq⟩⟩
      · rw [heq]
      · rw [heq, hunfollowed]
      · rw [heq]
        exact hunfollowed n
    exact absurd hstate hne
  · exact absurd rfl hne
  · exact (hmoves.settles hs).excused n source task hf hover hne

/-! ## Registrations -/

/-- The job that should start the task of a runner could not be scheduled. -/
def Refused (e : TaskEngine) (n : Nat) (source task : String) : Prop :=
  ∃ opSpec, ⟨.start, source, task, opSpec, n, false⟩ ∈ e.requests

/-- Every runner is registered, but those in `ended`, those that could not start, and those of an
engine that was taken down; and only those in `ended` are handed over and count as complete. -/
structure Tracks (ended : Nat → Prop) (e : TaskEngine) : Prop where
  kept : ∀ n source task, e.Follows n source task →
    e.registered? source task = some n ∨ ended n ∨ e.Refused n source task ∨ e.alive = false
  handedOver : ∀ n ∈ e.handedOver, ended n
  completed : ∀ source task, .taskCompleted source task ∈ e.published →
    ∃ n, e.Follows n source task ∧ ended n

/-- An engine without runners has none to account for. -/
theorem tracks_start (ended : Nat → Prop) (settings : EngineSettings) (stores : TaskStores) :
    Tracks ended (start settings stores) where
  kept n source task h := by
    obtain ⟨r, hr, -⟩ := h
    cases hr
  handedOver n hn := by cases hn
  completed source task h := by cases h

section Tracks

variable {ended : Nat → Prop} {e e' : TaskEngine}

/-- If more runners count as ended, they are still accounted for. -/
theorem Tracks.mono (h : Tracks ended e) {ended' : Nat → Prop} (hover : ∀ n, ended n → ended' n) :
    Tracks ended' e where
  kept n source task hf := by
    rcases h.kept n source task hf with hheld | hdone | hother
    · exact .inl hheld
    · exact .inr (.inl (hover n hdone))
    · exact .inr (.inr hother)
  handedOver n hn := hover n (h.handedOver n hn)
  completed source task hc := by
    obtain ⟨n, hf, hdone⟩ := h.completed source task hc
    exact ⟨n, hf, hover n hdone⟩

/-- What has to be shown of a change that leaves all runners with their tasks. -/
theorem Tracks.extend (h : Tracks ended e)
    (hfollows : ∀ n source task, e'.Follows n source task ↔ e.Follows n source task)
    (hkept : ∀ n source task, e.Follows n source task → e.registered? source task = some n →
      e'.registered? source task = some n ∨ ended n ∨ e'.Refused n source task ∨ e'.alive = false)
    (hrequests : ∀ q ∈ e.requests, q ∈ e'.requests) (halive : e.alive = false → e'.alive = false)
    (hhanded : ∀ n ∈ e'.handedOver, ended n)
    (hpublished : ∀ source task, .taskCompleted source task ∈ e'.published →
      .taskCompleted source task ∈ e.published ∨ ∃ n, e.Follows n source task ∧ ended n) :
    Tracks ended e' where
  kept n source task hf := by
    have hf' := (hfollows n source task).1 hf
    rcases h.kept n source task hf' with hheld | hdone | ⟨opSpec, hrefused⟩ | hdead
    · exact hkept n source task hf' hheld
    · exact .inr (.inl hdone)
    · exact .inr (.inr (.inl ⟨opSpec, hrequests _ hrefused⟩))
    · exact .inr (.inr (.inr (halive hdead)))
  handedOver := hhanded
  completed source task hc := by
    have hcompleted : ∃ n, e.Follows n source task ∧ ended n :=
      (hpublished source task hc).elim (h.completed source task) id
    obtain ⟨n, hf, hdone⟩ := hcompleted
    exact ⟨n, (hfollows n source task).2 hf, hdone⟩

/-- A change of one runner that leaves its task alone takes no registration away. -/
theorem Tracks.updateRunner (h : Tracks ended e) (n : Nat) {change : TaskRunner → TaskRunner}
    (hchange : ∀ r, (change r).source = r.source ∧ (change r).task = r.task) :
    Tracks ended (e.updateRunner n change) := by
  refine h.extend (follows_updateRunner e n hchange) (fun m source task _ hheld => .inl ?_) ?_ ?_ ?_
    ?_
  · rwa [registered?, registry_updateRunner]
  · simp
  · simp
  · simpa using h.handedOver
  · intro source task hc
    rw [published_updateRunner] at hc
    exact .inl hc

/-- A new runner is registered, and takes nobody's place. -/
theorem Tracks.enroll (h : Tracks ended e) (hs : e.Sound) {source task : String}
    (hfree : e.registered? source task = none) : Tracks ended (e.enroll source task).1 where
  kept n source' task' hf := by
    by_cases hn : n = e.next
    · subst hn
      obtain ⟨rfl, rfl⟩ := (follows_enroll_self e source task).unique hf
      exact .inl (SortedMap.find?_insert_self _ _ _)
    · have hf' := (follows_enroll_of_ne e source task hn ..).1 hf
      rcases h.kept n source' task' hf' with hheld | hother
      · have hkey : runTaskId source' task' ≠ runTaskId source task := by
          intro hkey
          rw [registered?, hkey, ← registered?, hfree] at hheld
          cases hheld
        exact .inl ((SortedMap.find?_insert_of_ne _ _ hkey).trans hheld)
      · exact .inr hother
  handedOver := h.handedOver
  completed source' task' hc := by
    obtain ⟨n, hf, hdone⟩ := h.completed source' task' hc
    exact ⟨n, (follows_enroll_of_ne e source task (hs.fresh _ _ _ hf).ne ..).2 hf, hdone⟩

/-- The end of a registration concerns one runner. -/
theorem registered?_deregister {n m : Nat} {source task : String}
    (hheld : e.registered? source task = some m) (hm : m ≠ n) :
    (e.deregister n).registered? source task = some m :=
  find?_deregister_of_ne hheld hm

/-- Every move keeps the registrations of all runners that are not over. -/
theorem Tracks.move {blamed : Nat → Prop} (h : Tracks ended e) (hs : e.Sound)
    (hmove : Move blamed e e') : Tracks ended e' := by
  cases hmove with
  | arrange stores leads schedules _ => exact ⟨h.kept, h.handedOver, h.completed⟩
  | set n s r _ _ => exact h.updateRunner n fun _ => ⟨rfl, rfl⟩
  | enroll source task free => exact h.enroll hs free
  | ask kind opSpec n r _ =>
      refine h.extend (fun _ _ _ => .rfl) (fun _ _ _ _ hheld => .inl hheld) (fun q hq => ?_) id
        h.handedOver fun _ _ hc => .inl hc
      exact List.mem_append_left _ hq
  | abandon opSpec n r found refused =>
      have hderegister : Tracks ended (e.deregister n) := by
        refine h.extend (fun m source task => ?_) (fun m source task hf hheld => ?_) ?_ ?_ ?_ ?_
        · rw [deregister_eq]
          exact .rfl
        · by_cases hm : m = n
          · subst hm
            obtain ⟨rfl, rfl⟩ := Follows.unique ⟨r, found, rfl, rfl⟩ hf
            rw [deregister_eq]
            exact .inr (.inr (.inl ⟨opSpec, refused⟩))
          · exact .inl (registered?_deregister hheld hm)
        · rw [deregister_eq]
          exact fun _ hq => hq
        · rw [deregister_eq]
          exact id
        · rw [deregister_eq]
          exact h.handedOver
        · rw [deregister_eq]
          exact fun _ _ hc => .inl hc
      exact hderegister.updateRunner n fun _ => ⟨rfl, rfl⟩
  | announce source task s =>
      refine h.extend (fun _ _ _ => .rfl) (fun _ _ _ _ hheld => .inl hheld) (fun _ hq => hq) id
        h.handedOver fun source' task' hc => .inl ?_
      rcases List.mem_append.1 hc with hc | hc
      · exact hc
      · cases List.mem_singleton.1 hc
  | reap =>
      rcases reap_cases e with hreap | ⟨n, rest, hwaiting, hreap | ⟨r, hr, hreap⟩⟩
      · rwa [hreap]
      · rw [hreap]
        refine ⟨h.kept, fun m hm => h.handedOver m ?_, h.completed⟩
        rw [hwaiting]
        exact List.mem_cons_of_mem n hm
      · have hover : ended n := h.handedOver n (by rw [hwaiting]; exact List.mem_cons_self)
        rw [hreap]
        refine h.extend (fun _ _ _ => .rfl) (fun m source task _ hheld => ?_) (fun _ hq => hq) id
          (fun m hm => h.handedOver m ?_) fun source task hc => ?_
        · by_cases hm : m = n
          · exact .inr (.inl (hm ▸ hover))
          · exact .inl (registered?_deregister hheld hm)
        · rw [hwaiting]
          exact List.mem_cons_of_mem n hm
        · rcases List.mem_append.1 hc with hc | hc
          · exact .inl hc
          · cases List.mem_singleton.1 hc
            exact .inr ⟨n, ⟨r, hr, rfl, rfl⟩, hover⟩
  | drop =>
      obtain ⟨runners, hdrop, -⟩ := drop_eq e
      have hdead : e.drop.alive = false := by rw [hdrop]
      refine h.extend (follows_drop e) (fun _ _ _ _ _ => .inr (.inr (.inr hdead))) ?_
        (fun _ => hdead) ?_ ?_ <;> rw [hdrop]
      · exact fun _ hq => hq
      · exact h.handedOver
      · exact fun _ _ hc => .inl hc

/-- Every event keeps the registrations of all runners that are not over. -/
theorem Tracks.step (h : Tracks ended e) (hs : e.Sound) (hover : ∀ n, e.IsOver n → ended n)
    (ev : TaskEvent) : Tracks ended (e.step ev) := by
  rcases e.step_cases ev with ⟨n, rfl⟩ | ⟨stores, rfl⟩ | hmoves
  · have hunfollowed : Tracks ended (e.updateRunner n (fun r => { r with following := false })) :=
      h.updateRunner n fun _ => ⟨rfl, rfl⟩
    rw [TaskEngine.step]
    rcases follow_cases e n with heq | ⟨r, hr, ⟨-, heq⟩ | ⟨hterminal, heq⟩⟩
    · rwa [heq]
    · rwa [heq]
    · rw [heq]
      refine ⟨hunfollowed.kept, fun m hm => ?_, hunfollowed.completed⟩
      rcases List.mem_append.1 hm with hm | hm
      · exact h.handedOver m hm
      · rw [List.mem_singleton.1 hm]
        exact hover n ((isOver_iff_of_find? hr).2 hterminal)
  · exact ⟨h.kept, h.handedOver, h.completed⟩
  · exact (hmoves.keeps (fun _ _ hs' h' hmove => h'.move hs' hmove) hs h).2

end Tracks

/-! ## Whole runs -/

/-- The event makes the state of a runner terminal, and has an excuse for that. -/
structure Ends (e : TaskEngine) (ev : TaskEvent) (n : Nat) : Prop where
  before : ¬ e.IsOver n
  after : (e.step ev).IsOver n
  excused : ∀ source task, (e.step ev).Follows n source task →
    (e.step ev).Excused (e.JobFails ev) n source task

/-- Some event of a run makes the state of a runner terminal. -/
def EndedIn (e : TaskEngine) (events : List TaskEvent) (n : Nat) : Prop :=
  ∃ earlier ev later, events = earlier ++ ev :: later ∧ (e.run earlier).Ends ev n

/-- What has ended stays ended, whatever follows. -/
theorem EndedIn.append {e : TaskEngine} {events : List TaskEvent} {n : Nat}
    (h : e.EndedIn events n) (ev : TaskEvent) : e.EndedIn (events ++ [ev]) n := by
  obtain ⟨earlier, ev', later, rfl, hends⟩ := h
  exact ⟨earlier, ev', later ++ [ev], by simp, hends⟩

/-- A state that is terminal has become so in the run, for lack of runners in the beginning. -/
theorem endedIn_of_isOver (settings : EngineSettings) (stores : TaskStores)
    (events : List TaskEvent) {n : Nat} (h : ((start settings stores).run events).IsOver n) :
    (start settings stores).EndedIn events n := by
  -- By the last event: a state that was not terminal before has become so just now.
  induction events using List.reverseRecOn with
  | nil =>
      obtain ⟨s, hs, -⟩ := h
      cases hs
  | append_singleton events ev ih =>
      have hs := sound_run settings stores events
      by_cases hbefore : ((start settings stores).run events).IsOver n
      · exact (ih hbefore).append ev
      · rw [run_append_singleton] at h
        refine ⟨events, ev, [], rfl, hbefore, h, fun source task hf => ?_⟩
        refine excused_step hs ev hf h fun hsame => hbefore ?_
        rwa [IsOver, ← hsame]

/-- In every run the registrations are kept as `Tracks` says, for the runners of which the state
has become terminal in it. -/
theorem tracks_run (settings : EngineSettings) (stores : TaskStores) (events : List TaskEvent) :
    Tracks ((start settings stores).EndedIn events) ((start settings stores).run events) := by
  induction events using List.reverseRecOn with
  | nil => exact tracks_start _ settings stores
  | append_singleton events ev ih =>
      have hs := sound_run settings stores events
      rw [run_append_singleton]
      exact (ih.step hs (fun n h => endedIn_of_isOver settings stores events h) ev).mono
        fun n h => h.append ev

/-- What is known about the runners of an engine that were let go, those in `ended` being the ones
of which the state has become terminal. -/
structure LetsGo (ended : Nat → Prop) (e : TaskEngine) : Prop where
  /-- When a state becomes terminal, its task is over as far as the stores tell, or a job of its
  runner has just failed; then the state is lost. -/
  excused : ∀ ev n source task, (e.step ev).Follows n source task → (e.step ev).IsOver n →
    (e.step ev).state? n ≠ e.state? n → (e.step ev).Excused (e.JobFails ev) n source task
  /-- Until then a runner is registered and its task can be killed, unless its start could not be
  scheduled or the engine was taken down. -/
  kept : ∀ n source task, e.Follows n source task →
    (e.registered? source task = some n ∧ ∀ opSpec, (e.kill source task opSpec).1.requests =
      e.requests ++ [⟨.stop, source, task, opSpec, n, e.schedules⟩]) ∨
    ended n ∨ e.Refused n source task ∨ e.alive = false
  /-- Only a runner that is over is handed over. -/
  handedOver : ∀ n ∈ e.handedOver, ended n
  /-- Only the task of a runner that is over counts as complete. -/
  completed : ∀ source task, .taskCompleted source task ∈ e.published →
    ∃ n, e.Follows n source task ∧ ended n
  /-- A runner that is over is handed over once that is noticed, unless it was dropped. -/
  followed : ∀ n r, e.runners.find? n = some r → e.IsOver n → r.following = true →
    r.retired = false → (e.follow n).handedOver = e.handedOver ++ [n]
  /-- A runner that was handed over loses its registration, and its task counts as complete. -/
  reaped : ∀ n rest source task, e.handedOver = n :: rest → e.alive = true →
    e.Follows n source task → e.reap.registered? source task ≠ some n ∧
      .taskCompleted source task ∈ e.reap.published

/-- In every run, runners are let go only when their state has become terminal: because their task
was over as far as the stores told, or because one of their jobs had just failed. -/
theorem letsGo_run (settings : EngineSettings) (stores : TaskStores) (events : List TaskEvent) :
    LetsGo ((start settings stores).EndedIn events) ((start settings stores).run events) := by
  have hs := sound_run settings stores events
  have ht := tracks_run settings stores events
  generalize (start settings stores).run events = e at hs ht
  refine
    { excused := fun ev n source task hf hover hne => excused_step hs ev hf hover hne
      kept := fun n source task hf => ?_
      handedOver := ht.handedOver
      completed := ht.completed
      followed := fun n r hr hover hfollowing hretired => ?_
      reaped := fun n rest source task hwaiting halive hf => ?_ }
  · rcases ht.kept n source task hf with hheld | hother
    · refine .inl ⟨hheld, fun opSpec => ?_⟩
      obtain ⟨r, hr, rfl, rfl⟩ := hf
      rw [kill_of_registered hheld hr]
      rfl
    · exact .inr hother
  · have hterminal : r.isOver = true := (isOver_iff_of_find? hr).1 hover
    rw [TaskRunner.isOver] at hterminal
    simp [follow, hr, hfollowing, hretired, hterminal]
  · obtain ⟨r, hr, rfl, rfl⟩ := hf
    have hreap : e.reap = (deregister { e with handedOver := rest } n).publish
        (.taskCompleted r.source r.task) := by
      simp [reap, hwaiting, halive, hr]
    rw [hreap]
    refine ⟨fun hheld => ?_, List.mem_append_right _ (List.mem_singleton.2 rfl)⟩
    simp only [registered?, publish, deregister, hr] at hheld
    split at hheld
    · simp [TaskRunner.runId] at hheld
    · rename_i hnot
      exact hnot hheld

/-- The task runs when the job that should stop it fails.  Its runner is let go, the task counts as
complete, and it cannot be killed any more, although its record says that it runs. -/
theorem running_task_let_go :
    let spec : TaskSpec :=
      { sourceAppName := "shop", taskId := "1", executable := { image := "shop" } }
    let record : TaskRecord :=
      { sourceAppName := "shop", taskId := "1", instanceId := ⟨"i"⟩, executorId := ⟨"e"⟩
        hostname := "e", state := .running, created := .epoch, updated := .epoch }
    let w : TaskStores := { now := .epoch }
    let asked := (start {} w).run [.handle (.create spec {}),
      .outside (w.update "shop" "1" record).1, .complete 0 true, .handle (.kill "shop" "1" {})]
    let failed := asked.step (.complete 1 false)
    let e := failed.run [.follow 0, .reap]
    asked.state? 0 = some .running ∧ failed.state? 0 = some .lost ∧
      (failed.stores.record? "shop" "1").map (·.state) = some .running ∧
      e.registered? "shop" "1" = none ∧ .taskCompleted "shop" "1" ∈ e.published ∧
      (e.stores.record? "shop" "1").map (·.state) = some .running ∧
      (e.kill "shop" "1" {}).2.status = .failure := by
  decide +kernel

end TaskEngine
end Orchestration
