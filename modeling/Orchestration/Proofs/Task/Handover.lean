import Orchestration.Proofs.Task.Completions
import Orchestration.Proofs.Task.Sparing

/-!
# Every task run completes at most once

A runner notices once that its task is over.  Then it is handed over, waits for its turn, and is let
go: its registration ends, and the completion of its task is published.  In between anything may
happen to it.  Its state may be read again, its jobs may report back, and its key may be given to a
new runner once its own registration has ended.

What is published is accounted for by two lists that grow with a run: the runners that were handed
over, and those of them that were let go.  As long as the engine exists, the first list is the
second one followed by those that wait; nobody gets into the first list twice, since a runner that
was handed over is not followed any more.

Main results:

- `TaskEngine.Accounted.step`, `TaskEngine.accounted_run`: the two lists in every run.
- `TaskEngine.take_handedOver_prefix`: those that wait are let go in their order, one a turn.
- `TaskEngine.completesOnce_run`: all of that together, with what a late job and the end of a
  registration leave alone.
-/

namespace Orchestration
namespace TaskEngine

/-! ## Hand-overs of a run -/

/-- The runner that an event hands over: one that is followed, was not dropped, and of which the
task is over. -/
def handover? (e : TaskEngine) : TaskEvent → Option Nat
  | .follow n =>
    (e.runners.find? n).bind fun r =>
      if r.following && !r.retired && r.isOver then some n else none
  | _ => none

/-- The runners that are handed over in a run, in their order. -/
def handovers (e : TaskEngine) : List TaskEvent → List Nat
  | [] => []
  | ev :: rest => (e.handover? ev).toList ++ handovers (e.step ev) rest

/-- The runners that are let go in a run, in their order. -/
def completers (e : TaskEngine) (events : List TaskEvent) : List Nat :=
  (e.completions events).map Prod.fst

/-- The runners that are handed over in a run, part after part. -/
theorem handovers_append (e : TaskEngine) (events later : List TaskEvent) :
    e.handovers (events ++ later) = e.handovers events ++ (e.run events).handovers later := by
  induction events generalizing e with
  | nil => rfl
  | cons ev rest ih => simp [handovers, run, ih]

/-- The completions that are published in a run, part after part. -/
theorem completions_append (e : TaskEngine) (events later : List TaskEvent) :
    e.completions (events ++ later) =
      e.completions events ++ (e.run events).completions later := by
  induction events generalizing e with
  | nil => rfl
  | cons ev rest ih => simp [completions, run, ih]

/-- A runner that is handed over was followed and not dropped. -/
theorem follow_of_handover? {e : TaskEngine} {n m : Nat} (h : e.handover? (.follow n) = some m) :
    m = n ∧ ∃ r, e.runners.find? n = some r ∧ r.following = true ∧ r.retired = false ∧
      e.follow n = { e.updateRunner n (fun r => { r with following := false }) with
        handedOver := e.handedOver ++ [n] } := by
  obtain ⟨r, hr, hhanded⟩ := Option.bind_eq_some_iff.1 h
  split at hhanded
  · rename_i hdue
    simp only [Bool.and_eq_true, Bool.not_eq_true'] at hdue
    obtain ⟨⟨hfollowing, hretired⟩, hover⟩ := hdue
    rw [TaskRunner.isOver] at hover
    exact ⟨(Option.some.inj hhanded).symm, r, hr, hfollowing, hretired,
      by simp [follow, hr, hfollowing, hretired, hover]⟩
  · cases hhanded

/-- Otherwise nothing happens, or a dropped runner is not followed any more. -/
theorem follow_of_not_handover? {e : TaskEngine} {n : Nat}
    (h : e.handover? (.follow n) = none) :
    e.follow n = e ∨ e.follow n = e.updateRunner n fun r => { r with following := false } := by
  unfold follow
  split
  · exact .inl rfl
  · rename_i r hr
    split
    · exact .inl rfl
    · rename_i hfollowing
      split
      · exact .inr rfl
      · rename_i hretired
        split
        · rename_i hover
          have hover : r.isOver = true := hover
          simp_all [handover?]
        · exact .inl rfl

/-! ## The two lists -/

/-- How an engine stands to the runners that were handed over so far, and to the completions so
far, both oldest first. -/
structure Accounted (e : TaskEngine) (given : List Nat) (done : List (Nat × String × String)) :
    Prop where
  /-- Whoever was handed over is not followed any more. -/
  noticed : ∀ n ∈ given, ∃ p, e.profile? n = some p ∧ p.following = false
  nodup : given.Nodup
  /-- Whoever was not let go yet waits for that. -/
  queue : e.alive = true → given = done.map Prod.fst ++ e.handedOver
  completed : done.map Prod.fst <+: given
  own : ∀ c ∈ done, e.Follows c.1 c.2.1 c.2.2
  unregistered : ∀ c ∈ done, ∀ key, e.registry.find? key ≠ some c.1
  /-- A runner that was dropped was not let go, and will not be. -/
  dropped : ∀ n p, e.profile? n = some p → p.retired = true →
    n ∉ done.map Prod.fst ∧ (e.alive = true → n ∉ e.handedOver)

/-- In the beginning nobody was handed over, and nobody let go. -/
theorem accounted_start (settings : EngineSettings) (stores : TaskStores) :
    Accounted (start settings stores) [] [] where
  noticed n hn := by cases hn
  nodup := List.nodup_nil
  queue _ := rfl
  completed := List.prefix_rfl
  own c hc := by cases hc
  unregistered c hc := by cases hc
  dropped n p hp := by cases hp

/-- A profile tells the task of its runner. -/
theorem follows_iff_profile? {e : TaskEngine} {n : Nat} {source task : String} :
    e.Follows n source task ↔ ∃ p, e.profile? n = some p ∧ p.source = source ∧ p.task = task := by
  constructor
  · rintro ⟨r, hr, hsource, htask⟩
    exact ⟨_, profile?_of_find? hr, hsource, htask⟩
  · rintro ⟨p, hp, rfl, rfl⟩
    obtain ⟨r, hr, -, -, hsource, htask⟩ := find?_of_profile? hp
    exact ⟨r, hr, hsource, htask⟩

/-- Whoever has a profile has a number that was given out. -/
theorem Sound.lt_next_of_profile? {e : TaskEngine} (hs : e.Sound) {n : Nat} {p : TaskRunner}
    (h : e.profile? n = some p) : n < e.next :=
  hs.fresh n p.source p.task (follows_iff_profile?.2 ⟨p, h, rfl, rfl⟩)

section Accounted

variable {e e' : TaskEngine} {given : List Nat} {done : List (Nat × String × String)}

/-- Whoever was let go was handed over before. -/
theorem Accounted.mem_given (h : e.Accounted given done) {n : Nat}
    (hn : n ∈ done.map Prod.fst) : n ∈ given :=
  h.completed.subset hn

/-- So has everybody who was handed over. -/
theorem Accounted.lt_next (h : e.Accounted given done) (hs : e.Sound) {n : Nat} (hn : n ∈ given) :
    n < e.next := by
  obtain ⟨p, hp, -⟩ := h.noticed n hn
  exact hs.lt_next_of_profile? hp

/-- Nothing changes for the lists where all runners are spared. -/
theorem Accounted.of_spares (h : e.Accounted given done) (hs : e.Sound) (hspares : Spares e e') :
    e'.Accounted given done where
  noticed n hn := by
    obtain ⟨p, hp, hunfollowed⟩ := h.noticed n hn
    exact ⟨p, (hspares.profile n (hs.lt_next_of_profile? hp)).trans hp, hunfollowed⟩
  nodup := h.nodup
  queue halive := by
    rw [hspares.handedOver]
    exact h.queue (hspares.alive ▸ halive)
  completed := h.completed
  own c hc := by
    obtain ⟨p, hp, htask⟩ := follows_iff_profile?.1 (h.own c hc)
    have hkept := hspares.profile c.1 (hs.lt_next_of_profile? hp)
    exact follows_iff_profile?.2 ⟨p, hkept.trans hp, htask⟩
  unregistered c hc key hkey := by
    rcases hspares.registered key c.1 hkey with hkey | hnew
    · exact h.unregistered c hc key hkey
    · have hgiven : c.1 ∈ given := h.mem_given (List.mem_map_of_mem hc)
      exact absurd (h.lt_next hs hgiven) (Nat.not_lt.2 hnew)
  dropped n p hp hretired := by
    rw [hspares.alive, hspares.handedOver]
    by_cases hn : n < e.next
    · exact h.dropped n p ((hspares.profile n hn).symm.trans hp) hretired
    · -- A new runner is in neither list.
      have hnew : n ∉ given := fun hgiven => hn (h.lt_next hs hgiven)
      refine ⟨fun hmem => hnew (h.mem_given hmem), fun halive hmem => hnew ?_⟩
      rw [h.queue halive]
      exact List.mem_append_right _ hmem

/-! ### Three events that do not spare the runners -/

/-- A runner that stops following keeps the rest of its profile, and all others keep theirs. -/
theorem profile?_unfollow (e : TaskEngine) (n m : Nat) :
    (e.updateRunner n fun r => { r with following := false }).profile? m =
      (e.profile? m).map fun p => if m = n then { p with following := false } else p := by
  rw [profile?, find?_updateRunner, profile?]
  cases e.runners.find? m with
  | none => rfl
  | some r => by_cases hm : m = n <;> simp [hm]

/-- A runner that is not followed any more, for whatever reason. -/
theorem Accounted.unfollow (h : e.Accounted given done) (n : Nat) :
    (e.updateRunner n fun r => { r with following := false }).Accounted given done where
  noticed m hm := by
    obtain ⟨p, hp, hunfollowed⟩ := h.noticed m hm
    rw [profile?_unfollow, hp]
    refine ⟨_, rfl, ?_⟩
    split
    · rfl
    · exact hunfollowed
  nodup := h.nodup
  queue halive := by
    rw [handedOver_updateRunner]
    exact h.queue (by rwa [alive_updateRunner] at halive)
  completed := h.completed
  own c hc := by
    have hchange (r : TaskRunner) : ({ r with following := false } : TaskRunner).source = r.source ∧
        ({ r with following := false } : TaskRunner).task = r.task := ⟨rfl, rfl⟩
    exact (follows_updateRunner e n hchange ..).2 (h.own c hc)
  unregistered c hc key := by
    rw [registry_updateRunner]
    exact h.unregistered c hc key
  dropped m p' hp' hretired := by
    rw [profile?_unfollow, Option.map_eq_some_iff] at hp'
    obtain ⟨p, hp, rfl⟩ := hp'
    have hretired : p.retired = true := by split at hretired <;> exact hretired
    rw [handedOver_updateRunner, alive_updateRunner]
    exact h.dropped m p hp hretired

/-- A runner that is followed is handed over once its task is over. -/
theorem Accounted.follow (h : e.Accounted given done) (n : Nat) :
    (e.follow n).Accounted (given ++ (e.handover? (.follow n)).toList) done := by
  cases hhanded : e.handover? (.follow n) with
  | none =>
      rw [Option.toList_none, List.append_nil]
      rcases follow_of_not_handover? hhanded with heq | heq
      · rwa [heq]
      · rw [heq]
        exact h.unfollow n
  | some m =>
      obtain ⟨rfl, r, hr, hfollowing, hretired, heq⟩ := follow_of_handover? hhanded
      have hprofile := profile?_of_find? hr
      have hnew : m ∉ given := by
        intro hm
        obtain ⟨p, hp, hunfollowed⟩ := h.noticed m hm
        rw [hprofile] at hp
        cases hp
        rw [hfollowing] at hunfollowed
        cases hunfollowed
      have hunfollow := h.unfollow m
      rw [heq, Option.toList_some]
      constructor
      · intro k hk
        rcases List.mem_append.1 hk with hk | hk
        · exact hunfollow.noticed k hk
        · rw [List.mem_singleton.1 hk]
          have hmarked := e.profile?_unfollow m m
          rw [hprofile, Option.map_some, if_pos rfl] at hmarked
          exact ⟨_, hmarked, rfl⟩
      · exact List.nodup_append.2 ⟨h.nodup, List.nodup_singleton m, fun k hk k' hk' heq =>
          hnew (List.mem_singleton.1 hk' ▸ heq ▸ hk)⟩
      · intro halive
        rw [h.queue (by rwa [alive_updateRunner] at halive), List.append_assoc]
      · exact h.completed.trans (List.prefix_append _ _)
      · exact hunfollow.own
      · exact hunfollow.unregistered
      · intro k p hp hdropped
        obtain ⟨hundone, hunqueued⟩ := hunfollow.dropped k p hp hdropped
        refine ⟨hundone, fun halive hk => ?_⟩
        rcases List.mem_append.1 hk with hk | hk
        · rw [handedOver_updateRunner] at hunqueued
          exact hunqueued halive hk
        · obtain rfl := List.mem_singleton.1 hk
          obtain ⟨r', hr', -, hretired', -⟩ := find?_of_profile? hp
          have hr' : (e.updateRunner k fun r => { r with following := false }).runners.find? k =
            some r' := hr'
          rw [find?_updateRunner, hr, Option.map_some, if_pos rfl] at hr'
          cases hr'
          rw [hdropped] at hretired'
          simp [hretired] at hretired'

/-- The runner that was handed over first is let go, while the engine exists. -/
theorem reap_of_waiting {n : Nat} {rest : List Nat} {r : TaskRunner}
    (hwaiting : e.handedOver = n :: rest) (halive : e.alive = true)
    (hr : e.runners.find? n = some r) :
    e.completes? .reap = some (n, r.source, r.task) ∧
      e.reap = { e with
        handedOver := rest
        registry := (e.deregister n).registry
        published := e.published ++ [.taskCompleted r.source r.task] } := by
  constructor
  · simp [completes?, hwaiting, halive, hr]
  · have hreap : e.reap = (deregister { e with handedOver := rest } n).publish
        (.taskCompleted r.source r.task) := by
      simp [reap, hwaiting, halive, hr]
    rw [hreap]
    simp only [deregister, hr, publish]
    split <;> rfl

/-- Nobody is let go by an engine that was taken down. -/
theorem reap_of_dead (halive : e.alive = false) :
    e.completes? .reap = none ∧ e.reap = { e with handedOver := e.handedOver.tail } := by
  constructor
  · simp [completes?, halive]
  · cases hwaiting : e.handedOver with
    | nil =>
        have hreap : e.reap = e := by simp [reap, hwaiting]
        rw [hreap, List.tail_nil, ← hwaiting]
    | cons n rest => simp [reap, hwaiting, halive]

/-- A runner keeps its key no longer than until it is let go. -/
theorem Sound.registry_deregister_ne (hs : e.Sound) (n : Nat) (key : String) :
    (e.deregister n).registry.find? key ≠ some n := by
  intro hheld
  have hbefore : e.registry.find? key = some n := find?_deregister hheld
  obtain ⟨source, task, ⟨r, hr, rfl, rfl⟩, rfl⟩ := hs.registered key n hbefore
  have hbefore : e.registry.find? r.runId = some n := hbefore
  have hheld : (e.deregister n).registry.find? r.runId = some n := hheld
  rw [TaskEngine.deregister, hr] at hheld
  simp only [hbefore, if_true, SortedMap.find?_erase_self] at hheld
  cases hheld

/-- The runner that was handed over first is let go. -/
theorem Accounted.reap (h : e.Accounted given done) (hs : e.Sound) :
    e.reap.Accounted given (done ++ (e.completes? .reap).toList) := by
  cases halive : e.alive with
  | false =>
      obtain ⟨hnone, hreap⟩ := reap_of_dead halive
      rw [hnone, hreap, Option.toList_none, List.append_nil]
      refine ⟨h.noticed, h.nodup, fun halive' => ?_, h.completed, h.own, h.unregistered,
        fun n p hp hretired => ⟨(h.dropped n p hp hretired).1, fun halive' => ?_⟩⟩
      all_goals
        have halive' : e.alive = true := halive'
        rw [halive] at halive'
        cases halive'
  | true =>
      have hqueue := h.queue halive
      cases hwaiting : e.handedOver with
      | nil =>
          have hreap : e.reap = e := by simp [TaskEngine.reap, hwaiting]
          have hnone : e.completes? .reap = none := by simp [completes?, hwaiting]
          rwa [hnone, hreap, Option.toList_none, List.append_nil]
      | cons n rest =>
          rw [hwaiting] at hqueue
          have hgiven : n ∈ given := by simp [hqueue]
          obtain ⟨p, hp, -⟩ := h.noticed n hgiven
          obtain ⟨r, hr, -⟩ := find?_of_profile? hp
          obtain ⟨hcompletes, hreap⟩ := reap_of_waiting hwaiting halive hr
          -- A runner waits once only, so that whoever is let go now was not let go before.
          have hnodup : (done.map Prod.fst ++ n :: rest).Nodup := hqueue ▸ h.nodup
          have hnotrest : n ∉ rest :=
            (List.nodup_cons.1 (List.nodup_append.1 hnodup).2.1).1
          have hcompleted : (done ++ [(n, r.source, r.task)]).map Prod.fst =
              done.map Prod.fst ++ [n] := List.map_append
          have hqueue' : given =
              (done ++ [(n, r.source, r.task)]).map Prod.fst ++ rest := by
            rw [hcompleted, hqueue, List.append_assoc]
            rfl
          rw [hcompletes, hreap, Option.toList_some]
          refine ⟨h.noticed, h.nodup, fun _ => hqueue', ⟨rest, hqueue'.symm⟩, fun c hc => ?_,
            fun c hc key => ?_, fun m p hp hretired => ?_⟩
          · rcases List.mem_append.1 hc with hc | hc
            · exact h.own c hc
            · rw [List.mem_singleton.1 hc]
              exact ⟨r, hr, rfl, rfl⟩
          · rcases List.mem_append.1 hc with hc | hc
            · exact fun hkey => h.unregistered c hc key (find?_deregister hkey)
            · rw [List.mem_singleton.1 hc]
              exact hs.registry_deregister_ne n key
          · obtain ⟨hundone, hunqueued⟩ := h.dropped m p hp hretired
            have hunqueued := hunqueued halive
            rw [hwaiting, List.mem_cons, not_or] at hunqueued
            rw [hcompleted, List.mem_append, List.mem_singleton, not_or]
            exact ⟨⟨hundone, hunqueued.1⟩, fun _ => hunqueued.2⟩

/-- Taking the engine down drops those that are registered, and nobody who was let go is. -/
theorem Accounted.drop (h : e.Accounted given done) : e.drop.Accounted given done := by
  obtain ⟨runners, hdrop, hrunners⟩ := drop_eq e
  have hprofile (n : Nat) : e.drop.profile? n = (e.profile? n).map fun p =>
      { p with retired := p.retired || decide (n ∈ e.registry.values) } := by
    rw [hdrop, profile?, hrunners, profile?]
    cases e.runners.find? n <;> rfl
  constructor
  · intro n hn
    obtain ⟨p, hp, hunfollowed⟩ := h.noticed n hn
    rw [hprofile, hp]
    exact ⟨_, rfl, hunfollowed⟩
  · exact h.nodup
  · intro halive
    rw [hdrop] at halive
    cases halive
  · exact h.completed
  · exact fun c hc => (follows_drop e ..).2 (h.own c hc)
  · intro c hc key hkey
    rw [hdrop] at hkey
    cases hkey
  · intro n p' hp' hretired
    have hdead : e.drop.alive = true → n ∉ e.drop.handedOver := by
      intro halive
      rw [hdrop] at halive
      cases halive
    refine ⟨fun hn => ?_, hdead⟩
    rw [hprofile, Option.map_eq_some_iff] at hp'
    obtain ⟨p, hp, rfl⟩ := hp'
    rcases Bool.or_eq_true_iff.1 hretired with hretired | hregistered
    · exact (h.dropped n p hp hretired).1 hn
    · have hvalue : n ∈ e.registry.values := of_decide_eq_true hregistered
      obtain ⟨key, hkey⟩ := (SortedMap.mem_values_iff e.registry n).1 hvalue
      obtain ⟨c, hc, rfl⟩ := List.mem_map.1 hn
      exact h.unregistered c hc key hkey

/-- Every event moves the two lists on by what it hands over and what it completes. -/
theorem Accounted.step (h : e.Accounted given done) (hs : e.Sound) (ev : TaskEvent) :
    (e.step ev).Accounted (given ++ (e.handover? ev).toList)
      (done ++ (e.completes? ev).toList) := by
  by_cases hfollow : ∃ n, ev = .follow n
  · obtain ⟨n, rfl⟩ := hfollow
    exact (List.append_nil done).symm ▸ h.follow n
  by_cases hreap : ev = .reap
  · subst hreap
    exact (List.append_nil given).symm ▸ h.reap hs
  have hnone : e.handover? ev = none ∧ e.completes? ev = none := by
    constructor
    · cases ev with
      | follow n => exact absurd ⟨n, rfl⟩ hfollow
      | _ => rfl
    · cases ev with
      | reap => exact absurd rfl hreap
      | _ => rfl
  rw [hnone.1, hnone.2, Option.toList_none, Option.toList_none, List.append_nil, List.append_nil]
  by_cases hdrop : ev = .drop
  · subst hdrop
    exact h.drop
  · exact h.of_spares hs (spares_step e (fun n hn => hfollow ⟨n, hn⟩) hreap hdrop)

/-- The two lists in every run. -/
theorem accounted_run (settings : EngineSettings) (stores : TaskStores) (events : List TaskEvent) :
    ((start settings stores).run events).Accounted ((start settings stores).handovers events)
      ((start settings stores).completions events) := by
  induction events using List.reverseRecOn with
  | nil => exact accounted_start settings stores
  | append_singleton events ev ih =>
      have hstep := ih.step (sound_run settings stores events) ev
      rw [run_append_singleton, handovers_append, completions_append]
      simpa [handovers, completions] using hstep

end Accounted

/-! ## What stays as it is -/

/-- An engine that was taken down is not taken up again. -/
theorem alive_of_step {e : TaskEngine} {ev : TaskEvent} (h : (e.step ev).alive = true) :
    e.alive = true := by
  by_cases hfollow : ∃ n, ev = .follow n
  · obtain ⟨n, rfl⟩ := hfollow
    rw [step] at h
    rcases follow_cases e n with heq | ⟨r, -, ⟨-, heq⟩ | ⟨-, heq⟩⟩ <;> rw [heq] at h <;>
      simpa using h
  by_cases hreap : ev = .reap
  · subst hreap
    rw [step] at h
    rcases reap_cases e with heq | ⟨n, rest, -, heq | ⟨r, -, heq⟩⟩ <;> rw [heq] at h <;> exact h
  by_cases hdrop : ev = .drop
  · subst hdrop
    obtain ⟨runners, heq, -⟩ := drop_eq e
    rw [step, heq] at h
    cases h
  · exact (spares_step e (fun n hn => hfollow ⟨n, hn⟩) hreap hdrop).alive ▸ h

/-- An engine that is there at the end of a run was there at its beginning. -/
theorem alive_of_run {e : TaskEngine} {events : List TaskEvent}
    (h : (e.run events).alive = true) : e.alive = true := by
  induction events generalizing e with
  | nil => exact h
  | cons ev rest ih => exact alive_of_step (ih h)

/-- An engine that was taken down completes nothing. -/
theorem completions_of_dead {e : TaskEngine} (h : e.alive = false) (events : List TaskEvent) :
    e.completions events = [] := by
  induction events generalizing e with
  | nil => rfl
  | cons ev rest ih =>
      have hnone : e.completes? ev = none := by
        cases ev <;> simp [completes?, h]
      have hdead : (e.step ev).alive = false := by
        rw [Bool.eq_false_iff]
        intro halive
        rw [alive_of_step halive] at h
        cases h
      rw [completions, hnone, ih hdead]
      rfl

/-- A runner with a number was dropped. -/
def IsRetired (e : TaskEngine) (n : Nat) : Prop :=
  ∃ p, e.profile? n = some p ∧ p.retired = true

/-- A runner that was dropped stays dropped. -/
theorem IsRetired.step {e : TaskEngine} {n : Nat} (h : e.IsRetired n) (hs : e.Sound)
    (ev : TaskEvent) : (e.step ev).IsRetired n := by
  obtain ⟨p, hp, hretired⟩ := h
  have hunfollowed (m : Nat) :
      (e.updateRunner m fun r => { r with following := false }).IsRetired n := by
    rw [IsRetired, profile?_unfollow, hp]
    refine ⟨_, rfl, ?_⟩
    split <;> exact hretired
  by_cases hfollow : ∃ m, ev = .follow m
  · obtain ⟨m, rfl⟩ := hfollow
    rw [TaskEngine.step]
    rcases follow_cases e m with heq | ⟨r, -, ⟨-, heq⟩ | ⟨-, heq⟩⟩ <;> rw [heq]
    · exact ⟨p, hp, hretired⟩
    · exact hunfollowed m
    · exact hunfollowed m
  by_cases hreap : ev = .reap
  · subst hreap
    rw [TaskEngine.step]
    rcases reap_cases e with heq | ⟨m, rest, -, heq | ⟨r, -, heq⟩⟩ <;> rw [heq] <;>
      exact ⟨p, hp, hretired⟩
  by_cases hdrop : ev = .drop
  · subst hdrop
    obtain ⟨r, hr, -, hretired', -⟩ := find?_of_profile? hp
    obtain ⟨runners, heq, hrunners⟩ := drop_eq e
    have hr' : e.drop.runners.find? n =
        some { r with retired := r.retired || decide (n ∈ e.registry.values) } := by
      rw [heq, hrunners, hr]
      rfl
    refine ⟨_, profile?_of_find? hr', ?_⟩
    simp [hretired', hretired]
  · have hspares := spares_step e (fun m hm => hfollow ⟨m, hm⟩) hreap hdrop
    exact ⟨p, (hspares.profile n (hs.lt_next_of_profile? hp)).trans hp, hretired⟩

/-- A runner that was dropped stays so in every run. -/
theorem IsRetired.run {e : TaskEngine} {n : Nat} (h : e.IsRetired n) (hs : e.Sound)
    (events : List TaskEvent) : (e.run events).IsRetired n := by
  induction events generalizing e with
  | nil => exact h
  | cons ev rest ih => exact ih (h.step hs ev) (hs.step ev)

/-! ## Turns -/

/-- How many runners may be let go in a run. -/
def turns (events : List TaskEvent) : Nat :=
  events.countP fun
    | .reap => true
    | _ => false

/-- As long as the engine exists, every turn lets one of those go that wait, in their order. -/
theorem take_handedOver_prefix {e : TaskEngine} {given : List Nat}
    {done : List (Nat × String × String)} (h : e.Accounted given done) (hs : e.Sound)
    {later : List TaskEvent} (halive : (e.run later).alive = true) :
    e.handedOver.take (turns later) <+: e.completers later := by
  induction later generalizing e given done with
  | nil => simp [turns]
  | cons ev rest ih =>
      have hnext : (e.step ev).alive = true := alive_of_run halive
      have hnow : e.alive = true := alive_of_step hnext
      have hstep := h.step hs ev
      have hrest : (e.step ev).handedOver.take (turns rest) <+: (e.step ev).completers rest :=
        ih hstep (hs.step ev) halive
      by_cases hreap : ev = .reap
      · subst hreap
        cases hwaiting : e.handedOver with
        | nil => simp
        | cons n waiting =>
            have hgiven : n ∈ given := by simp [h.queue hnow, hwaiting]
            obtain ⟨p, hp, -⟩ := h.noticed n hgiven
            obtain ⟨r, hr, -⟩ := find?_of_profile? hp
            obtain ⟨hcompletes, heq⟩ := reap_of_waiting hwaiting hnow hr
            have hqueue : (e.step .reap).handedOver = waiting := by rw [step, heq]
            rw [hqueue] at hrest
            simpa [turns, completers, completions, hcompletes] using hrest
      · have hnone : e.completes? ev = none := by
          cases ev <;> first | rfl | exact absurd rfl hreap
        have hturns : turns (ev :: rest) = turns rest := by
          cases ev <;> first | rfl | exact absurd rfl hreap
        have hqueue : e.handedOver ++ (e.handover? ev).toList = (e.step ev).handedOver := by
          have hgiven := hstep.queue hnext
          rw [h.queue hnow, hnone, Option.toList_none, List.append_nil, List.append_assoc] at hgiven
          exact List.append_cancel_left hgiven
        have hmore : e.handedOver.take (turns rest) <+:
            (e.step ev).handedOver.take (turns rest) := by
          rw [← hqueue, List.take_append]
          exact List.prefix_append _ _
        rw [hturns]
        simpa [completers, completions, hnone] using hmore.trans hrest

/-! ## Every task run completes at most once -/

/-- What is known of the completions of a run of `events` that begins without runners and leads from
`first` to `e`. -/
structure CompletesOnce (first e : TaskEngine) (events : List TaskEvent) : Prop where
  /-- What is published as complete are the tasks of the runners that are let go, one event for
  each. -/
  published : completedTasks e.published = (first.completions events).map (·.2)
  own : ∀ c ∈ first.completions events, e.Follows c.1 c.2.1 c.2.2
  /-- Nobody is handed over twice. -/
  once : (first.handovers events).Nodup
  /-- Runners are let go in the order in which they were handed over, each once at most. -/
  ordered : first.completers events <+: first.handovers events
  /-- As long as the engine exists, whoever was handed over was let go or waits. -/
  queued : e.alive = true → first.handovers events = first.completers events ++ e.handedOver
  /-- Whoever waits is let go as soon as there were turns enough. -/
  served : ∀ later, (e.run later).alive = true → e.handedOver.length ≤ turns later →
    ∀ n ∈ e.handedOver, n ∈ first.completers (events ++ later)
  /-- Whoever was let go is not registered any more. -/
  deregistered : ∀ n ∈ first.completers events, ∀ key, e.registry.find? key ≠ some n
  /-- A runner that was dropped is never let go, neither before nor after. -/
  dropped : ∀ n r, e.runners.find? n = some r → r.retired = true →
    ∀ later, n ∉ first.completers (events ++ later)
  /-- The runner of a start that could not be scheduled is dropped, and not registered. -/
  unscheduled : ∀ spec opSpec, e.alive = true → e.schedules = false → e.violations spec = [] →
    e.stores.record? spec.sourceAppName spec.taskId = none →
    e.registered? spec.sourceAppName spec.taskId = none →
    (e.step (.handle (.create spec opSpec))).registry = e.registry ∧
    ∃ r, (e.step (.handle (.create spec opSpec))).runners.find? e.next = some r ∧
      r.retired = true
  /-- When the engine is taken down, all registered runners are dropped. -/
  takenDown : ∀ key n r, e.registry.find? key = some n → e.runners.find? n = some r →
    ∃ r', (e.step .drop).runners.find? n = some r' ∧ r'.retired = true
  /-- Nobody is let go after that. -/
  silent : ∀ later, first.completions (events ++ .drop :: later) = first.completions events
  /-- Letting a runner go takes no registration from anybody else, under whatever key. -/
  reaped : ∀ key n, e.registry.find? key = some n → e.handedOver.head? ≠ some n →
    (e.step .reap).registry.find? key = some n
  /-- The end of a job concerns its own runner only, and no registration. -/
  reported : ∀ k q succeeded, e.requests[k]? = some q →
    (e.step (.complete k succeeded)).registry = e.registry ∧
    ∀ n, n ≠ q.runner → (e.step (.complete k succeeded)).runners.find? n = e.runners.find? n

/-- Letting a runner go takes no registration from anybody else. -/
theorem find?_reap_of_ne {e : TaskEngine} {key : String} {n : Nat}
    (hheld : e.registry.find? key = some n) (hhead : e.handedOver.head? ≠ some n) :
    e.reap.registry.find? key = some n := by
  rcases reap_cases e with heq | ⟨m, rest, hwaiting, heq | ⟨r, -, heq⟩⟩ <;> rw [heq]
  · exact hheld
  · exact hheld
  · refine find?_deregister_of_ne hheld ?_
    rintro rfl
    exact hhead (by rw [hwaiting, List.head?_cons])

/-- The end of a job concerns its own runner only. -/
theorem rereads_step_complete {e : TaskEngine} {k : Nat} {q : JobRequest}
    (hq : e.requests[k]? = some q) (succeeded : Bool) :
    Rereads q.runner e (e.step (.complete k succeeded)) := by
  simp only [step, hq]
  split
  · exact rereads_completeJob e q.runner succeeded
  · exact .refl q.runner e

/-- A start that could not be scheduled leaves a runner behind that was dropped. -/
theorem retired_of_unscheduled {e : TaskEngine} {spec : TaskSpec} (halive : e.alive = true)
    (hschedules : e.schedules = false) (hspec : e.violations spec = [])
    (hrecord : e.stores.record? spec.sourceAppName spec.taskId = none)
    (hfree : e.registered? spec.sourceAppName spec.taskId = none) (opSpec : ClusterOpSpec) :
    (e.step (.handle (.create spec opSpec))).registry = e.registry ∧
    ∃ r, (e.step (.handle (.create spec opSpec))).runners.find? e.next = some r ∧
      r.retired = true := by
  rw [step, if_pos halive, handle, create_of_unscheduled hspec hrecord hfree hschedules]
  exact ⟨rfl, _, SortedMap.find?_insert_self _ _ _, rfl⟩

/-- Whoever is registered when the engine is taken down is dropped. -/
theorem retired_of_drop {e : TaskEngine} {key : String} {n : Nat} {r : TaskRunner}
    (hheld : e.registry.find? key = some n) (hr : e.runners.find? n = some r) :
    ∃ r', (e.step .drop).runners.find? n = some r' ∧ r'.retired = true := by
  obtain ⟨runners, hdrop, hrunners⟩ := drop_eq e
  have hregistered : n ∈ e.registry.values := (SortedMap.mem_values_iff e.registry n).2 ⟨key, hheld⟩
  rw [step, hdrop]
  exact ⟨_, (hrunners n).trans (congrArg _ hr), by simp [hregistered]⟩

/-- In every run of the task engine each task run completes at most once: its runner is handed over
once at most, and is let go with one event as long as the engine exists. -/
theorem completesOnce_run (settings : EngineSettings) (stores : TaskStores)
    (events : List TaskEvent) :
    CompletesOnce (start settings stores) ((start settings stores).run events) events := by
  have hs := sound_run settings stores events
  have haccounted := accounted_run settings stores events
  refine
    { published := completedTasks_run _ events
      own := haccounted.own
      once := haccounted.nodup
      ordered := haccounted.completed
      queued := haccounted.queue
      served := fun later halive hturns n hn => ?_
      deregistered := fun n hn key => ?_
      dropped := fun n r hr hretired later => ?_
      unscheduled := fun _ opSpec halive hschedules hspec hrecord hfree =>
        retired_of_unscheduled halive hschedules hspec hrecord hfree opSpec
      takenDown := fun _ _ _ hheld hr => retired_of_drop hheld hr
      silent := fun later => ?_
      reaped := fun _ _ hheld hhead => find?_reap_of_ne hheld hhead
      reported := fun k q succeeded hq => ?_ }
  · have hserved := take_handedOver_prefix haccounted hs halive
    rw [List.take_of_length_le hturns] at hserved
    rw [completers, completions_append, List.map_append]
    exact List.mem_append_right _ (hserved.subset hn)
  · obtain ⟨c, hc, rfl⟩ := List.mem_map.1 hn
    exact haccounted.unregistered c hc key
  · have hdropped : ((start settings stores).run events).IsRetired n :=
      ⟨_, profile?_of_find? hr, hretired⟩
    obtain ⟨p, hp, hlater⟩ := hdropped.run hs later
    rw [← run_append] at hp
    exact ((accounted_run settings stores (events ++ later)).dropped n p hp hlater).1
  · have hdead : (((start settings stores).run events).step .drop).alive = false := by
      obtain ⟨runners, hdrop, -⟩ := drop_eq ((start settings stores).run events)
      rw [step, hdrop]
    rw [completions_append, completions, completions_of_dead hdead]
    exact List.append_nil _
  · have hrereads := rereads_step_complete hq succeeded
    exact ⟨by rw [hrereads.same], hrereads.others⟩

/-- The job that should stop a task reports back late: the runner was let go and the task was
started again under the same key.  The old runner counts as lost once more, and that is all. -/
theorem late_report_after_restart :
    let spec : TaskSpec :=
      { sourceAppName := "shop", taskId := "1", executable := { image := "shop" } }
    let events : List TaskEvent :=
      [.handle (.create spec {}), .handle (.kill "shop" "1" {}), .complete 0 false, .follow 0,
        .follow 0, .reap, .handle (.create spec {})]
    let e := (start {} { now := .epoch }).run events
    let e' := e.run [.complete 1 false, .follow 0, .reap]
    e.registered? "shop" "1" = some 1 ∧ (e.requests[1]?).map (·.runner) = some 0 ∧
      (e.step (.complete 1 false)).runners.find? 1 = e.runners.find? 1 ∧
      completedTasks e.published = [("shop", "1")] ∧
      e'.registered? "shop" "1" = some 1 ∧ completedTasks e'.published = [("shop", "1")] := by
  intro spec events e e'
  have hrun : e.registered? "shop" "1" = some 1 ∧ (e.requests[1]?).map (·.runner) = some 0 ∧
      e'.registered? "shop" "1" = some 1 ∧
      ((start {} { now := .epoch }).completions events).map (·.2) = [("shop", "1")] ∧
      completedTasks e'.published = [("shop", "1")] := by
    simp only [e', e, events, spec]
    decide +kernel
  obtain ⟨hregistered, hjob, hkept, hcompletions, hlast⟩ := hrun
  have honce : CompletesOnce (start {} { now := .epoch }) e events :=
    completesOnce_run {} { now := .epoch } events
  obtain ⟨q, hq, hrunner⟩ := Option.map_eq_some_iff.1 hjob
  have hother : (1 : Nat) ≠ q.runner := by rw [hrunner]; decide
  exact ⟨hregistered, hjob, (honce.reported 1 q false hq).2 1 hother,
    honce.published.trans hcompletions, hkept, hlast⟩

end TaskEngine
end Orchestration
