import Mathlib.Tactic.Choose
import Orchestration.Proofs.Machine.Stop
import Orchestration.Rehearsal.Loop

/-!
# Rehearsed stops

A rehearsal plays one actor with scripted actions against a virtual clock.  Whatever it plays is a
run of the actor, and counts its hand-overs; so its stop is a stop of the actor, with the events
that were played in the pauses, and takes as much virtual time as the wait lasts.

Main results:

- `LoopRehearsal.plays_turn`, `LoopRehearsal.plays_pause`: what is played is a run of the actor.
- `LoopRehearsal.stop_eq`: a rehearsed stop is a stop of its actor.
-/

namespace Orchestration
namespace LoopRehearsal

open Actor

/-- One rehearsal goes on to another with some events of its actor; nobody cuts the loop off. -/
structure Plays (r r' : LoopRehearsal) (events : List (ActorEvent String String Int)) : Prop where
  blueprint : r'.blueprint = r.blueprint
  actor : r'.actor = run r.blueprint r.actor events
  completed : r'.completed = r.completed + handovers r.blueprint r.actor events
  calm : .abort ∉ events

variable {r r' r'' : LoopRehearsal}

/-- Hand-overs add up along a run. -/
theorem handovers_append (b : Blueprint String String) (a : Actor String String Int String)
    (events later : List (ActorEvent String String Int)) :
    handovers b a (events ++ later) =
      handovers b a events + handovers b (run b a events) later := by
  induction events generalizing a with
  | nil => simp [handovers, run]
  | cons e rest ih => simp [handovers, ih, run_cons, Nat.add_assoc]

/-- A change of the agenda plays nothing. -/
theorem Plays.refl (hblueprint : r'.blueprint = r.blueprint) (hactor : r'.actor = r.actor)
    (hcompleted : r'.completed = r.completed) : Plays r r' [] :=
  ⟨hblueprint, hactor, by simpa [handovers] using hcompleted, by simp⟩

/-- What is played in two parts is played as a whole. -/
theorem Plays.trans {events later : List (ActorEvent String String Int)}
    (h : Plays r r' events) (h' : Plays r' r'' later) : Plays r r'' (events ++ later) where
  blueprint := h'.blueprint.trans h.blueprint
  actor := by rw [h'.actor, h.actor, h.blueprint, run_append]
  completed := by
    rw [h'.completed, h.completed, h.blueprint, h.actor, handovers_append, Nat.add_assoc]
  calm hmem := (List.mem_append.1 hmem).elim h.calm h'.calm

/-- Only the actor and the number of hand-overs matter for what is played. -/
theorem Plays.congr {events : List (ActorEvent String String Int)} (h : Plays r' r'' events)
    (hblueprint : r'.blueprint = r.blueprint) (hactor : r'.actor = r.actor)
    (hcompleted : r'.completed = r.completed) : Plays r r'' events :=
  (Plays.refl hblueprint hactor hcompleted).trans h

/-- Events that leave the loop going hand nobody over. -/
theorem Plays.of_going {events : List (ActorEvent String String Int)} (hr : r.actor.Consistent)
    (hblueprint : r'.blueprint = r.blueprint) (hactor : r'.actor = run r.blueprint r.actor events)
    (hcompleted : r'.completed = r.completed) (hcalm : .abort ∉ events)
    (hgoing : r'.actor.phase.isExited = false) : Plays r r' events := by
  refine ⟨hblueprint, hactor, ?_, hcalm⟩
  rw [handovers_eq hr, ← hactor, hgoing, hcompleted]
  simp

/-- After events of a loop that had not ended, the hand-over is counted. -/
theorem Plays.settle {events : List (ActorEvent String String Int)} (hr : r.actor.Consistent)
    (hbefore : r.actor.phase.isExited = false) (hblueprint : r'.blueprint = r.blueprint)
    (hactor : r'.actor = run r.blueprint r.actor events) (hcompleted : r'.completed = r.completed)
    (hcalm : .abort ∉ events) : Plays r r'.settle events := by
  have hcount : handovers r.blueprint r.actor events =
      if r'.actor.phase.isExited = true then 1 else 0 := by
    rw [handovers_eq hr, ← hactor, hbefore]
    simp
  have hgoing {p : Phase String Int String} (hphase : r'.actor.phase = p)
      (hp : p.isExited = false) (agenda : Agenda Unit) :
      Plays r { r' with agenda := agenda } events :=
    .of_going hr hblueprint hactor hcompleted hcalm (by rwa [← hphase] at hp)
  unfold LoopRehearsal.settle
  split
  · rename_i hphase
    exact hgoing hphase rfl _
  · rename_i hphase
    split <;> exact hgoing hphase rfl _
  · rename_i hphase
    exact ⟨hblueprint, hactor, by simp [hcount, hphase, hcompleted, Phase.isExited], hcalm⟩
  · refine .of_going hr hblueprint hactor hcompleted hcalm ?_
    cases hphase : r'.actor.phase <;> simp_all [Phase.isExited]

/-- To rouse the loop is no event of the actor. -/
theorem plays_rouse (r : LoopRehearsal) : Plays r r.rouse [] := by
  unfold rouse
  split <;> exact .refl rfl rfl rfl

/-- The action in flight returns. -/
theorem plays_finish (hr : r.actor.Consistent) (hgoing : r.actor.phase.isExited = false)
    (result : ActionResult String Int) : Plays r (r.finish result) [.finish false result] :=
  .settle hr hgoing rfl rfl rfl (by simp)

/-- The action in flight goes on after its delay. -/
theorem plays_afterDelay (hr : r.actor.Consistent) {t : Transition String String}
    (hacting : r.actor.phase = .acting t) (b : Behaviour String) (stopped : Bool) :
    ∃ events, Plays r (r.afterDelay b stopped) events := by
  obtain ⟨r₁, events, hr₁, hacting₁, hplays⟩ : ∃ r₁ events,
      r₁ = (if b.acknowledges then { r with actor := r.actor.acknowledge } else r) ∧
        r₁.actor.phase = .acting t ∧ Plays r r₁ events := by
    cases hacknowledges : b.acknowledges with
    | true =>
        have hstep : r.actor.acknowledge = run r.blueprint r.actor [.acknowledge] := by
          simp [run, step, hacting]
        refine ⟨_, [.acknowledge], rfl, hacting, .of_going hr rfl hstep rfl (by simp) ?_⟩
        rw [if_pos rfl]
        simp [acknowledge, hacting, Phase.isExited]
    | false => exact ⟨_, [], rfl, hacting, .refl rfl rfl rfl⟩
  have hconsistent₁ : r₁.actor.Consistent := hplays.actor ▸ hr.run events
  simp only [afterDelay, ← hr₁]
  split
  · exact ⟨_, hplays.trans ((plays_rouse _).congr rfl rfl rfl)⟩
  · exact ⟨_, hplays.trans (plays_finish hconsistent₁ (by simp [hacting₁, Phase.isExited]) _)⟩

/-- The action of a transition starts. -/
theorem plays_perform (hr : r.actor.Consistent) {t : Transition String String}
    (hacting : r.actor.phase = .acting t) : ∃ events, Plays r (r.perform t) events := by
  have hafter (script : Script (Behaviour String)) (ran : List Execution)
      (b : Behaviour String) :
      ∃ events, Plays r ({ r with script := script, ran := ran }.afterDelay b false) events := by
    obtain ⟨events, hplays⟩ :=
      plays_afterDelay (r := { r with script := script, ran := ran }) hr hacting b false
    exact ⟨events, hplays.congr rfl rfl rfl⟩
  simp only [perform]
  split
  · exact hafter _ _ _
  · exact ⟨_, .refl rfl rfl rfl⟩

/-- The loop begins a pass, or ends. -/
theorem plays_begin (hr : r.actor.Consistent) (hready : r.actor.phase = .ready) :
    ∃ events, Plays r r.begin events := by
  have hgoing : r.actor.phase.isExited = false := by simp [hready, Phase.isExited]
  have hstep : r.actor.begin r.blueprint = run r.blueprint r.actor [.begin] := rfl
  simp only [begin]
  split
  · rename_i t hacting
    have hbegan : Plays r { r with actor := r.actor.begin r.blueprint } [.begin] :=
      .of_going hr rfl hstep rfl (by simp) (by simp [hacting, Phase.isExited])
    obtain ⟨events, hafter⟩ := plays_perform (r := { r with actor := r.actor.begin r.blueprint })
      (hstep ▸ hr.run [.begin]) hacting
    exact ⟨_, hbegan.trans hafter⟩
  · exact ⟨_, .settle hr hgoing rfl hstep rfl (by simp)⟩

/-- The action in flight goes on, if it can. -/
theorem plays_proceed (hr : r.actor.Consistent) {t : Transition String String}
    (hacting : r.actor.phase = .acting t) : ∃ events, Plays r r.proceed events := by
  unfold proceed
  split
  · exact ⟨_, .refl rfl rfl rfl⟩
  · split
    · exact plays_afterDelay hr hacting _ _
    · exact ⟨_, .refl rfl rfl rfl⟩
    · split
      · exact ⟨_, plays_finish hr (by simp [hacting, Phase.isExited]) _⟩
      · exact ⟨_, .refl rfl rfl rfl⟩

/-- A turn of the loop is a run of its actor. -/
theorem plays_turn (hr : r.actor.Consistent) : ∃ events, Plays r r.turn events := by
  unfold turn
  split
  · rename_i hready
    exact plays_begin hr hready
  · rename_i t hacting
    exact plays_proceed hr hacting
  · rename_i hpausing
    exact ⟨[.elapsed], .settle hr (by simp [hpausing, Phase.isExited]) rfl rfl rfl (by simp)⟩
  · rename_i hparked
    exact ⟨[.resume], .settle hr (by simp [hparked, Phase.isExited]) rfl rfl rfl (by simp)⟩
  · exact ⟨_, .refl rfl rfl rfl⟩

/-- A play is a run of the actor. -/
theorem plays_play (due : Nat → Bool) (turns : Nat) (hr : r.actor.Consistent) :
    ∃ events, Plays r (Stage.play due turns r) events := by
  induction turns generalizing r with
  | zero => exact ⟨_, .refl rfl rfl rfl⟩
  | succ turns ih =>
      rw [Stage.play]
      split
      · rename_i a _
        obtain ⟨events, hturn⟩ := plays_turn (r := { r with agenda := a }) hr
        have hplays : Plays r { r with agenda := a }.turn events := hturn.congr rfl rfl rfl
        obtain ⟨later, hrest⟩ := ih (hplays.actor ▸ hr.run events)
        exact ⟨_, hplays.trans hrest⟩
      · split
        · rename_i a _
          obtain ⟨events, hrest⟩ := ih (r := { r with agenda := a }) hr
          exact ⟨_, hrest.congr rfl rfl rfl⟩
        · exact ⟨_, .refl rfl rfl rfl⟩

/-- A pause is a run of the actor. -/
theorem plays_pause (ms : Nat) (hr : r.actor.Consistent) :
    ∃ events, Plays r (Stage.pause r ms) events := by
  have hagenda (r' : LoopRehearsal) (a : Agenda Unit) : Plays r' { r' with agenda := a } [] :=
    .refl rfl rfl rfl
  simp only [Stage.pause]
  split
  · exact ⟨_, hagenda r _⟩
  · split
    · obtain ⟨events, hplay⟩ := plays_play _ _ hr
      exact ⟨_, hplay.trans (hagenda _ _)⟩
    · simp only [Stage.runBefore]
      split
      · exact ⟨_, hagenda r _⟩
      · obtain ⟨events, hplay⟩ := plays_play _ _ hr
        exact ⟨_, hplay.trans ((hagenda _ _).trans (hagenda _ _))⟩

/-! ## The clock -/

section Clock

variable (r : LoopRehearsal)

/-- To wake somebody takes no time. -/
theorem now_wake (a : Agenda Unit) : (a.wake ()).now = a.now := by
  unfold Agenda.wake
  split <;> rfl

/-- Nor does it take time to see how the loop goes on. -/
theorem now_settle : r.settle.agenda.now = r.agenda.now := by
  unfold settle
  split
  · rfl
  · split <;> rfl
  · rfl
  · rfl

/-- Nor does it to rouse the loop. -/
theorem now_rouse : r.rouse.agenda.now = r.agenda.now := by
  unfold rouse
  split
  · exact now_wake _
  · rfl

/-- An action returns at once when it has ended. -/
theorem now_finish (result : ActionResult String Int) :
    (r.finish result).agenda.now = r.agenda.now :=
  now_settle _

/-- What follows a delay begins at its end. -/
theorem now_afterDelay (b : Behaviour String) (stopped : Bool) :
    (r.afterDelay b stopped).agenda.now = r.agenda.now := by
  simp only [afterDelay]
  split
  · rw [now_rouse]
    split <;> rfl
  · rw [now_finish]
    split <;> rfl

/-- An action is begun at once. -/
theorem now_perform (t : Transition String String) :
    (r.perform t).agenda.now = r.agenda.now := by
  simp only [perform]
  split
  · rw [now_afterDelay]
  · rfl

/-- A turn takes no time. -/
theorem now_turn : r.turn.agenda.now = r.agenda.now := by
  unfold turn
  split
  · simp only [begin]
    split
    · rw [now_perform]
    · rw [now_settle]
  · unfold proceed
    split
    · rfl
    · split
      · rw [now_afterDelay]
      · rfl
      · split
        · rw [now_finish]
        · rfl
  · rw [now_settle]
  · rw [now_settle]
  · rfl

end Clock

/-! ## Stops -/

/-- What is played in the pauses of a wait, one pause after the other. -/
theorem exists_plays_pauses (ms : Nat) (r : LoopRehearsal) (hr : r.actor.Consistent) :
    ∃ during : Nat → List (ActorEvent String String Int), (∀ n, .abort ∉ during n) ∧
      during 0 = [] ∧ ∀ n, Plays r ((fun s => Stage.pause s ms)^[n] r)
        ((List.range (n + 1)).flatMap during) := by
  have hconsistent : ∀ n, ((fun s => Stage.pause s ms)^[n] r).actor.Consistent := by
    intro n
    induction n with
    | zero => exact hr
    | succ n ih =>
        obtain ⟨events, hplays⟩ := plays_pause ms ih
        rw [Function.iterate_succ_apply', hplays.actor]
        exact ih.run events
  choose played hplayed using fun n => plays_pause ms (hconsistent n)
  let during : Nat → List (ActorEvent String String Int) := fun n => n.casesOn [] played
  refine ⟨during, fun n => ?_, rfl, fun n => ?_⟩
  · cases n with
    | zero => exact List.not_mem_nil
    | succ n => exact (hplayed n).calm
  · induction n with
    | zero => exact .refl rfl rfl rfl
    | succ n ih =>
        rw [List.range_succ, List.flatMap_append, Function.iterate_succ_apply']
        simpa [during] using ih.trans (hplayed n)

/-- To ask for a stop hands nobody over. -/
theorem handovers_requestStop (b : Blueprint String String) (a : Actor String String Int String) :
    handovers b a [.requestStop] = 0 := by
  cases h : a.stopRequested <;> simp [handovers, handsOver, step, requestStop, h]

/-- A rehearsed stop of a loop is a request, and the pauses of a wait. -/
theorem stop_of_awaited (r : LoopRehearsal) (h : r.actor.stopRequested = false)
    (hheld : r.actor.held = true) :
    ∃ first : LoopRehearsal, Plays { r with actor := r.actor.requestStop.1 } first [] ∧
      first.agenda.now = r.agenda.now ∧
      let after (n : Nat) := (fun s : LoopRehearsal => Stage.pause s r.stopRetry.pauseMs)^[n] first
      let waited := r.stopRetry.wait fun p => (after (p - 1)).actor.phase.isFinished
      let last := after (waited.polls - 1)
      r.stop = (if waited.held then last else { last with actor := last.actor.abort },
        last.agenda.now - r.agenda.now) := by
  refine ⟨rouse { r with
    actor := r.actor.requestStop.1, performance := r.performance.map Performance.stop }, ?_, ?_, ?_⟩
  · exact (plays_rouse _).congr rfl rfl rfl
  · rw [now_rouse]
  · have hawaits : r.actor.requestStop.2 = true := by simp [requestStop, h, hheld]
    intro after waited last
    have hpoll : Stage.poll r.stopRetry (fun r : LoopRehearsal => r.actor.phase.isFinished)
        (after 0) = (last, waited.held) :=
      Stage.poll_eq r.stopRetry (fun r : LoopRehearsal => r.actor.phase.isFinished) (after 0)
    simp only [stop, hawaits, Bool.not_true, Bool.false_eq_true, if_false]
    rw [show rouse _ = after 0 from rfl, hpoll]
    cases waited.held <;> rfl

/-- Nor does an abort: a loop that was cut off has not come to its end. -/
theorem handovers_abort (b : Blueprint String String) (a : Actor String String Int String) :
    handovers b a [.abort] = 0 := by
  cases h : a.stopRequested <;> cases hphase : a.phase <;>
    simp [handovers, handsOver, step, abort, h, hphase, Phase.isFinished, Phase.isExited]

/-- Neither the request of a stop nor its end hands anybody over. -/
theorem handovers_stopEvents (b : Blueprint String String) (a : Actor String String Int String)
    (during : Nat → List (ActorEvent String String Int)) (waited : Waited) :
    handovers b a (stopEvents during waited) =
      handovers b a.requestStop.1 ((List.range waited.polls).flatMap during) := by
  rw [stopEvents, List.cons_append, ← List.singleton_append, handovers_append,
    handovers_requestStop, Nat.zero_add, handovers_append]
  cases waited.held with
  | true => rfl
  | false => exact congrArg _ (handovers_abort b _)

/-- A rehearsed stop of a loop is a stop of its actor. -/
theorem stop_eq_of_held (r : LoopRehearsal) (h : r.actor.stopRequested = false)
    (hheld : r.actor.held = true) :
    ∃ during : Nat → List (ActorEvent String String Int), (∀ n, .abort ∉ during n) ∧
      let (a, waited) := r.actor.stop r.blueprint r.stopRetry during
      r.stop.1.actor = a ∧ r.stop.2 = waited.elapsedMs ∧
        r.stop.1.completed =
          r.completed + handovers r.blueprint r.actor (stopEvents during waited) := by
  obtain ⟨first, hfirst, hnow, hstop⟩ := stop_of_awaited r h hheld
  have hconsistent : first.actor.Consistent :=
    hfirst.actor ▸ (Consistent.requestStop h).consistent
  obtain ⟨during, hcalm, hzero, hplays⟩ :=
    exists_plays_pauses r.stopRetry.pauseMs first hconsistent
  replace hplays := fun n => hfirst.trans (hplays n)
  simp only [List.nil_append] at hplays
  -- What the polls find is what the same events make of the actor.
  have hfound : (fun p => ((fun s : LoopRehearsal => Stage.pause s
      r.stopRetry.pauseMs)^[p - 1] first).actor.phase.isFinished) = fun p =>
      (run r.blueprint r.actor.requestStop.1 ((List.range p).flatMap during)).phase.isFinished := by
    funext p
    cases p with
    | zero => simp [hfirst.actor]
    | succ n => rw [Nat.add_sub_cancel, (hplays n).actor]
  refine ⟨during, hcalm, ?_⟩
  rw [hstop, hfound, stop_of_held _ _ _ h hheld]
  dsimp only
  rw [handovers_stopEvents, RetrySpec.elapsedMs_wait]
  have hpolls := r.stopRetry.polls_wait_pos fun p =>
    (run r.blueprint r.actor.requestStop.1 ((List.range p).flatMap during)).phase.isFinished
  generalize r.stopRetry.wait _ = waited at hpolls ⊢
  have hlast := hplays (waited.polls - 1)
  rw [Nat.sub_add_cancel hpolls] at hlast
  refine ⟨?_, ?_, ?_⟩
  · cases waited.held with
    | true => exact hlast.actor
    | false => exact congrArg abort hlast.actor
  · have hclock := Stage.now_iterate_pause (fun _ _ => rfl) (fun r _ => now_turn r) first
      r.stopRetry.pauseMs (waited.polls - 1)
    rw [show Stage.agenda first = first.agenda from rfl, hnow] at hclock
    exact Nat.sub_eq_of_eq_add' hclock
  · cases waited.held with
    | true => exact hlast.completed
    | false => exact hlast.completed

/-- A rehearsed stop is a stop of its actor, with the events that are played between the polls.  It
takes as much time as the wait lasts, and counts the hand-over of the actor. -/
theorem stop_eq (r : LoopRehearsal) :
    ∃ during : Nat → List (ActorEvent String String Int), (∀ n, .abort ∉ during n) ∧
      let (a, waited) := r.actor.stop r.blueprint r.stopRetry during
      r.stop.1.actor = a ∧ r.stop.2 = waited.elapsedMs ∧
        r.stop.1.completed =
          r.completed + handovers r.blueprint r.actor (stopEvents during waited) := by
  cases h : r.actor.stopRequested with
  | true =>
      refine ⟨fun _ => [], by simp, ?_⟩
      rw [stop_of_requested _ _ _ h]
      simp [stop, requestStop, h, stopEvents, handovers_requestStop]
  | false =>
      cases hheld : r.actor.held with
      | false =>
          refine ⟨fun _ => [], by simp, ?_⟩
          rw [stop_of_not_held _ _ _ h hheld]
          simp [stop, requestStop, h, hheld, stopEvents, handovers_requestStop]
      | true => exact stop_eq_of_held r h hheld

end LoopRehearsal
end Orchestration
