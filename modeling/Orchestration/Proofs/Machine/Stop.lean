import Orchestration.LocalService.Machine
import Orchestration.Proofs.Machine.Run
import Orchestration.Proofs.Machine.Wait

/-!
# Stopping an actor

A stop tells the machine that no further pass begins, rouses the loop, and waits until the loop has
ended.  The wait is bounded: when it was in vain, the loop is cut off where it is.

Between two polls anything may happen to the actor.  A stop can find the loop before its start, with
an action in flight, with a state change that has not been handled yet, in the pause after a failed
pass, blocked, or ended; from each of these places a few turns lead to the end, and none of them
begins a pass.

Main definitions:

- `Actor.stop`: a whole stop.
- `Actor.commits`, `Actor.handovers`: what a run commits, and how often the loop comes to its end.
- `Actor.Concludes`: the turns that the loop of a stopped actor has left are all taken in a run.

Main results:

- `Actor.Stopping.run`, `Actor.Stopping.passes_eq_zero`: no pass begins after a stop.
- `Actor.Stopping.commits_run`: the only state that is committed afterwards is that of the action
  in flight.
- `Actor.Stopping.exited_iff`: the loop comes to its end exactly when it takes its last turns.
- `Actor.stop_is_safe`: all that a stop guarantees, at any point of any run.
-/

namespace Orchestration

/-- The event is the return of the action in flight. -/
def ActorEvent.isReturn {σ υ δ : Type} : ActorEvent σ υ δ → Bool
  | .finish _ _ => true
  | _ => false

/-- The loop has come to its end by itself. -/
def Phase.isExited {σ δ κ : Type} : Phase σ δ κ → Bool
  | .exited => true
  | _ => false

/-- There is a single phase in which the loop has come to its end. -/
theorem Phase.isExited_iff {σ δ κ : Type} {p : Phase σ δ κ} : p.isExited = true ↔ p = .exited := by
  cases p <;> simp [isExited]

namespace Actor

variable {σ υ δ κ : Type} [DecidableEq σ]

/-- A whole stop: the request, and the wait for the loop to end.  `during n` is what happens to the
actor before the poll of number `n + 1`.  Whoever has no loop to wait for is done at once. -/
def stop (b : Blueprint σ κ) (spec : RetrySpec) (during : Nat → List (ActorEvent σ υ δ))
    (a : Actor σ υ δ κ) : Actor σ υ δ κ × Waited :=
  match a.requestStop with
  | (a, false) => (a, ⟨true, 0, 0⟩)
  | (a, true) =>
    let found := fun poll => run b a ((List.range poll).flatMap during)
    let waited := spec.wait fun poll => (found poll).phase.isFinished
    (if waited.held then found waited.polls else (found waited.polls).abort, waited)

/-- Everything that happens to an actor from a stop on, until the stop returns. -/
def stopEvents (during : Nat → List (ActorEvent σ υ δ)) (waited : Waited) :
    List (ActorEvent σ υ δ) :=
  .requestStop :: (List.range waited.polls).flatMap during ++
    if waited.held then [] else [.abort]

/-- The snapshot that an event commits. -/
def commit? (a : Actor σ υ δ κ) : ActorEvent σ υ δ → Option (Snapshot σ δ)
  | .finish _ r => a.moved? r
  | _ => none

/-- The snapshots that are committed in a run, in their order. -/
def commits (b : Blueprint σ κ) (a : Actor σ υ δ κ) : List (ActorEvent σ υ δ) → List (Snapshot σ δ)
  | [] => []
  | e :: rest => (a.commit? e).toList ++ commits b (a.step b e) rest

/-- Whether the loop comes to its end with an event.  It hands its actor over then. -/
def handsOver (b : Blueprint σ κ) (a : Actor σ υ δ κ) (e : ActorEvent σ υ δ) : Bool :=
  (a.step b e).phase.isExited && !a.phase.isExited

/-- How often an actor is handed over in a run. -/
def handovers (b : Blueprint σ κ) (a : Actor σ υ δ κ) : List (ActorEvent σ υ δ) → Nat
  | [] => 0
  | e :: rest => (if a.handsOver b e then 1 else 0) + handovers b (a.step b e) rest

/-- The turns that a loop has left after a stop, unless it has an action in flight. -/
def lastTurns (b : Blueprint σ κ) : Phase σ δ κ → List (ActorEvent σ υ δ)
  | .ready => [.begin]
  | .signalling next => if b.isTerminal next.state then [.handled] else [.handled, .begin]
  | .backingOff => [.elapsed, .begin]
  | .parked => [.resume, .begin]
  | .idle | .acting _ | .exited | .aborted => []

/-- The loop of an actor that was stopped takes all its last turns in a run.  An action in flight
returns first, and then the turns are those of the phase that it leaves the loop in. -/
def Concludes (b : Blueprint σ κ) (a : Actor σ υ δ κ) (events : List (ActorEvent σ υ δ)) : Prop :=
  match a.phase with
  | .acting _ => ∃ before signals r after, events = before ++ .finish signals r :: after ∧
      (∀ e ∈ before, e.isReturn = false) ∧
      (lastTurns b (a.finish b signals r).phase).Sublist after
  | phase => (lastTurns b phase).Sublist events

/-! ## Runs -/

/-- A run begins with its first event. -/
theorem run_cons (b : Blueprint σ κ) (a : Actor σ υ δ κ) (e : ActorEvent σ υ δ)
    (rest : List (ActorEvent σ υ δ)) : run b a (e :: rest) = run b (a.step b e) rest :=
  rfl

/-- A run goes on where its first part has ended. -/
theorem run_append (b : Blueprint σ κ) (a : Actor σ υ δ κ)
    (events later : List (ActorEvent σ υ δ)) :
    run b a (events ++ later) = run b (run b a events) later :=
  List.foldl_append

/-- What holds of the phase and the flags of an actor holds in every run. -/
theorem Consistent.run {b : Blueprint σ κ} {a : Actor σ υ δ κ} (h : a.Consistent)
    (events : List (ActorEvent σ υ δ)) : (Actor.run b a events).Consistent := by
  induction events generalizing a with
  | nil => exact h
  | cons e rest ih => exact ih (h.step b e)

/-- A loop that has ended does not begin again, whatever happens. -/
theorem phase_run_of_exited {b : Blueprint σ κ} {a : Actor σ υ δ κ} (h : a.Consistent)
    (hphase : a.phase = .exited) (events : List (ActorEvent σ υ δ)) :
    (run b a events).phase = .exited := by
  induction events generalizing a with
  | nil => exact hphase
  | cons e rest ih => exact ih (h.step b e) (phase_step_of_exited h hphase b e)

/-- A loop that nobody cuts off is not cut off. -/
theorem phase_run_ne_aborted (b : Blueprint σ κ) {a : Actor σ υ δ κ} (h : a.phase ≠ .aborted)
    {events : List (ActorEvent σ υ δ)} (habort : .abort ∉ events) :
    (run b a events).phase ≠ .aborted := by
  induction events generalizing a with
  | nil => exact h
  | cons e rest ih =>
      rw [List.mem_cons, not_or] at habort
      exact ih (phase_step_ne_aborted b h fun he => habort.1 he.symm) habort.2

/-- Only an actor that was asked to stop has its loop cut off. -/
theorem Reachable.requested_of_aborted {b : Blueprint σ κ} {a : Actor σ υ δ κ}
    (h : Reachable b a) : a.phase = .aborted → a.stopRequested = true := by
  refine h.induct (motive := fun a => a.phase = .aborted → a.stopRequested = true)
    (fun _ h => nomatch h) fun a e ha haborted => ?_
  cases hstop : e.isStop with
  | true =>
      obtain rfl : e = .requestStop := by cases e <;> simp_all [ActorEvent.isStop]
      simp only [Actor.step, requestStop]
      split
      · assumption
      · rfl
  | false =>
      rw [stopRequested_step b hstop]
      by_cases hcut : e = .abort
      · subst hcut
        cases hrequested : a.stopRequested with
        | true => rfl
        | false =>
            simp only [Actor.step, hrequested, Bool.false_eq_true, if_false] at haborted
            rw [← hrequested]
            exact ha haborted
      · exact ha (by_contra fun hne => phase_step_ne_aborted b hne hcut haborted)

/-- Only a loop that was started is known. -/
theorem Reachable.started_of_held {b : Blueprint σ κ} {a : Actor σ υ δ κ} (h : Reachable b a) :
    a.held = true → a.phase ≠ .idle := by
  refine h.induct (motive := fun a => a.held = true → a.phase ≠ .idle) (fun _ h => nomatch h)
    fun a e ha hheld => ?_
  cases hbefore : a.held with
  | true => exact started_step b (ha hbefore) e
  | false =>
      have hmove := a.move_step b e
      generalize a.step b e = a' at hmove hheld ⊢
      cases hmove <;> simp_all [acknowledge]

/-- A loop comes to its end once at most, and does so in a run exactly when it has ended after it
and not before it. -/
theorem handovers_eq {b : Blueprint σ κ} {a : Actor σ υ δ κ} (h : a.Consistent)
    (events : List (ActorEvent σ υ δ)) :
    handovers b a events =
      if (run b a events).phase.isExited = true ∧ a.phase.isExited = false then 1 else 0 := by
  induction events generalizing a with
  | nil => cases hphase : a.phase.isExited <;> simp [handovers, run, hphase]
  | cons e rest ih =>
      have hstep := h.step b e
      rw [handovers, ih hstep, run_cons]
      cases hbefore : a.phase.isExited with
      | true =>
          have hnow := phase_step_of_exited h (Phase.isExited_iff.1 hbefore) b e
          simp [handsOver, hbefore, Phase.isExited_iff.2 hnow]
      | false =>
          cases hnow : (a.step b e).phase.isExited with
          | false => simp [handsOver, hnow]
          | true =>
              have hlater := phase_run_of_exited (b := b) hstep (Phase.isExited_iff.1 hnow) rest
              simp [handsOver, hbefore, hnow, Phase.isExited_iff.2 hlater]

/-! ## Actors that were asked to stop -/

/-- An actor that was asked to stop: its loop is on its own, and is not left blocked. -/
structure Stopping (a : Actor σ υ δ κ) : Prop where
  consistent : a.Consistent
  requested : a.stopRequested = true
  released : a.held = false
  roused : a.phase = .parked → a.permit = true

omit [DecidableEq σ] in
/-- An actor that is asked to stop is stopping from then on. -/
theorem Consistent.requestStop {a : Actor σ υ δ κ} (h : a.stopRequested = false) :
    a.requestStop.1.Stopping := by
  simp only [Actor.requestStop, h, Bool.false_eq_true, if_false]
  exact ⟨⟨rfl, fun _ => .inr rfl⟩, rfl, rfl, fun _ => rfl⟩

section Stopping

variable {b : Blueprint σ κ} {a : Actor σ υ δ κ}

omit [DecidableEq σ] in
/-- Its machine begins no further pass. -/
theorem Stopping.stopped (h : a.Stopping) : a.machine.slot.stopped = true := by
  rw [h.consistent.stopped, h.requested]

omit [DecidableEq σ] in
/-- A stopped machine does not let its loop park. -/
theorem phase_park_of_stopped (h : a.machine.slot.stopped = true) : a.park.phase = .ready := by
  simp [park, h]

omit [DecidableEq σ] in
/-- The loop of a stopped machine ends or is about to begin a pass. -/
theorem phase_continueIn_of_stopped (b : Blueprint σ κ) (h : a.machine.slot.stopped = true)
    (s : σ) : (a.continueIn b s).phase = if b.isTerminal s then .exited else .ready := by
  unfold continueIn
  split
  · rfl
  · split
    · exact phase_park_of_stopped h
    · rfl

/-- An actor that was asked to stop is left alone by everybody but its own loop. -/
theorem Stopping.step (h : a.Stopping) (b : Blueprint σ κ) (e : ActorEvent σ υ δ) :
    (a.step b e).Stopping := by
  have hconsistent := h.consistent.step b e
  have hmove := a.move_step b e
  generalize a.step b e = a' at hmove hconsistent ⊢
  -- Whatever lets the loop go on does not leave it parked.
  have hgoesOn (m : Machine σ υ δ κ) (hm : m.slot.stopped = true) (s : σ) :
      (continueIn b { a with machine := m } s).phase ≠ .parked := by
    rw [phase_continueIn_of_stopped (a := { a with machine := m }) b hm]
    split <;> simp
  have hparks (permit : Bool) : (park { a with permit := permit }).phase ≠ .parked := by
    rw [phase_park_of_stopped (a := { a with permit := permit }) h.stopped]
    simp
  cases hmove with
  | ignored => exact h
  | started held live => simp [h.requested] at live
  | staged u free => exact ⟨hconsistent, h.requested, h.released, fun _ => rfl⟩
  | stopped live => simp [h.requested] at live
  | acknowledged acting => exact ⟨hconsistent, h.requested, h.released, h.roused⟩
  | stayed acting signals r pass =>
      refine ⟨hconsistent, by simp [h.requested], by simp [h.released], fun hparked => ?_⟩
      exact absurd hparked (hgoesOn _ (by simpa using h.stopped) _)
  | moved acting r pass =>
      refine ⟨hconsistent, by simp [h.requested], by simp [h.released], fun hparked => ?_⟩
      exact absurd hparked (hgoesOn _ (by simpa using h.stopped) _)
  | wentOn signalling =>
      refine ⟨hconsistent, by simp [h.requested], by simp [h.released], fun hparked => ?_⟩
      exact absurd hparked (hgoesOn a.machine h.stopped _)
  | parked pausing waits =>
      refine ⟨hconsistent, by simp [h.requested], by simp [h.released], fun hparked => ?_⟩
      exact absurd hparked (hparks a.permit)
  | lookedAgain blocked permitted =>
      refine ⟨hconsistent, by simp [h.requested], by simp [h.released], fun hparked => ?_⟩
      exact absurd hparked (hparks false)
  | _ => exact ⟨hconsistent, h.requested, h.released, nofun⟩

/-- Nobody takes a stop back. -/
theorem Stopping.run (h : a.Stopping) (events : List (ActorEvent σ υ δ)) :
    (Actor.run b a events).Stopping := by
  induction events generalizing a with
  | nil => exact h
  | cons e rest ih => exact ih (h.step b e)

omit [DecidableEq σ] in
/-- A loop is not started for an actor that was asked to stop. -/
theorem Stopping.start_eq (h : a.Stopping) : a.start = a := by
  simp [start, h.requested]

omit [DecidableEq σ] in
/-- No loop is known of an actor that was asked to stop. -/
theorem Stopping.isRunning_eq (h : a.Stopping) : a.isRunning = false := by
  simp [isRunning, h.released]

/-! ## What still happens after a stop -/

omit [DecidableEq σ] in
/-- No pass begins. -/
theorem Stopping.beginsPass_eq (h : a.Stopping) (e : ActorEvent σ υ δ) :
    a.beginsPass e = false := by
  cases e with
  | begin => cases hphase : a.phase <;> simp [beginsPass, hphase, h.stopped]
  | _ => rfl

/-- No pass begins after a stop. -/
theorem Stopping.passes_eq_zero (h : a.Stopping) (events : List (ActorEvent σ υ δ)) :
    passes b a events = 0 := by
  induction events generalizing a with
  | nil => rfl
  | cons e rest ih => simp [passes, h.beginsPass_eq e, ih (h.step b e)]

/-- No action goes in flight. -/
theorem Stopping.acting_of_step (h : a.Stopping) {e : ActorEvent σ υ δ} {t : Transition σ κ}
    (hacting : (a.step b e).phase = .acting t) : a.phase = .acting t := by
  have hmove := a.move_step b e
  cases e with
  | begin =>
      generalize a.step b .begin = a' at hmove hacting
      cases hmove with
      | ignored => exact hacting
      | began ready start => simp [Machine.begin, h.stopped] at start
      | _ => cases hacting
  | _ => exact Actor.acting_of_step (by simp) hacting

/-- An action that returns is not in flight any more. -/
theorem not_acting_finish (b : Blueprint σ κ) (a : Actor σ υ δ κ) (signals : Bool)
    (r : ActionResult σ δ) (t : Transition σ κ) :
    (a.step b (.finish signals r)).phase ≠ .acting t := by
  intro hafter
  have hacting : a.phase = .acting t := Actor.acting_of_step (by simp) hafter
  simp only [Actor.step, finish, hacting] at hafter
  split at hafter
  · cases hafter
  · exact phase_continueIn_ne b _ _ (by simp) (by simp) (by simp) hafter
  · split at hafter
    · cases hafter
    · exact phase_continueIn_ne b _ _ (by simp) (by simp) (by simp) hafter

/-- Without an action in flight no state is committed. -/
theorem Stopping.commits_eq_nil (h : a.Stopping) (hacting : ∀ t, a.phase ≠ .acting t)
    (events : List (ActorEvent σ υ δ)) : commits b a events = [] := by
  induction events generalizing a with
  | nil => rfl
  | cons e rest ih =>
      have hnow : a.commit? e = none := by
        cases e with
        | finish signals r => cases hphase : a.phase <;> simp_all [commit?, moved?]
        | _ => rfl
      rw [commits, hnow, ih (h.step b e) fun t ht => hacting t (h.acting_of_step ht)]
      rfl

/-- The only state that is committed is one that the action in flight may lead to. -/
theorem Stopping.commits_run (h : a.Stopping) (events : List (ActorEvent σ υ δ)) :
    commits b a events = [] ∨ ∃ t next, a.phase = .acting t ∧ next.state ∈ t.targets ∧
      commits b a events = [next] := by
  induction events generalizing a with
  | nil => exact .inl rfl
  | cons e rest ih =>
      cases hnow : a.commit? e with
      | none =>
          rw [commits, hnow, Option.toList_none, List.nil_append]
          refine (ih (h.step b e)).imp_right ?_
          rintro ⟨t, next, hacting, hrest⟩
          exact ⟨t, next, h.acting_of_step hacting, hrest⟩
      | some next =>
          cases e with
          | finish signals r =>
              obtain ⟨t, hacting, htarget⟩ := acting_of_moved hnow
              have hrest := (h.step b (.finish signals r)).commits_eq_nil (b := b)
                (not_acting_finish b a signals r) rest
              exact .inr ⟨t, next, hacting, htarget, by simp [commits, hnow, hrest]⟩
          | _ => cases hnow

/-! ## The end of the loop -/

/-- The turn that a loop waits for leaves it with the turns behind it. -/
theorem Stopping.lastTurns_step (h : a.Stopping) (hacting : ∀ t, a.phase ≠ .acting t)
    {e : ActorEvent σ υ δ} {rest : List (ActorEvent σ υ δ)}
    (hturns : lastTurns b a.phase = e :: rest) :
    lastTurns b (a.step b e).phase = rest ∧ ∀ t, (a.step b e).phase ≠ .acting t := by
  refine ⟨?_, fun t ht => hacting t (h.acting_of_step ht)⟩
  cases hphase : a.phase with
  | ready =>
      rw [hphase] at hturns
      cases hturns
      simp [Actor.step, begin, hphase, Machine.begin, h.stopped, lastTurns]
  | signalling next =>
      have hgoesOn := phase_continueIn_of_stopped b h.stopped next.state
      cases hterminal : b.isTerminal next.state <;>
        simp [hphase, lastTurns, hterminal] at hturns <;>
        obtain ⟨rfl, rfl⟩ := hturns <;>
        simp [Actor.step, acknowledged, hphase, hgoesOn, hterminal, lastTurns]
  | backingOff =>
      rw [hphase] at hturns
      cases hturns
      have hpark := phase_park_of_stopped h.stopped
      cases hpaused : b.isPaused a.machine.current.state <;>
        simp [Actor.step, elapsed, hphase, hpaused, hpark, lastTurns]
  | parked =>
      rw [hphase] at hturns
      cases hturns
      have hresume : a.resume = park { a with permit := false } := by
        simp [resume, hphase, h.roused hphase]
      rw [Actor.step, hresume, phase_park_of_stopped (a := { a with permit := false }) h.stopped]
      rfl
  | _ => simp [hphase, lastTurns] at hturns

/-- Nothing else moves the loop, unless it is cut off. -/
theorem Stopping.phase_step_of_other (h : a.Stopping) (hacting : ∀ t, a.phase ≠ .acting t)
    {e : ActorEvent σ υ δ} (hother : (lastTurns b a.phase).head? ≠ some e) (habort : e ≠ .abort) :
    (a.step b e).phase = a.phase := by
  have hmove := a.move_step b e
  generalize a.step b e = a' at hmove ⊢
  cases hmove with
  | ignored => rfl
  | started held live => simp [h.requested] at live
  | staged u free => rfl
  | stopped live => rfl
  | cutOff stopping going => exact absurd rfl habort
  | acknowledged acting => rfl
  | ended ready start => simp [ready, lastTurns] at hother
  | refused ready start => simp [ready, lastTurns] at hother
  | began ready start => simp [ready, lastTurns] at hother
  | failed acting => exact absurd acting (hacting _)
  | stayed acting => exact absurd acting (hacting _)
  | signalled acting => exact absurd acting (hacting _)
  | moved acting => exact absurd acting (hacting _)
  | @wentOn next signalling =>
      cases hterminal : b.isTerminal next.state <;>
        simp [signalling, lastTurns, hterminal] at hother
  | parked pausing waits => simp [pausing, lastTurns] at hother
  | retried pausing waits => simp [pausing, lastTurns] at hother
  | lookedAgain blocked permitted => simp [blocked, lastTurns] at hother

/-- A loop without an action in flight comes to its end exactly when it takes its last turns. -/
theorem Stopping.exited_iff_of_not_acting (h : a.Stopping) (hacting : ∀ t, a.phase ≠ .acting t)
    (hstarted : a.phase ≠ .idle) (hwhole : a.phase ≠ .aborted) {events : List (ActorEvent σ υ δ)}
    (habort : .abort ∉ events) :
    (Actor.run b a events).phase = .exited ↔ (lastTurns b a.phase).Sublist events := by
  induction events generalizing a with
  | nil =>
      rw [List.sublist_nil]
      cases hphase : a.phase with
      | signalling next => cases hterminal : b.isTerminal next.state <;>
          simp [Actor.run, hphase, lastTurns, hterminal]
      | _ => simp_all [Actor.run, lastTurns]
  | cons e rest ih =>
      rw [List.mem_cons, not_or] at habort
      have he : e ≠ .abort := fun he => habort.1 he.symm
      have hnext := ih (h.step b e) (fun t ht => hacting t (h.acting_of_step ht))
        (started_step b hstarted e) (phase_step_ne_aborted b hwhole he) habort.2
      rw [run_cons, hnext]
      by_cases hhead : (lastTurns b a.phase).head? = some e
      · obtain ⟨turns, hturns⟩ := List.head?_eq_some_iff.1 hhead
        rw [(h.lastTurns_step hacting hturns).1, hturns, List.cons_sublist_cons]
      · rw [h.phase_step_of_other hacting hhead he]
        refine ⟨fun hrest => hrest.cons e, fun hall => ?_⟩
        rcases List.sublist_cons_iff.1 hall with hrest | ⟨turns, hturns, -⟩
        · exact hrest
        · exact absurd (by rw [hturns]; rfl) hhead

/-- While an action is in flight, nothing but its return moves the loop, unless it is cut off. -/
theorem Stopping.phase_step_of_acting (h : a.Stopping) {t : Transition σ κ}
    (hacting : a.phase = .acting t) {e : ActorEvent σ υ δ} (hreturn : e.isReturn = false)
    (habort : e ≠ .abort) : (a.step b e).phase = .acting t := by
  have hmove := a.move_step b e
  generalize a.step b e = a' at hmove ⊢
  cases hmove with
  | ignored => exact hacting
  | started held live => simp [h.requested] at live
  | staged u free => exact hacting
  | stopped live => exact hacting
  | cutOff stopping going => exact absurd rfl habort
  | acknowledged acting => exact hacting
  | failed acting => cases hreturn
  | stayed acting => cases hreturn
  | signalled acting => cases hreturn
  | moved acting => cases hreturn
  | _ => simp_all

/-- Where an action that returns leaves the loop of a stopped machine. -/
theorem Stopping.phase_finish (h : a.Stopping) {t : Transition σ κ} (hacting : a.phase = .acting t)
    (signals : Bool) (r : ActionResult σ δ) :
    (a.finish b signals r).phase =
      match (a.machine.finish t r).2 with
      | .failed _ => .backingOff
      | .stayed s => if b.isTerminal s then .exited else .ready
      | .moved next =>
        if signals then .signalling next
        else if b.isTerminal next.state then .exited else .ready := by
  have hgoesOn (s : σ) := phase_continueIn_of_stopped
    (a := { a with machine := (a.machine.finish t r).1 }) b (by simpa using h.stopped) s
  simp only [finish, hacting]
  cases hend : (a.machine.finish t r).2 with
  | failed error => rfl
  | stayed s => exact hgoesOn s
  | moved next =>
      cases signals with
      | true => rfl
      | false => exact hgoesOn next.state

/-- What happens while an action is in flight does not matter for where its return leaves the
loop. -/
theorem Stopping.phase_finish_step (h : a.Stopping) {t : Transition σ κ}
    (hacting : a.phase = .acting t) {e : ActorEvent σ υ δ} (hreturn : e.isReturn = false)
    (habort : e ≠ .abort) (signals : Bool) (r : ActionResult σ δ) :
    ((a.step b e).finish b signals r).phase = (a.finish b signals r).phase := by
  have hcurrent : (a.step b e).machine.current = a.machine.current :=
    current_step b a (by rintro signals r rfl; cases hreturn)
  rw [(h.step b e).phase_finish (h.phase_step_of_acting hacting hreturn habort),
    h.phase_finish hacting, Machine.finish_congr hcurrent]

/-- A loop with an action in flight comes to its end exactly when the action returns and the loop
takes the turns that are left then. -/
theorem Stopping.exited_iff_of_acting (h : a.Stopping) {t : Transition σ κ}
    (hacting : a.phase = .acting t) {events : List (ActorEvent σ υ δ)} (habort : .abort ∉ events) :
    (Actor.run b a events).phase = .exited ↔
      ∃ before signals r after, events = before ++ .finish signals r :: after ∧
        (∀ e ∈ before, e.isReturn = false) ∧
        (lastTurns b (a.finish b signals r).phase).Sublist after := by
  induction events generalizing a with
  | nil => simp [Actor.run, hacting]
  | cons e rest ih =>
      rw [List.mem_cons, not_or] at habort
      have he : e ≠ .abort := fun he => habort.1 he.symm
      rw [run_cons]
      cases hreturn : e.isReturn with
      | true =>
          obtain ⟨signals, r, rfl⟩ : ∃ signals r, e = .finish signals r := by
            cases e <;> simp_all [ActorEvent.isReturn]
          rw [(h.step b _).exited_iff_of_not_acting (not_acting_finish b a signals r)
            (started_step b (by simp [hacting]) _) (phase_step_ne_aborted b (by simp [hacting]) he)
            habort.2]
          constructor
          · exact fun hturns => ⟨[], signals, r, rest, rfl, by simp, hturns⟩
          · rintro ⟨before, signals', r', after, heq, hbefore, hturns⟩
            cases before with
            | nil =>
                cases heq
                exact hturns
            | cons e' before =>
                rw [List.cons_append, List.cons.injEq] at heq
                have hfirst := hbefore e' List.mem_cons_self
                rw [← heq.1] at hfirst
                cases hfirst
      | false =>
          rw [ih (h.step b e) (h.phase_step_of_acting hacting hreturn he) habort.2]
          simp only [h.phase_finish_step hacting hreturn he]
          constructor
          · rintro ⟨before, signals, r, after, rfl, hbefore, hturns⟩
            exact ⟨e :: before, signals, r, after, rfl, List.forall_mem_cons.2 ⟨hreturn, hbefore⟩,
              hturns⟩
          · rintro ⟨before, signals, r, after, heq, hbefore, hturns⟩
            cases before with
            | nil =>
                rw [List.nil_append, List.cons.injEq] at heq
                rw [heq.1] at hreturn
                cases hreturn
            | cons e' before =>
                rw [List.cons_append, List.cons.injEq] at heq
                exact ⟨before, signals, r, after, heq.2, (List.forall_mem_cons.1 hbefore).2, hturns⟩

/-- The loop of an actor that was asked to stop comes to its end exactly when it takes its last
turns, unless it was never started or is cut off. -/
theorem Stopping.exited_iff (h : a.Stopping) (hstarted : a.phase ≠ .idle)
    (hwhole : a.phase ≠ .aborted) {events : List (ActorEvent σ υ δ)} (habort : .abort ∉ events) :
    (Actor.run b a events).phase = .exited ↔ a.Concludes b events := by
  cases hphase : a.phase with
  | acting t =>
      rw [h.exited_iff_of_acting hphase habort]
      simp [Concludes, hphase]
  | _ =>
      rw [h.exited_iff_of_not_acting (by simp [hphase]) hstarted hwhole habort]
      simp [Concludes, hphase]

end Stopping

/-! ## Whole stops -/

section Stop

variable (b : Blueprint σ κ) (spec : RetrySpec) (during : Nat → List (ActorEvent σ υ δ))
variable {a : Actor σ υ δ κ}

/-- Whoever was asked to stop before is not stopped again. -/
theorem stop_of_requested (h : a.stopRequested = true) :
    a.stop b spec during = (a, ⟨true, 0, 0⟩) := by
  simp [stop, requestStop, h]

/-- Whoever has no loop is stopped at once. -/
theorem stop_of_not_held (h : a.stopRequested = false) (hheld : a.held = false) :
    a.stop b spec during = (a.requestStop.1, ⟨true, 0, 0⟩) := by
  simp [stop, requestStop, h, hheld]

/-- Whoever has a loop waits for its end, and cuts it off when the wait was in vain. -/
theorem stop_of_held (h : a.stopRequested = false) (hheld : a.held = true) :
    a.stop b spec during =
      let found := fun poll => run b a.requestStop.1 ((List.range poll).flatMap during)
      let waited := spec.wait fun poll => (found poll).phase.isFinished
      (if waited.held then found waited.polls else (found waited.polls).abort, waited) := by
  simp [stop, requestStop, h, hheld]

/-- An actor that was asked to stop may be cut off. -/
theorem step_abort_of_requested (h : a.stopRequested = true) : a.step b .abort = a.abort := by
  simp [step, h]

/-- A stop is a run of its own events. -/
theorem stop_eq_run : (a.stop b spec during).1 =
    run b a (stopEvents during (a.stop b spec during).2) := by
  cases h : a.stopRequested with
  | true =>
      rw [stop_of_requested b spec during h]
      simp [stopEvents, run, step, requestStop, h]
  | false =>
      cases hheld : a.held with
      | false =>
          rw [stop_of_not_held b spec during h hheld]
          simp [stopEvents, run, step]
      | true =>
          rw [stop_of_held b spec during h hheld]
          dsimp only
          generalize spec.wait _ = waited
          have hrequested := ((Consistent.requestStop h).run (b := b)
            ((List.range waited.polls).flatMap during)).requested
          rw [stopEvents, List.cons_append, run_cons, run_append]
          cases hwaited : waited.held with
          | true => rfl
          | false =>
              exact (step_abort_of_requested b hrequested).symm

variable {during}

/-- The loop of an actor that is stopped is through or cut off in the end.  Which of the two is
decided by whether it takes its last turns before the last poll that the wait allows. -/
theorem stop_ends_loop (ha : a.Consistent) (h : a.stopRequested = false)
    (hstarted : a.phase ≠ .idle) (hwhole : a.phase ≠ .aborted) (hduring : ∀ n, .abort ∉ during n) :
    ((a.stop b spec during).2.held = true ↔
      a.requestStop.1.Concludes b ((List.range spec.maxPolls).flatMap during)) ∧
    (a.stop b spec during).1.phase =
      if (a.stop b spec during).2.held then .exited else .aborted := by
  have hstopping := Consistent.requestStop h
  have hphase : a.requestStop.1.phase = a.phase := by simp [requestStop, h]
  have hheld : a.held = true := (ha.held hstarted).resolve_right (by simp [h])
  rw [stop_of_held b spec during h hheld]
  dsimp only
  have hcalm : ∀ p, .abort ∉ (List.range p).flatMap during := fun p hmem => by
    obtain ⟨n, -, hn⟩ := List.mem_flatMap.1 hmem
    exact hduring n hn
  -- Nobody cuts the loop off while it is waited for, so it is finished when it has exited.
  have hfinished : ∀ p, (run b a.requestStop.1 ((List.range p).flatMap during)).phase.isFinished =
      true ↔ (run b a.requestStop.1 ((List.range p).flatMap during)).phase = .exited := by
    intro p
    have hne := phase_run_ne_aborted b (hphase ▸ hwhole) (hcalm p)
    cases hp : (run b a.requestStop.1 ((List.range p).flatMap during)).phase <;>
      simp_all [Phase.isFinished]
  constructor
  · rw [RetrySpec.held_wait_iff, ← hstopping.exited_iff (hphase ▸ hstarted) (hphase ▸ hwhole)
      (hcalm _)]
    constructor
    · rintro ⟨p, -, hlast, hp⟩
      obtain ⟨k, hk⟩ := Nat.exists_eq_add_of_le hlast
      rw [hk, List.range_add, List.flatMap_append, run_append]
      exact phase_run_of_exited (hstopping.run _).consistent ((hfinished p).1 hp) _
    · exact fun hexited => ⟨_, spec.maxPolls_pos, Nat.le_refl _, (hfinished _).2 hexited⟩
  · cases hwaited : (spec.wait fun p =>
        (run b a.requestStop.1 ((List.range p).flatMap during)).phase.isFinished).held with
    | true => simpa using (hfinished _).1 (spec.holds_of_held _ hwaited)
    | false =>
        have hlast := spec.polls_of_not_held _ hwaited
        have hgoing : (run b a.requestStop.1
            ((List.range spec.maxPolls).flatMap during)).phase.isFinished = false := by
          by_contra hend
          rw [Bool.not_eq_false] at hend
          have hheld := (spec.held_wait_iff fun p => (run b a.requestStop.1
            ((List.range p).flatMap during)).phase.isFinished).2
            ⟨_, spec.maxPolls_pos, Nat.le_refl _, hend⟩
          rw [hwaited] at hheld
          cases hheld
        simp [hlast, abort, hgoing]

/-- A wait is over after the pauses that its settings allow. -/
theorem stop_bounded (a : Actor σ υ δ κ) :
    (a.stop b spec during).2.polls ≤ spec.maxAttempts.toNat + 1 ∧
    (a.stop b spec during).2.elapsedMs ≤ spec.maxAttempts.toNat * spec.pauseMs ∧
    ((a.stop b spec during).2.elapsedMs = 0 ∨
      (a.stop b spec during).2.elapsedMs < spec.maxDurationMs.toNat + spec.pauseMs) := by
  cases h : a.stopRequested with
  | true => simp [stop_of_requested b spec during h]
  | false =>
      cases hheld : a.held with
      | false => simp [stop_of_not_held b spec during h hheld]
      | true =>
          rw [stop_of_held b spec during h hheld]
          exact ⟨spec.polls_wait_le _, spec.elapsedMs_wait_le _, spec.elapsedMs_wait_lt _⟩

/-- After a stop, an actor is one that was asked to stop. -/
theorem stopping_stop (h : a.stopRequested = false) : (a.stop b spec during).1.Stopping := by
  rw [stop_eq_run, stopEvents, List.cons_append, run_cons]
  exact (Consistent.requestStop h).run _

/-- Whether an actor is handed over at all is told from where its loop is in the end. -/
theorem handovers_stop (first : Snapshot σ δ) (events later : List (ActorEvent σ υ δ))
    (ha : a = run b (new first) events) :
    handovers b (new first : Actor σ υ δ κ)
        (events ++ stopEvents during (a.stop b spec during).2 ++ later) =
      if (run b (a.stop b spec during).1 later).phase.isExited then 1 else 0 := by
  rw [handovers_eq (consistent_new first), run_append, run_append, stop_eq_run, ← ha]
  simp [show (new first : Actor σ υ δ κ).phase.isExited = false from rfl]

end Stop

/-- A loop that was never started, or that was cut off, never comes to its end. -/
theorem Stopping.not_exited_run {b : Blueprint σ κ} {a : Actor σ υ δ κ} (h : a.Stopping)
    (hgone : a.phase = .idle ∨ a.phase = .aborted) (events : List (ActorEvent σ υ δ)) :
    (Actor.run b a events).phase ≠ .exited := by
  induction events generalizing a with
  | nil => rcases hgone with hphase | hphase <;> simp [Actor.run, hphase]
  | cons e rest ih =>
      refine ih (h.step b e) ?_
      by_cases he : e = .abort
      · subst he
        rw [step_abort_of_requested b h.requested]
        rcases hgone with hphase | hphase <;> simp [abort, hphase, Phase.isFinished]
      · rw [h.phase_step_of_other (by rcases hgone with hp | hp <;> simp [hp])
          (by rcases hgone with hp | hp <;> simp [hp, lastTurns]) he]
        exact hgone

/-- Stop an actor at any point of any run, whatever happens while the stop waits.  The stop returns
within the bounds of its settings, at once if there is no loop to wait for.  From the request on
the actor is not started and not running, no pass begins, and no state is committed but one that an
action in flight at the time of the request leads to.  The loop comes to its end, and its actor is
handed over once, exactly when the loop takes its last turns before the last poll of the wait; in
all other cases it is cut off, and its actor is never handed over. -/
theorem stop_is_safe (b : Blueprint σ κ) (first : Snapshot σ δ) (events : List (ActorEvent σ υ δ))
    (spec : RetrySpec) {during : Nat → List (ActorEvent σ υ δ)}
    (hduring : ∀ n, .abort ∉ during n) :
    let a : Actor σ υ δ κ := run b (new first) events
    let waited := (a.stop b spec during).2
    (waited.polls ≤ spec.maxAttempts.toNat + 1 ∧
      waited.elapsedMs ≤ spec.maxAttempts.toNat * spec.pauseMs ∧
      (waited.elapsedMs = 0 ∨ waited.elapsedMs < spec.maxDurationMs.toNat + spec.pauseMs)) ∧
    (a.stopRequested = true → a.stop b spec during = (a, ⟨true, 0, 0⟩)) ∧
    (a.stopRequested = false →
      (∀ later, let now := run b a (.requestStop :: later)
        now.start = now ∧ now.isRunning = false ∧ passes b a (.requestStop :: later) = 0 ∧
        (commits b a (.requestStop :: later) = [] ∨
          ∃ t next, a.phase = .acting t ∧ next.state ∈ t.targets ∧
            commits b a (.requestStop :: later) = [next])) ∧
      (a.phase = .idle → waited = ⟨true, 0, 0⟩ ∧ ∀ later,
        handovers b (new first : Actor σ υ δ κ) (events ++ stopEvents during waited ++ later) = 0) ∧
      (a.phase ≠ .idle →
        (waited.held = true ↔
          a.requestStop.1.Concludes b ((List.range spec.maxPolls).flatMap during)) ∧
        (a.stop b spec during).1.phase = (if waited.held then .exited else .aborted) ∧
        ∀ later, handovers b (new first : Actor σ υ δ κ)
          (events ++ stopEvents during waited ++ later) = if waited.held then 1 else 0)) := by
  intro a waited
  refine ⟨stop_bounded b spec a, stop_of_requested b spec during, fun hlive => ?_⟩
  have ha : Reachable b a := ⟨first, events, rfl⟩
  have hstopping := Consistent.requestStop hlive
  have hstopped : (a.stop b spec during).1.Stopping := stopping_stop b spec hlive
  refine ⟨fun later => ?_, fun hidle => ?_, fun hstarted => ?_⟩
  · have hnow : (run b a (.requestStop :: later)).Stopping := hstopping.run later
    have hpasses : passes b a (.requestStop :: later) = 0 :=
      (Nat.zero_add _).trans (hstopping.passes_eq_zero later)
    have hcommits := hstopping.commits_run (b := b) later
    rw [show a.requestStop.1.phase = a.phase by simp [requestStop, hlive]] at hcommits
    exact ⟨hnow.start_eq, hnow.isRunning_eq, hpasses, hcommits⟩
  · have hheld : a.held = false := by
      cases hheld : a.held with
      | false => rfl
      | true => exact absurd hidle (ha.started_of_held hheld)
    have hstop := stop_of_not_held b spec during hlive hheld
    refine ⟨congrArg Prod.snd hstop, fun later => ?_⟩
    have hgone : (a.stop b spec during).1.phase = .idle := by
      rw [hstop]
      simp [requestStop, hlive, hidle]
    have hnever := hstopped.not_exited_run (b := b) (.inl hgone) later
    rw [handovers_stop b spec first events later rfl, if_neg (by rwa [Phase.isExited_iff])]
  · have hwhole : a.phase ≠ .aborted := fun haborted => by
      rw [ha.requested_of_aborted haborted] at hlive
      cases hlive
    obtain ⟨hends, hphase⟩ := stop_ends_loop b spec ha.consistent hlive hstarted hwhole hduring
    refine ⟨hends, hphase, fun later => ?_⟩
    rw [handovers_stop b spec first events later rfl]
    cases hheld : waited.held with
    | true =>
        rw [hheld] at hphase
        have hexited := phase_run_of_exited (b := b) hstopped.consistent hphase later
        rw [if_pos (Phase.isExited_iff.2 hexited)]
        rfl
    | false =>
        rw [hheld] at hphase
        have hnever := hstopped.not_exited_run (b := b) (.inr hphase) later
        rw [if_neg (by rwa [Phase.isExited_iff])]
        rfl

/-- The action that activates a local service fails while a stop waits, and the pause after the
failure is over before the last poll: the loop comes to its end and its actor is handed over. -/
theorem stop_awaits_pause :
    let b := LocalService.blueprint
    let first : Snapshot LocalServiceState Unit := ⟨.activationRequested, (), none⟩
    let events : List (ActorEvent LocalServiceState LocalServiceOperation Unit) := [.start, .begin]
    let during : Nat → List (ActorEvent LocalServiceState LocalServiceOperation Unit)
      | 1 => [.finish true (.error (.failed "timeout"))]
      | 3 => [.elapsed, .begin]
      | _ => []
    let waited := ((run b (new first) events).stop b ⟨10, 5, 1000⟩ during).2
    waited = ⟨true, 4, 30⟩ ∧
      ∀ later, handovers b (new first : Actor _ _ _ LocalServiceAction)
        (events ++ stopEvents during waited ++ later) = 1 := by
  intro b first events during waited
  have hwaited : waited = ⟨true, 4, 30⟩ := by decide +kernel
  have hduring : ∀ n, .abort ∉ during n := fun n => by
    simp only [during]
    split <;> simp
  have hsafe := (stop_is_safe b first events ⟨10, 5, 1000⟩ hduring).2.2 rfl
  refine ⟨hwaited, fun later => ?_⟩
  have hhanded := (hsafe.2.2 nofun).2.2 later
  rwa [show (stop b ⟨10, 5, 1000⟩ during (run b (new first) events)).2 = ⟨true, 4, 30⟩ from hwaited]
    at hhanded

/-- The action returns while the stop waits, but it fails, and the pause after the failure outlasts
the wait: the loop is cut off in its pause, and its actor is never handed over. -/
theorem failed_action_outlasts_stop :
    let b := LocalService.blueprint
    let first : Snapshot LocalServiceState Unit := ⟨.activationRequested, (), none⟩
    let events : List (ActorEvent LocalServiceState LocalServiceOperation Unit) := [.start, .begin]
    let during : Nat → List (ActorEvent LocalServiceState LocalServiceOperation Unit)
      | 1 => [.finish true (.error (.failed "timeout"))]
      | _ => []
    let a : Actor _ _ _ LocalServiceAction := run b (new first) events
    let waited := (a.stop b ⟨10, 5, 1000⟩ during).2
    (∃ t, a.phase = .acting t) ∧
      .finish true (.error (.failed "timeout")) ∈ (List.range waited.polls).flatMap during ∧
      waited = ⟨false, 6, 50⟩ ∧ (a.stop b ⟨10, 5, 1000⟩ during).1.phase = .aborted ∧
      ∀ later, handovers b (new first : Actor _ _ _ LocalServiceAction)
        (events ++ stopEvents during waited ++ later) = 0 := by
  intro b first events during a waited
  have hwaited : waited = ⟨false, 6, 50⟩ := by decide +kernel
  have haborted : (a.stop b ⟨10, 5, 1000⟩ during).1.phase = .aborted := rfl
  refine ⟨⟨_, rfl⟩, ?_, hwaited, haborted, fun later => ?_⟩
  · rw [hwaited]
    exact List.mem_flatMap.2 ⟨1, by simp, List.mem_cons_self⟩
  · have hstopped : (a.stop b ⟨10, 5, 1000⟩ during).1.Stopping := stopping_stop b _ rfl
    have hnever := hstopped.not_exited_run (b := b) (.inr haborted) later
    rw [show waited = (stop b ⟨10, 5, 1000⟩ during a).2 from rfl,
      handovers_stop b _ first events later rfl, if_neg (by rwa [Phase.isExited_iff])]

end Actor
end Orchestration
