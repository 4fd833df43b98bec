import Orchestration.Machine.Actor

/-!
# Runs of an actor

An actor is moved by the outside, which starts it, notifies it, and asks it to stop; by its loop;
and by the action in flight, which may acknowledge the pending update before it returns.  A run is
any list of such events.  An event that does not fit the phase of the actor does nothing, so every
interleaving is a run.

Main results:

- `Actor.move_step`: everything that an event can do, with what made it possible.
- `Actor.Reachable.consistent`: in every run the flags of an actor agree with its phase.
- `Actor.Reachable.faithful`: in every run the action in flight and the state change that is
  signalled are those of the machine.
- `Actor.pending_step`, `Actor.current_step`: what events do to the pending update and to the
  current snapshot.
-/

namespace Orchestration

/-- What happens to an actor. -/
inductive ActorEvent (σ υ δ : Type) where
  /-- The loop is started. -/
  | start
  /-- An update is offered. -/
  | notify (u : υ)
  /-- The actor is asked to stop. -/
  | requestStop
  /-- A stop that waited too long cuts the loop off. -/
  | abort
  /-- The loop begins a pass. -/
  | begin
  /-- The action in flight acknowledges the pending update. -/
  | acknowledge
  /-- The action in flight returns; `signals` says whether state changes are handled elsewhere. -/
  | finish (signals : Bool) (r : ActionResult σ δ)
  /-- The signalled state change has been handled. -/
  | handled
  /-- The pause after a failed pass is over. -/
  | elapsed
  /-- A blocked loop that was notified looks again. -/
  | resume

/-- The event asks the actor to stop. -/
def ActorEvent.isStop {σ υ δ : Type} : ActorEvent σ υ δ → Bool
  | .requestStop => true
  | _ => false

namespace Actor

variable {σ υ δ κ : Type} [DecidableEq σ]

/-- An actor that nothing has happened to. -/
def new (first : Snapshot σ δ) : Actor σ υ δ κ :=
  { machine := { current := first } }

/-- One event. -/
def step (b : Blueprint σ κ) (a : Actor σ υ δ κ) : ActorEvent σ υ δ → Actor σ υ δ κ
  | .start => a.start
  | .notify u => (a.notify u).1
  | .requestStop => a.requestStop.1
  | .abort => if a.stopRequested then a.abort else a
  | .begin => a.begin b
  | .acknowledge =>
    match a.phase with
    | .acting _ => a.acknowledge
    | _ => a
  | .finish signals r => a.finish b signals r
  | .handled => a.acknowledged b
  | .elapsed => a.elapsed b
  | .resume => a.resume

/-- A whole run. -/
def run (b : Blueprint σ κ) (a : Actor σ υ δ κ) (events : List (ActorEvent σ υ δ)) :
    Actor σ υ δ κ :=
  events.foldl (step b) a

/-- The actor is at the end of some run of a new actor. -/
def Reachable (b : Blueprint σ κ) (a : Actor σ υ δ κ) : Prop :=
  ∃ first events, a = run b (new first) events

/-- The error with which an event ends a pass, if it does. -/
def failure? (b : Blueprint σ κ) (a : Actor σ υ δ κ) :
    ActorEvent σ υ δ → Option (MachineError σ κ)
  | .begin =>
    match a.phase with
    | .ready =>
      match (a.machine.begin b).2 with
      | .refused error => some error
      | _ => none
    | _ => none
  | .finish _ r =>
    match a.phase with
    | .acting t =>
      match (a.machine.finish t r).2 with
      | .failed error => some error
      | _ => none
    | _ => none
  | _ => none

/-- Whether an event begins a pass. -/
def beginsPass (a : Actor σ υ δ κ) : ActorEvent σ υ δ → Bool
  | .begin =>
    match a.phase with
    | .ready => !a.machine.slot.stopped
    | _ => false
  | _ => false

/-- Whether an event stages an update. -/
def stages (a : Actor σ υ δ κ) : ActorEvent σ υ δ → Bool
  | .notify u => (a.notify u).2
  | _ => false

/-- The number of passes that begin in a run. -/
def passes (b : Blueprint σ κ) (a : Actor σ υ δ κ) : List (ActorEvent σ υ δ) → Nat
  | [] => 0
  | e :: rest => (if a.beginsPass e then 1 else 0) + passes b (a.step b e) rest

/-! ## Moves -/

/-- The moves of an actor: what an event does, where it fits. -/
inductive Move (b : Blueprint σ κ) (a : Actor σ υ δ κ) :
    ActorEvent σ υ δ → Actor σ υ δ κ → Prop where
  /-- The event does not fit and is ignored. -/
  | ignored (e : ActorEvent σ υ δ) : Move b a e a
  | started (held : a.held = false) (live : a.stopRequested = false) :
      Move b a .start { a with phase := .ready, held := true }
  | staged (u : υ) (free : a.machine.slot.pending = none) :
      Move b a (.notify u)
        { a with
          machine := { a.machine with slot := { a.machine.slot with pending := some u } }
          wake := true, permit := true }
  | stopped (live : a.stopRequested = false) :
      Move b a .requestStop
        { a with machine := a.machine.stop, stopRequested := true, permit := true, held := false }
  | cutOff (stopping : a.stopRequested = true) (going : a.phase.isFinished = false) :
      Move b a .abort { a with phase := .aborted }
  /-- The pass does not begin, because the machine is stopped. -/
  | ended (ready : a.phase = .ready) (start : (a.machine.begin b).2 = .stopped) :
      Move b a .begin { a with machine := (a.machine.begin b).1, phase := .exited }
  /-- The pass fails at its beginning. -/
  | refused (ready : a.phase = .ready) {error : MachineError σ κ}
      (start : (a.machine.begin b).2 = .refused error) :
      Move b a .begin { a with machine := (a.machine.begin b).1, phase := .backingOff }
  /-- The pass begins. -/
  | began (ready : a.phase = .ready) {t : Transition σ κ}
      (start : (a.machine.begin b).2 = .run t) :
      Move b a .begin { a with machine := (a.machine.begin b).1, phase := .acting t }
  | acknowledged {t : Transition σ κ} (acting : a.phase = .acting t) :
      Move b a .acknowledge a.acknowledge
  /-- The pass fails at its end. -/
  | failed {t : Transition σ κ} (acting : a.phase = .acting t) (signals : Bool)
      (r : ActionResult σ δ) {error : MachineError σ κ}
      (pass : (a.machine.finish t r).2 = .failed error) :
      Move b a (.finish signals r)
        { a with machine := (a.machine.finish t r).1, phase := .backingOff }
  /-- The pass ends where it began. -/
  | stayed {t : Transition σ κ} (acting : a.phase = .acting t) (signals : Bool)
      (r : ActionResult σ δ) {s : σ} (pass : (a.machine.finish t r).2 = .stayed s) :
      Move b a (.finish signals r)
        (continueIn b { a with machine := (a.machine.finish t r).1 } s)
  /-- The pass ends in another snapshot, which is signalled. -/
  | signalled {t : Transition σ κ} (acting : a.phase = .acting t) (r : ActionResult σ δ)
      {next : Snapshot σ δ} (pass : (a.machine.finish t r).2 = .moved next) :
      Move b a (.finish true r)
        { a with machine := (a.machine.finish t r).1, phase := .signalling next }
  /-- The pass ends in another snapshot, and nobody is told. -/
  | moved {t : Transition σ κ} (acting : a.phase = .acting t) (r : ActionResult σ δ)
      {next : Snapshot σ δ} (pass : (a.machine.finish t r).2 = .moved next) :
      Move b a (.finish false r)
        (continueIn b { a with machine := (a.machine.finish t r).1 } next.state)
  | wentOn {next : Snapshot σ δ} (signalling : a.phase = .signalling next) :
      Move b a .handled (a.continueIn b next.state)
  | parked (pausing : a.phase = .backingOff)
      (waits : b.isPaused a.machine.current.state = true) : Move b a .elapsed a.park
  | retried (pausing : a.phase = .backingOff)
      (waits : b.isPaused a.machine.current.state = false) :
      Move b a .elapsed { a with phase := .ready }
  | lookedAgain (blocked : a.phase = .parked) (permitted : a.permit = true) :
      Move b a .resume { a with permit := false }.park

/-- Every event is one of the moves. -/
theorem move_step (b : Blueprint σ κ) (a : Actor σ υ δ κ) (e : ActorEvent σ υ δ) :
    Move b a e (a.step b e) := by
  cases e with
  | start =>
      simp only [step, start]
      split <;> rename_i h
      · exact .ignored _
      · simp only [Bool.or_eq_true, not_or, Bool.not_eq_true] at h
        exact .started h.1 h.2
  | notify u =>
      cases hpending : a.machine.slot.pending with
      | some v =>
          rw [step, notify_of_pending hpending]
          exact .ignored _
      | none =>
          rw [step, notify_of_free hpending]
          exact .staged u hpending
  | requestStop =>
      simp only [step, requestStop]
      split <;> rename_i h
      · exact .ignored _
      · exact .stopped (by simpa using h)
  | abort =>
      simp only [step, abort]
      split <;> rename_i h
      · split <;> rename_i hphase
        · exact .ignored _
        · exact .cutOff h (by simpa using hphase)
      · exact .ignored _
  | begin =>
      simp only [step, begin]
      split <;> rename_i hphase
      · cases hstart : (a.machine.begin b).2 with
        | stopped => exact .ended hphase hstart
        | refused error => exact .refused hphase hstart
        | run t => exact .began hphase hstart
      · exact .ignored _
  | acknowledge =>
      simp only [step]
      split <;> rename_i hphase
      · exact .acknowledged hphase
      · exact .ignored _
  | finish signals r =>
      simp only [step, finish]
      split <;> rename_i t hphase
      · cases hend : (a.machine.finish t r).2 with
        | failed error => exact .failed hphase signals r hend
        | stayed s => exact .stayed hphase signals r hend
        | moved next =>
            cases signals with
            | true => exact .signalled hphase r hend
            | false => exact .moved hphase r hend
      · exact .ignored _
  | handled =>
      simp only [step, Actor.acknowledged]
      split <;> rename_i hphase
      · exact .wentOn hphase
      · exact .ignored _
  | elapsed =>
      simp only [step, elapsed]
      split <;> rename_i hphase
      · split <;> rename_i hpaused
        · exact .parked hphase hpaused
        · exact .retried hphase (by simpa using hpaused)
      · exact .ignored _
  | resume =>
      simp only [step, resume]
      split <;> rename_i hphase
      · split <;> rename_i hpermit
        · exact .lookedAgain hphase hpermit
        · exact .ignored _
      · exact .ignored _

/-! ## Flags and phases -/

/-- The flags of an actor agree with its phase: the machine is told to stop with the actor, and a
loop that was started is known until the actor is asked to stop. -/
structure Consistent (a : Actor σ υ δ κ) : Prop where
  stopped : a.machine.slot.stopped = a.stopRequested
  held : a.phase ≠ .idle → a.held = true ∨ a.stopRequested = true

omit [DecidableEq σ] in
/-- A new actor has no loop yet. -/
theorem consistent_new (first : Snapshot σ δ) : Consistent (new first : Actor σ υ δ κ) where
  stopped := rfl
  held h := absurd rfl h

omit [DecidableEq σ] in
/-- Events inside a loop that was started keep flags and phase in agreement. -/
theorem Consistent.of_started {a a' : Actor σ υ δ κ} (h : a.Consistent) (hphase : a.phase ≠ .idle)
    (hslot : a'.machine.slot.stopped = a.machine.slot.stopped)
    (hstop : a'.stopRequested = a.stopRequested) (hheld : a'.held = a.held) : a'.Consistent where
  stopped := by rw [hslot, hstop, h.stopped]
  held _ := by
    rw [hheld, hstop]
    exact h.held hphase

omit [DecidableEq σ] in
/-- A loop that was started is not started again. -/
theorem Consistent.not_started {a : Actor σ υ δ κ} (h : a.Consistent) (hphase : a.phase ≠ .idle)
    (hheld : a.held = false) : a.stopRequested = true := by
  rcases h.held hphase with hheld' | hstopped
  · rw [hheld] at hheld'
    cases hheld'
  · exact hstopped

omit [DecidableEq σ] in
/-- Parking keeps them in agreement, too. -/
theorem Consistent.park {a : Actor σ υ δ κ} (h : a.Consistent) (hphase : a.phase ≠ .idle) :
    a.park.Consistent := by
  obtain ⟨phase, wake, permit, heq⟩ := a.park_eq
  rw [heq]
  exact h.of_started hphase rfl rfl rfl

omit [DecidableEq σ] in
/-- So does going on in a state, or ending there. -/
theorem Consistent.continueIn {a : Actor σ υ δ κ} (h : a.Consistent) (hphase : a.phase ≠ .idle)
    (b : Blueprint σ κ) (s : σ) : (a.continueIn b s).Consistent := by
  obtain ⟨phase, wake, permit, heq⟩ := a.continueIn_eq b s
  rw [heq]
  exact h.of_started hphase rfl rfl rfl

/-- Every event keeps flags and phase in agreement. -/
theorem Consistent.step {a : Actor σ υ δ κ} (h : a.Consistent) (b : Blueprint σ κ)
    (e : ActorEvent σ υ δ) : (a.step b e).Consistent := by
  have hmove := a.move_step b e
  generalize a.step b e = a' at hmove ⊢
  cases hmove with
  | ignored => exact h
  | started held live => exact ⟨h.stopped, fun _ => Or.inl rfl⟩
  | staged u free => exact ⟨h.stopped, h.held⟩
  | stopped live => exact ⟨rfl, fun _ => Or.inr rfl⟩
  | cutOff stopping going => exact ⟨h.stopped, fun _ => Or.inr stopping⟩
  | ended ready start => exact h.of_started (by simp [ready]) (by simp) rfl rfl
  | refused ready start => exact h.of_started (by simp [ready]) (by simp) rfl rfl
  | began ready start => exact h.of_started (by simp [ready]) (by simp) rfl rfl
  | acknowledged acting => exact h.of_started (by simp [acting]) rfl rfl rfl
  | failed acting signals r pass => exact h.of_started (by simp [acting]) (by simp) rfl rfl
  | signalled acting r pass => exact h.of_started (by simp [acting]) (by simp) rfl rfl
  | @stayed t acting signals r s pass =>
      have hmachine : Consistent { a with machine := (a.machine.finish t r).1 } :=
        h.of_started (by simp [acting]) (by simp) rfl rfl
      exact hmachine.continueIn (by simp [acting]) b s
  | @moved t acting r next pass =>
      have hmachine : Consistent { a with machine := (a.machine.finish t r).1 } :=
        h.of_started (by simp [acting]) (by simp) rfl rfl
      exact hmachine.continueIn (by simp [acting]) b next.state
  | wentOn signalling => exact h.continueIn (by simp [signalling]) b _
  | parked pausing waits => exact h.park (by simp [pausing])
  | retried pausing waits => exact h.of_started (by simp [pausing]) rfl rfl rfl
  | lookedAgain blocked permitted =>
      have hpermit : Consistent { a with permit := false } :=
        h.of_started (by simp [blocked]) rfl rfl rfl
      exact hpermit.park (by simp [blocked])

/-! ## What events do to the machine -/

omit [DecidableEq σ] in
/-- A loop that parks or goes on has no action in flight and signals nothing. -/
theorem phase_park (a : Actor σ υ δ κ) : a.park.phase = .ready ∨ a.park.phase = .parked := by
  unfold park
  split
  · exact Or.inl rfl
  · exact Or.inr rfl

omit [DecidableEq σ] in
/-- A loop that goes on is ready, is parked, or has come to its end. -/
theorem phase_continueIn (b : Blueprint σ κ) (a : Actor σ υ δ κ) (s : σ) :
    (a.continueIn b s).phase = .ready ∨ (a.continueIn b s).phase = .parked ∨
      (a.continueIn b s).phase = .exited := by
  unfold continueIn
  split
  · exact Or.inr (Or.inr rfl)
  · split
    · rcases a.phase_park with h | h
      · exact Or.inl h
      · exact Or.inr (Or.inl h)
    · exact Or.inl rfl

omit [DecidableEq σ] in
/-- A loop that parks is in no other phase than those two. -/
theorem phase_park_ne (a : Actor σ υ δ κ) {phase : Phase σ δ κ} (hready : phase ≠ .ready)
    (hparked : phase ≠ .parked) : a.park.phase ≠ phase := by
  rcases a.phase_park with h | h <;> rw [h]
  · exact hready.symm
  · exact hparked.symm

omit [DecidableEq σ] in
/-- A loop that goes on is in no other phase than those three. -/
theorem phase_continueIn_ne (b : Blueprint σ κ) (a : Actor σ υ δ κ) (s : σ) {phase : Phase σ δ κ}
    (hready : phase ≠ .ready) (hparked : phase ≠ .parked) (hexited : phase ≠ .exited) :
    (a.continueIn b s).phase ≠ phase := by
  rcases a.phase_continueIn b s with h | h | h <;> rw [h]
  · exact hready.symm
  · exact hparked.symm
  · exact hexited.symm

/-- An action that returns leaves the pending update alone. -/
theorem slot_finish (b : Blueprint σ κ) (signals : Bool) (a : Actor σ υ δ κ)
    (r : ActionResult σ δ) : (a.finish b signals r).machine.slot = a.machine.slot := by
  simp only [finish]
  split
  · split
    · simp
    · simp
    · split <;> simp
  · rfl

/-- An update that is pending was pending before, or is staged by the event. -/
theorem pending_step (b : Blueprint σ κ) (a : Actor σ υ δ κ) (e : ActorEvent σ υ δ) :
    (a.step b e).machine.slot.pending = a.machine.slot.pending ∨
      (a.step b e).machine.slot.pending = none ∨
      (a.machine.slot.pending = none ∧
        ∃ u, e = .notify u ∧ (a.step b e).machine.slot.pending = some u) := by
  have hmove := a.move_step b e
  generalize a.step b e = a' at hmove ⊢
  cases hmove with
  | staged u free => exact Or.inr (Or.inr ⟨free, u, rfl, rfl⟩)
  | acknowledged acting => exact Or.inr (Or.inl rfl)
  | _ =>
      left
      simp [Machine.stop]

/-- Only a notification stages an update. -/
theorem pending_of_step {b : Blueprint σ κ} {a : Actor σ υ δ κ} {e : ActorEvent σ υ δ} {u : υ}
    (hnotify : ∀ v, e ≠ .notify v) (h : (a.step b e).machine.slot.pending = some u) :
    a.machine.slot.pending = some u := by
  rcases pending_step b a e with hsame | hnone | ⟨-, v, he, -⟩
  · rw [← hsame, h]
  · rw [hnone] at h
    cases h
  · exact absurd he (hnotify v)

/-- Only an action that returns changes the current snapshot. -/
theorem current_step (b : Blueprint σ κ) (a : Actor σ υ δ κ) {e : ActorEvent σ υ δ}
    (h : ∀ signals r, e ≠ .finish signals r) :
    (a.step b e).machine.current = a.machine.current := by
  have hmove := a.move_step b e
  generalize a.step b e = a' at hmove ⊢
  cases hmove with
  | failed acting signals r pass => exact absurd rfl (h signals r)
  | stayed acting signals r pass => exact absurd rfl (h signals r)
  | signalled acting r pass => exact absurd rfl (h true r)
  | moved acting r pass => exact absurd rfl (h false r)
  | _ => simp [Machine.stop, acknowledge, Machine.acknowledge]

/-- Only the beginning of a pass puts an action in flight. -/
theorem acting_of_step {b : Blueprint σ κ} {a : Actor σ υ δ κ} {e : ActorEvent σ υ δ}
    {t : Transition σ κ} (hbegin : e ≠ .begin) (h : (a.step b e).phase = .acting t) :
    a.phase = .acting t := by
  have hmove := a.move_step b e
  generalize a.step b e = a' at hmove h
  cases hmove with
  | ignored => exact h
  | staged u free => exact h
  | stopped live => exact h
  | acknowledged acting => exact h
  | ended ready start => exact absurd rfl hbegin
  | refused ready start => exact absurd rfl hbegin
  | began ready start => exact absurd rfl hbegin
  | stayed acting signals r pass =>
      exact absurd h (phase_continueIn_ne b _ _ (by simp) (by simp) (by simp))
  | moved acting r pass =>
      exact absurd h (phase_continueIn_ne b _ _ (by simp) (by simp) (by simp))
  | wentOn signalling => exact absurd h (phase_continueIn_ne b _ _ (by simp) (by simp) (by simp))
  | parked pausing waits => exact absurd h (phase_park_ne _ (by simp) (by simp))
  | lookedAgain blocked permitted => exact absurd h (phase_park_ne _ (by simp) (by simp))
  | _ => cases h

/-- What the phase of an actor says about its machine: the action in flight is the one of the
current state, and the state change that is signalled is the one that was made. -/
structure Faithful (b : Blueprint σ κ) (a : Actor σ υ δ κ) : Prop where
  acting : ∀ t, a.phase = .acting t → b.transition? a.machine.current.state = some t
  signalling : ∀ s, a.phase = .signalling s → a.machine.current = s

/-- A loop without an action in flight that signals nothing says nothing of its machine. -/
theorem Faithful.of_phase {b : Blueprint σ κ} {a : Actor σ υ δ κ}
    (hacting : ∀ t, a.phase ≠ .acting t) (hsignalling : ∀ s, a.phase ≠ .signalling s) :
    Faithful b a where
  acting t h := absurd h (hacting t)
  signalling s h := absurd h (hsignalling s)

/-- Nor does a loop that parks. -/
theorem faithful_park (b : Blueprint σ κ) (a : Actor σ υ δ κ) : Faithful b a.park :=
  Faithful.of_phase (fun _ => a.phase_park_ne (by simp) (by simp))
    (fun _ => a.phase_park_ne (by simp) (by simp))

/-- Nor does one that goes on. -/
theorem faithful_continueIn (b : Blueprint σ κ) (a : Actor σ υ δ κ) (s : σ) :
    Faithful b (a.continueIn b s) :=
  Faithful.of_phase (fun _ => a.phase_continueIn_ne b s (by simp) (by simp) (by simp))
    (fun _ => a.phase_continueIn_ne b s (by simp) (by simp) (by simp))

/-- Where neither phase nor current snapshot changes, the phase stays faithful. -/
theorem Faithful.of_eq {b : Blueprint σ κ} {a a' : Actor σ υ δ κ} (h : Faithful b a)
    (hphase : a'.phase = a.phase) (hcurrent : a'.machine.current = a.machine.current) :
    Faithful b a' where
  acting t ht := by
    rw [hcurrent]
    exact h.acting t (hphase ▸ ht)
  signalling s hs := by
    rw [hcurrent]
    exact h.signalling s (hphase ▸ hs)

/-- Every event keeps the phase faithful. -/
theorem Faithful.step {b : Blueprint σ κ} {a : Actor σ υ δ κ} (h : Faithful b a)
    (e : ActorEvent σ υ δ) : Faithful b (a.step b e) := by
  have hmove := a.move_step b e
  generalize a.step b e = a' at hmove ⊢
  cases hmove with
  | ignored => exact h
  | staged u free => exact h.of_eq rfl rfl
  | stopped live => exact h.of_eq rfl rfl
  | acknowledged acting => exact h.of_eq rfl rfl
  | @began ready t start =>
      constructor
      · intro t' ht
        cases ht
        show b.transition? (a.machine.begin b).1.current.state = some t
        rw [Machine.begin_current]
        exact Machine.transition?_of_begin start
      · intro s hs
        cases hs
  | @signalled t acting r next pass =>
      constructor
      · intro t' ht
        cases ht
      · intro s hs
        cases hs
        show (a.machine.finish t r).1.current = next
        rw [Machine.finish_current, pass]
  | stayed acting signals r pass => exact faithful_continueIn b _ _
  | moved acting r pass => exact faithful_continueIn b _ _
  | wentOn signalling => exact faithful_continueIn b a _
  | parked pausing waits => exact faithful_park b a
  | lookedAgain blocked permitted => exact faithful_park b _
  | _ => exact Faithful.of_phase (by simp) (by simp)

/-! ## Moves of the machine -/

/-- The snapshot that the machine moves to when the action in flight returns. -/
def moved? (a : Actor σ υ δ κ) (r : ActionResult σ δ) : Option (Snapshot σ δ) :=
  match a.phase with
  | .acting t =>
    match (a.machine.finish t r).2 with
    | .moved next => some next
    | _ => none
  | _ => none

/-- A machine moves along the transition of the action in flight. -/
theorem acting_of_moved {a : Actor σ υ δ κ} {r : ActionResult σ δ} {next : Snapshot σ δ}
    (h : a.moved? r = some next) : ∃ t, a.phase = .acting t ∧ next.state ∈ t.targets := by
  cases hphase : a.phase with
  | acting t =>
      cases hend : (a.machine.finish t r).2 with
      | moved next' =>
          simp only [moved?, hphase, hend] at h
          cases h
          exact ⟨t, rfl, (Machine.result_of_moved hend).2⟩
      | _ => simp [moved?, hphase, hend] at h
  | _ => simp [moved?, hphase] at h

/-- When an action returns, the machine is where it moved to, or where it was. -/
theorem current_step_finish (b : Blueprint σ κ) (a : Actor σ υ δ κ) (signals : Bool)
    (r : ActionResult σ δ) :
    (a.step b (.finish signals r)).machine.current = (a.moved? r).getD a.machine.current := by
  cases hphase : a.phase with
  | acting t =>
      have hcurrent := Machine.finish_current a.machine t r
      cases hend : (a.machine.finish t r).2 <;> cases signals <;>
        simp [step, finish, moved?, hphase, hend, hcurrent]
  | _ => simp [step, finish, moved?, hphase]

/-- What is pending does not matter for where the machine moves to. -/
theorem moved?_acknowledge (b : Blueprint σ κ) (a : Actor σ υ δ κ) (r : ActionResult σ δ) :
    (a.step b .acknowledge).moved? r = a.moved? r := by
  have hend (t : Transition σ κ) :
      (a.machine.acknowledge.1.finish t r).2 = (a.machine.finish t r).2 :=
    Machine.finish_congr (show a.machine.acknowledge.1.current = a.machine.current from rfl) t r
  cases hphase : a.phase <;> simp [step, moved?, acknowledge, hphase, hend]

/-- The loop signals the snapshot that the machine moved to. -/
theorem phase_step_finish {b : Blueprint σ κ} {a : Actor σ υ δ κ} {t : Transition σ κ}
    (hphase : a.phase = .acting t) (r : ActionResult σ δ) (next : Snapshot σ δ) :
    (a.step b (.finish true r)).phase = .signalling next ↔ a.moved? r = some next := by
  cases hend : (a.machine.finish t r).2 with
  | failed error => simp [step, finish, moved?, hphase, hend]
  | stayed s =>
      have hne : (continueIn b { a with machine := (a.machine.finish t r).1 } s).phase ≠
          .signalling next := phase_continueIn_ne b _ s (by simp) (by simp) (by simp)
      simpa [step, finish, moved?, hphase, hend] using hne
  | moved next' => simp [step, finish, moved?, hphase, hend]

/-! ## Signalled state changes -/

/-- The actor made a state change that has not been handled yet, unless it was cut off since. -/
def Reached (a : Actor σ υ δ κ) (s : Snapshot σ δ) : Prop :=
  a.machine.current = s ∧ (a.phase = .signalling s ∨ a.phase = .aborted)

/-- An actor goes on signalling a state change until it has been handled or the loop is cut off. -/
theorem phase_step_of_signalling {a : Actor σ υ δ κ} {s : Snapshot σ δ} (ha : a.Consistent)
    (hphase : a.phase = .signalling s) (b : Blueprint σ κ) {e : ActorEvent σ υ δ}
    (hhandled : e ≠ .handled) (habort : e ≠ .abort) : (a.step b e).phase = .signalling s := by
  have hmove := a.move_step b e
  generalize a.step b e = a' at hmove ⊢
  cases hmove with
  | ignored => exact hphase
  | started held live =>
      have hstopped := ha.not_started (by simp [hphase]) held
      rw [live] at hstopped
      cases hstopped
  | staged u free => exact hphase
  | stopped live => exact hphase
  | cutOff stopping going => exact absurd rfl habort
  | wentOn signalling => exact absurd rfl hhandled
  | _ => simp_all

/-- A state change stays where it is until it has been handled. -/
theorem Reached.step {a : Actor σ υ δ κ} {s : Snapshot σ δ} (h : a.Reached s)
    (ha : a.Consistent) (b : Blueprint σ κ) {e : ActorEvent σ υ δ} (he : e ≠ .handled) :
    (a.step b e).Reached s := by
  obtain ⟨hcurrent, hphase⟩ := h
  have hstarted : a.phase ≠ .idle := by
    rcases hphase with hphase | hphase <;> simp [hphase]
  have hmove := a.move_step b e
  generalize a.step b e = a' at hmove ⊢
  cases hmove with
  | ignored => exact ⟨hcurrent, hphase⟩
  | started held live =>
      have hstopped := ha.not_started hstarted held
      rw [live] at hstopped
      cases hstopped
  | staged u free => exact ⟨hcurrent, hphase⟩
  | stopped live => exact ⟨hcurrent, hphase⟩
  | cutOff stopping going => exact ⟨hcurrent, Or.inr rfl⟩
  | wentOn signalling => exact absurd rfl he
  | _ => simp_all

/-- A loop that has ended, in one way or the other, does not begin again. -/
theorem phase_step_of_finished {a : Actor σ υ δ κ} (ha : a.Consistent)
    (hphase : a.phase.isFinished = true) (b : Blueprint σ κ) (e : ActorEvent σ υ δ) :
    (a.step b e).phase = a.phase := by
  have hmove := a.move_step b e
  generalize a.step b e = a' at hmove ⊢
  cases hmove with
  | ignored => rfl
  | started held live =>
      have hidle : a.phase ≠ .idle := by
        intro hidle
        simp [hidle, Phase.isFinished] at hphase
      have hstopped := ha.not_started hidle held
      rw [live] at hstopped
      cases hstopped
  | staged u free => rfl
  | stopped live => rfl
  | acknowledged acting => rfl
  | cutOff stopping going =>
      rw [going] at hphase
      cases hphase
  | _ => simp_all [Phase.isFinished]

/-- A loop that has ended does not begin again. -/
theorem phase_step_of_exited {a : Actor σ υ δ κ} (ha : a.Consistent) (hphase : a.phase = .exited)
    (b : Blueprint σ κ) (e : ActorEvent σ υ δ) : (a.step b e).phase = .exited := by
  rw [phase_step_of_finished ha (by simp [hphase, Phase.isFinished]) b e, hphase]

/-- Only a stop that waited too long cuts a loop off. -/
theorem phase_step_ne_aborted (b : Blueprint σ κ) {a : Actor σ υ δ κ} (h : a.phase ≠ .aborted)
    {e : ActorEvent σ υ δ} (he : e ≠ .abort) : (a.step b e).phase ≠ .aborted := by
  have hmove := a.move_step b e
  generalize a.step b e = a' at hmove ⊢
  cases hmove with
  | ignored => exact h
  | staged u free => exact h
  | stopped live => exact h
  | acknowledged acting => exact h
  | cutOff stopping going => exact absurd rfl he
  | stayed acting signals r pass => exact phase_continueIn_ne b _ _ (by simp) (by simp) (by simp)
  | moved acting r pass => exact phase_continueIn_ne b _ _ (by simp) (by simp) (by simp)
  | wentOn signalling => exact phase_continueIn_ne b _ _ (by simp) (by simp) (by simp)
  | parked pausing waits => exact phase_park_ne _ (by simp) (by simp)
  | lookedAgain blocked permitted => exact phase_park_ne _ (by simp) (by simp)
  | _ => simp

/-- A loop that was started stays started. -/
theorem started_step (b : Blueprint σ κ) {a : Actor σ υ δ κ} (h : a.phase ≠ .idle)
    (e : ActorEvent σ υ δ) : (a.step b e).phase ≠ .idle := by
  have hmove := a.move_step b e
  generalize a.step b e = a' at hmove ⊢
  cases hmove with
  | ignored => exact h
  | staged u free => exact h
  | stopped live => exact h
  | acknowledged acting => exact h
  | stayed acting signals r pass => exact phase_continueIn_ne b _ _ (by simp) (by simp) (by simp)
  | moved acting r pass => exact phase_continueIn_ne b _ _ (by simp) (by simp) (by simp)
  | wentOn signalling => exact phase_continueIn_ne b _ _ (by simp) (by simp) (by simp)
  | parked pausing waits => exact phase_park_ne _ (by simp) (by simp)
  | lookedAgain blocked permitted => exact phase_park_ne _ (by simp) (by simp)
  | _ => simp

/-- Nobody is asked to stop by another event. -/
theorem stopRequested_step (b : Blueprint σ κ) {a : Actor σ υ δ κ} {e : ActorEvent σ υ δ}
    (hstop : e.isStop = false) : (a.step b e).stopRequested = a.stopRequested := by
  have hmove := a.move_step b e
  generalize a.step b e = a' at hmove ⊢
  cases hmove with
  | stopped live => cases hstop
  | _ => simp [acknowledge]

/-- The loop of an actor is not held up by a state change. -/
def Settled (a : Actor σ υ δ κ) : Prop :=
  ∀ s, a.phase ≠ .signalling s

/-- While the loop is not held up, the current snapshot is as it was: a state change that is
handled elsewhere holds the loop up. -/
theorem Settled.of_step {a : Actor σ υ δ κ} (ha : a.Consistent) (b : Blueprint σ κ)
    {e : ActorEvent σ υ δ} (hhandled : e ≠ .handled) (habort : e ≠ .abort)
    (hfinish : ∀ r, e ≠ .finish false r) (h : (a.step b e).Settled) :
    a.Settled ∧ (a.step b e).machine.current = a.machine.current := by
  constructor
  · intro s hphase
    exact h s (phase_step_of_signalling ha hphase b hhandled habort)
  · have hmove := a.move_step b e
    generalize a.step b e = a' at hmove h ⊢
    cases hmove with
    | failed acting signals r pass =>
        show (a.machine.finish _ r).1.current = _
        rw [Machine.finish_current, pass]
    | stayed acting signals r pass =>
        rw [machine_continueIn, Machine.finish_current, pass]
    | signalled acting r pass => exact absurd rfl (h _)
    | moved acting r pass => exact absurd rfl (hfinish r)
    | _ => simp [Machine.stop, acknowledge, Machine.acknowledge]

/-- The loop of an actor goes on, and is not held up by a state change. -/
def Going (a : Actor σ υ δ κ) : Prop :=
  a.phase.isFinished = false ∧ a.Settled

/-- Where a loop goes on after an event in which no state is handled, it went on before, in the same
state. -/
theorem Going.of_step {a : Actor σ υ δ κ} (ha : a.Consistent) (b : Blueprint σ κ)
    {e : ActorEvent σ υ δ} (hhandled : e ≠ .handled) (hfinish : ∀ r, e ≠ .finish false r)
    (h : (a.step b e).Going) : a.Going ∧ (a.step b e).machine.current = a.machine.current := by
  have hlive : a.phase.isFinished = false := by
    cases hfinished : a.phase.isFinished with
    | false => rfl
    | true =>
        rw [← phase_step_of_finished ha hfinished b e, h.1] at hfinished
        cases hfinished
  by_cases habort : e = .abort
  · subst habort
    -- The loop was not cut off, or it would not go on.
    have hsame : a.step b .abort = a := by
      have hmove := a.move_step b .abort
      obtain ⟨hphase, -⟩ := h
      generalize a.step b .abort = a' at hmove hphase ⊢
      cases hmove with
      | ignored => rfl
      | cutOff stopping going => cases hphase
    rw [hsame] at h ⊢
    exact ⟨h, rfl⟩
  · obtain ⟨hsettled, hcurrent⟩ := Settled.of_step ha b hhandled habort hfinish h.2
    exact ⟨⟨hlive, hsettled⟩, hcurrent⟩

/-! ## Reachable actors -/

/-- A new actor is reachable. -/
theorem Reachable.new (b : Blueprint σ κ) (first : Snapshot σ δ) :
    Reachable b (new first : Actor σ υ δ κ) :=
  ⟨first, [], rfl⟩

/-- So is what an event makes of a reachable one. -/
theorem Reachable.step {b : Blueprint σ κ} {a : Actor σ υ δ κ} (h : Reachable b a)
    (e : ActorEvent σ υ δ) : Reachable b (a.step b e) := by
  obtain ⟨first, events, rfl⟩ := h
  refine ⟨first, events ++ [e], ?_⟩
  rw [run, run, List.foldl_append]
  rfl

/-- What holds of new actors and is kept by every event holds of every reachable actor. -/
theorem Reachable.induct {b : Blueprint σ κ} {motive : Actor σ υ δ κ → Prop}
    (hnew : ∀ first, motive (Actor.new first)) (hstep : ∀ a e, motive a → motive (a.step b e))
    {a : Actor σ υ δ κ} (h : Reachable b a) : motive a := by
  obtain ⟨first, events, rfl⟩ := h
  have hrun : ∀ (l : List (ActorEvent σ υ δ)) (a : Actor σ υ δ κ), motive a →
      motive (run b a l) := by
    intro l
    induction l with
    | nil => exact fun _ ha => ha
    | cons e rest ih => exact fun a ha => ih _ (hstep a e ha)
  exact hrun events _ (hnew first)

/-- In every run flags and phase agree. -/
theorem Reachable.consistent {b : Blueprint σ κ} {a : Actor σ υ δ κ} (h : Reachable b a) :
    a.Consistent :=
  h.induct consistent_new fun _ e ha => ha.step b e

/-- In every run the phase is faithful to the machine. -/
theorem Reachable.faithful {b : Blueprint σ κ} {a : Actor σ υ δ κ} (h : Reachable b a) :
    Faithful b a :=
  h.induct (fun _ => Faithful.of_phase (by simp [Actor.new]) (by simp [Actor.new]))
    fun _ e ha => ha.step e

end Actor
end Orchestration
