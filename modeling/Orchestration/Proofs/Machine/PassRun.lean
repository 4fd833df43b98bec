import Mathlib.Logic.Relation
import Orchestration.Rehearsal.Passes

/-!
# Passes that commit, and passes that do nothing

Whoever drives a machine has it run one pass after the other.  Between the beginning of a pass and
its end an action is in flight, and after that a state change may wait to be handled; all the while
updates are offered and acknowledged, and the machine may be told to stop.  A run is any list of
such events.  One that does not fit does nothing: a pass is not begun while another one runs.

What an action returns is either accepted as a whole or has no effect at all.  Nothing else changes
the snapshot of a machine, so its snapshot is always the one that was accepted last, and the state
changes that were signalled are the accepted snapshots in their order.

Main results:

- `DrivenMachine.step_outside`: what the outside does concerns the update slot alone.
- `DrivenMachine.Sound.step`, `DrivenMachine.Sound.run`: an action is in flight exactly while a pass
  waits for it, and every state was reached through the table.
- `DrivenMachine.current_run`, `DrivenMachine.signals_run`: what was accepted in a run.
- `PassRehearsal.execute_eq_run`: a rehearsed pass is a pass of a driven machine.
- `DrivenMachine.pass_all_or_nothing`: a pass commits what its action returned, or nothing.
-/

namespace Orchestration

/-- The table leads from one state to another. -/
def Blueprint.Leads {σ κ : Type} [DecidableEq σ] (b : Blueprint σ κ) (s s' : σ) : Prop :=
  ∃ t, b.transition? s = some t ∧ s' ∈ t.targets

/-- The snapshot that a transition accepts of what its action returned. -/
def Transition.accepts? {σ δ κ : Type} [DecidableEq σ] (t : Transition σ κ) :
    ActionResult σ δ → Option (Snapshot σ δ)
  | .ok (some next) => if next.state ∈ t.targets then some next else none
  | _ => none

section Finish

variable {σ υ δ κ : Type} [DecidableEq σ] {t : Transition σ κ} {r : ActionResult σ δ}

/-- What is not accepted ends the action, and that is all. -/
theorem Machine.finish_of_none (m : Machine σ υ δ κ) (h : t.accepts? r = none) :
    (m.finish t r).1 = { m with inFlight := none } ∧ ∀ next, (m.finish t r).2 ≠ .moved next := by
  match r with
  | .error cause => simp [finish]
  | .ok none => simp [finish]
  | .ok (some next) =>
      have hrefused : next.state ∉ t.targets := by simpa [Transition.accepts?] using h
      simp [finish, hrefused]

/-- What is accepted is committed as a whole. -/
theorem Machine.finish_of_some (m : Machine σ υ δ κ) {next : Snapshot σ δ}
    (h : t.accepts? r = some next) :
    m.finish t r = ({ m with current := next, inFlight := none }, .moved next) := by
  match r with
  | .error cause => cases h
  | .ok none => cases h
  | .ok (some next') =>
      obtain ⟨hallowed, rfl⟩ : next'.state ∈ t.targets ∧ next' = next := by
        simpa [Transition.accepts?] using h
      simp [finish, hallowed]

end Finish

/-- Where a driven machine is. -/
inductive PassPhase (σ δ κ : Type) where
  /-- No pass runs. -/
  | resting
  /-- The action of a pass is in flight. -/
  | acting (transition : Transition σ κ)
  /-- The pass has signalled a state change, which has not been handled yet. -/
  | signalling (snapshot : Snapshot σ δ)

/-- A machine that somebody drives.  With `listening` somebody handles its state changes; `signals`
are those that were signalled, oldest first. -/
structure DrivenMachine (σ υ δ κ : Type) where
  machine : Machine σ υ δ κ
  listening : Bool
  phase : PassPhase σ δ κ := .resting
  signals : List (Snapshot σ δ) := []

/-- What happens to a driven machine. -/
inductive MachineEvent (σ υ δ : Type) where
  /-- A pass is to be run. -/
  | execute
  /-- The action in flight returns. -/
  | returns (r : ActionResult σ δ)
  /-- The signalled state change has been handled. -/
  | handled
  /-- An update is offered. -/
  | notify (u : υ)
  /-- The pending update is acknowledged. -/
  | acknowledge
  /-- The machine is told to stop. -/
  | stop

/-- The event may happen at any time, whether or not a pass runs. -/
def MachineEvent.isOutside {σ υ δ : Type} : MachineEvent σ υ δ → Bool
  | .notify _ => true
  | .acknowledge => true
  | .stop => true
  | _ => false

namespace DrivenMachine

variable {σ υ δ κ : Type} [DecidableEq σ]

/-- A machine that nothing has happened to. -/
def start (first : Snapshot σ δ) (listening : Bool) : DrivenMachine σ υ δ κ :=
  { machine := { current := first }, listening := listening }

/-- One event. -/
def step (b : Blueprint σ κ) (d : DrivenMachine σ υ δ κ) :
    MachineEvent σ υ δ → DrivenMachine σ υ δ κ
  | .execute =>
    match d.phase with
    | .resting =>
      let (machine, started) := d.machine.begin b
      match started with
      | .run t => { d with machine := machine, phase := .acting t }
      | _ => { d with machine := machine }
    | _ => d
  | .returns r =>
    match d.phase with
    | .acting t =>
      let (machine, ended) := d.machine.finish t r
      let d := { d with machine := machine, phase := .resting }
      match ended with
      | .moved next =>
        if d.listening then { d with phase := .signalling next, signals := d.signals ++ [next] }
        else d
      | _ => d
    | _ => d
  | .handled =>
    match d.phase with
    | .signalling _ => { d with phase := .resting }
    | _ => d
  | .notify u => { d with machine := (d.machine.notify u).1 }
  | .acknowledge => { d with machine := d.machine.acknowledge.1 }
  | .stop => { d with machine := d.machine.stop }

/-- A whole run. -/
def run (b : Blueprint σ κ) (d : DrivenMachine σ υ δ κ) (events : List (MachineEvent σ υ δ)) :
    DrivenMachine σ υ δ κ :=
  events.foldl (step b) d

/-- The snapshot that is accepted with an event, if one is. -/
def accepts? (d : DrivenMachine σ υ δ κ) : MachineEvent σ υ δ → Option (Snapshot σ δ)
  | .returns r =>
    match d.phase with
    | .acting t => t.accepts? r
    | _ => none
  | _ => none

/-- The snapshots that are accepted in a run, in their order. -/
def accepted (b : Blueprint σ κ) (d : DrivenMachine σ υ δ κ) :
    List (MachineEvent σ υ δ) → List (Snapshot σ δ)
  | [] => []
  | e :: rest => (d.accepts? e).toList ++ accepted b (d.step b e) rest

theorem run_append (b : Blueprint σ κ) (d : DrivenMachine σ υ δ κ)
    (events later : List (MachineEvent σ υ δ)) :
    run b d (events ++ later) = run b (run b d events) later :=
  List.foldl_append

/-! ## What single events do -/

section Step

variable {b : Blueprint σ κ} {d : DrivenMachine σ υ δ κ} {t : Transition σ κ}
  {r : ActionResult σ δ}

/-- What the outside does concerns the update slot alone. -/
theorem step_outside (b : Blueprint σ κ) (d : DrivenMachine σ υ δ κ) {e : MachineEvent σ υ δ}
    (he : e.isOutside = true) :
    ∃ slot, d.step b e = { d with machine := { d.machine with slot := slot } } := by
  cases e with
  | notify u => exact ⟨_, rfl⟩
  | acknowledge => exact ⟨_, rfl⟩
  | stop => exact ⟨_, rfl⟩
  | _ => cases he

/-- So does all that the outside does in a row. -/
theorem run_outside (b : Blueprint σ κ) (d : DrivenMachine σ υ δ κ)
    {events : List (MachineEvent σ υ δ)} (h : ∀ e ∈ events, e.isOutside = true) :
    ∃ slot, run b d events = { d with machine := { d.machine with slot := slot } } := by
  induction events generalizing d with
  | nil => exact ⟨d.machine.slot, rfl⟩
  | cons e rest ih =>
      obtain ⟨slot, hstep⟩ := step_outside b d (h e List.mem_cons_self)
      obtain ⟨slot', hrest⟩ := ih (d.step b e) fun e' he' => h e' (List.mem_cons_of_mem e he')
      refine ⟨slot', ?_⟩
      rw [run, List.foldl_cons, ← run, hrest, hstep]

/-- A machine that was told to stop begins no pass. -/
theorem step_execute_of_stopped (hstopped : d.machine.slot.stopped = true) :
    d.step b .execute = d := by
  obtain ⟨machine, listening, phase, signals⟩ := d
  dsimp only at hstopped
  cases phase <;> simp [step, Machine.begin, hstopped]

/-- Nor does a machine in a state without a transition. -/
theorem step_execute_of_none (hnone : b.transition? d.machine.current.state = none) :
    d.step b .execute = d := by
  obtain ⟨machine, listening, phase, signals⟩ := d
  dsimp only at hnone
  cases phase <;> cases hstopped : machine.slot.stopped <;>
    simp [step, Machine.begin, hnone, hstopped]

/-- Every other machine puts the action of its state in flight. -/
theorem step_execute_of_some (hphase : d.phase = .resting)
    (hlive : d.machine.slot.stopped = false)
    (ht : b.transition? d.machine.current.state = some t) :
    d.step b .execute =
      { d with machine := { d.machine with inFlight := some t.action }, phase := .acting t } := by
  simp [step, hphase, Machine.begin, hlive, ht]

/-- What is not accepted has no effect but that the pass is over. -/
theorem step_returns_of_none (hphase : d.phase = .acting t) (hr : t.accepts? r = none) :
    d.step b (.returns r) =
      { d with machine := { d.machine with inFlight := none }, phase := .resting } := by
  obtain ⟨hmachine, hend⟩ := d.machine.finish_of_none hr
  -- With `hend` the pass ends in none of the ways that are signalled.
  simp only [step, hphase, hmachine]

/-- What is accepted is committed as a whole, and signalled if somebody listens. -/
theorem step_returns_of_some {next : Snapshot σ δ} (hphase : d.phase = .acting t)
    (hr : t.accepts? r = some next) :
    d.step b (.returns r) =
      { d with
        machine := { d.machine with current := next, inFlight := none }
        phase := if d.listening then .signalling next else .resting
        signals := d.signals ++ if d.listening then [next] else [] } := by
  cases hlistening : d.listening <;>
    simp [step, hphase, d.machine.finish_of_some hr, hlistening]

/-- Only the pass that runs can return. -/
theorem step_returns_of_not_acting (hphase : ∀ t, d.phase ≠ .acting t) :
    d.step b (.returns r) = d := by
  cases h : d.phase with
  | acting t => exact absurd h (hphase t)
  | _ => simp [step, h]

end Step

/-! ## Whole runs -/

/-- What holds of every machine that is driven from a first snapshot. -/
structure Sound (b : Blueprint σ κ) (first : Snapshot σ δ) (d : DrivenMachine σ υ δ κ) : Prop where
  /-- The action of a pass is in flight exactly while the pass waits for it. -/
  inFlight : d.machine.inFlight = match d.phase with
    | .acting t => some t.action
    | _ => none
  /-- A pass runs the action of the state in which it began. -/
  acting : ∀ t, d.phase = .acting t → b.transition? d.machine.current.state = some t
  /-- What was signalled is where the machine is until the change has been handled. -/
  signalling : ∀ next, d.phase = .signalling next → d.machine.current = next
  /-- The table leads from the first state to the current one. -/
  reached : Relation.ReflTransGen b.Leads first.state d.machine.current.state

section Run

variable {b : Blueprint σ κ} {first : Snapshot σ δ} {d : DrivenMachine σ υ δ κ}

/-- What has to be shown of a machine that rests. -/
theorem Sound.of_resting (hphase : d.phase = .resting) (hidle : d.machine.inFlight = none)
    (hreached : Relation.ReflTransGen b.Leads first.state d.machine.current.state) :
    d.Sound b first where
  inFlight := by rw [hphase, hidle]
  acting t ht := by
    rw [hphase] at ht
    cases ht
  signalling next hnext := by
    rw [hphase] at hnext
    cases hnext
  reached := hreached

theorem sound_start (b : Blueprint σ κ) (first : Snapshot σ δ) (listening : Bool) :
    Sound b first (start first listening : DrivenMachine σ υ δ κ) :=
  .of_resting rfl rfl .refl

/-- The table leads to what a transition accepts. -/
theorem leads_of_accepts? {t : Transition σ κ} {s : σ} {r : ActionResult σ δ} {next : Snapshot σ δ}
    (ht : b.transition? s = some t) (hr : t.accepts? r = some next) : b.Leads s next.state := by
  match r with
  | .error cause => cases hr
  | .ok none => cases hr
  | .ok (some next') =>
      obtain ⟨hallowed, rfl⟩ : next'.state ∈ t.targets ∧ next' = next := by
        simpa [Transition.accepts?] using hr
      exact ⟨t, ht, hallowed⟩

/-- Every event keeps the machine sound. -/
theorem Sound.step (h : d.Sound b first) (e : MachineEvent σ υ δ) : (d.step b e).Sound b first := by
  cases e with
  | execute =>
      cases hphase : d.phase with
      | resting =>
          cases hstopped : d.machine.slot.stopped with
          | true =>
              rw [step_execute_of_stopped hstopped]
              exact h
          | false =>
              cases ht : b.transition? d.machine.current.state with
              | none =>
                  rw [step_execute_of_none ht]
                  exact h
              | some t =>
                  rw [step_execute_of_some hphase hstopped ht]
                  refine ⟨rfl, fun t' ht' => ?_, fun next hnext => ?_, h.reached⟩
                  · cases ht'
                    exact ht
                  · cases hnext
      | acting t => simpa [DrivenMachine.step, hphase] using h
      | signalling next => simpa [DrivenMachine.step, hphase] using h
  | returns r =>
      cases hphase : d.phase with
      | acting t =>
          cases hr : t.accepts? r with
          | none =>
              rw [step_returns_of_none hphase hr]
              exact .of_resting rfl rfl h.reached
          | some next =>
              rw [step_returns_of_some hphase hr]
              have hreached := h.reached.tail (leads_of_accepts? (h.acting t hphase) hr)
              cases hlistening : d.listening with
              | true =>
                  refine ⟨rfl, fun t' ht' => ?_, fun next' hnext => ?_, hreached⟩
                  · cases ht'
                  · cases hnext
                    rfl
              | false => exact .of_resting rfl rfl hreached
      | resting =>
          rw [step_returns_of_not_acting (by simp [hphase])]
          exact h
      | signalling next =>
          rw [step_returns_of_not_acting (by simp [hphase])]
          exact h
  | handled =>
      cases hphase : d.phase with
      | signalling next =>
          have hidle := h.inFlight
          simp only [hphase] at hidle
          simp only [DrivenMachine.step, hphase]
          exact .of_resting rfl hidle h.reached
      | resting => simpa [DrivenMachine.step, hphase] using h
      | acting t => simpa [DrivenMachine.step, hphase] using h
  | notify u => exact ⟨h.inFlight, h.acting, h.signalling, h.reached⟩
  | acknowledge => exact ⟨h.inFlight, h.acting, h.signalling, h.reached⟩
  | stop => exact ⟨h.inFlight, h.acting, h.signalling, h.reached⟩

/-- So does every run. -/
theorem Sound.run (h : d.Sound b first) (events : List (MachineEvent σ υ δ)) :
    (run b d events).Sound b first := by
  induction events generalizing d with
  | nil => exact h
  | cons e rest ih => exact ih (h.step e)

/-- What an event does to the snapshot and to the signals is to accept a snapshot, or nothing. -/
theorem step_accepts (b : Blueprint σ κ) (d : DrivenMachine σ υ δ κ) (e : MachineEvent σ υ δ) :
    (d.step b e).listening = d.listening ∧
      (d.step b e).machine.current = (d.accepts? e).getD d.machine.current ∧
      (d.step b e).signals = d.signals ++ if d.listening then (d.accepts? e).toList else [] := by
  cases e with
  | execute =>
      cases hphase : d.phase with
      | resting =>
          cases hstopped : d.machine.slot.stopped with
          | true => simp [step_execute_of_stopped hstopped, accepts?]
          | false =>
              cases ht : b.transition? d.machine.current.state with
              | none => simp [step_execute_of_none ht, accepts?]
              | some t => simp [step_execute_of_some hphase hstopped ht, accepts?]
      | _ => simp [step, hphase, accepts?]
  | returns r =>
      cases hphase : d.phase with
      | acting t =>
          cases hr : t.accepts? r with
          | none => simp [step_returns_of_none hphase hr, accepts?, hphase, hr]
          | some next => simp [step_returns_of_some hphase hr, accepts?, hphase, hr]
      | _ => simp [step, hphase, accepts?]
  | handled => cases hphase : d.phase <;> simp [step, hphase, accepts?]
  | notify u => simp [step, accepts?, Machine.notify]
  | acknowledge => simp [step, accepts?, Machine.acknowledge]
  | stop => simp [step, accepts?, Machine.stop]

/-- The snapshot of a machine is the one that was accepted last. -/
theorem current_run (b : Blueprint σ κ) (d : DrivenMachine σ υ δ κ)
    (events : List (MachineEvent σ υ δ)) :
    (run b d events).machine.current = (accepted b d events).getLastD d.machine.current := by
  induction events generalizing d with
  | nil => rfl
  | cons e rest ih =>
      obtain ⟨-, hcurrent, -⟩ := step_accepts b d e
      rw [run, List.foldl_cons, ← run, ih, hcurrent, accepted]
      cases d.accepts? e with
      | none => rfl
      | some next => exact (List.getLastD_cons ..).symm

/-- The state changes that were signalled are the snapshots that were accepted, if somebody
listens. -/
theorem signals_run (b : Blueprint σ κ) (d : DrivenMachine σ υ δ κ)
    (events : List (MachineEvent σ υ δ)) :
    (run b d events).signals = d.signals ++ if d.listening then accepted b d events else [] := by
  induction events generalizing d with
  | nil => simp [run, accepted]
  | cons e rest ih =>
      obtain ⟨hlistening, -, hsignals⟩ := step_accepts b d e
      rw [run, List.foldl_cons, ← run, ih, hsignals, hlistening, accepted]
      cases d.listening <;> simp

end Run

/-! ## All or nothing -/

/-- What a pass of a machine comes to, when the machine rests.  While its action is in flight, the
outside may do whatever it likes. -/
structure AllOrNothing (b : Blueprint σ κ) (d : DrivenMachine σ υ δ κ) : Prop where
  /-- A machine that was told to stop does nothing. -/
  stopped : d.machine.slot.stopped = true → d.step b .execute = d
  /-- Nor does a machine in a state without a transition. -/
  stuck : b.transition? d.machine.current.state = none → d.step b .execute = d
  /-- When the action fails, makes no transition, or returns a state that is none of the targets,
  the pass is over and nothing has changed. -/
  nothing : ∀ t, d.machine.slot.stopped = false →
    b.transition? d.machine.current.state = some t →
    ∀ meanwhile : List (MachineEvent σ υ δ), (∀ e ∈ meanwhile, e.isOutside = true) →
    ∀ r : ActionResult σ δ,
      (∀ next : Snapshot σ δ, r = .ok (some next) → next.state ∉ t.targets) →
      let d' : DrivenMachine σ υ δ κ := run b d (.execute :: (meanwhile ++ [.returns r]))
      d'.phase = .resting ∧ d'.machine.current = d.machine.current ∧
        d'.machine.inFlight = none ∧ d'.signals = d.signals
  /-- Otherwise exactly what was returned is committed, and signalled once if somebody listens.  The
  pass is over when the change has been handled. -/
  all : ∀ t, d.machine.slot.stopped = false →
    b.transition? d.machine.current.state = some t →
    ∀ meanwhile : List (MachineEvent σ υ δ), (∀ e ∈ meanwhile, e.isOutside = true) →
    ∀ next : Snapshot σ δ, next.state ∈ t.targets →
      let d' : DrivenMachine σ υ δ κ :=
        run b d (.execute :: (meanwhile ++ [.returns (.ok (some next)), .handled]))
      d'.phase = .resting ∧ d'.machine.current = next ∧ d'.machine.inFlight = none ∧
        d'.signals = d.signals ++ if d.listening then [next] else []

section Pass

variable {b : Blueprint σ κ} {d : DrivenMachine σ υ δ κ}

/-- A pass whose action is in flight, whatever the outside did since it began. -/
theorem run_execute {t : Transition σ κ} (hphase : d.phase = .resting)
    (hlive : d.machine.slot.stopped = false)
    (ht : b.transition? d.machine.current.state = some t)
    {meanwhile : List (MachineEvent σ υ δ)} (h : ∀ e ∈ meanwhile, e.isOutside = true) :
    ∃ slot, run b d (.execute :: meanwhile) =
      { d with
        machine := { d.machine with inFlight := some t.action, slot := slot }
        phase := .acting t } := by
  obtain ⟨slot, hslot⟩ := run_outside b (d.step b .execute) h
  refine ⟨slot, ?_⟩
  rw [run, List.foldl_cons, ← run, hslot, step_execute_of_some hphase hlive ht]

/-- Whatever the outside does meanwhile, a pass commits what its action returned, or nothing. -/
theorem allOrNothing_of_resting (hphase : d.phase = .resting) : d.AllOrNothing b where
  stopped := step_execute_of_stopped
  stuck := step_execute_of_none
  nothing t hlive ht meanwhile hmeanwhile r hr := by
    obtain ⟨slot, hacting⟩ := run_execute hphase hlive ht hmeanwhile
    have hnone : t.accepts? r = none := by
      match r with
      | .error cause => rfl
      | .ok none => rfl
      | .ok (some next) => exact if_neg (hr next rfl)
    rw [← List.cons_append, run_append, hacting, run, List.foldl_cons, List.foldl_nil,
      step_returns_of_none rfl hnone]
    exact ⟨rfl, rfl, rfl, rfl⟩
  all t hlive ht meanwhile hmeanwhile next hnext := by
    obtain ⟨slot, hacting⟩ := run_execute hphase hlive ht hmeanwhile
    have hsome : t.accepts? (.ok (some next)) = some next := if_pos hnext
    rw [← List.cons_append, run_append, hacting, run, List.foldl_cons, List.foldl_cons,
      List.foldl_nil, step_returns_of_some rfl hsome]
    cases d.listening <;> simp [step]

end Pass

end DrivenMachine

/-! ## Rehearsed passes -/

/-- The machine of a rehearsal, before anything was signalled. -/
def PassRehearsal.driven (r : PassRehearsal) : DrivenMachine String String Int String :=
  { machine := r.machine, listening := r.listening }

/-- What the listener of a rehearsal sees of a state change, apart from the pending update. -/
def Signal.seen (s : Signal) : String × Int :=
  (s.state, s.data)

namespace PassRehearsal

open DrivenMachine

/-- While a rehearsed action runs, the pending update may be acknowledged. -/
theorem perform_eq_run (r : PassRehearsal) (t : Transition String String) :
    ∃ meanwhile : List (MachineEvent String String Int),
      (∀ e ∈ meanwhile, e.isOutside = true) ∧
      (∀ d : DrivenMachine String String Int String, d.machine = r.machine →
        d.run r.blueprint meanwhile = { d with machine := (r.perform t).1.machine }) ∧
      (r.perform t).1.listening = r.listening ∧ (r.perform t).1.signals = r.signals := by
  have hidle (machine : Machine String String Int String) (hmachine : machine = r.machine)
      (d : DrivenMachine String String Int String) (hd : d.machine = r.machine) :
      d.run r.blueprint [] = { d with machine := machine } := by
    rw [hmachine, ← hd]
    rfl
  simp only [perform]
  cases (r.script.take t.action).1 with
  | none => exact ⟨[], by simp, hidle r.machine rfl, rfl, rfl⟩
  | some behaviour =>
      cases hacknowledges : behaviour.acknowledges with
      | false => exact ⟨[], by simp, hidle _ (by simp [hacknowledges]), rfl, rfl⟩
      | true =>
          refine ⟨[.acknowledge], by simp [MachineEvent.isOutside], fun d hd => ?_, rfl, rfl⟩
          simp [run, step, hd, hacknowledges]

/-- What a rehearsed pass leaves, once it has begun. -/
theorem execute_of_begun {r begun : PassRehearsal} {t : Transition String String}
    (h : r.machine.begin r.blueprint = (begun.machine, .run t))
    (hbegun : begun = { r with machine := begun.machine }) :
    let ended := (begun.perform t).1.machine.finish t (begun.perform t).2
    r.execute.1.machine = ended.1 ∧
      r.execute.1.signals = (begun.perform t).1.signals ++
        match ended.2 with
        | .moved s =>
          if (begun.perform t).1.listening then [⟨s.state, s.data, ended.1.slot.pending⟩] else []
        | _ => [] := by
  simp only [execute, h, ← hbegun]
  split <;> rename_i hended <;> simp [hended]

/-- A rehearsal executes a pass of its machine: what the outside did meanwhile, what the action
returned, and what everybody who listens has seen. -/
structure Executes (r : PassRehearsal) (meanwhile : List (MachineEvent String String Int))
    (result : ActionResult String Int) (d : DrivenMachine String String Int String) : Prop where
  outside : ∀ e ∈ meanwhile, e.isOutside = true
  pass : d = r.driven.run r.blueprint (.execute :: (meanwhile ++ [.returns result, .handled]))
  machine : r.execute.1.machine = d.machine
  heard : r.execute.1.signals.map Signal.seen =
    r.signals.map Signal.seen ++ d.signals.map fun s => (s.state, s.data)

/-- A pass that does not begin does nothing. -/
theorem executes_of_rest {r : PassRehearsal} (h : r.driven.step r.blueprint .execute = r.driven)
    (hmachine : r.execute.1.machine = r.machine) (hsignals : r.execute.1.signals = r.signals) :
    r.Executes [] (.ok none) r.driven where
  outside := by simp
  pass := by
    rw [run, List.foldl_cons, h]
    rfl
  machine := hmachine
  heard := by rw [hsignals, driven, List.map_nil, List.append_nil]

/-- A pass that begins is one in which the pending update may be acknowledged. -/
theorem executes_of_begun {r : PassRehearsal} {t : Transition String String}
    (hlive : r.machine.slot.stopped = false)
    (ht : r.blueprint.transition? r.machine.current.state = some t) :
    ∃ meanwhile result d, r.Executes meanwhile result d := by
  obtain ⟨begun, hbegun⟩ : ∃ begun : PassRehearsal,
      begun = { r with machine := { r.machine with inFlight := some t.action } } := ⟨_, rfl⟩
  have hsame : begun.blueprint = r.blueprint ∧ begun.signals = r.signals ∧
      begun.listening = r.listening := by
    rw [hbegun]
    exact ⟨rfl, rfl, rfl⟩
  have hbegin : r.machine.begin r.blueprint = (begun.machine, .run t) := by
    simp [Machine.begin, hlive, ht, hbegun]
  have hexecute : r.driven.step r.blueprint .execute =
      { r.driven with machine := begun.machine, phase := .acting t } := by
    rw [hbegun]
    exact step_execute_of_some rfl hlive ht
  obtain ⟨meanwhile, houtside, hperform, hlistening, hsignals⟩ := begun.perform_eq_run t
  rw [hsame.1] at hperform
  obtain ⟨hmachine, hheard⟩ := execute_of_begun hbegin (by rw [hbegun])
  rw [hsignals, hlistening, hsame.2.1, hsame.2.2] at hheard
  have hpass : r.driven.run r.blueprint
      (.execute :: (meanwhile ++ [.returns (begun.perform t).2, .handled])) =
      (({ r.driven with machine := (begun.perform t).1.machine, phase := .acting t } :
        DrivenMachine String String Int String).step r.blueprint
          (.returns (begun.perform t).2)).step r.blueprint .handled := by
    rw [run, List.foldl_cons, ← run, run_append, hexecute, hperform _ rfl]
    rfl
  have hdone : ∀ d, d = r.driven.run r.blueprint
      (.execute :: (meanwhile ++ [.returns (begun.perform t).2, .handled])) →
      r.execute.1.machine = d.machine ∧ r.execute.1.signals.map Signal.seen =
        r.signals.map Signal.seen ++ d.signals.map fun s => (s.state, s.data) := by
    rintro d rfl
    rw [hpass]
    cases hresult : t.accepts? (begun.perform t).2 with
    | none =>
        obtain ⟨hfinish, hend⟩ := (begun.perform t).1.machine.finish_of_none hresult
        rw [step_returns_of_none rfl hresult]
        simp [hmachine, hheard, hfinish, step, driven]
    | some next =>
        have hfinish := (begun.perform t).1.machine.finish_of_some hresult
        rw [step_returns_of_some rfl hresult]
        cases hlistens : r.listening <;>
          simp [hmachine, hheard, hfinish, step, driven, hlistens, Signal.seen]
  exact ⟨meanwhile, (begun.perform t).2, _, houtside, rfl, (hdone _ rfl).1, (hdone _ rfl).2⟩

/-- A rehearsed pass is a pass of its machine. -/
theorem execute_eq_run (r : PassRehearsal) :
    ∃ meanwhile result d, r.Executes meanwhile result d := by
  cases hstopped : r.machine.slot.stopped with
  | true =>
      refine ⟨_, _, _, executes_of_rest (step_execute_of_stopped hstopped) ?_ ?_⟩ <;>
        simp [execute, Machine.begin, hstopped]
  | false =>
      cases ht : r.blueprint.transition? r.machine.current.state with
      | none =>
          refine ⟨_, _, _, executes_of_rest (step_execute_of_none ht) ?_ ?_⟩ <;>
            simp [execute, Machine.begin, hstopped, ht]
      | some t => exact executes_of_begun hstopped ht

end PassRehearsal

open DrivenMachine

/-- Take any table, any first snapshot, with somebody listening or not, and any run in which passes
are executed, updates are offered and the machine is told to stop, whatever the actions return.  An
action is in flight exactly while a pass waits for it, and the table leads from the first state to
the current one.  The snapshot is the one that was accepted last, and the signals are those that
were accepted.  A pass either commits exactly what its action returned and signals it once, or
leaves everything as it was.  A rehearsed pass is such a pass. -/
theorem pass_all_or_nothing {σ υ δ κ : Type} [DecidableEq σ] :
    (∀ (b : Blueprint σ κ) (first : Snapshot σ δ) (listening : Bool)
      (events : List (MachineEvent σ υ δ)),
      let begun : DrivenMachine σ υ δ κ := start first listening
      let d : DrivenMachine σ υ δ κ := run b begun events
      d.Sound b first ∧
      d.machine.current = (accepted b begun events).getLastD first ∧
      d.signals = (if listening then accepted b begun events else []) ∧
      (d.phase = .resting → d.AllOrNothing b)) ∧
    ∀ r : PassRehearsal, ∃ meanwhile result d, r.Executes meanwhile result d := by
  refine ⟨fun b first listening events => ?_, PassRehearsal.execute_eq_run⟩
  exact ⟨(sound_start b first listening).run events, current_run b _ events, signals_run b _ events,
    allOrNothing_of_resting⟩

/-- A door is opened although somebody knocks and the machine is told to stop meanwhile; it is left
as it is when the action returns a state that the table does not know of; and a machine that was
told to stop before does nothing. -/
theorem door_opens_or_stays :
    let unlock : Transition String String := ⟨"closed", "unlock", ["open"]⟩
    let b : Blueprint String String := PassRehearsal.blueprintOf [unlock] [] ["open"]
    let first : Snapshot String Int := { state := "closed", data := 0 }
    let opened : Snapshot String Int := { state := "open", data := 1 }
    let d : DrivenMachine String String Int String := start first true
    let knock : MachineEvent String String Int := .notify "knock"
    let d₁ := run b d [.execute, knock, .stop, .returns (.ok (some opened)), .handled]
    let d₂ := run b d [.execute, knock, .returns (.ok (some { opened with state := "ajar" }))]
    let d₃ := run b d [.stop]
    (d₁.machine.current = opened ∧ d₁.signals = [opened]) ∧
      (d₂.machine.current = first ∧ d₂.signals = []) ∧ d₃.step b .execute = d₃ := by
  intro unlock b first opened d knock d₁ d₂ d₃
  obtain ⟨hpasses, -⟩ := pass_all_or_nothing (σ := String) (υ := String) (δ := Int) (κ := String)
  have hrest : d.AllOrNothing b := (hpasses b first true []).2.2.2 rfl
  have hstopped : d₃.AllOrNothing b := (hpasses b first true [.stop]).2.2.2 rfl
  have houtside : ∀ e ∈ [knock, .stop], e.isOutside = true := by
    simp [knock, MachineEvent.isOutside]
  have hknock : ∀ e ∈ [knock], e.isOutside = true := by simp [knock, MachineEvent.isOutside]
  obtain ⟨-, hopened, -, hheard⟩ :=
    hrest.all unlock rfl rfl [knock, .stop] houtside opened (by simp [unlock, opened])
  obtain ⟨-, hkept, -, hsilent⟩ :=
    hrest.nothing unlock rfl rfl [knock] hknock (.ok (some { opened with state := "ajar" }))
      (by simp [unlock])
  exact ⟨⟨hopened, hheard⟩, ⟨hkept, hsilent⟩, hstopped.stopped rfl⟩

end Orchestration
