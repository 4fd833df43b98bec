import Orchestration.Machine.Blueprint
import Orchestration.Machine.Slot

/-!
# Machine passes

A pass runs the action of the current state once.  It begins unless the machine was told to stop
or the state has no transition; it ends with what the action returned.  A state that the
transition allows is committed as a whole, together with its data and error; in every other case
the machine is left as it was.

Main results:

- `Machine.begin_current`, `Machine.finish_current`: what a pass does to the current snapshot.
- `Machine.transition?_of_begin`: the pass that begins runs the transition of the current state.
- `Machine.inFlight_finish`: after a pass no action is in flight.
-/

namespace Orchestration

/-- Why an action did not succeed. -/
inductive ActionError where
  | unexpectedOperation (operation : String)
  | cancelled
  | failed (reason : String)
  deriving DecidableEq, Repr

namespace ActionError

/-- The text of an action's error. -/
def message : ActionError → String
  | .unexpectedOperation operation => "Unexpected operation: " ++ operation
  | .cancelled => "Action cancelled"
  | .failed reason => reason

end ActionError

/-- Why a pass did not succeed. -/
inductive MachineError (σ κ : Type) where
  | illegalTransition (source target : σ)
  | noTransition (state : σ)
  | action (key : κ) (cause : ActionError)
  deriving DecidableEq, Repr

namespace MachineError

variable {σ κ : Type}

/-- The text of an error of a pass. -/
def message (b : Blueprint σ κ) : MachineError σ κ → String
  | .illegalTransition source target =>
    "Illegal transition from " ++ b.stateName source ++ " to " ++ b.stateName target
  | .noTransition state => "No transition defined for state " ++ b.stateName state
  | .action key cause => "Action " ++ b.actionName key ++ " failed: " ++ cause.message

/-- The text of the same error as an engine reports it. -/
def engineMessage (b : Blueprint σ κ) (e : MachineError σ κ) : String :=
  "State machine error: " ++ e.message b

end MachineError

/-- What an action returns: an error, no transition, or the snapshot to move to. -/
abbrev ActionResult (σ δ : Type) : Type :=
  Except ActionError (Option (Snapshot σ δ))

/-- The changing part of a machine. -/
structure Machine (σ υ δ κ : Type) where
  current : Snapshot σ δ
  slot : Slot υ := {}
  inFlight : Option κ := none

/-- How a pass begins. -/
inductive PassStart (σ κ : Type) where
  | stopped
  | refused (error : MachineError σ κ)
  | run (transition : Transition σ κ)

/-- How a pass ends. -/
inductive PassEnd (σ δ κ : Type) where
  | failed (error : MachineError σ κ)
  | stayed (state : σ)
  | moved (snapshot : Snapshot σ δ)

namespace Machine

variable {σ υ δ κ : Type} [DecidableEq σ]

/-- Begins a pass: the action of the current state goes in flight, unless the machine is stopped
or the state has no transition. -/
def begin (b : Blueprint σ κ) (m : Machine σ υ δ κ) : Machine σ υ δ κ × PassStart σ κ :=
  if m.slot.stopped then (m, .stopped)
  else
    match b.transition? m.current.state with
    | none => (m, .refused (.noTransition m.current.state))
    | some t => ({ m with inFlight := some t.action }, .run t)

/-- Ends a pass with what the action returned. -/
def finish (m : Machine σ υ δ κ) (t : Transition σ κ) (r : ActionResult σ δ) :
    Machine σ υ δ κ × PassEnd σ δ κ :=
  let m := { m with inFlight := none }
  match r with
  | .error cause => (m, .failed (.action t.action cause))
  | .ok none => (m, .stayed m.current.state)
  | .ok (some next) =>
    if t.targets.contains next.state then ({ m with current := next }, .moved next)
    else (m, .failed (.illegalTransition m.current.state next.state))

/-- Stages an update. -/
def notify (m : Machine σ υ δ κ) (u : υ) : Machine σ υ δ κ × Bool :=
  let (slot, accepted) := m.slot.record u
  ({ m with slot := slot }, accepted)

/-- Clears the pending update. -/
def acknowledge (m : Machine σ υ δ κ) : Machine σ υ δ κ × Bool :=
  let (slot, held) := m.slot.acknowledge
  ({ m with slot := slot }, held)

/-- Tells the machine to stop. -/
def stop (m : Machine σ υ δ κ) : Machine σ υ δ κ :=
  { m with slot := m.slot.markStopped }

@[simp]
theorem begin_current (b : Blueprint σ κ) (m : Machine σ υ δ κ) :
    (m.begin b).1.current = m.current := by
  unfold begin
  split
  · rfl
  · split <;> rfl

@[simp]
theorem begin_slot (b : Blueprint σ κ) (m : Machine σ υ δ κ) : (m.begin b).1.slot = m.slot := by
  unfold begin
  split
  · rfl
  · split <;> rfl

/-- Only a machine that was told to stop begins no pass. -/
theorem not_stopped_of_begin {b : Blueprint σ κ} {m : Machine σ υ δ κ}
    (h : m.slot.stopped = false) : (m.begin b).2 ≠ .stopped := by
  simp only [begin, h, Bool.false_eq_true, if_false]
  split <;> simp

/-- The pass that begins runs the transition of the current state. -/
theorem transition?_of_begin {b : Blueprint σ κ} {m : Machine σ υ δ κ} {t : Transition σ κ}
    (h : (m.begin b).2 = .run t) : b.transition? m.current.state = some t := by
  unfold begin at h
  split at h
  · cases h
  · split at h
    · cases h
    · cases h
      assumption

@[simp]
theorem finish_slot (m : Machine σ υ δ κ) (t : Transition σ κ) (r : ActionResult σ δ) :
    (m.finish t r).1.slot = m.slot := by
  unfold finish
  split
  · rfl
  · rfl
  · dsimp only
    split <;> rfl

/-- After a pass no action is in flight. -/
@[simp]
theorem inFlight_finish (m : Machine σ υ δ κ) (t : Transition σ κ) (r : ActionResult σ δ) :
    (m.finish t r).1.inFlight = none := by
  unfold finish
  split
  · rfl
  · rfl
  · dsimp only
    split <;> rfl

/-- How a pass ends depends on the current snapshot, and on nothing else that changes. -/
theorem finish_congr {m m' : Machine σ υ δ κ} (h : m.current = m'.current) (t : Transition σ κ)
    (r : ActionResult σ δ) : (m.finish t r).2 = (m'.finish t r).2 := by
  simp only [finish, h]
  split
  · rfl
  · rfl
  · split <;> rfl

/-- The current snapshot changes exactly to a snapshot that the pass reports as reached. -/
theorem finish_current (m : Machine σ υ δ κ) (t : Transition σ κ) (r : ActionResult σ δ) :
    (m.finish t r).1.current =
      match (m.finish t r).2 with
      | .moved next => next
      | _ => m.current := by
  unfold finish
  split
  · rfl
  · rfl
  · dsimp only
    split <;> rfl

/-- A pass moves the machine to the snapshot that the action returned, where the transition allows
that. -/
theorem result_of_moved {m : Machine σ υ δ κ} {t : Transition σ κ} {r : ActionResult σ δ}
    {next : Snapshot σ δ} (h : (m.finish t r).2 = .moved next) :
    r = .ok (some next) ∧ next.state ∈ t.targets := by
  unfold finish at h
  split at h
  · cases h
  · cases h
  · dsimp only at h
    split at h <;> rename_i hallowed
    · cases h
      exact ⟨rfl, List.contains_iff_mem.1 hallowed⟩
    · cases h

/-- A pass that ends where it began reports the current state. -/
theorem state_of_stayed {m : Machine σ υ δ κ} {t : Transition σ κ} {r : ActionResult σ δ} {s : σ}
    (h : (m.finish t r).2 = .stayed s) : s = m.current.state := by
  unfold finish at h
  split at h
  · cases h
  · cases h
    rfl
  · dsimp only at h
    split at h <;> cases h

end Machine
end Orchestration
