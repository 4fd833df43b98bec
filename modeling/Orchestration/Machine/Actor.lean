import Orchestration.Machine.Pass

/-!
# Actors

An actor drives one machine in a loop of its own: pass after pass, parking in the states in which
the machine waits, pausing after a pass that failed, and leaving the loop in a state that is
terminal or once the machine is stopped.  The loop is given as a set of steps between the points
at which it waits, so that every interleaving of notifications, stop requests and loop steps is a
sequence of the functions below.

Two flags wake a parked loop.  `wake` says that an update was staged since the loop last looked;
`permit` is the stored or delivered notification that makes a blocked loop look again.

Main definitions:

- `Actor.begin`, `Actor.finish`, `Actor.acknowledged`, `Actor.elapsed`, `Actor.resume`: the loop.
- `Actor.notify`, `Actor.start`, `Actor.requestStop`, `Actor.abort`: the outside.

Main results:

- `Actor.park_eq`, `Actor.continueIn_eq`: between two passes only the phase and the two flags that
  wake the loop change.
- `Actor.notify_of_free`, `Actor.notify_of_pending`: an update is staged where none is pending, and
  refused as a whole otherwise.
-/

namespace Orchestration

/-- Where the loop of an actor is. -/
inductive Phase (σ δ κ : Type) where
  /-- No loop was started. -/
  | idle
  /-- The loop is about to begin a pass. -/
  | ready
  /-- An action is in flight. -/
  | acting (transition : Transition σ κ)
  /-- A state change was signalled and has not been handled yet. -/
  | signalling (snapshot : Snapshot σ δ)
  /-- A pass failed and the loop pauses. -/
  | backingOff
  /-- The loop is blocked until it is notified. -/
  | parked
  /-- The loop has ended. -/
  | exited
  /-- The loop was cut off. -/
  | aborted

namespace Phase

variable {σ δ κ : Type}

/-- The loop has ended in one way or the other. -/
def isFinished : Phase σ δ κ → Bool
  | .exited => true
  | .aborted => true
  | _ => false

end Phase

/-- An actor: its machine, its place in the loop, and its flags.  `held` says that the running
loop is still known to the actor; a stop takes it over. -/
structure Actor (σ υ δ κ : Type) where
  machine : Machine σ υ δ κ
  phase : Phase σ δ κ := .idle
  wake : Bool := false
  permit : Bool := false
  stopRequested : Bool := false
  held : Bool := false

namespace Actor

variable {σ υ δ κ : Type} [DecidableEq σ]

/-- Whether the loop is known and alive. -/
def isRunning (a : Actor σ υ δ κ) : Bool :=
  a.held && !a.phase.isFinished

/-- Starts the loop; ignored when it was started or stopped before. -/
def start (a : Actor σ υ δ κ) : Actor σ υ δ κ :=
  if a.held || a.stopRequested then a else { a with phase := .ready, held := true }

/-- Stages an update and wakes the loop; refused when an update is pending. -/
def notify (a : Actor σ υ δ κ) (u : υ) : Actor σ υ δ κ × Bool :=
  let (machine, accepted) := a.machine.notify u
  if accepted then ({ a with machine := machine, wake := true, permit := true }, true)
  else (a, false)

/-- Clears the pending update. -/
def acknowledge (a : Actor σ υ δ κ) : Actor σ υ δ κ :=
  { a with machine := a.machine.acknowledge.1 }

/-- The loop comes to a waiting state.  It goes on at once when an update was staged since it last
looked or the machine is stopped; otherwise it uses up any stored notification and blocks. -/
def park (a : Actor σ υ δ κ) : Actor σ υ δ κ :=
  if a.wake || a.machine.slot.stopped then { a with phase := .ready, wake := false }
  else { a with phase := .parked, permit := false }

/-- The loop goes on in a state: it ends, parks, or begins the next pass. -/
def continueIn (b : Blueprint σ κ) (a : Actor σ υ δ κ) (s : σ) : Actor σ υ δ κ :=
  if b.isTerminal s then { a with phase := .exited }
  else if b.isPaused s then a.park
  else { a with phase := .ready }

/-- The loop begins a pass. -/
def begin (b : Blueprint σ κ) (a : Actor σ υ δ κ) : Actor σ υ δ κ :=
  match a.phase with
  | .ready =>
    let (machine, started) := a.machine.begin b
    match started with
    | .stopped => { a with machine := machine, phase := .exited }
    | .refused _ => { a with machine := machine, phase := .backingOff }
    | .run t => { a with machine := machine, phase := .acting t }
  | _ => a

/-- The action in flight returns.  With `signals` a state change waits to be handled before the
loop goes on. -/
def finish (b : Blueprint σ κ) (signals : Bool) (a : Actor σ υ δ κ) (r : ActionResult σ δ) :
    Actor σ υ δ κ :=
  match a.phase with
  | .acting t =>
    let (machine, ended) := a.machine.finish t r
    let a := { a with machine := machine }
    match ended with
    | .failed _ => { a with phase := .backingOff }
    | .stayed s => a.continueIn b s
    | .moved next =>
      if signals then { a with phase := .signalling next } else a.continueIn b next.state
  | _ => a

/-- The signalled state change has been handled. -/
def acknowledged (b : Blueprint σ κ) (a : Actor σ υ δ κ) : Actor σ υ δ κ :=
  match a.phase with
  | .signalling next => a.continueIn b next.state
  | _ => a

/-- The pause after a failed pass is over. -/
def elapsed (b : Blueprint σ κ) (a : Actor σ υ δ κ) : Actor σ υ δ κ :=
  match a.phase with
  | .backingOff =>
    if b.isPaused a.machine.current.state then a.park else { a with phase := .ready }
  | _ => a

/-- A blocked loop that was notified looks again. -/
def resume (a : Actor σ υ δ κ) : Actor σ υ δ κ :=
  match a.phase with
  | .parked => if a.permit then { a with permit := false }.park else a
  | _ => a

/-- Asks the actor to stop: no further pass begins.  Says whether the caller now has a loop to
wait for; a second request is ignored. -/
def requestStop (a : Actor σ υ δ κ) : Actor σ υ δ κ × Bool :=
  if a.stopRequested then (a, false)
  else
    ({ a with
        machine := a.machine.stop, stopRequested := true, permit := true, held := false }, a.held)

/-- Cuts the loop off.  The action in flight stays registered. -/
def abort (a : Actor σ υ δ κ) : Actor σ υ δ κ :=
  if a.phase.isFinished then a else { a with phase := .aborted }

omit [DecidableEq σ] in
/-- Parking changes the phase and the flags that wake the loop. -/
theorem park_eq (a : Actor σ υ δ κ) :
    ∃ phase wake permit, a.park = { a with phase := phase, wake := wake, permit := permit } := by
  unfold park
  split
  · exact ⟨_, _, a.permit, rfl⟩
  · exact ⟨_, a.wake, _, rfl⟩

omit [DecidableEq σ] in
/-- A loop that parks leaves the machine alone. -/
@[simp]
theorem machine_park (a : Actor σ υ δ κ) : a.park.machine = a.machine := by
  obtain ⟨_, _, _, h⟩ := a.park_eq
  rw [h]

omit [DecidableEq σ] in
/-- It is not asked to stop by that. -/
@[simp]
theorem stopRequested_park (a : Actor σ υ δ κ) : a.park.stopRequested = a.stopRequested := by
  obtain ⟨_, _, _, h⟩ := a.park_eq
  rw [h]

omit [DecidableEq σ] in
/-- Nor is it let go of. -/
@[simp]
theorem held_park (a : Actor σ υ δ κ) : a.park.held = a.held := by
  obtain ⟨_, _, _, h⟩ := a.park_eq
  rw [h]

omit [DecidableEq σ] in
/-- Going on changes the phase and the flags that wake the loop. -/
theorem continueIn_eq (b : Blueprint σ κ) (a : Actor σ υ δ κ) (s : σ) :
    ∃ phase wake permit,
      a.continueIn b s = { a with phase := phase, wake := wake, permit := permit } := by
  unfold continueIn
  split
  · exact ⟨_, a.wake, a.permit, rfl⟩
  · split
    · exact a.park_eq
    · exact ⟨_, a.wake, a.permit, rfl⟩

omit [DecidableEq σ] in
/-- A loop that goes on leaves the machine alone. -/
@[simp]
theorem machine_continueIn (b : Blueprint σ κ) (a : Actor σ υ δ κ) (s : σ) :
    (a.continueIn b s).machine = a.machine := by
  obtain ⟨_, _, _, h⟩ := a.continueIn_eq b s
  rw [h]

omit [DecidableEq σ] in
/-- It is not asked to stop by that. -/
@[simp]
theorem stopRequested_continueIn (b : Blueprint σ κ) (a : Actor σ υ δ κ) (s : σ) :
    (a.continueIn b s).stopRequested = a.stopRequested := by
  obtain ⟨_, _, _, h⟩ := a.continueIn_eq b s
  rw [h]

omit [DecidableEq σ] in
/-- Nor is it let go of. -/
@[simp]
theorem held_continueIn (b : Blueprint σ κ) (a : Actor σ υ δ κ) (s : σ) :
    (a.continueIn b s).held = a.held := by
  obtain ⟨_, _, _, h⟩ := a.continueIn_eq b s
  rw [h]

omit [DecidableEq σ] in
/-- An update is staged where none is pending, and wakes the loop. -/
theorem notify_of_free {a : Actor σ υ δ κ} (h : a.machine.slot.pending = none) (u : υ) :
    a.notify u =
      ({ a with
          machine := { a.machine with slot := { a.machine.slot with pending := some u } }
          wake := true, permit := true }, true) := by
  simp [notify, Machine.notify, Slot.record, h]

omit [DecidableEq σ] in
/-- An update is refused as a whole while another one is pending. -/
theorem notify_of_pending {a : Actor σ υ δ κ} {u : υ} (h : a.machine.slot.pending = some u)
    (v : υ) : a.notify v = (a, false) := by
  simp [notify, Machine.notify, Slot.record, h]

end Actor
end Orchestration
