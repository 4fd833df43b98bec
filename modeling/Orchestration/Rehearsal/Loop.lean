import Orchestration.Machine.Actor
import Orchestration.Rehearsal.Agenda
import Orchestration.Rehearsal.Passes

/-!
# Rehearsing the loop of one actor

One actor with scripted actions plays against an agenda.  An action without a script makes no
transition in a waiting state and hangs in any other.  A stop polls until the loop has ended, and
cuts it off when that takes too long.

Main definitions: `LoopRehearsal.turn`, `LoopRehearsal.stop`, `LoopRehearsal.cancel`.
-/

namespace Orchestration

/-- An actor under rehearsal.  `completed` counts the times that its loop came to its end. -/
structure LoopRehearsal where
  blueprint : Blueprint String String
  actor : Actor String String Int String
  agenda : Agenda Unit := {}
  script : Script (Behaviour String) := ∅
  stopRetry : RetrySpec := {}
  errorBackoffMs : Nat := 100
  performance : Option (Performance String) := none
  ran : List Execution := []
  completed : Nat := 0

namespace LoopRehearsal

/-- Whether the loop can go on without any time passing. -/
def isRunnable (r : LoopRehearsal) : Bool :=
  match r.actor.phase with
  | .ready => true
  | .parked => r.actor.permit
  | .acting _ => (r.performance.map Performance.isReleased).getD false
  | _ => false

/-- Lets the loop go on as soon as its turn comes, if it can. -/
def rouse (r : LoopRehearsal) : LoopRehearsal :=
  if r.isRunnable then { r with agenda := r.agenda.wake () } else r

/-- The loop goes on at once when it begins another pass, pauses after a failure, and is counted
when it has ended. -/
def settle (r : LoopRehearsal) : LoopRehearsal :=
  match r.actor.phase with
  | .ready => { r with agenda := r.agenda.again () }
  | .backingOff =>
    if r.errorBackoffMs = 0 then { r with agenda := r.agenda.again () }
    else { r with agenda := r.agenda.after r.errorBackoffMs () }
  | .exited => { r with completed := r.completed + 1 }
  | _ => r

/-- The action in flight returns. -/
def finish (r : LoopRehearsal) (result : ActionResult String Int) : LoopRehearsal :=
  { r with actor := r.actor.finish r.blueprint false result, performance := none }.settle

/-- The delay of an action is over. -/
def afterDelay (r : LoopRehearsal) (b : Behaviour String) (stopped : Bool) : LoopRehearsal :=
  let r := if b.acknowledges then { r with actor := r.actor.acknowledge } else r
  match Performance.afterDelay b with
  | some w =>
    { r with performance := some { behaviour := b, waiting := w, stopped := stopped } }.rouse
  | none => r.finish (b.result (· + ·) r.actor.machine.current)

/-- What an action does that has no script. -/
def unscripted (r : LoopRehearsal) (state : String) : Behaviour String :=
  { hangs := !r.blueprint.isPaused state }

/-- The action of a transition starts. -/
def perform (r : LoopRehearsal) (t : Transition String String) : LoopRehearsal :=
  let (behaviour, script) := r.script.take t.action
  let state := r.actor.machine.current.state
  let r := { r with
    script := script
    ran := r.ran ++ [Execution.mk t.action state r.actor.machine.slot.pending] }
  let b := behaviour.getD (r.unscripted state)
  if b.delayMs = 0 then r.afterDelay b false
  else
    { r with
      agenda := r.agenda.after b.delayMs ()
      performance := some { behaviour := b, waiting := .delay } }

/-- The loop begins a pass. -/
def begin (r : LoopRehearsal) : LoopRehearsal :=
  let r := { r with actor := r.actor.begin r.blueprint }
  match r.actor.phase with
  | .acting t => r.perform t
  | _ => r.settle

/-- An action in flight goes on. -/
def proceed (r : LoopRehearsal) : LoopRehearsal :=
  match r.performance with
  | none => r
  | some p =>
    match p.waiting with
    | .delay => r.afterDelay p.behaviour p.stopped
    | .hang => r
    | .block =>
      if p.isReleased then r.finish (p.result (· + ·) r.actor.machine.current) else r

/-- The loop goes on until it waits again. -/
def turn (r : LoopRehearsal) : LoopRehearsal :=
  match r.actor.phase with
  | .ready => r.begin
  | .acting _ => r.proceed
  | .backingOff => { r with actor := r.actor.elapsed r.blueprint }.settle
  | .parked => { r with actor := r.actor.resume }.settle
  | _ => r

instance : Stage LoopRehearsal Unit where
  agenda := agenda
  withAgenda r a := { r with agenda := a }
  turn r _ := r.turn

/-- Starts the loop. -/
def start (r : LoopRehearsal) : LoopRehearsal :=
  { r with actor := r.actor.start }.rouse

/-- Stages an update and wakes the loop. -/
def notify (r : LoopRehearsal) (update : String) : LoopRehearsal × Bool :=
  let (actor, accepted) := r.actor.notify update
  ({ r with actor := actor }.rouse, accepted)

/-- Cancels the action in flight, if there is one; says whether it could be cancelled. -/
def cancel (r : LoopRehearsal) : LoopRehearsal × Option Bool :=
  match r.actor.machine.inFlight, r.performance with
  | some _, some p =>
    let (p, cancelled) := p.cancel
    ({ r with performance := some p }.rouse, some cancelled)
  | some _, none => (r, some false)
  | none, _ => (r, none)

/-- Stops the actor and waits for its loop to end; says how long that took. -/
def stop (r : LoopRehearsal) : LoopRehearsal × Nat :=
  let started := r.agenda.now
  let (actor, awaits) := r.actor.requestStop
  let r := { r with actor := actor, performance := r.performance.map Performance.stop }
  if !awaits then (r, 0)
  else
    let (r, held) :=
      Stage.poll r.stopRetry (fun r : LoopRehearsal => r.actor.phase.isFinished) r.rouse
    let r := if held then r else { r with actor := r.actor.abort }
    (r, r.agenda.now - started)

end LoopRehearsal
end Orchestration
