import Orchestration.Rehearsal.Script

/-!
# Rehearsing single passes

A machine with scripted actions is run pass by pass.  Its states and updates are texts and its data
is a number, to which a behaviour may add.  Where a state change is signalled, somebody listens and
the pass goes on once the change was taken.

Main definitions: `PassRehearsal.execute` and the operations on the update slot.
-/

namespace Orchestration

/-- An execution of an action: its name, the state in which it ran, and the update that was pending
when it started. -/
structure Execution where
  action : String
  state : String
  pending : Option String

/-- A state change as the listener sees it. -/
structure Signal where
  state : String
  data : Int
  pending : Option String

/-- A machine under rehearsal, with what has happened so far. -/
structure PassRehearsal where
  blueprint : Blueprint String String
  machine : Machine String String Int String
  script : Script (Behaviour String) := ∅
  listening : Bool := true
  ran : List Execution := []
  signals : List Signal := []

namespace PassRehearsal

/-- The blueprint of a machine whose states and actions are their own names. -/
def blueprintOf (table : List (Transition String String)) (paused terminal : List String) :
    Blueprint String String where
  table := table
  isPaused := paused.contains
  isTerminal := terminal.contains
  stateName := id
  actionName := id

/-- Runs the action of a transition to its end. -/
def perform (r : PassRehearsal) (t : Transition String String) :
    PassRehearsal × ActionResult String Int :=
  let (behaviour, script) := r.script.take t.action
  let current := r.machine.current
  let r := { r with
    script := script
    ran := r.ran ++ [⟨t.action, current.state, r.machine.slot.pending⟩] }
  match behaviour with
  | none => (r, .ok none)
  | some b =>
    let machine := if b.acknowledges then r.machine.acknowledge.1 else r.machine
    ({ r with machine := machine }, b.result (· + ·) current)

/-- Runs one pass: the state that it ends in, nothing for a stopped machine, or the error. -/
def execute (r : PassRehearsal) :
    PassRehearsal × Except (MachineError String String) (Option String) :=
  let (machine, started) := r.machine.begin r.blueprint
  let r := { r with machine := machine }
  match started with
  | .stopped => (r, .ok none)
  | .refused error => (r, .error error)
  | .run t =>
    let (r, result) := r.perform t
    let (machine, ended) := r.machine.finish t result
    let r := { r with machine := machine }
    match ended with
    | .failed error => (r, .error error)
    | .stayed state => (r, .ok (some state))
    | .moved s =>
      let heard := if r.listening then [⟨s.state, s.data, r.machine.slot.pending⟩] else []
      ({ r with signals := r.signals ++ heard }, .ok (some s.state))

/-- Stages an update. -/
def notify (r : PassRehearsal) (update : String) : PassRehearsal × Bool :=
  let (machine, accepted) := r.machine.notify update
  ({ r with machine := machine }, accepted)

/-- Clears the pending update. -/
def acknowledge (r : PassRehearsal) : PassRehearsal × Bool :=
  let (machine, held) := r.machine.acknowledge
  ({ r with machine := machine }, held)

/-- Tells the machine to stop. -/
def stop (r : PassRehearsal) : PassRehearsal :=
  { r with machine := r.machine.stop }

end PassRehearsal
end Orchestration
