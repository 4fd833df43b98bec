import Orchestration.Rehearsal.Agenda
import Orchestration.Task.Session

/-!
# Rehearsing a job session

Jobs that wait for a time and then yield a given result are carried out in a session.  A job that
heeds cancellation fails when the session was cancelled before it ends.  A job that does not wait
ends as soon as it has begun.

Main definitions: `JobsRehearsal.turn`, `JobsRehearsal.finish`, `JobsRehearsal.cancelAt`.
-/

namespace Orchestration

/-- A job whose course is laid down. -/
structure ScriptedJob where
  number : Nat
  id : String
  result : Bool
  delayMs : Nat := 0
  heedsCancel : Bool := false

/-- What the jobs of a session log. -/
inductive JobLog where
  | started (id : String)
  | ended (id : String) (result : Bool)

namespace JobLog

/-- The text of an entry. -/
def text : JobLog → String
  | .started id => "start " ++ id
  | .ended id result => "end " ++ id ++ " " ++ (if result then "true" else "false")

end JobLog

/-- A session under rehearsal. -/
structure JobsRehearsal where
  session : Session ScriptedJob
  agenda : Agenda Nat := {}
  log : List JobLog := []

namespace JobsRehearsal

/-- Wakes the jobs that have not begun. -/
def rouse (r : JobsRehearsal) : JobsRehearsal :=
  let waiting := (r.session.running.filter (fun j => !j.2)).map (·.1.number)
  { r with agenda := waiting.foldl Agenda.wake r.agenda }

/-- Folds the result of a job. -/
def complete (r : JobsRehearsal) (i : Nat) (result : Bool) : JobsRehearsal :=
  { r with session := r.session.complete i result }.rouse

/-- A job comes to its end. -/
def conclude (r : JobsRehearsal) (i : Nat) (j : ScriptedJob) : JobsRehearsal :=
  let result := if j.heedsCancel && r.session.cancelled then false else j.result
  { r with log := r.log ++ [JobLog.ended j.id result] }.complete i result

/-- A running job begins, or ends when it has begun.  A job that begins in a cancelled session
fails without doing anything. -/
def turn (r : JobsRehearsal) (number : Nat) : JobsRehearsal :=
  match r.session.running.findIdx? (fun j => j.1.number = number) with
  | none => r
  | some i =>
    match r.session.running[i]? with
    | none => r
    | some (j, true) => r.conclude i j
    | some (j, false) =>
      let r := { r with session := r.session.begin i }
      if r.session.cancelled then r.complete i false
      else
        let r := { r with log := r.log ++ [JobLog.started j.id] }
        if j.delayMs = 0 then r.conclude i j
        else { r with agenda := r.agenda.after j.delayMs number }

instance : Stage JobsRehearsal Nat where
  agenda := agenda
  withAgenda r a := { r with agenda := a }
  turn := turn

/-- Opens a session. -/
def ofTopology (t : Topology ScriptedJob) (strategy : FailureStrategy) : JobsRehearsal :=
  { session := Session.ofTopology t strategy : JobsRehearsal }.rouse

/-- Lets a time pass and cancels the session; says whether it was still there. -/
def cancelAt (r : JobsRehearsal) (ms : Nat) : JobsRehearsal × Bool :=
  let r := Stage.runBefore r ms
  let (session, cancelled) :=
    if ms = 0 then r.session.cancel else r.session.conclude.cancel
  ({ r with session := session }, cancelled)

/-- Plays the session to its end. -/
def finish (r : JobsRehearsal) : JobsRehearsal :=
  let r := Stage.play (fun _ => true) Stage.maxTurns r
  { r with session := r.session.conclude }

end JobsRehearsal
end Orchestration
