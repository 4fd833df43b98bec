import Orchestration.Lifecycle.Engine
import Orchestration.Rehearsal.Agenda
import Orchestration.Rehearsal.Script

/-!
# Rehearsing a lifecycle engine

An engine with scripted actions plays against an agenda.  Every actor has a task of its own for
its loop; one further task handles the states that actors reach, another stops the actors whose
loops have ended.  An action without a script is played by the stand-in of the kind.  Routing
belongs to the engine and is not scripted.

Main definitions: `StandIn`, `LifecycleRehearsal.turn`, and the operations on a running engine.
-/

namespace Orchestration

/-- What a stand-in did in place of an action. -/
structure Played (σ δ W C : Type) where
  world : W
  memory : C
  acknowledges : Bool := true
  result : ActionResult σ δ

/-- The actions of a kind as they are played without a script, and which of them can be
cancelled.  `C` is what the stand-in remembers. -/
structure StandIn (σ ω δ κ W C : Type) where
  isCancellable : κ → Bool
  play : κ → W → C → DeployableId → Snapshot σ δ → Option ω → Played σ δ W C

/-- The tasks of an engine under rehearsal. -/
inductive Duty where
  /-- The loop of an actor. -/
  | loop (n : Nat)
  /-- The handling of reached states. -/
  | changes
  /-- The stopping of actors whose loops have ended. -/
  | reaping
  deriving DecidableEq, Repr

/-- An execution of an action: for whom, its name, the state in which it ran, and the operation
that was pending when it started. -/
structure Enactment (ω : Type) where
  id : DeployableId
  action : String
  state : String
  pending : Option ω

/-- An engine under rehearsal. -/
structure LifecycleRehearsal (σ ω δ κ W C : Type) where
  kind : LifecycleKind σ ω δ κ W
  standIn : StandIn σ ω δ κ W C
  engine : LifecycleEngine σ ω δ κ W
  memory : C
  agenda : Agenda Duty := {}
  script : Script (Behaviour σ) := ∅
  performances : SortedMap Nat (Performance σ) := ∅
  ran : List (Enactment ω) := []

namespace LifecycleRehearsal

variable {σ ω δ κ W C : Type} [DecidableEq σ] [DecidableEq κ]

/-- The actor with a number. -/
def actor? (r : LifecycleRehearsal σ ω δ κ W C) (n : Nat) : Option (Actor σ ω δ κ) :=
  (r.engine.resident? n).map (·.actor)

/-- Whether a loop can go on without any time passing. -/
def isRunnable (r : LifecycleRehearsal σ ω δ κ W C) (n : Nat) (a : Actor σ ω δ κ) : Bool :=
  match a.phase with
  | .ready => true
  | .parked => a.permit
  | .acting _ => ((r.performances.find? n).map Performance.isReleased).getD false
  | _ => false

/-- Wakes every task that can go on. -/
def rouse (r : LifecycleRehearsal σ ω δ κ W C) : LifecycleRehearsal σ ω δ κ W C :=
  let runnable := r.engine.residents.entries.filter (fun e => r.isRunnable e.1 e.2.actor)
  let agenda := runnable.foldl (fun a e => a.wake (.loop e.1)) r.agenda
  let agenda := if r.engine.changes.isEmpty then agenda else agenda.wake .changes
  let agenda := if r.engine.ended.isEmpty then agenda else agenda.wake .reaping
  { r with agenda := agenda }

/-- Changes the engine and wakes what can go on then. -/
def onEngine (r : LifecycleRehearsal σ ω δ κ W C)
    (change : LifecycleEngine σ ω δ κ W → LifecycleEngine σ ω δ κ W) :
    LifecycleRehearsal σ ω δ κ W C :=
  { r with engine := change r.engine }.rouse

/-- A loop goes on at once when it begins another pass, and pauses after a failure. -/
def settle (r : LifecycleRehearsal σ ω δ κ W C) (n : Nat) : LifecycleRehearsal σ ω δ κ W C :=
  match r.actor? n with
  | none => r
  | some a =>
    match a.phase with
    | .ready => { r with agenda := r.agenda.again (.loop n) }
    | .backingOff =>
      match r.engine.settings.errorBackoffMs.toNat with
      | 0 => { r with agenda := r.agenda.again (.loop n) }
      | ms => { r with agenda := r.agenda.after ms (.loop n) }
    | _ => r

/-- The action in flight returns. -/
def finish (r : LifecycleRehearsal σ ω δ κ W C) (n : Nat) (result : ActionResult σ δ) :
    LifecycleRehearsal σ ω δ κ W C :=
  { r with
    engine := r.engine.finish r.kind n result
    performances := r.performances.erase n }.settle n

/-- What a behaviour returns to an actor. -/
def outcome (a : Actor σ ω δ κ) (b : Behaviour σ) : ActionResult σ δ :=
  b.result (fun data _ => data) a.machine.current

/-- The delay of an action is over. -/
def afterDelay (r : LifecycleRehearsal σ ω δ κ W C) (n : Nat) (a : Actor σ ω δ κ)
    (b : Behaviour σ) (stopped : Bool) : LifecycleRehearsal σ ω δ κ W C :=
  let r := if b.acknowledges then { r with engine := r.engine.acknowledge n } else r
  match Performance.afterDelay b with
  | some w =>
    { r with
      performances := r.performances.insert n
        { behaviour := b, waiting := w, stopped := stopped } }
  | none => r.finish n (outcome a b)

/-- Routes the pending operation of an actor. -/
def route (r : LifecycleRehearsal σ ω δ κ W C) (n : Nat) : LifecycleRehearsal σ ω δ κ W C :=
  { r with engine := r.engine.route r.kind n, performances := r.performances.erase n }.settle n

/-- The stand-in plays an action. -/
def improvise (r : LifecycleRehearsal σ ω δ κ W C) (n : Nat) (id : DeployableId)
    (a : Actor σ ω δ κ) (action : κ) : LifecycleRehearsal σ ω δ κ W C :=
  let played :=
    r.standIn.play action r.engine.world r.memory id a.machine.current a.machine.slot.pending
  let engine := { r.engine with world := played.world }
  let engine := if played.acknowledges then engine.acknowledge n else engine
  { r with engine := engine, memory := played.memory }.finish n played.result

/-- The action of a transition starts. -/
def perform (r : LifecycleRehearsal σ ω δ κ W C) (n : Nat) (id : DeployableId)
    (a : Actor σ ω δ κ) (action : κ) : LifecycleRehearsal σ ω δ κ W C :=
  if action = r.kind.routing then r.route n
  else
    let name := r.kind.blueprint.actionName action
    let (behaviour, script) := r.script.take name
    let state := r.kind.blueprint.stateName a.machine.current.state
    let r := { r with
      script := script
      ran := r.ran ++ [Enactment.mk id name state a.machine.slot.pending] }
    match behaviour with
    | none => r.improvise n id a action
    | some b =>
      if b.delayMs = 0 then r.afterDelay n a b false
      else
        { r with
          agenda := r.agenda.after b.delayMs (.loop n)
          performances := r.performances.insert n { behaviour := b, waiting := .delay } }

/-- A loop begins a pass. -/
def begin (r : LifecycleRehearsal σ ω δ κ W C) (n : Nat) : LifecycleRehearsal σ ω δ κ W C :=
  let r := { r with engine := r.engine.begin r.kind n }
  match r.engine.resident? n with
  | none => r
  | some resident =>
    match resident.actor.phase with
    | .acting t => r.perform n resident.id resident.actor t.action
    | _ => r.settle n

/-- An action in flight goes on. -/
def proceed (r : LifecycleRehearsal σ ω δ κ W C) (n : Nat) (a : Actor σ ω δ κ) :
    LifecycleRehearsal σ ω δ κ W C :=
  match r.performances.find? n with
  | none => r
  | some p =>
    match p.waiting with
    | .delay => r.afterDelay n a p.behaviour p.stopped
    | .hang => r
    | .block =>
      if p.isReleased then r.finish n (p.result (fun data _ => data) a.machine.current) else r

/-- A loop goes on until it waits again. -/
def turnLoop (r : LifecycleRehearsal σ ω δ κ W C) (n : Nat) : LifecycleRehearsal σ ω δ κ W C :=
  match r.actor? n with
  | none => r
  | some a =>
    match a.phase with
    | .ready => r.begin n
    | .acting _ => r.proceed n a
    | .backingOff => { r with engine := r.engine.elapsed r.kind n }.settle n
    | .parked => { r with engine := r.engine.resume n }.settle n
    | _ => r

/-- Handles all reached states that wait. -/
def turnChanges (r : LifecycleRehearsal σ ω δ κ W C) : LifecycleRehearsal σ ω δ κ W C :=
  r.engine.changes.foldl (fun r _ => r.onEngine (·.handleChange r.kind)) r

/-- Stops all actors whose loops have ended. -/
def turnReaping (r : LifecycleRehearsal σ ω δ κ W C) : LifecycleRehearsal σ ω δ κ W C :=
  r.engine.ended.foldl (fun r _ => r.onEngine (·.reap)) r

/-- A task goes on until it waits again. -/
def turn (r : LifecycleRehearsal σ ω δ κ W C) (duty : Duty) : LifecycleRehearsal σ ω δ κ W C :=
  (match duty with
    | .loop n => r.turnLoop n
    | .changes => r.turnChanges
    | .reaping => r.turnReaping).rouse

instance : Stage (LifecycleRehearsal σ ω δ κ W C) Duty where
  agenda := agenda
  withAgenda r a := { r with agenda := a }
  turn := turn

/-- Carries out an operation. -/
def handle (r : LifecycleRehearsal σ ω δ κ W C) (op : ω) :
    LifecycleRehearsal σ ω δ κ W C × Verdict :=
  let (engine, verdict) := r.engine.handle r.kind op
  ({ r with engine := engine }.rouse, verdict)

/-- Cancels what runs for an identifier; says whether it could be cancelled. -/
def cancel (r : LifecycleRehearsal σ ω δ κ W C) (id : DeployableId) :
    LifecycleRehearsal σ ω δ κ W C × Bool :=
  match r.engine.registered? id with
  | none => (r, false)
  | some n =>
    match (r.actor? n).bind (·.machine.inFlight), r.performances.find? n with
    | some action, some p =>
      if r.standIn.isCancellable action then
        let (p, cancelled) := p.cancel
        ({ r with performances := r.performances.insert n p }.rouse, cancelled)
      else (r, false)
    | _, _ => (r, false)

/-- Whether the loop of an actor has ended. -/
def hasEnded (r : LifecycleRehearsal σ ω δ κ W C) (n : Nat) : Bool :=
  ((r.actor? n).map (·.phase.isFinished)).getD true

/-- Waits for the loops of actors to end, and cuts off those that do not. -/
def awaitEnd (r : LifecycleRehearsal σ ω δ κ W C) (stopping : List Nat) :
    LifecycleRehearsal σ ω δ κ W C :=
  let (r, _) := Stage.poll r.engine.settings.stopRetry
    (fun r : LifecycleRehearsal σ ω δ κ W C => stopping.all r.hasEnded) r
  r.onEngine (fun e => stopping.foldl (fun e n => e.update n Actor.abort) e)

/-- Stops all registered actors and waits for their loops to end.  All are waited for at once; with
pauses of no length one wait is over before the next begins. -/
def stopAll (r : LifecycleRehearsal σ ω δ κ W C) : LifecycleRehearsal σ ω δ κ W C :=
  let (engine, stopping) := r.engine.stopAll
  let performances :=
    r.performances.mapValues (fun n p => if stopping.contains n then p.stop else p)
  let r := { r with engine := engine, performances := performances }.rouse
  if r.engine.settings.stopRetry.pauseMs = 0 then
    stopping.foldl (fun r n => r.awaitEnd [n]) r
  else r.awaitEnd stopping

end LifecycleRehearsal
end Orchestration
