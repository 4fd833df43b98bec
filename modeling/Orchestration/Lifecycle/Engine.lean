import Orchestration.Lifecycle.Kind

/-!
# The lifecycle engine

One engine per kind of deployable keeps a registry from identifiers to actors.  An operation is
admitted first.  The first operation that is admitted for an identifier founds its actor; later
ones are staged for the registered actor in their canonical form.  The states that actors reach
are handled one at a time, in the order in which they were reached, and every actor waits until
its state has been handled.

An actor stays resident under a number of its own after its registration has ended, so that a
later actor of the same identifier is another actor.

Main definitions:

- `LifecycleEngine.handle`: admits an operation and routes it to its actor.
- `LifecycleEngine.begin`, `route`, `finish`, `elapsed`, `resume`: the loops of the actors.
- `LifecycleEngine.handleChange`, `LifecycleEngine.reap`: reached states and ended loops.
- `LifecycleEngine.deregister`, `deregisterWith`, `stopAll`: removal.

Main results:

- `LifecycleEngine.resident?_update_self`, `resident?_update_of_ne`: a change of one actor.
- `LifecycleEngine.handle_cases`: an operation is refused, staged, or founds an actor.
-/

namespace Orchestration

/-- An actor with the deployable that it stands for. -/
structure Resident (σ ω δ κ : Type) where
  id : DeployableId
  name : String
  version : String
  actor : Actor σ ω δ κ

/-- The state of an engine.  `changes` are the reached states that wait to be handled, `ended` the
actors whose loops have ended and that wait to be stopped, `published` the events so far; all of
them oldest first. -/
structure LifecycleEngine (σ ω δ κ W : Type) where
  settings : EngineSettings := {}
  world : W
  residents : SortedMap Nat (Resident σ ω δ κ) := ∅
  next : Nat := 0
  registry : SortedMap DeployableId Nat := ∅
  changes : List (Nat × Snapshot σ δ) := []
  ended : List Nat := []
  published : List LifecycleEvent := []

namespace LifecycleEngine

variable {σ ω δ κ W : Type} [DecidableEq σ]

/-- The resident actor with a number. -/
def resident? (e : LifecycleEngine σ ω δ κ W) (n : Nat) : Option (Resident σ ω δ κ) :=
  e.residents.find? n

/-- The number of the actor that is registered for an identifier. -/
def registered? (e : LifecycleEngine σ ω δ κ W) (id : DeployableId) : Option Nat :=
  e.registry.find? id

/-- The state of the actor that is registered for an identifier. -/
def stateOf (e : LifecycleEngine σ ω δ κ W) (id : DeployableId) : Option σ :=
  ((e.registered? id).bind e.resident?).map (fun r => r.actor.machine.current.state)

/-- Changes a resident actor.  A loop that ends with the change is queued to be stopped. -/
def update (e : LifecycleEngine σ ω δ κ W) (n : Nat)
    (change : Actor σ ω δ κ → Actor σ ω δ κ) : LifecycleEngine σ ω δ κ W :=
  match e.resident? n with
  | none => e
  | some r =>
    let actor := change r.actor
    let ended :=
      match actor.phase, r.actor.phase with
      | .exited, .exited => e.ended
      | .exited, _ => e.ended ++ [n]
      | _, _ => e.ended
    { e with residents := e.residents.insert n { r with actor := actor }, ended := ended }

/-- Stages an operation for an actor.  An actor with a pending operation takes no other. -/
def stage (e : LifecycleEngine σ ω δ κ W) (n : Nat) (op : ω) : LifecycleEngine σ ω δ κ W :=
  e.update n (fun a => (a.notify op).1)

/-- Founds an actor, stages its creation, starts it and registers it. -/
def found (k : LifecycleKind σ ω δ κ W) (e : LifecycleEngine σ ω δ κ W) (f : Founding δ)
    (op : ω) : LifecycleEngine σ ω δ κ W :=
  let id := k.target op
  let actor : Actor σ ω δ κ := { machine := { current := { state := k.initial, data := f.data } } }
  let actor := (actor.notify op).1.start
  { e with
    residents := e.residents.insert e.next ⟨id, f.name, f.version, actor⟩
    registry := e.registry.insert id e.next
    next := e.next + 1 }

/-- Admits an operation and routes it to its actor.  A refused operation changes nothing; an
admitted one is a success even when the actor does not take it. -/
def handle (k : LifecycleKind σ ω δ κ W) (e : LifecycleEngine σ ω δ κ W) (op : ω) :
    LifecycleEngine σ ω δ κ W × Verdict :=
  let verdict := k.review e.settings e.stateOf e.world op
  if !verdict.isSuccess then (e, verdict)
  else
    match e.registered? (k.target op) with
    | some n => (e.stage n (k.canonical e.settings e.world op), verdict)
    | none =>
      match k.found? e.world op with
      | some f => (e.found k f op, verdict)
      | none => (e, .failure ("Could not create deployable " ++ (k.target op).text))

/-- Ends the registration of an identifier; the actor itself goes on. -/
def deregister (e : LifecycleEngine σ ω δ κ W) (id : DeployableId) :
    LifecycleEngine σ ω δ κ W × Bool :=
  ({ e with registry := e.registry.erase id }, (e.registered? id).isSome)

/-- Cleans up and ends the registration of an identifier in one step, if it is registered. -/
def deregisterWith (e : LifecycleEngine σ ω δ κ W) (id : DeployableId) (cleanup : W → W) :
    LifecycleEngine σ ω δ κ W × Bool :=
  match e.registered? id with
  | some _ => ({ e with world := cleanup e.world, registry := e.registry.erase id }, true)
  | none => (e, false)

/-- Ends all registrations and asks the actors to stop; says which actors these are. -/
def stopAll (e : LifecycleEngine σ ω δ κ W) : LifecycleEngine σ ω δ κ W × List Nat :=
  let stopping := e.registry.values
  (stopping.foldl (fun e n => e.update n (fun a => a.requestStop.1)) { e with registry := ∅ },
    stopping)

/-- The loop of an actor begins a pass. -/
def begin (k : LifecycleKind σ ω δ κ W) (e : LifecycleEngine σ ω δ κ W) (n : Nat) :
    LifecycleEngine σ ω δ κ W :=
  e.update n (fun a => a.begin k.blueprint)

/-- The action in flight acknowledges the pending operation. -/
def acknowledge (e : LifecycleEngine σ ω δ κ W) (n : Nat) : LifecycleEngine σ ω δ κ W :=
  e.update n Actor.acknowledge

/-- The action in flight returns.  A state that was reached waits to be handled.  It is meant for
an actor with an action in flight. -/
def finish (k : LifecycleKind σ ω δ κ W) (e : LifecycleEngine σ ω δ κ W) (n : Nat)
    (r : ActionResult σ δ) : LifecycleEngine σ ω δ κ W :=
  match (e.resident? n).map (fun s => s.actor.finish k.blueprint true r) with
  | none => e
  | some actor =>
    let e := e.update n (fun _ => actor)
    match actor.phase with
    | .signalling reached => { e with changes := e.changes ++ [(n, reached)] }
    | _ => e

/-- The routing action in flight deals with the pending operation and returns. -/
def route (k : LifecycleKind σ ω δ κ W) (e : LifecycleEngine σ ω δ κ W) (n : Nat) :
    LifecycleEngine σ ω δ κ W :=
  match e.resident? n with
  | none => e
  | some r =>
    let routing := k.route r.actor.machine.slot.pending r.actor.machine.current
    let e := if routing.acknowledges then e.acknowledge n else e
    e.finish k n routing.result

/-- The pause of an actor after a failed pass is over. -/
def elapsed (k : LifecycleKind σ ω δ κ W) (e : LifecycleEngine σ ω δ κ W) (n : Nat) :
    LifecycleEngine σ ω δ κ W :=
  e.update n (fun a => a.elapsed k.blueprint)

/-- A blocked actor that was notified looks again. -/
def resume (e : LifecycleEngine σ ω δ κ W) (n : Nat) : LifecycleEngine σ ω δ κ W :=
  e.update n Actor.resume

/-- What follows from a state that the actor of an identifier reached: store writes, an operation
that the engine submits to itself, or the end of the registration with all records. -/
def react (k : LifecycleKind σ ω δ κ W) (e : LifecycleEngine σ ω δ κ W) (id : DeployableId)
    (state : σ) (pending : Option ω) : LifecycleEngine σ ω δ κ W :=
  if k.isGone state then (e.deregisterWith id (fun w => k.forget w id)).1
  else
    let (world, op) := k.react e.settings e.world id state pending
    let e := { e with world := world }
    match op with
    | some op => (e.handle k op).1
    | none => e

/-- Tells the world of an event. -/
def publish (e : LifecycleEngine σ ω δ κ W) (event : LifecycleEvent) :
    LifecycleEngine σ ω δ κ W :=
  { e with published := e.published ++ [event] }

/-- Handles the oldest reached state: its consequences, then its event, then the actor goes on. -/
def handleChange (k : LifecycleKind σ ω δ κ W) (e : LifecycleEngine σ ω δ κ W) :
    LifecycleEngine σ ω δ κ W :=
  match e.changes with
  | [] => e
  | (n, reached) :: rest =>
    let e := { e with changes := rest }
    match e.resident? n with
    | none => e
    | some r =>
      let e := e.react k r.id reached.state r.actor.machine.slot.pending
      let e := e.publish (k.event r.id r.name r.version reached.state)
      e.update n (fun a => a.acknowledged k.blueprint)

/-- Stops the actor whose loop ended first. -/
def reap (e : LifecycleEngine σ ω δ κ W) : LifecycleEngine σ ω δ κ W :=
  match e.ended with
  | [] => e
  | n :: rest => { e with ended := rest }.update n (fun a => a.requestStop.1)

/-! ## Changes of one actor -/

section Update

variable (e : LifecycleEngine σ ω δ κ W) (n : Nat) (change : Actor σ ω δ κ → Actor σ ω δ κ)

omit [DecidableEq σ] in
/-- The actor that is changed. -/
theorem resident?_update_self :
    (e.update n change).resident? n =
      (e.resident? n).map (fun r => { r with actor := change r.actor }) := by
  unfold update
  cases hresident : e.resident? n with
  | none => simp [hresident]
  | some r => simp [resident?]

omit [DecidableEq σ] in
/-- The other actors stay. -/
theorem resident?_update_of_ne {m : Nat} (h : m ≠ n) :
    (e.update n change).resident? m = e.resident? m := by
  unfold update
  split
  · rfl
  · exact SortedMap.find?_insert_of_ne _ _ h

omit [DecidableEq σ] in
/-- A change of an actor ends no registration. -/
@[simp]
theorem registry_update : (e.update n change).registry = e.registry := by
  unfold update
  split <;> rfl

omit [DecidableEq σ] in
/-- It has no state handled. -/
@[simp]
theorem changes_update : (e.update n change).changes = e.changes := by
  unfold update
  split <;> rfl

omit [DecidableEq σ] in
/-- It leaves the stores alone. -/
@[simp]
theorem world_update : (e.update n change).world = e.world := by
  unfold update
  split <;> rfl

omit [DecidableEq σ] in
/-- It publishes nothing. -/
@[simp]
theorem published_update : (e.update n change).published = e.published := by
  unfold update
  split <;> rfl

omit [DecidableEq σ] in
/-- It founds nobody. -/
@[simp]
theorem next_update : (e.update n change).next = e.next := by
  unfold update
  split <;> rfl

end Update

omit [DecidableEq σ] in
/-- An operation leaves the engine alone, is staged for the registered actor, or founds one. -/
theorem handle_cases (k : LifecycleKind σ ω δ κ W) (e : LifecycleEngine σ ω δ κ W) (op : ω) :
    (e.handle k op).1 = e ∨
    (∃ n, e.registered? (k.target op) = some n ∧
      (e.handle k op).1 = e.stage n (k.canonical e.settings e.world op)) ∨
    (∃ f, e.registered? (k.target op) = none ∧ (e.handle k op).1 = e.found k f op) := by
  simp only [handle]
  split
  · exact Or.inl rfl
  · cases hregistered : e.registered? (k.target op) with
    | some n => exact Or.inr (Or.inl ⟨n, rfl, rfl⟩)
    | none =>
      cases hfound : k.found? e.world op with
      | some f => exact Or.inr (Or.inr ⟨f, rfl, rfl⟩)
      | none => exact Or.inl rfl

end LifecycleEngine
end Orchestration
