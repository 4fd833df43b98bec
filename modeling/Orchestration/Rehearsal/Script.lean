import Orchestration.Json.Codec
import Orchestration.Machine.Pass

/-!
# Scripts

In a rehearsal the actions of a machine follow a script.  The script lists behaviours under the
names of actions; every execution of an action takes the next behaviour from its list, whoever
runs it.  A behaviour is carried out in a fixed order: it waits for a time, acknowledges the
pending update, hangs for ever, blocks until it is cancelled or stopped, and ends in its outcome.

Main definitions: `Behaviour`, `Script.take`, `Performance`.
-/

namespace Orchestration

/-- What one execution of an action does.  With `add` it moves to the next state with fresh data
that is larger by a number; with `error` it moves there with an error. -/
structure Behaviour (σ : Type) where
  delayMs : Nat := 0
  acknowledges : Bool := false
  hangs : Bool := false
  blocks : Bool := false
  fails : Option ActionError := none
  next : Option σ := none
  add : Option Int := none
  error : Option String := none

namespace Behaviour

variable {σ δ : Type}

/-- What the action returns in the end. -/
def result (plus : δ → Int → δ) (b : Behaviour σ) (current : Snapshot σ δ) : ActionResult σ δ :=
  match b.fails, b.next with
  | some cause, _ => .error cause
  | none, none => .ok none
  | none, some next =>
    match b.add, b.error with
    | some n, _ => .ok (some { state := next, data := plus current.data n })
    | none, some error => .ok (some (current.fail next error))
    | none, none => .ok (some (current.move next))

/-- A field that is left off or `null` when it says nothing. -/
def field? {α : Type} [Wire α] (f : Fields) (name : String) : Option (Option α) :=
  match f.get name with
  | none => some none
  | some j => decode j

/-- Reads a behaviour. -/
def ofJson? [Wire σ] (j : Json) : Option (Behaviour σ) := do
  let f ← Fields.of? .direct [] j
  let delay : Option UInt64 ← field? f "delay_ms"
  let failed : Option String ← field? f "fail"
  let unexpected : Option String ← field? f "unexpected"
  let cancelled : Option Bool ← field? f "cancelled"
  let acknowledges : Option Bool ← field? f "ack"
  let hangs : Option Bool ← field? f "hang"
  let blocks : Option Bool ← field? f "block"
  let add : Option Int64 ← field? f "add"
  return {
    delayMs := (delay.getD 0).toNat
    acknowledges := acknowledges.getD false
    hangs := hangs.getD false
    blocks := blocks.getD false
    fails :=
      match failed, unexpected, cancelled.getD false with
      | some reason, _, _ => some (.failed reason)
      | none, some operation, _ => some (.unexpectedOperation operation)
      | none, none, true => some .cancelled
      | none, none, false => none
    next := ← field? f "next"
    add := add.map Int64.toInt
    error := ← field? f "error" }

end Behaviour

/-- The behaviours that are left, by the name of the action. -/
abbrev Script (β : Type) : Type :=
  SortedMap String (List β)

namespace Script

variable {β : Type}

/-- Takes the next behaviour of an action. -/
def take (s : Script β) (action : String) : Option β × Script β :=
  match s.find? action with
  | some (b :: rest) => (some b, s.insert action rest)
  | _ => (none, s)

/-- Reads a script whose behaviours are read by a given reader. -/
def ofJson? (read : Json → Option β) : Json → Option (Script β)
  | .null => some ∅
  | .obj fields =>
    (fields.mapM fun f : String × Json =>
      match f.2 with
      | .arr items => (items.mapM read).map (f.1, ·)
      | _ => none).map SortedMap.ofList
  | _ => none

end Script

/-- Where an action in flight waits. -/
inductive Waiting where
  | delay
  | hang
  | block
  deriving DecidableEq, Repr

/-- An action in flight: its behaviour, where it waits, and whether it was cancelled or told to
stop while it did. -/
structure Performance (σ : Type) where
  behaviour : Behaviour σ
  waiting : Waiting
  cancelled : Bool := false
  stopped : Bool := false

namespace Performance

variable {σ δ : Type}

/-- Where a behaviour waits once its delay is over and the update is acknowledged. -/
def afterDelay (b : Behaviour σ) : Option Waiting :=
  if b.hangs then some .hang else if b.blocks then some .block else none

/-- Cancels an action; says whether it could be cancelled. -/
def cancel (p : Performance σ) : Performance σ × Bool :=
  if p.waiting = .block then ({ p with cancelled := true }, true) else (p, false)

/-- Tells an action to stop. -/
def stop (p : Performance σ) : Performance σ :=
  { p with stopped := true }

/-- Whether a blocked action may go on. -/
def isReleased (p : Performance σ) : Bool :=
  p.waiting = .block && (p.cancelled || p.stopped)

/-- What a released action returns: a stopped one was cancelled, another ends as its behaviour
says. -/
def result (plus : δ → Int → δ) (p : Performance σ) (current : Snapshot σ δ) :
    ActionResult σ δ :=
  if p.stopped then .error .cancelled else p.behaviour.result plus current

end Performance
end Orchestration
