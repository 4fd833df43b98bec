/-!
# Machine blueprints

The fixed part of a state machine: its transition table, the states in which it waits for an
update, the states in which it is done, and the names of states and actions.  A transition says
which action runs in a state and in which states the action may leave the machine.

Main results:

- `Blueprint.transition?_source`: the transition found for a state starts there.
- `Blueprint.transition?_mem`: it is an entry of the table.
-/

namespace Orchestration

/-- From `source`, run `action`, and land in one of `targets`. -/
structure Transition (σ κ : Type) where
  source : σ
  action : κ
  targets : List σ

/-- A state with the data of the entity, and the error that led to it if there was one. -/
structure Snapshot (σ δ : Type) where
  state : σ
  data : δ
  error : Option String := none

namespace Snapshot

variable {σ δ : Type}

/-- The same data and error in another state. -/
def move (s : Snapshot σ δ) (state : σ) : Snapshot σ δ :=
  { s with state := state }

/-- The same data in another state, with an error. -/
def fail (s : Snapshot σ δ) (state : σ) (error : String) : Snapshot σ δ :=
  { s with state := state, error := some error }

@[simp]
theorem state_move (s : Snapshot σ δ) (state : σ) : (s.move state).state = state :=
  rfl

@[simp]
theorem state_fail (s : Snapshot σ δ) (state : σ) (error : String) :
    (s.fail state error).state = state :=
  rfl

end Snapshot

/-- The fixed part of a machine. -/
structure Blueprint (σ κ : Type) where
  table : List (Transition σ κ)
  isPaused : σ → Bool
  isTerminal : σ → Bool
  stateName : σ → String
  actionName : κ → String

namespace Blueprint

variable {σ κ : Type} [DecidableEq σ]

/-- The transition of a state; a later entry of the table replaces an earlier one. -/
def transition? (b : Blueprint σ κ) (s : σ) : Option (Transition σ κ) :=
  (b.table.filter (fun t => t.source = s)).getLast?

/-- The transition out of a state starts there. -/
theorem transition?_source {b : Blueprint σ κ} {s : σ} {t : Transition σ κ}
    (h : b.transition? s = some t) : t.source = s := by
  have := List.mem_of_getLast? h
  simpa using (List.mem_filter.1 this).2

/-- It is one of those in the table. -/
theorem transition?_mem {b : Blueprint σ κ} {s : σ} {t : Transition σ κ}
    (h : b.transition? s = some t) : t ∈ b.table :=
  (List.mem_filter.1 (List.mem_of_getLast? h)).1

end Blueprint
end Orchestration
