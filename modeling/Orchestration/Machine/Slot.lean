/-!
# The update slot

A machine takes one update at a time.  The slot holds the update that waits, and says whether the
machine has been told to stop.  An update is staged only into an empty slot; the action that deals
with it acknowledges it, which empties the slot.

Main results:

- `Slot.record_snd`: an update is accepted exactly when nothing is pending.
- `Slot.pending_record`: what is pending stays pending.
- `Slot.pending_acknowledge`: after an acknowledgement nothing is pending.
-/

namespace Orchestration

/-- The pending update of a machine, and whether the machine is to stop. -/
structure Slot (υ : Type) where
  pending : Option υ := none
  stopped : Bool := false

namespace Slot

variable {υ : Type}

instance : Inhabited (Slot υ) :=
  ⟨{}⟩

/-- Stages an update; refused when one is pending. -/
def record (s : Slot υ) (u : υ) : Slot υ × Bool :=
  match s.pending with
  | some _ => (s, false)
  | none => ({ s with pending := some u }, true)

/-- Clears the pending update; says whether there was one. -/
def acknowledge (s : Slot υ) : Slot υ × Bool :=
  ({ s with pending := none }, s.pending.isSome)

/-- Tells the machine to stop. -/
def markStopped (s : Slot υ) : Slot υ :=
  { s with stopped := true }

/-- An update is accepted exactly when nothing is pending. -/
@[simp]
theorem record_snd (s : Slot υ) (u : υ) : (s.record u).2 = s.pending.isNone := by
  unfold record
  split <;> simp_all

/-- What is pending stays pending; otherwise the new update is. -/
@[simp]
theorem pending_record (s : Slot υ) (u : υ) :
    (s.record u).1.pending = some (s.pending.getD u) := by
  unfold record
  split <;> simp_all

/-- To record an update stops nobody. -/
@[simp]
theorem stopped_record (s : Slot υ) (u : υ) : (s.record u).1.stopped = s.stopped := by
  unfold record
  split <;> rfl

/-- What was acknowledged is not pending any more. -/
@[simp]
theorem pending_acknowledge (s : Slot υ) : s.acknowledge.1.pending = none :=
  rfl

/-- An acknowledgement stops nobody. -/
@[simp]
theorem stopped_acknowledge (s : Slot υ) : s.acknowledge.1.stopped = s.stopped :=
  rfl

/-- A stop leaves what is pending. -/
@[simp]
theorem pending_markStopped (s : Slot υ) : s.markStopped.pending = s.pending :=
  rfl

/-- A stop is noted. -/
@[simp]
theorem stopped_markStopped (s : Slot υ) : s.markStopped.stopped = true :=
  rfl

end Slot
end Orchestration
