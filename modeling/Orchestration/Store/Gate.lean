/-!
# Gates

A gate stands in front of a durable store.  It counts the reads that reach the store, and it may
refuse writes, which then leave the store as it is.

Main results:

- `Gated.root_write`: a write changes the store exactly when the gate accepts.
-/

namespace Orchestration

/-- A durable store behind a gate. -/
structure Gated (R : Type) where
  root : R
  accepting : Bool := true
  reads : Nat := 0

namespace Gated

variable {R α : Type}

/-- A read that reaches the store. -/
def read (g : Gated R) (answer : R → α) : α × Gated R :=
  (answer g.root, { g with reads := g.reads + 1 })

/-- A write, refused as a whole when the gate does not accept. -/
def write (g : Gated R) (change : R → R) : Gated R × Bool :=
  if g.accepting then ({ g with root := change g.root }, true) else (g, false)

/-- A change that every gate lets pass. -/
def pass (g : Gated R) (change : R → R × α) : Gated R × α :=
  let (root, a) := change g.root
  ({ g with root := root }, a)

/-- A read answers from what is stored. -/
@[simp]
theorem read_fst (g : Gated R) (answer : R → α) : (g.read answer).1 = answer g.root :=
  rfl

/-- A read changes nothing that is stored. -/
@[simp]
theorem root_read (g : Gated R) (answer : R → α) : (g.read answer).2.root = g.root :=
  rfl

/-- A write succeeds while the gate is open. -/
@[simp]
theorem write_snd (g : Gated R) (change : R → R) : (g.write change).2 = g.accepting := by
  unfold write
  split <;> simp_all

/-- A write changes the store exactly when the gate accepts. -/
theorem root_write (g : Gated R) (change : R → R) :
    (g.write change).1.root = if g.accepting then change g.root else g.root := by
  unfold write
  split <;> simp_all

/-- A write is no read. -/
@[simp]
theorem reads_write (g : Gated R) (change : R → R) : (g.write change).1.reads = g.reads := by
  unfold write
  split <;> rfl

/-- A write neither opens nor closes the gate. -/
@[simp]
theorem accepting_write (g : Gated R) (change : R → R) :
    (g.write change).1.accepting = g.accepting := by
  unfold write
  split <;> rfl

end Gated
end Orchestration
