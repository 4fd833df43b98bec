/-!
# Leadership

Election happens elsewhere.  The observer holds whether this node leads, and who wants to be told
when that flips.

Main results:

- `Leadership.isLeader_set`: the flag is what was set last.
- `Leadership.tell_of_eq`, `Leadership.tell_of_ne`: a cache is purged exactly when the flag flips.
-/

namespace Orchestration

/-- The leadership flag and those who are told when it flips, oldest first. -/
structure Leadership where
  isLeader : Bool := false
  listeners : List String := []

namespace Leadership

/-- Adds a listener. -/
def register (l : Leadership) (listener : String) : Leadership :=
  { l with listeners := l.listeners ++ [listener] }

/-- Sets the flag; says who was told what.  Nobody is told when the flag stays. -/
def set (l : Leadership) (leader : Bool) : Leadership × List (String × Bool) :=
  if l.isLeader = leader then (l, [])
  else ({ l with isLeader := leader }, l.listeners.map (fun n => (n, leader)))

/-- Sets the flag in front of a cache that listens: it is purged when somebody is told. -/
def tell {P : Type} (l : Leadership) (leader : Bool) (purge : P → P) (p : P) : Leadership × P :=
  let (l, calls) := l.set leader
  (l, if calls.isEmpty then p else purge p)

/-- The flag is what was set last. -/
@[simp]
theorem isLeader_set (l : Leadership) (leader : Bool) : (l.set leader).1.isLeader = leader := by
  unfold set
  split
  · assumption
  · rfl

@[simp]
theorem listeners_set (l : Leadership) (leader : Bool) :
    (l.set leader).1.listeners = l.listeners := by
  unfold set
  split <;> rfl

/-- A flag that stays leaves everything as it is. -/
theorem tell_of_eq {P : Type} {l : Leadership} {leader : Bool} (h : l.isLeader = leader)
    (purge : P → P) (p : P) : l.tell leader purge p = (l, p) := by
  simp [tell, set, h]

/-- A flag that flips purges a cache that listens. -/
theorem tell_of_ne {P : Type} {l : Leadership} {leader : Bool} (h : l.isLeader ≠ leader)
    (hl : l.listeners ≠ []) (purge : P → P) (p : P) :
    l.tell leader purge p = ((l.set leader).1, purge p) := by
  simp [tell, set, h, hl]

end Leadership
end Orchestration
