import Orchestration.Settings.Engine

/-!
# Bounded waiting

A condition is polled until it holds.  Between two polls lies one pause; no pause begins once the
attempts are used up or the time limit has passed.  A pause that is meant to be longer than thirty
years ends then.

Main definitions:

- `RetrySpec.judge`: what follows from one poll.
- `RetrySpec.wait`: the whole wait for a condition that depends on the number of the poll.
-/

namespace Orchestration

/-- The milliseconds of thirty years. -/
def longestPauseMs : Nat :=
  30 * 365 * 24 * 60 * 60 * 1000

/-- What follows from one poll. -/
inductive PollVerdict where
  | held
  | gaveUp
  | pause
  deriving DecidableEq, Repr

/-- The outcome of a wait. -/
structure Waited where
  held : Bool
  polls : Nat
  elapsedMs : Nat
  deriving DecidableEq, Repr

namespace RetrySpec

/-- The length of a pause. -/
def pauseMs (s : RetrySpec) : Nat :=
  min s.intervalMs.toNat longestPauseMs

/-- What follows from one poll, with the attempts that are left and the time that has passed. -/
def judge (s : RetrySpec) (left elapsedMs : Nat) (holds : Bool) : PollVerdict :=
  if holds then .held
  else if left = 0 ∨ s.maxDurationMs.toNat ≤ elapsedMs then .gaveUp
  else .pause

/-- Polls a condition that depends on the number of the poll, with the attempts that are left, the
polls that were made and the time that has passed. -/
def waitFrom (s : RetrySpec) (holds : Nat → Bool) : Nat → Nat → Nat → Waited
  | 0, polls, elapsedMs => ⟨holds (polls + 1), polls + 1, elapsedMs⟩
  | left + 1, polls, elapsedMs =>
    match s.judge (left + 1) elapsedMs (holds (polls + 1)) with
    | .held => ⟨true, polls + 1, elapsedMs⟩
    | .gaveUp => ⟨false, polls + 1, elapsedMs⟩
    | .pause => s.waitFrom holds left (polls + 1) (elapsedMs + s.pauseMs)

/-- Waits for a condition that depends on the number of the poll, counted from one. -/
def wait (s : RetrySpec) (holds : Nat → Bool) : Waited :=
  s.waitFrom holds s.maxAttempts.toNat 0 0

end RetrySpec
end Orchestration
