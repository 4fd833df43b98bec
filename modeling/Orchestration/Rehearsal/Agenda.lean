import Orchestration.Settings.Retry

/-!
# Agendas

A rehearsal plays the background work of an engine against a virtual clock.  Its agenda holds what
can go on at once, in the order in which it was woken, and what waits for a point of time.  The
clock moves only when nothing can go on at once, and then to the next deadline.

A wait for a condition lets the background work go on during its pauses.  Pauses of no length pass
without it up to a limit, after which what can go on at once gets its turn.

Main definitions:

- `Agenda.wake`, `Agenda.again`, `Agenda.after`: what is to be done, and when.
- `Stage.runFor`: plays everything that is due up to a point of time.
- `Stage.poll`: waits for a condition while the background work goes on between two polls.
-/

namespace Orchestration

/-- The number of pauses of no length that pass without background work. -/
def patience : Nat :=
  128

/-- What can go on at once, and what waits with its deadline, both in their order; `credit` counts
the pauses of no length that may still pass without background work. -/
structure Agenda (τ : Type) where
  now : Nat := 0
  ready : List τ := []
  timers : List (Nat × τ) := []
  credit : Nat := patience

namespace Agenda

variable {τ : Type} [DecidableEq τ]

/-- Lets a task go on after all that can go on already; woken twice, it goes on once. -/
def wake (a : Agenda τ) (t : τ) : Agenda τ :=
  if a.ready.contains t then a else { a with ready := a.ready ++ [t] }

/-- Lets a task go on before all others. -/
def again (a : Agenda τ) (t : τ) : Agenda τ :=
  { a with ready := t :: a.ready.erase t }

/-- Puts a timer behind all that are due no later. -/
def insertTimer (deadline : Nat) (t : τ) : List (Nat × τ) → List (Nat × τ)
  | [] => [(deadline, t)]
  | (d, u) :: rest =>
    if deadline < d then (deadline, t) :: (d, u) :: rest
    else (d, u) :: insertTimer deadline t rest

/-- Lets a task go on after a time, thirty years at most. -/
def after (a : Agenda τ) (ms : Nat) (t : τ) : Agenda τ :=
  { a with timers := insertTimer (a.now + min ms longestPauseMs) t a.timers }

/-- The task that goes on next. -/
def next? (a : Agenda τ) : Option (τ × Agenda τ) :=
  match a.ready with
  | [] => none
  | t :: rest => some (t, { a with ready := rest })

/-- Moves the clock to the next deadline, if that passes a test, and wakes all that is due then. -/
def advance? (a : Agenda τ) (due : Nat → Bool) : Option (Agenda τ) :=
  match a.timers with
  | [] => none
  | (d, _) :: _ =>
    if due d then
      let fired := a.timers.takeWhile (fun t => t.1 = d)
      let later := a.timers.dropWhile (fun t => t.1 = d)
      some (fired.foldl (fun a t => a.wake t.2) { a with now := max a.now d, timers := later })
    else none

/-- Sets the clock to a later time. -/
def skipTo (a : Agenda τ) (time : Nat) : Agenda τ :=
  { a with now := max a.now time }

end Agenda

/-- Background work that is played against an agenda.  In its turn a task goes on until it waits
again. -/
class Stage (S : Type) (τ : outParam Type) where
  agenda : S → Agenda τ
  withAgenda : S → Agenda τ → S
  turn : S → τ → S

namespace Stage

variable {S τ : Type} [DecidableEq τ] [Stage S τ]

/-- Plays what can go on, and moves the clock from deadline to deadline as long as they pass a
test; at most a number of turns. -/
def play (due : Nat → Bool) : Nat → S → S
  | 0, s => s
  | turns + 1, s =>
    match (agenda s).next? with
    | some (t, a) => play due turns (turn (withAgenda s a) t)
    | none =>
      match (agenda s).advance? due with
      | some a => play due turns (withAgenda s a)
      | none => s

/-- The turns after which a play is cut off. -/
def maxTurns : Nat :=
  1000000

/-- Lets a time pass and plays everything that is due by its end. -/
def runFor (s : S) (ms : Nat) : S :=
  let limit := (agenda s).now + ms
  let s := play (fun d => d ≤ limit) maxTurns s
  withAgenda s { (agenda s).skipTo limit with credit := patience }

/-- Lets a time pass and plays everything that is due before its end.  Nothing goes on when the
time is nought. -/
def runBefore (s : S) (ms : Nat) : S :=
  if ms = 0 then s
  else
    let limit := (agenda s).now + ms
    let s := play (fun d => d < limit) maxTurns s
    withAgenda s ((agenda s).skipTo limit)

/-- Lets a pause between two polls pass.  One of no length passes without background work as long as
there is credit for it. -/
def pause (s : S) (ms : Nat) : S :=
  let a := agenda s
  if ms = 0 ∧ 0 < a.credit then withAgenda s { a with credit := a.credit - 1 }
  else
    let s := if ms = 0 then play (fun d => d ≤ a.now) maxTurns s else runBefore s ms
    withAgenda s { agenda s with credit := patience - 1 }

/-- Polls a condition, with the attempts that are left and the time that has passed. -/
def pollFrom (spec : RetrySpec) (holds : S → Bool) : Nat → Nat → S → S × Bool
  | 0, _, s => (s, holds s)
  | left + 1, elapsed, s =>
    match spec.judge (left + 1) elapsed (holds s) with
    | .held => (s, true)
    | .gaveUp => (s, false)
    | .pause =>
      pollFrom spec holds left (elapsed + spec.pauseMs) (pause s spec.pauseMs)

/-- Waits for a condition while the background work goes on; says whether it came to hold. -/
def poll (spec : RetrySpec) (holds : S → Bool) (s : S) : S × Bool :=
  pollFrom spec holds spec.maxAttempts.toNat 0 s

end Stage
end Orchestration
