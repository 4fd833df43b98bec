import Orchestration.Operation

/-!
# Job sessions

A session carries out a list of jobs, a bounded number of them at once and in the order of the
list.  The results are folded: a session succeeds when every job did.  With the strategy that stops,
the first failure that is folded cancels the session, and the jobs that still run are dropped.  A
session may also be cancelled from outside; a job that begins after that fails without doing
anything.

A session is given as the steps that it takes: `begin` begins a job that was added, and
`complete` folds the result of a running one.  A session in which nothing runs any more has its
result (`settle`), leaves the active ones (`leave`) and reports (`report`), in this order.

Main definitions: `Session.ofTopology`, `Session.begin`, `Session.complete`, `Session.conclude`,
`Session.cancel`.
-/

namespace Orchestration

/-- The jobs of a session and how many of them may run at once. -/
structure Topology (J : Type) where
  jobs : List J
  parallelism : Nat := 1

namespace Topology

/-- A topology; a requested parallelism is raised to one. -/
def of {J : Type} (jobs : List J) (parallelism : Option Nat) : Topology J :=
  ⟨jobs, match parallelism with
    | some p => max p 1
    | none => 1⟩

end Topology

/-- What is reported when a session is over. -/
structure SessionReport where
  result : Bool
  cancelled : Bool
  deriving DecidableEq, Repr

/-- How far a session is.  Its jobs are carried out; or its result is known while it is still among
the active sessions; or it has left them, and nobody was told; or the result was reported. -/
inductive SessionStage where
  | carrying
  | leaving (result : Bool)
  | reporting (result : Bool)
  | done (result : Bool)
  deriving DecidableEq, Repr

/-- A session: the jobs that wait and those that were added to the running ones, oldest first, with
a mark on those that have begun.  `reports` are the reports that were made. -/
structure Session (J : Type) where
  strategy : FailureStrategy
  waiting : List J
  running : List (J × Bool)
  failed : Bool := false
  cancelled : Bool := false
  stage : SessionStage := .carrying
  reports : List SessionReport := []

namespace Session

variable {J : Type}

/-- The result of a session of which the jobs are done with. -/
def outcome (s : Session J) : Option Bool :=
  match s.stage with
  | .carrying => none
  | .leaving result => some result
  | .reporting result => some result
  | .done result => some result

/-- The session is among the active ones, where it can be found to be cancelled. -/
def isActive (s : Session J) : Bool :=
  match s.stage with
  | .carrying => true
  | .leaving _ => true
  | _ => false

/-- Opens a session. -/
def ofTopology (t : Topology J) (strategy : FailureStrategy) : Session J :=
  { strategy := strategy
    waiting := t.jobs.drop t.parallelism
    running := (t.jobs.take t.parallelism).map (fun j => (j, false)) }

/-- Marks a running job as begun. -/
def begin (s : Session J) (i : Nat) : Session J :=
  { s with running := s.running.modify i (fun j => (j.1, true)) }

/-- Folds the result of a running job.  A failure under the strategy that stops ends the session;
otherwise the next waiting job is added. -/
def complete (s : Session J) (i : Nat) (result : Bool) : Session J :=
  let failed := s.failed || !result
  if failed && s.strategy = .stop then
    { s with failed := failed, cancelled := true, running := [], stage := .leaving false }
  else
    let running := s.running.eraseIdx i
    match s.waiting with
    | j :: rest => { s with failed := failed, waiting := rest, running := running ++ [(j, false)] }
    | [] => { s with failed := failed, running := running }

/-- Takes the result of a session in which nothing runs any more. -/
def settle (s : Session J) : Session J :=
  match s.stage with
  | .carrying => if s.running.isEmpty then { s with stage := .leaving (!s.failed) } else s
  | _ => s

/-- Takes a session that has its result from the active ones. -/
def leave (s : Session J) : Session J :=
  match s.stage with
  | .leaving result => { s with stage := .reporting result }
  | _ => s

/-- Reports the result of a session that has left the active ones. -/
def report (s : Session J) : Session J :=
  match s.stage with
  | .reporting result =>
    { s with stage := .done result, reports := s.reports ++ [⟨result, s.cancelled⟩] }
  | _ => s

/-- Brings a session in which nothing runs any more to its end. -/
def conclude (s : Session J) : Session J :=
  s.settle.leave.report

/-- Cancels a session; says whether it was still there to be cancelled. -/
def cancel (s : Session J) : Session J × Bool :=
  if s.isActive then ({ s with cancelled := true }, true) else (s, false)

end Session
end Orchestration
