import Mathlib.Data.List.Perm.Subperm
import Orchestration.Task.Session

/-!
# Runs of a job session

A session has its jobs polled, hears of their results, and at last takes its own result, leaves the
active sessions and reports.  Jobs may take any time: a run is any list of such events, in any
order; an event that does not fit the session does nothing.  Of the jobs that were added and have
not begun, the oldest one is polled first.

As long as nothing was stopped, every job is in one of four places: it was folded, it has begun, it
was added, or it waits (`Going`).  A session that was stopped is over, with the failure last
(`Stopped`).

Main results:

- `Session.Going.step`, `Session.Stopped.step`: what every event keeps, if nobody cancels.
- `Session.Going.run`, `Session.Stopped.run`: the same for whole runs.
- `Session.step_keeps`: what even a cancellation keeps.
-/

namespace Orchestration

/-- What happens to a session.  Running jobs go by their places. -/
inductive SessionEvent where
  /-- The oldest job that has not begun is polled. -/
  | begin
  /-- A job that has begun ends. -/
  | finish (i : Nat) (result : Bool)
  /-- A session in which nothing runs takes its result. -/
  | settle
  /-- A session that has its result leaves the active ones. -/
  | leave
  /-- A session that has left the active ones reports. -/
  | report
  /-- Somebody cancels the session. -/
  | cancel
  deriving DecidableEq, Repr

namespace Session

variable {J : Type}

/-- The place of the oldest job that has not begun. -/
def unbegun? (s : Session J) : Option Nat :=
  s.running.findIdx? (fun j => !j.2)

/-- One event.  A job that is polled in a cancelled session fails without doing anything. -/
def step (s : Session J) : SessionEvent → Session J
  | .begin =>
    match s.unbegun? with
    | some i => if s.cancelled then s.complete i false else s.begin i
    | none => s
  | .finish i result =>
    match s.running[i]? with
    | some (_, true) => s.complete i result
    | _ => s
  | .settle => s.settle
  | .leave => s.leave
  | .report => s.report
  | .cancel => s.cancel.1

/-- A whole run. -/
def run (s : Session J) (events : List SessionEvent) : Session J :=
  events.foldl step s

/-- An event fits a session: there is something for it to do. -/
def fits (s : Session J) : SessionEvent → Bool
  | .begin => s.unbegun?.isSome
  | .finish i _ => s.running[i]?.any (·.2)
  | .settle => s.stage = .carrying && s.running.isEmpty
  | .leave => match s.stage with
    | .leaving _ => true
    | _ => false
  | .report => match s.stage with
    | .reporting _ => true
    | _ => false
  | .cancel => s.isActive

/-- The job that an event starts. -/
def starts? (s : Session J) : SessionEvent → Option J
  | .begin => if s.cancelled then none else s.unbegun?.bind (fun i => s.running[i]?.map (·.1))
  | _ => none

/-- The job of which an event folds the result. -/
def folds? (s : Session J) : SessionEvent → Option (J × Bool)
  | .begin =>
    if s.cancelled then s.unbegun?.bind (fun i => s.running[i]?.map (fun j => (j.1, false)))
    else none
  | .finish i result =>
    match s.running[i]? with
    | some (j, true) => some (j, result)
    | _ => none
  | _ => none

/-- What is seen in a run by looking at each event. -/
def observed {α : Type} (look : Session J → SessionEvent → Option α) (s : Session J) :
    List SessionEvent → List α
  | [] => []
  | ev :: rest => (look s ev).toList ++ observed look (s.step ev) rest

/-- The jobs that were started, in this order. -/
def started (s : Session J) (events : List SessionEvent) : List J :=
  observed starts? s events

/-- The jobs of which the results were folded, in this order, with the results. -/
def folded (s : Session J) (events : List SessionEvent) : List (J × Bool) :=
  observed folds? s events

/-- What is seen in two parts of a run is seen one part after the other. -/
theorem observed_append {α : Type} (look : Session J → SessionEvent → Option α) (s : Session J)
    (earlier later : List SessionEvent) :
    observed look s (earlier ++ later) =
      observed look s earlier ++ observed look (s.run earlier) later := by
  induction earlier generalizing s with
  | nil => rfl
  | cons ev rest ih =>
      rw [List.cons_append, observed, ih, observed, List.append_assoc]
      rfl

/-- An event that does not fit does nothing. -/
theorem step_of_not_fits {s : Session J} {ev : SessionEvent} (h : s.fits ev = false) :
    s.step ev = s ∧ s.starts? ev = none ∧ s.folds? ev = none := by
  cases ev with
  | begin =>
      have hnone : s.unbegun? = none := by simpa [fits] using h
      simp [step, starts?, folds?, hnone]
  | finish i result =>
      cases hjob : s.running[i]? with
      | none => simp [step, starts?, folds?, hjob]
      | some j =>
          obtain ⟨j, begun⟩ := j
          cases begun with
          | false => simp [step, starts?, folds?, hjob]
          | true => simp [fits, hjob] at h
  | settle =>
      refine ⟨?_, rfl, rfl⟩
      cases hstage : s.stage <;> simp_all [step, settle, fits]
  | leave =>
      refine ⟨?_, rfl, rfl⟩
      cases hstage : s.stage <;> simp_all [step, leave, fits]
  | report =>
      refine ⟨?_, rfl, rfl⟩
      cases hstage : s.stage <;> simp_all [step, report, fits]
  | cancel =>
      have hgone : s.isActive = false := h
      exact ⟨by simp [step, cancel, hgone], rfl, rfl⟩

/-- Only a job that has begun ends. -/
theorem exists_of_fits_finish {s : Session J} {i : Nat} {result : Bool}
    (h : s.fits (.finish i result) = true) : ∃ j, s.running[i]? = some (j, true) := by
  cases hjob : s.running[i]? with
  | none => simp [fits, hjob] at h
  | some job =>
      obtain ⟨j, begun⟩ := job
      obtain rfl : begun = true := by simpa [fits, hjob] using h
      exact ⟨j, rfl⟩

/-! ## Where the jobs are -/

/-- The running jobs when all of them that have begun come before those that have not. -/
def layout (begun fresh : List J) : List (J × Bool) :=
  begun.map (fun j => (j, true)) ++ fresh.map (fun j => (j, false))

/-- A job that was begun stands in front of the others. -/
theorem layout_cons (j : J) (begun fresh : List J) :
    layout (j :: begun) fresh = (j, true) :: layout begun fresh :=
  rfl

/-- A job that was not begun is put at the end. -/
theorem layout_append (begun fresh : List J) (j : J) :
    layout begun fresh ++ [(j, false)] = layout begun (fresh ++ [j]) := by
  simp [layout]

/-- Begun or not, every job takes one place. -/
@[simp]
theorem length_layout (begun fresh : List J) :
    (layout begun fresh).length = begun.length + fresh.length := by
  simp [layout]

/-- Nothing runs when there is neither a begun job nor a fresh one. -/
theorem layout_eq_nil_iff (begun fresh : List J) :
    layout begun fresh = [] ↔ begun = [] ∧ fresh = [] := by
  simp [layout]

/-- The jobs that have begun. -/
theorem filter_layout (begun fresh : List J) :
    (layout begun fresh).filter (·.2) = begun.map (fun j => (j, true)) := by
  simp [layout, List.filter_append, List.filter_map, Function.comp_def]

/-- The jobs that have not begun. -/
theorem countP_layout (begun fresh : List J) :
    (layout begun fresh).countP (fun j => !j.2) = fresh.length := by
  simp [layout, List.countP_append, List.countP_map, Function.comp_def]

/-- When all jobs were begun there is none left to begin. -/
theorem findIdx?_layout_nil (begun : List J) :
    (layout begun []).findIdx? (fun j => !j.2) = none := by
  simp [layout, List.findIdx?_eq_none_iff]

/-- The first job that was not begun stands right behind those that were. -/
theorem findIdx?_layout_cons (begun : List J) (j : J) (fresh : List J) :
    (layout begun (j :: fresh)).findIdx? (fun j => !j.2) = some begun.length := by
  induction begun with
  | nil => rfl
  | cons j' rest ih =>
      rw [layout_cons, List.findIdx?_cons, ih]
      rfl

/-- It is the first of the fresh ones. -/
theorem getElem?_layout_length (begun : List J) (j : J) (fresh : List J) :
    (layout begun (j :: fresh))[begun.length]? = some (j, false) := by
  simp [layout]

/-- The oldest job that has not begun becomes the last one that has. -/
theorem modify_layout (begun : List J) (j : J) (fresh : List J) :
    (layout begun (j :: fresh)).modify begun.length (fun j => (j.1, true)) =
      layout (begun ++ [j]) fresh := by
  induction begun with
  | nil => rfl
  | cons j' rest ih =>
      rw [layout_cons, List.length_cons, List.modify_succ_cons, ih]
      rfl

/-- A job that is marked as begun is one of the first. -/
theorem getElem?_of_layout {begun fresh : List J} {i : Nat} {j : J}
    (h : (layout begun fresh)[i]? = some (j, true)) : begun[i]? = some j := by
  by_cases hi : i < begun.length
  · rw [layout, List.getElem?_append_left (by simpa using hi)] at h
    simpa using h
  · rw [layout, List.getElem?_append_right (by simpa using hi), List.getElem?_map,
      Option.map_eq_some_iff] at h
    obtain ⟨j', -, hj'⟩ := h
    cases hj'

/-- A begun job that ends leaves the fresh ones in their places. -/
theorem eraseIdx_layout {begun : List J} {i : Nat} (hi : i < begun.length) (fresh : List J) :
    (layout begun fresh).eraseIdx i = layout (begun.eraseIdx i) fresh := by
  rw [layout, List.eraseIdx_append_of_lt_length (by simpa using hi), List.eraseIdx_map, layout]

/-- A job that was taken out of a list is all that is missing there. -/
theorem perm_append_eraseIdx {l : List J} {i : Nat} {j : J} (h : l[i]? = some j) (l' : List J) :
    (l' ++ l).Perm (l' ++ [j] ++ l.eraseIdx i) := by
  obtain ⟨hi, rfl⟩ := List.getElem?_eq_some_iff.1 h
  rw [List.append_assoc]
  exact ((List.getElem_cons_eraseIdx_perm hi).symm).append_left l'

/-- A failure under the strategy that stops. -/
theorem complete_of_stop {s : Session J} {result : Bool}
    (h : (s.failed || !result) = true ∧ s.strategy = .stop) (i : Nat) :
    s.complete i result =
      { s with failed := true, cancelled := true, running := [], stage := .leaving false } := by
  simp [complete, h.1, h.2]

/-- When no job waits, the end of one frees its place. -/
theorem complete_of_empty {s : Session J} {result : Bool}
    (h : ¬ ((s.failed || !result) = true ∧ s.strategy = .stop)) (hwaiting : s.waiting = [])
    (i : Nat) :
    s.complete i result =
      { s with failed := s.failed || !result, running := s.running.eraseIdx i } := by
  rw [complete]
  simp only [Bool.and_eq_true, decide_eq_true_eq, h, if_false, hwaiting]

/-- Otherwise the job that has waited longest takes the place. -/
theorem complete_of_waiting {s : Session J} {result : Bool}
    (h : ¬ ((s.failed || !result) = true ∧ s.strategy = .stop)) {j : J} {rest : List J}
    (hwaiting : s.waiting = j :: rest) (i : Nat) :
    s.complete i result = { s with
      failed := s.failed || !result
      waiting := rest
      running := s.running.eraseIdx i ++ [(j, false)] } := by
  rw [complete]
  simp only [Bool.and_eq_true, decide_eq_true_eq, h, if_false, hwaiting]

/-- What was reported is what the stage says. -/
def Reported (s : Session J) : Prop :=
  match s.stage with
  | .done result => s.reports = [⟨result, s.cancelled⟩]
  | _ => s.reports = []

/-- A session that nobody has stopped.  Every job of it was folded, has begun, was added, or waits.
It has its result only when all jobs were folded. -/
structure Going (jobs : List J) (p : Nat) (started : List J) (folded : List (J × Bool))
    (s : Session J) : Prop where
  positive : 0 < p
  places : ∃ begun fresh, s.running = layout begun fresh ∧ jobs = started ++ fresh ++ s.waiting ∧
    started.Perm (folded.map Prod.fst ++ begun)
  bounded : s.running.length ≤ p
  full : s.waiting = [] ∨ s.running.length = p
  failed : s.failed = folded.any (fun f => !f.2)
  unstopped : s.strategy = .stop → s.failed = false
  uncancelled : s.cancelled = false
  outcome : ∀ result, s.outcome = some result →
    s.running = [] ∧ s.waiting = [] ∧ result = !s.failed
  reported : s.Reported

/-- A session that was stopped by a failure.  The failure was folded last, and nothing runs. -/
structure Stopped (jobs : List J) (started : List J) (folded : List (J × Bool)) (s : Session J) :
    Prop where
  strategy : s.strategy = .stop
  inOrder : started <+: jobs
  once : (folded.map Prod.fst).Subperm started
  failure : ∃ earlier j, folded = earlier ++ [(j, false)] ∧ ∀ f ∈ earlier, f.2 = true
  idle : s.running = []
  cancelled : s.cancelled = true
  outcome : s.outcome = some false
  reported : s.Reported

/-- A session starts with as many jobs as may run at the same time; the others wait. -/
theorem going_start {jobs : List J} {p : Nat} (hp : 0 < p) (strategy : FailureStrategy) :
    Going jobs p [] [] (ofTopology ⟨jobs, p⟩ strategy) where
  positive := hp
  places := ⟨[], jobs.take p, rfl, (List.take_append_drop p jobs).symm, .nil⟩
  bounded := by
    rw [ofTopology, List.length_map]
    exact List.length_take_le ..
  full := by
    by_cases h : jobs.length ≤ p
    · exact .inl (List.drop_eq_nil_of_le h)
    · exact .inr (by simp [ofTopology, Nat.min_eq_left (Nat.le_of_not_le h)])
  failed := rfl
  unstopped _ := rfl
  uncancelled := rfl
  outcome result h := by cases h
  reported := rfl

section Step

variable {jobs : List J} {p : Nat} {started : List J} {folded : List (J × Bool)} {s : Session J}

/-- Nothing was reported while jobs are carried out. -/
theorem Reported.of_carrying (h : s.Reported) (hstage : s.stage = .carrying) : s.reports = [] := by
  rw [Reported, hstage] at h
  exact h

/-- There is no outcome as long as jobs are carried out. -/
theorem outcome_eq_none_iff : s.outcome = none ↔ s.stage = .carrying := by
  cases hstage : s.stage <;> simp [outcome, hstage]

/-- Jobs that run are those of a session that carries jobs out. -/
theorem Going.carrying (h : Going jobs p started folded s) (hrunning : s.running ≠ []) :
    s.stage = .carrying := by
  rw [← outcome_eq_none_iff, Option.eq_none_iff_forall_ne_some]
  exact fun result hresult => hrunning (h.outcome result hresult).1

/-- The oldest job that was added is polled. -/
theorem Going.step_begin (h : Going jobs p started folded s) {begun : List J} {j : J}
    {fresh : List J} (hrunning : s.running = layout begun (j :: fresh)) :
    s.step .begin = { s with running := layout (begun ++ [j]) fresh } := by
  have hplace : s.unbegun? = some begun.length := by
    rw [unbegun?, hrunning, findIdx?_layout_cons]
  rw [step, hplace, ← modify_layout, ← hrunning]
  exact if_neg (by simp [h.uncancelled])

/-- The oldest job that was added begins. -/
theorem Going.begin (h : Going jobs p started folded s) :
    Going jobs p (started ++ (s.starts? .begin).toList) (folded ++ (s.folds? .begin).toList)
      (s.step .begin) := by
  obtain ⟨begun, fresh, hrunning, hjobs, hperm⟩ := h.places
  cases fresh with
  | nil =>
      have hnone : s.unbegun? = none := by rw [unbegun?, hrunning, findIdx?_layout_nil]
      simpa [starts?, folds?, step, hnone] using h
  | cons j fresh =>
      have hplace : s.unbegun? = some begun.length := by
        rw [unbegun?, hrunning, findIdx?_layout_cons]
      have hjob : s.running[begun.length]? = some (j, false) := by
        rw [hrunning, getElem?_layout_length]
      have hstarts : s.starts? .begin = some j := by
        simp [starts?, h.uncancelled, hplace, hjob]
      have hfolds : s.folds? .begin = none := by simp [folds?, h.uncancelled]
      have hstep : s.step .begin = { s with running := layout (begun ++ [j]) fresh } :=
        h.step_begin hrunning
      have hlength : (layout (begun ++ [j]) fresh).length = s.running.length := by
        simp [hrunning]
        omega
      rw [hstarts, hfolds, hstep, Option.toList_some, Option.toList_none, List.append_nil]
      refine { h with
        places := ⟨begun ++ [j], fresh, rfl, ?_, ?_⟩
        bounded := hlength ▸ h.bounded
        full := hlength ▸ h.full
        outcome := fun result hresult => ?_ }
      · rw [hjobs]
        simp
      · rw [← List.append_assoc]
        exact hperm.append_right [j]
      · have hempty := (h.outcome result hresult).1
        rw [hrunning, layout_eq_nil_iff] at hempty
        cases hempty.2

/-- A job that has begun is taken from its place: all others stay where they are. -/
theorem Going.taken (h : Going jobs p started folded s) {i : Nat} {j : J}
    (hjob : s.running[i]? = some (j, true)) (result : Bool) :
    s.stage = .carrying ∧ ∃ begun fresh, s.running.eraseIdx i = layout begun fresh ∧
      s.running.length = begun.length + fresh.length + 1 ∧
      s.running.countP (fun j => !j.2) = fresh.length ∧ jobs = started ++ fresh ++ s.waiting ∧
      started.Perm ((folded ++ [(j, result)]).map Prod.fst ++ begun) := by
  obtain ⟨begun, fresh, hrunning, hjobs, hperm⟩ := h.places
  have hbegun : begun[i]? = some j := getElem?_of_layout (hrunning ▸ hjob)
  have hi : i < begun.length := (List.getElem?_eq_some_iff.1 hbegun).1
  have herased : (begun.eraseIdx i).length = begun.length - 1 := List.length_eraseIdx_of_lt hi
  refine ⟨h.carrying fun hempty => ?_, begun.eraseIdx i, fresh, ?_, ?_, ?_, hjobs, ?_⟩
  · rw [hempty] at hjob
    cases hjob
  · rw [hrunning, eraseIdx_layout hi]
  · rw [hrunning, length_layout]
    omega
  · rw [hrunning, countP_layout]
  · rw [List.map_append]
    exact hperm.trans (perm_append_eraseIdx hbegun _)

/-- Under the strategy that stops, a session that goes on has folded no failure. -/
theorem Going.forall_of_stop (h : Going jobs p started folded s) (hstrategy : s.strategy = .stop) :
    ∀ f ∈ folded, f.2 = true := by
  have hnone := h.failed.symm.trans (h.unstopped hstrategy)
  rw [List.any_eq_false] at hnone
  simpa using hnone

/-- A failure under the strategy that stops is the first one, and stops the session. -/
theorem Going.stop (h : Going jobs p started folded s) {i : Nat} {j : J}
    (hjob : s.running[i]? = some (j, true)) {result : Bool}
    (hstop : (s.failed || !result) = true ∧ s.strategy = .stop) :
    Stopped jobs started (folded ++ [(j, result)]) (s.complete i result) := by
  obtain ⟨hcarrying, begun, fresh, -, -, -, hjobs, hperm⟩ := h.taken hjob result
  have hfirst : s.failed = false := h.unstopped hstop.2
  have hresult : result = false := by simpa [hfirst] using hstop.1
  rw [complete_of_stop hstop, hresult]
  exact
    { strategy := hstop.2
      inOrder := ⟨fresh ++ s.waiting, by rw [hjobs, List.append_assoc]⟩
      once := (List.sublist_append_left ..).subperm.trans (hresult ▸ hperm).symm.subperm
      failure := ⟨folded, j, rfl, h.forall_of_stop hstop.2⟩
      idle := rfl
      cancelled := rfl
      outcome := rfl
      reported := h.reported.of_carrying hcarrying }

/-- Any other result makes place for the next job. -/
theorem Going.refill (h : Going jobs p started folded s) {i : Nat} {j : J}
    (hjob : s.running[i]? = some (j, true)) {result : Bool}
    (hstop : ¬ ((s.failed || !result) = true ∧ s.strategy = .stop)) :
    Going jobs p started (folded ++ [(j, result)]) (s.complete i result) := by
  obtain ⟨hcarrying, begun, fresh, herased, hlength, -, hjobs, hperm⟩ := h.taken hjob result
  have hbounded := h.bounded
  have hfailed : (s.failed || !result) = (folded ++ [(j, result)]).any (fun f => !f.2) := by
    simp [h.failed]
  have hunstopped : s.strategy = .stop → (s.failed || !result) = false := by
    intro hstrategy
    simpa [hstrategy] using hstop
  have hpending : ∀ r, s.outcome ≠ some r := by
    intro r
    simp [outcome_eq_none_iff.2 hcarrying]
  -- The place that was left is filled as long as jobs wait.
  cases hwaiting : s.waiting with
  | nil =>
      rw [complete_of_empty hstop hwaiting, herased]
      refine { h with
        places := ⟨begun, fresh, rfl, hjobs, hperm⟩
        bounded := ?_
        full := .inl hwaiting
        failed := hfailed
        unstopped := hunstopped
        outcome := fun r hr => absurd hr (hpending r) }
      rw [length_layout]
      omega
  | cons w rest =>
      have hfull : s.running.length = p := h.full.resolve_left (by simp [hwaiting])
      have hrefilled : (layout begun (fresh ++ [w])).length = p := by
        rw [length_layout, List.length_append, List.length_singleton]
        omega
      rw [complete_of_waiting hstop hwaiting, herased, layout_append]
      refine { h with
        places := ⟨begun, fresh ++ [w], rfl, ?_, hperm⟩
        bounded := Nat.le_of_eq hrefilled
        full := .inr hrefilled
        failed := hfailed
        unstopped := hunstopped
        outcome := fun r hr => absurd hr (hpending r) }
      rw [hjobs, hwaiting]
      simp

/-- A result that is folded makes place for the next job, or is a failure that stops the session. -/
theorem Going.finish (h : Going jobs p started folded s) {i : Nat} {j : J}
    (hjob : s.running[i]? = some (j, true)) (result : Bool) :
    Going jobs p started (folded ++ [(j, result)]) (s.complete i result) ∨
      Stopped jobs started (folded ++ [(j, result)]) (s.complete i result) := by
  by_cases hstop : (s.failed || !result) = true ∧ s.strategy = .stop
  · exact .inr (h.stop hjob hstop)
  · exact .inl (h.refill hjob hstop)

/-- A session in which nothing runs has folded the results of all its jobs. -/
theorem Going.settle (h : Going jobs p started folded s) :
    Going jobs p started folded s.settle := by
  unfold Session.settle
  split
  · rename_i hcarrying
    split
    · rename_i hidle
      have hrunning : s.running = [] := List.isEmpty_iff.1 hidle
      have hwaiting : s.waiting = [] := by
        refine h.full.resolve_right fun hfull => ?_
        rw [hrunning] at hfull
        exact absurd hfull (Nat.ne_of_lt h.positive)
      exact { h with
        outcome := fun result hresult => ⟨hrunning, hwaiting, (Option.some.inj hresult).symm⟩
        reported := h.reported.of_carrying hcarrying }
    · exact h
  · exact h

/-- To leave the registry concerns no job. -/
theorem Going.leave (h : Going jobs p started folded s) : Going jobs p started folded s.leave := by
  unfold Session.leave
  split
  · rename_i result hleaving
    have houtcome : s.outcome = some result := by simp [Session.outcome, hleaving]
    have hreports : s.reports = [] := by simpa [Reported, hleaving] using h.reported
    exact { h with
      outcome := fun result' hresult' =>
        h.outcome result' (houtcome.trans hresult')
      reported := hreports }
  · exact h

/-- Nor does the report. -/
theorem Going.report (h : Going jobs p started folded s) :
    Going jobs p started folded s.report := by
  unfold Session.report
  split
  · rename_i result hreporting
    have houtcome : s.outcome = some result := by simp [Session.outcome, hreporting]
    have hreports : s.reports = [] := by simpa [Reported, hreporting] using h.reported
    exact { h with
      outcome := fun result' hresult' =>
        h.outcome result' (houtcome.trans hresult')
      reported := by rw [Reported, hreports]; rfl }
  · exact h

/-- Every event keeps track of all jobs, or stops the session. -/
theorem Going.step (h : Going jobs p started folded s) {ev : SessionEvent} (hev : ev ≠ .cancel) :
    Going jobs p (started ++ (s.starts? ev).toList) (folded ++ (s.folds? ev).toList) (s.step ev) ∨
      Stopped jobs (started ++ (s.starts? ev).toList) (folded ++ (s.folds? ev).toList)
        (s.step ev) := by
  cases hfits : s.fits ev with
  | false =>
      obtain ⟨hstep, hstarts, hfolds⟩ := step_of_not_fits hfits
      rw [hstep, hstarts, hfolds, Option.toList_none, List.append_nil, Option.toList_none,
        List.append_nil]
      exact .inl h
  | true =>
      cases ev with
      | begin => exact .inl h.begin
      | finish i result =>
          obtain ⟨j, hj⟩ := exists_of_fits_finish hfits
          have hfinish := h.finish hj result
          simpa [starts?, folds?, Session.step, hj] using hfinish
      | settle => simpa [starts?, folds?, Session.step] using Or.inl h.settle
      | leave => simpa [starts?, folds?, Session.step] using Or.inl h.leave
      | report => simpa [starts?, folds?, Session.step] using Or.inl h.report
      | cancel => exact absurd rfl hev

/-- In a session that was stopped nothing starts and nothing is folded. -/
theorem Stopped.step (h : Stopped jobs started folded s) {ev : SessionEvent} (hev : ev ≠ .cancel) :
    s.starts? ev = none ∧ s.folds? ev = none ∧ Stopped jobs started folded (s.step ev) := by
  cases hfits : s.fits ev with
  | false =>
      obtain ⟨hstep, hstarts, hfolds⟩ := step_of_not_fits hfits
      exact ⟨hstarts, hfolds, by rwa [hstep]⟩
  | true =>
      have houtcome := h.outcome
      have hreported := h.reported
      cases ev with
      | begin => simp [fits, unbegun?, h.idle] at hfits
      | finish i result => simp [fits, h.idle] at hfits
      | settle =>
          have hcarrying : s.stage = .carrying := by simp_all [fits]
          rw [outcome_eq_none_iff.2 hcarrying] at houtcome
          cases houtcome
      | leave =>
          cases hstage : s.stage with
          | leaving result =>
              have hleave : s.step .leave = { s with stage := .reporting result } := by
                simp [Session.step, leave, hstage]
              have hresult : result = false := by simpa [Session.outcome, hstage] using houtcome
              rw [hleave]
              exact ⟨rfl, rfl, { h with
                outcome := congrArg some hresult
                reported := by simpa [Reported, hstage] using hreported }⟩
          | _ => simp [fits, hstage] at hfits
      | report =>
          cases hstage : s.stage with
          | reporting result =>
              have hreport : s.step .report = { s with
                  stage := .done result, reports := s.reports ++ [⟨result, s.cancelled⟩] } := by
                simp [Session.step, report, hstage]
              have hresult : result = false := by simpa [Session.outcome, hstage] using houtcome
              have hreports : s.reports = [] := by simpa [Reported, hstage] using hreported
              rw [hreport, hreports]
              exact ⟨rfl, rfl, { h with outcome := congrArg some hresult, reported := rfl }⟩
          | _ => simp [fits, hstage] at hfits
      | cancel => exact absurd rfl hev

end Step

/-! ## Whole runs -/

/-- Folding a result changes neither the strategy nor the reports. -/
theorem complete_keeps (s : Session J) (i : Nat) (result : Bool) :
    (s.complete i result).strategy = s.strategy ∧ (s.complete i result).reports = s.reports := by
  by_cases hstop : (s.failed || !result) = true ∧ s.strategy = .stop
  · rw [complete_of_stop hstop]
    exact ⟨rfl, rfl⟩
  · cases hwaiting : s.waiting with
    | nil =>
        rw [complete_of_empty hstop hwaiting]
        exact ⟨rfl, rfl⟩
    | cons j rest =>
        rw [complete_of_waiting hstop hwaiting]
        exact ⟨rfl, rfl⟩

/-- No event changes the strategy, and only a session that has left the active ones reports. -/
theorem step_keeps (s : Session J) (ev : SessionEvent) :
    (s.step ev).strategy = s.strategy ∧
      ((s.step ev).reports = s.reports ∨ s.isActive = false) := by
  have hcomplete : ∀ i result, (s.complete i result).strategy = s.strategy ∧
      ((s.complete i result).reports = s.reports ∨ s.isActive = false) := fun i result =>
    ⟨(complete_keeps s i result).1, .inl (complete_keeps s i result).2⟩
  cases ev with
  | begin =>
      unfold step
      dsimp only
      split
      · split
        · exact hcomplete _ false
        · exact ⟨rfl, .inl rfl⟩
      · exact ⟨rfl, .inl rfl⟩
  | finish i result =>
      unfold step
      dsimp only
      split
      · exact hcomplete i result
      · exact ⟨rfl, .inl rfl⟩
  | settle =>
      cases hstage : s.stage with
      | carrying =>
          simp only [step, settle, hstage]
          split <;> exact ⟨rfl, .inl rfl⟩
      | _ => simp [step, settle, hstage]
  | leave => cases hstage : s.stage <;> simp [step, leave, hstage]
  | report => cases hstage : s.stage <;> simp [step, report, isActive, hstage]
  | cancel => cases hactive : s.isActive <;> simp [step, cancel, hactive]

/-- The strategy is settled once and for all. -/
theorem strategy_run (s : Session J) (events : List SessionEvent) :
    (s.run events).strategy = s.strategy := by
  induction events generalizing s with
  | nil => rfl
  | cons ev rest ih => exact (ih (s.step ev)).trans (step_keeps s ev).1

section Run

variable {jobs : List J} {p : Nat} {started : List J} {folded : List (J × Bool)} {s : Session J}

/-- Nothing happens any more in a session that was stopped, but that it comes to its end. -/
theorem Stopped.run (h : Stopped jobs started folded s) {events : List SessionEvent}
    (hcancel : .cancel ∉ events) :
    s.started events = [] ∧ s.folded events = [] ∧ Stopped jobs started folded (s.run events) := by
  induction events generalizing s with
  | nil => exact ⟨rfl, rfl, h⟩
  | cons ev rest ih =>
      rw [List.mem_cons, not_or] at hcancel
      obtain ⟨hstarts, hfolds, hstep⟩ := h.step (Ne.symm hcancel.1)
      obtain ⟨hstarted, hfolded, hrun⟩ := ih hstep hcancel.2
      refine ⟨?_, ?_, hrun⟩
      · simpa [Session.started, observed, hstarts] using hstarted
      · simpa [Session.folded, observed, hfolds] using hfolded

/-- A whole run keeps track of all jobs, or stops the session. -/
theorem Going.run (h : Going jobs p started folded s) {events : List SessionEvent}
    (hcancel : .cancel ∉ events) :
    Going jobs p (started ++ s.started events) (folded ++ s.folded events) (s.run events) ∨
      Stopped jobs (started ++ s.started events) (folded ++ s.folded events) (s.run events) := by
  induction events generalizing s started folded with
  | nil =>
      have hnone : started ++ s.started [] = started ∧ folded ++ s.folded [] = folded :=
        ⟨List.append_nil started, List.append_nil folded⟩
      rw [hnone.1, hnone.2]
      exact .inl h
  | cons ev rest ih =>
      rw [List.mem_cons, not_or] at hcancel
      have hstarted : s.started (ev :: rest) = (s.starts? ev).toList ++ (s.step ev).started rest :=
        rfl
      have hfolded : s.folded (ev :: rest) = (s.folds? ev).toList ++ (s.step ev).folded rest := rfl
      rw [hstarted, hfolded, ← List.append_assoc, ← List.append_assoc]
      rcases h.step (Ne.symm hcancel.1) with hstep | hstep
      · exact ih hstep hcancel.2
      · obtain ⟨hnone, hnone', hrun⟩ := hstep.run hcancel.2
        rw [hnone, hnone', List.append_nil, List.append_nil]
        exact .inr hrun

end Run

end Session
end Orchestration
