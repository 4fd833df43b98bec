import Orchestration.Proofs.Task.SessionRun

/-!
# What a session promises

A session starts its jobs in their order, no more of them at once than it may, and each at most
once.  It reports once, after it has left the active sessions.  A session that carried out all jobs
reports whether all of them succeeded; one that was stopped by a failure reports that, and starts
nothing after it.

A session that has not reported can go on, and every event that fits brings it closer to its end, so
that it reports if its jobs end and it is given its turns.

Main results:

- `Session.remaining_step`, `Session.exists_fits`: how a session comes to its end.
- `Session.honours_run`: what is known of a whole run that nobody cancels.
-/

namespace Orchestration

/-- The events that a stage still takes. -/
def SessionStage.left : SessionStage → Nat
  | .carrying => 3
  | .leaving _ => 2
  | .reporting _ => 1
  | .done _ => 0

namespace Session

variable {J : Type}

/-! ## How far a session is from its end -/

/-- The events that a session still takes: two for a job that waits or was added, one for a job that
has begun, and those of its stage. -/
def remaining (s : Session J) : Nat :=
  2 * s.waiting.length + (s.running.length + s.running.countP (fun j => !j.2)) + s.stage.left

theorem remaining_ofTopology (jobs : List J) (p : Nat) (strategy : FailureStrategy) :
    (ofTopology ⟨jobs, p⟩ strategy).remaining = 2 * jobs.length + 3 := by
  have hjobs : (jobs.take p).length + (jobs.drop p).length = jobs.length := by
    rw [← List.length_append, List.take_append_drop]
  have hfresh : (ofTopology ⟨jobs, p⟩ strategy).running = layout [] (jobs.take p) := rfl
  rw [remaining, hfresh, length_layout, countP_layout]
  simp only [ofTopology, SessionStage.left, List.length_nil]
  omega

/-- All events of a run fit. -/
def AllFit (s : Session J) : List SessionEvent → Prop
  | [] => True
  | ev :: rest => s.fits ev = true ∧ AllFit (s.step ev) rest

section Progress

variable {jobs : List J} {p : Nat} {started : List J} {folded : List (J × Bool)} {s : Session J}

/-- An event that fits brings the session closer to its end. -/
theorem remaining_step (h : Going jobs p started folded s ∨ Stopped jobs started folded s)
    {ev : SessionEvent} (hev : ev ≠ .cancel) (hfits : s.fits ev = true) :
    (s.step ev).remaining < s.remaining := by
  cases ev with
  | begin =>
      rcases h with h | h
      · obtain ⟨begun, fresh, hrunning, -, -⟩ := h.places
        cases fresh with
        | nil => simp [fits, unbegun?, hrunning, findIdx?_layout_nil] at hfits
        | cons j fresh =>
            have hstep : s.step .begin = { s with running := layout (begun ++ [j]) fresh } :=
              h.step_begin hrunning
            rw [hstep, remaining, remaining, hrunning]
            simp only [length_layout, countP_layout, List.length_append, List.length_cons,
              List.length_nil]
            omega
      · simp [fits, unbegun?, h.idle] at hfits
  | finish i result =>
      obtain ⟨j, hjob⟩ := exists_of_fits_finish hfits
      have hstep : s.step (.finish i result) = s.complete i result := by
        simp [step, hjob]
      rcases h with h | h
      · obtain ⟨hcarrying, begun, fresh, herased, hlength, hcount, -, -⟩ := h.taken hjob result
        rw [hstep, remaining, remaining, hlength, hcount, hcarrying]
        by_cases hstop : (s.failed || !result) = true ∧ s.strategy = .stop
        · rw [complete_of_stop hstop]
          simp only [List.length_nil, List.countP_nil, SessionStage.left]
          omega
        · cases hwaiting : s.waiting with
          | nil =>
              rw [complete_of_empty hstop hwaiting, herased, length_layout, countP_layout,
                hcarrying, hwaiting]
              omega
          | cons w rest =>
              rw [complete_of_waiting hstop hwaiting, herased, layout_append, length_layout,
                countP_layout, List.length_append, hcarrying]
              simp only [List.length_cons, List.length_nil]
              omega
      · rw [h.idle] at hjob
        cases hjob
  | settle =>
      cases hstage : s.stage <;> simp_all [fits, step, settle, remaining, SessionStage.left]
  | leave =>
      cases hstage : s.stage <;> simp_all [fits, step, leave, remaining, SessionStage.left]
  | report =>
      cases hstage : s.stage <;> simp_all [fits, step, report, remaining, SessionStage.left]
  | cancel => exact absurd rfl hev

/-- Until a session has reported, some event fits. -/
theorem exists_fits (h : Going jobs p started folded s ∨ Stopped jobs started folded s)
    (hreports : s.reports = []) : ∃ ev, ev ≠ .cancel ∧ s.fits ev = true := by
  cases hstage : s.stage with
  | carrying =>
      rcases h with h | h
      · obtain ⟨begun, fresh, hrunning, -, -⟩ := h.places
        cases fresh with
        | cons j fresh =>
            exact ⟨.begin, by simp, by simp [fits, unbegun?, hrunning, findIdx?_layout_cons]⟩
        | nil =>
            cases begun with
            | cons j begun =>
                exact ⟨.finish 0 true, by simp, by simp [fits, hrunning, layout]⟩
            | nil => exact ⟨.settle, by simp, by simp [fits, hstage, hrunning, layout]⟩
      · have houtcome := h.outcome
        rw [outcome_eq_none_iff.2 hstage] at houtcome
        cases houtcome
  | leaving result => exact ⟨.leave, by simp, by simp [fits, hstage]⟩
  | reporting result => exact ⟨.report, by simp, by simp [fits, hstage]⟩
  | done result =>
      have hreported : s.Reported := h.elim (·.reported) (·.reported)
      simp [Reported, hstage, hreports] at hreported

/-- A run of which all events fit is no longer than the session is from its end. -/
theorem length_le_of_allFit (h : Going jobs p started folded s ∨ Stopped jobs started folded s)
    {events : List SessionEvent} (hcancel : .cancel ∉ events) (hfit : s.AllFit events) :
    events.length ≤ s.remaining := by
  induction events generalizing s started folded with
  | nil => exact Nat.zero_le _
  | cons ev rest ih =>
      rw [List.mem_cons, not_or] at hcancel
      have hlower := remaining_step h (Ne.symm hcancel.1) hfit.1
      have hnext : ∃ started' folded', Going jobs p started' folded' (s.step ev) ∨
          Stopped jobs started' folded' (s.step ev) := by
        rcases h with h | h
        · exact ⟨_, _, h.step (Ne.symm hcancel.1)⟩
        · exact ⟨_, _, .inr (h.step (Ne.symm hcancel.1)).2.2⟩
      obtain ⟨started', folded', hnext⟩ := hnext
      have hrest := ih hnext hcancel.2 hfit.2
      rw [List.length_cons]
      omega

end Progress

/-! ## What a session promises -/

section Promises

variable {jobs : List J} {p : Nat} {started : List J} {folded : List (J × Bool)} {s : Session J}

/-- A report says what the outcome is, and whether the session was cancelled. -/
theorem Reported.of_mem (h : s.Reported) {r : SessionReport} (hr : r ∈ s.reports) :
    s.reports = [r] ∧ s.outcome = some r.result ∧ r.cancelled = s.cancelled := by
  unfold Reported at h
  split at h
  · rename_i result hstage
    rw [h, List.mem_singleton] at hr
    subst hr
    exact ⟨h, by simp [outcome, hstage], rfl⟩
  · rw [h] at hr
    cases hr

/-- The jobs that were started were folded, or they run. -/
theorem Going.accounted (h : Going jobs p started folded s) :
    started.Perm (folded.map Prod.fst ++ (s.running.filter (·.2)).map Prod.fst) := by
  obtain ⟨begun, fresh, hrunning, -, hperm⟩ := h.places
  rw [hrunning, filter_layout, List.map_map]
  simpa [Function.comp_def] using hperm

/-- The report of a session that was not stopped is about all its jobs. -/
theorem Going.completed (h : Going jobs p started folded s) {r : SessionReport}
    (hr : r ∈ s.reports) :
    started = jobs ∧ (folded.map Prod.fst).Perm jobs ∧ r.result = folded.all (·.2) ∧
      r.cancelled = false := by
  obtain ⟨-, houtcome, hcancelled⟩ := h.reported.of_mem hr
  obtain ⟨hidle, hwaiting, hresult⟩ := h.outcome _ houtcome
  obtain ⟨begun, fresh, hrunning, hjobs, hperm⟩ := h.places
  rw [hidle, eq_comm, layout_eq_nil_iff] at hrunning
  obtain ⟨rfl, rfl⟩ := hrunning
  rw [hwaiting, List.append_nil, List.append_nil] at hjobs
  rw [List.append_nil] at hperm
  refine ⟨hjobs.symm, hjobs ▸ hperm.symm, ?_, hcancelled.trans h.uncancelled⟩
  rw [hresult, h.failed, List.not_any_eq_all_not]
  simp

/-- The report of a session that was stopped is a failure. -/
theorem Stopped.told (h : Stopped jobs started folded s) {r : SessionReport} (hr : r ∈ s.reports) :
    r.result = false ∧ r.cancelled = true := by
  obtain ⟨-, houtcome, hcancelled⟩ := h.reported.of_mem hr
  rw [h.outcome] at houtcome
  exact ⟨(Option.some.inj houtcome).symm, hcancelled.trans h.cancelled⟩

/-- Under the strategy that stops, a failure that was folded has ended the session. -/
theorem Going.over_of_failure (h : Going jobs p [] [] s) {earlier later : List SessionEvent}
    (hcancel : .cancel ∉ earlier ++ later) (hstop : s.strategy = .stop)
    (hfailure : ∃ f ∈ s.folded earlier, f.2 = false) :
    (s.run earlier).outcome = some false ∧ (s.run earlier).cancelled = true ∧
      s.started (earlier ++ later) = s.started earlier ∧
      s.folded (earlier ++ later) = s.folded earlier := by
  rw [List.mem_append, not_or] at hcancel
  obtain ⟨f, hf, hfailed⟩ := hfailure
  have hearlier := h.run hcancel.1
  rw [List.nil_append, List.nil_append] at hearlier
  rcases hearlier with hgoing | hstopped
  · have hsucceeded := hgoing.forall_of_stop ((strategy_run s earlier).trans hstop) f hf
    rw [hfailed] at hsucceeded
    cases hsucceeded
  · obtain ⟨hstarted, hfolded, -⟩ := hstopped.run hcancel.2
    refine ⟨hstopped.outcome, hstopped.cancelled, ?_, ?_⟩
    · rw [Session.started, observed_append]
      exact (congrArg _ hstarted).trans (List.append_nil _)
    · rw [Session.folded, observed_append]
      exact (congrArg _ hfolded).trans (List.append_nil _)

end Promises

/-- What is known of a run of a session for some jobs, of which `p` may run at once. -/
structure Honours (jobs : List J) (p : Nat) (s : Session J) (events : List SessionEvent) :
    Prop where
  /-- Jobs are started in their order, each at most once. -/
  inOrder : s.started events <+: jobs
  /-- No more than `p` jobs run. -/
  bounded : ((s.run events).running.filter (·.2)).length ≤ p
  /-- Every job of which the result was folded was started, and is folded once. -/
  once : ((s.folded events).map Prod.fst).Subperm (s.started events)
  /-- As long as the session was not stopped, a job that was started runs or was folded. -/
  accounted : (s.run events).cancelled = false → (s.started events).Perm
    ((s.folded events).map Prod.fst ++ ((s.run events).running.filter (·.2)).map Prod.fst)
  /-- Under the strategy that stops, the first failure that is folded ends the session: it has its
  result, is cancelled, and no job starts or is folded after that. -/
  stopped : s.strategy = .stop → ∀ earlier later, events = earlier ++ later →
    (∃ f ∈ s.folded earlier, f.2 = false) →
    (s.run earlier).outcome = some false ∧ (s.run earlier).cancelled = true ∧
      s.started events = s.started earlier ∧ s.folded events = s.folded earlier
  /-- There is at most one report. -/
  reported : (s.run events).reports = [] ∨ ∃ r, (s.run events).reports = [r]
  /-- A session that reports has left the active ones before. -/
  left : ∀ ev, ((s.run events).step ev).reports ≠ (s.run events).reports →
    (s.run events).isActive = false
  /-- A session that was not stopped reports that all its jobs were carried out, and whether all of
  them succeeded. -/
  completed : ∀ r ∈ (s.run events).reports,
    s.strategy = .continueOn ∨ (∀ f ∈ s.folded events, f.2 = true) →
    s.started events = jobs ∧ ((s.folded events).map Prod.fst).Perm jobs ∧
      r.result = (s.folded events).all (·.2) ∧ r.cancelled = false
  /-- A session that was stopped reports a failure. -/
  failed : ∀ r ∈ (s.run events).reports, s.strategy = .stop →
    (∃ f ∈ s.folded events, f.2 = false) → r.result = false ∧ r.cancelled = true
  /-- Until the session has reported, some event fits. -/
  goesOn : (s.run events).reports = [] → ∃ ev, ev ≠ .cancel ∧ (s.run events).fits ev = true
  /-- No more than so many events fit one after the other. -/
  ends : s.AllFit events → events.length ≤ 2 * jobs.length + 3

/-- A topology lets as many jobs run at once as was asked for, and always one. -/
theorem parallelism_of (jobs : List J) (parallelism : Option Nat) :
    Topology.of jobs parallelism = ⟨jobs, max 1 (parallelism.getD 1)⟩ := by
  cases parallelism with
  | none => rfl
  | some p => simp [Topology.of, Nat.max_comm]

/-- Every run of a session that nobody cancels keeps what the session promises. -/
theorem honours_run (jobs : List J) (parallelism : Option Nat) (strategy : FailureStrategy)
    (events : List SessionEvent) (hcancel : .cancel ∉ events) :
    Honours jobs (max 1 (parallelism.getD 1))
      (ofTopology (Topology.of jobs parallelism) strategy) events := by
  have hp : 0 < max 1 (parallelism.getD 1) :=
    Nat.lt_of_lt_of_le Nat.zero_lt_one (Nat.le_max_left ..)
  rw [parallelism_of]
  generalize max 1 (parallelism.getD 1) = p at hp
  have hstart : Going jobs p [] [] (ofTopology ⟨jobs, p⟩ strategy) := going_start hp strategy
  have hremaining : (ofTopology ⟨jobs, p⟩ strategy).remaining = 2 * jobs.length + 3 :=
    remaining_ofTopology jobs p strategy
  generalize ofTopology ⟨jobs, p⟩ strategy = s at hstart hremaining
  have hrun := hstart.run hcancel
  rw [List.nil_append, List.nil_append] at hrun
  have hstrategy := strategy_run s events
  have hreported : (s.run events).Reported := hrun.elim (·.reported) (·.reported)
  refine
    { inOrder := ?_
      bounded := ?_
      once := ?_
      accounted := fun huncancelled => ?_
      stopped := fun hstop earlier later hevents hfailure => ?_
      reported := ?_
      left := fun ev hev => (step_keeps _ ev).2.resolve_left hev
      completed := fun r hr hall => ?_
      failed := fun r hr hstop hfailure => ?_
      goesOn := exists_fits hrun
      ends := fun hfit => hremaining ▸ length_le_of_allFit (.inl hstart) hcancel hfit }
  · rcases hrun with hrun | hrun
    · obtain ⟨begun, fresh, -, hjobs, -⟩ := hrun.places
      exact ⟨fresh ++ (s.run events).waiting, by rw [hjobs, List.append_assoc]⟩
    · exact hrun.inOrder
  · rcases hrun with hrun | hrun
    · exact Nat.le_trans (List.length_filter_le ..) hrun.bounded
    · simp [hrun.idle]
  · rcases hrun with hrun | hrun
    · exact (List.sublist_append_left ..).subperm.trans hrun.accounted.symm.subperm
    · exact hrun.once
  · rcases hrun with hrun | hrun
    · exact hrun.accounted
    · rw [hrun.cancelled] at huncancelled
      cases huncancelled
  · subst hevents
    exact hstart.over_of_failure hcancel hstop hfailure
  · cases hreports : (s.run events).reports with
    | nil => exact .inl rfl
    | cons r rest =>
        refine .inr ⟨r, ?_⟩
        rw [← hreports]
        exact (hreported.of_mem (by simp [hreports])).1
  · rcases hrun with hrun | hrun
    · exact hrun.completed hr
    · obtain ⟨earlier, j, hfolded, -⟩ := hrun.failure
      rcases hall with hcontinue | hall
      · have hstop := hrun.strategy
        rw [hstrategy, hcontinue] at hstop
        cases hstop
      · cases hall (j, false) (by simp [hfolded])
  · rcases hrun with hrun | hrun
    · obtain ⟨f, hf, hfailed⟩ := hfailure
      have hsucceeded := hrun.forall_of_stop (hstrategy.trans hstop) f hf
      rw [hfailed] at hsucceeded
      cases hsucceeded
    · exact hrun.told hr

/-- Three jobs, two of which may run at once, under the strategy that stops: the second one fails
first, and the third one is never started. -/
theorem session_stopped_at_failure :
    let s : Session String := ofTopology (Topology.of ["a", "b", "c"] (some 2)) .stop
    let events : List SessionEvent := [.begin, .begin, .finish 1 false, .begin, .leave, .report]
    s.started events = ["a", "b"] ∧ s.folded events = [("b", false)] ∧
      (s.run events).reports = [⟨false, true⟩] ∧ Honours ["a", "b", "c"] 2 s events := by
  intro s events
  exact ⟨by decide, by decide, by decide,
    honours_run ["a", "b", "c"] (some 2) .stop events (by decide)⟩

end Session
end Orchestration
