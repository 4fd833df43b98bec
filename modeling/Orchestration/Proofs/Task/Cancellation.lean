import Orchestration.Proofs.Task.SessionContract

/-!
# Sessions that are cancelled

Anybody may cancel a session at any time, as often as they like.  Nothing is started after that; a
job that is polled is passed over, which is folded like a failure.

The jobs of a cancelled session are where they would be if it had not been cancelled, each job that
was passed over having begun and failed at once (`Tracked`).  So what is known of a session that
nobody cancels is known of what is left when the cancellation is taken out (`spared`).

Main results:

- `Session.Tracked.step`, `Session.Tracked.run`: what every event keeps, a cancellation included.
- `Session.started_of_cancelled`: nothing starts in a session that was cancelled.
- `Session.eq_of_folded`: a session in which no failure was folded passed nothing over.
- `Session.Tracked.exists_turns`: a cancelled session waits for nothing but the jobs in flight.
- `Session.cancellable_run`: what is known of a whole run, with cancellations at any time.
-/

namespace Orchestration

/-- An event that is up to the session: it waits for no job and for nobody who cancels. -/
def SessionEvent.isTurn : SessionEvent → Bool
  | .finish .. => false
  | .cancel => false
  | _ => true

namespace Session

variable {J : Type}

/-! ## What is seen of a run -/

/-- The job that an event takes up, be it to start it or to pass it over. -/
def takes? (s : Session J) : SessionEvent → Option J
  | .begin => s.unbegun?.bind (fun i => s.running[i]?.map (·.1))
  | _ => none

/-- The job that returns in an event, with its result. -/
def returns? (s : Session J) : SessionEvent → Option (J × Bool)
  | .finish i result => s.folds? (.finish i result)
  | _ => none

/-- The event, if there is something for it to do. -/
def fitting? (s : Session J) (ev : SessionEvent) : Option SessionEvent :=
  if s.fits ev then some ev else none

/-- The jobs that were taken up, in this order. -/
def taken (s : Session J) (events : List SessionEvent) : List J :=
  observed takes? s events

/-- The jobs that returned, in this order, with their results. -/
def returned (s : Session J) (events : List SessionEvent) : List (J × Bool) :=
  observed returns? s events

/-- The events that had something to do, in this order. -/
def fitting (s : Session J) (events : List SessionEvent) : List SessionEvent :=
  observed fitting? s events

/-- The jobs in flight: they have begun and have not returned. -/
def inFlight (s : Session J) : List J :=
  (s.running.filter (·.2)).map Prod.fst

/-- A run goes on where its first part has ended. -/
theorem run_append (s : Session J) (earlier later : List SessionEvent) :
    s.run (earlier ++ later) = (s.run earlier).run later :=
  List.foldl_append

/-- An event starts the job that it takes up, and folds what a job returns; or it passes over the
job that it takes up, and folds a failure. -/
theorem folds?_cases (s : Session J) (ev : SessionEvent) :
    (s.starts? ev = s.takes? ev ∧ s.returns? ev = s.folds? ev) ∨
      ∃ j, s.starts? ev = none ∧ s.returns? ev = none ∧ s.takes? ev = some j ∧
        s.folds? ev = some (j, false) := by
  cases ev with
  | begin =>
      have hfolds : s.cancelled = true →
          s.folds? .begin = (s.takes? .begin).map (fun j => (j, false)) := by
        intro hcancelled
        simp [folds?, takes?, hcancelled, Option.map_bind, Function.comp_def]
      cases hcancelled : s.cancelled with
      | false => exact .inl (by simp [starts?, takes?, returns?, folds?, hcancelled])
      | true =>
          have hstarts : s.starts? .begin = none := by simp [starts?, hcancelled]
          rw [hfolds hcancelled]
          cases htakes : s.takes? .begin with
          | none => exact .inl ⟨hstarts, rfl⟩
          | some j => exact .inr ⟨j, hstarts, rfl, rfl, rfl⟩
  | _ => exact .inl ⟨rfl, rfl⟩

/-- Where no failure was folded, nothing was passed over: every job that was taken up was started,
and every result that was folded is one that a job returned. -/
theorem eq_of_folded (s : Session J) {events : List SessionEvent}
    (h : ∀ f ∈ s.folded events, f.2 = true) :
    s.started events = s.taken events ∧ s.returned events = s.folded events := by
  induction events generalizing s with
  | nil => exact ⟨rfl, rfl⟩
  | cons ev rest ih =>
      simp only [folded, started, taken, returned, observed, List.mem_append] at h ih ⊢
      obtain ⟨hstarted, hreturned⟩ := ih (s.step ev) fun f hf => h f (.inr hf)
      rcases s.folds?_cases ev with ⟨hstarts, hreturns⟩ | ⟨j, -, -, -, hfolds⟩
      · exact ⟨by rw [hstarts, hstarted], by rw [hreturns, hreturned]⟩
      · have hpassed := h (j, false) (.inl (by simp [hfolds]))
        cases hpassed

/-- What jobs returned is folded, and no result twice. -/
theorem returned_sublist (s : Session J) (events : List SessionEvent) :
    (s.returned events).Sublist (s.folded events) := by
  induction events generalizing s with
  | nil => exact .slnil
  | cons ev rest ih =>
      simp only [folded, returned, observed] at ih ⊢
      refine List.Sublist.append ?_ (ih (s.step ev))
      rcases s.folds?_cases ev with ⟨-, hreturns⟩ | ⟨j, -, hreturns, -⟩
      · rw [hreturns]
      · rw [hreturns]
        exact List.nil_sublist _

/-! ## What a cancellation settles -/

/-- A result that is folded stops the session, or takes the job from the running ones and adds jobs
that have not begun. -/
theorem complete_cases (s : Session J) (i : Nat) (result : Bool) :
    s.complete i result =
        { s with failed := true, cancelled := true, running := [], stage := .leaving false } ∨
      ∃ waiting added, s.complete i result = { s with
        failed := s.failed || !result
        waiting := waiting
        running := s.running.eraseIdx i ++ layout [] added } := by
  by_cases hstop : (s.failed || !result) = true ∧ s.strategy = .stop
  · exact .inl (complete_of_stop hstop i)
  · refine .inr ?_
    cases hwaiting : s.waiting with
    | nil =>
        refine ⟨[], [], ?_⟩
        rw [complete_of_empty hstop hwaiting, hwaiting]
        simp [layout]
    | cons j rest => exact ⟨rest, [j], complete_of_waiting hstop hwaiting i⟩

/-- A session that was cancelled stays so. -/
theorem cancelled_step {s : Session J} (h : s.cancelled = true) (ev : SessionEvent) :
    (s.step ev).cancelled = true := by
  have hcomplete : ∀ i result, (s.complete i result).cancelled = true := by
    intro i result
    rcases s.complete_cases i result with hstop | ⟨waiting, added, htake⟩
    · rw [hstop]
    · rw [htake]
      exact h
  cases ev with
  | begin => simp only [step]; split <;> simp [h, hcomplete]
  | finish i result => simp only [step]; split <;> simp [h, hcomplete]
  | settle => simp only [step, settle]; split <;> (try split) <;> exact h
  | leave => simp only [step, leave]; split <;> exact h
  | report => simp only [step, report]; split <;> exact h
  | cancel => simp only [step, cancel]; split <;> first | rfl | exact h

/-- What was cancelled stays so in every run. -/
theorem cancelled_run {s : Session J} (h : s.cancelled = true) (events : List SessionEvent) :
    (s.run events).cancelled = true := by
  induction events generalizing s with
  | nil => exact h
  | cons ev rest ih => exact ih (cancelled_step h ev)

/-- Nothing starts in a session that was cancelled. -/
theorem started_of_cancelled {s : Session J} (h : s.cancelled = true)
    (events : List SessionEvent) : s.started events = [] := by
  induction events generalizing s with
  | nil => rfl
  | cons ev rest ih =>
      have hstarts : s.starts? ev = none := by cases ev <;> simp [starts?, h]
      have hrest : (s.step ev).started rest = [] := ih (cancelled_step h ev)
      simp only [started, observed] at hrest ⊢
      rw [hstarts, hrest]
      rfl

/-- The jobs that were started are the first ones that were taken up. -/
theorem started_prefix_taken (s : Session J) (events : List SessionEvent) :
    s.started events <+: s.taken events := by
  induction events generalizing s with
  | nil => exact List.prefix_rfl
  | cons ev rest ih =>
      cases hcancelled : s.cancelled with
      | true =>
          rw [started_of_cancelled hcancelled]
          exact List.nil_prefix
      | false =>
          have hstarts : s.starts? ev = s.takes? ev := by
            cases ev <;> simp [starts?, takes?, hcancelled]
          simp only [started, taken, observed] at ih ⊢
          rw [hstarts]
          exact (List.prefix_append_right_inj _).2 (ih (s.step ev))

/-- In a session that was cancelled jobs in flight return, and none is added to them. -/
theorem inFlight_step_sublist {s : Session J} (h : s.cancelled = true) (ev : SessionEvent) :
    (s.step ev).inFlight.Sublist s.inFlight := by
  have herased : ∀ i, (((s.running.eraseIdx i).filter (·.2)).map Prod.fst).Sublist s.inFlight :=
    fun i => ((List.eraseIdx_sublist s.running i).filter _).map _
  have hcomplete : ∀ i result, (s.complete i result).inFlight.Sublist s.inFlight := by
    intro i result
    rcases s.complete_cases i result with hstop | ⟨waiting, added, htake⟩
    · rw [hstop]
      exact List.nil_sublist _
    · rw [htake, inFlight, List.filter_append, filter_layout]
      simpa using herased i
  cases ev with
  | begin =>
      simp only [step, h, if_true]
      split
      · exact hcomplete _ false
      · exact List.Sublist.refl _
  | finish i result =>
      simp only [step]
      split
      · exact hcomplete i result
      · exact List.Sublist.refl _
  | settle => simp only [step, settle]; split <;> (try split) <;> exact List.Sublist.refl _
  | leave => simp only [step, leave]; split <;> exact List.Sublist.refl _
  | report => simp only [step, report]; split <;> exact List.Sublist.refl _
  | cancel => simp only [step, cancel]; split <;> exact List.Sublist.refl _

/-- In a run after the cut the jobs in flight only become fewer. -/
theorem inFlight_run_sublist {s : Session J} (h : s.cancelled = true)
    (events : List SessionEvent) : (s.run events).inFlight.Sublist s.inFlight := by
  induction events generalizing s with
  | nil => exact List.Sublist.refl _
  | cons ev rest ih => exact (ih (cancelled_step h ev)).trans (inFlight_step_sublist h ev)

/-- After a cancellation that finds the session nothing starts, and jobs in flight can only
return. -/
theorem cut_of_cancel {s : Session J} (h : s.cancel.2 = true) (later : List SessionEvent) :
    (s.run (.cancel :: later)).cancelled = true ∧ s.started (.cancel :: later) = [] ∧
      (s.run (.cancel :: later)).inFlight.Sublist s.inFlight := by
  have hcancelled : (s.step .cancel).cancelled = true := by
    cases hactive : s.isActive <;> simp_all [step, cancel]
  have hinFlight : (s.step .cancel).inFlight = s.inFlight := by
    simp only [step, cancel]
    split <;> rfl
  exact ⟨cancelled_run hcancelled later, started_of_cancelled hcancelled later,
    hinFlight ▸ inFlight_run_sublist hcancelled later⟩

/-- No job returns to a session that has none in flight. -/
theorem fits_finish_of_inFlight {s : Session J} (h : s.inFlight = []) (i : Nat) (result : Bool) :
    s.fits (.finish i result) = false := by
  rw [inFlight, List.map_eq_nil_iff, List.filter_eq_nil_iff] at h
  cases hjob : s.running[i]? with
  | none => simp [fits, hjob]
  | some j =>
      have hbegun := h j (List.mem_of_getElem? hjob)
      simpa [fits, hjob] using hbegun

/-! ## Where the jobs of a cancelled session are -/

/-- A session as it would be if nobody had cancelled it. -/
def spared (s : Session J) : Session J :=
  { s with
    cancelled := false
    reports := s.reports.map (fun r => { r with cancelled := false }) }

/-- The jobs of a session that anybody may have cancelled are where they would be if nobody had, or
the session was stopped by a failure. -/
structure Tracked (jobs : List J) (p : Nat) (taken : List J) (folded : List (J × Bool))
    (s : Session J) : Prop where
  places : Going jobs p taken folded s.spared ∨ Stopped jobs taken folded s
  reported : s.Reported

/-- A session starts as one that nobody cancels. -/
theorem tracked_start {jobs : List J} {p : Nat} (hp : 0 < p) (strategy : FailureStrategy) :
    Tracked jobs p [] [] (ofTopology ⟨jobs, p⟩ strategy) where
  places := .inl (going_start hp strategy)
  reported := rfl

section Spared

variable {s : Session J}

/-- What is left of a session when its cancellation is taken out does not depend on the moment at
which that is done, but for a failure that stops the session. -/
theorem spared_complete {result : Bool}
    (h : ¬ ((s.failed || !result) = true ∧ s.strategy = .stop)) (i : Nat) :
    (s.complete i result).spared = s.spared.complete i result := by
  cases hwaiting : s.waiting with
  | nil =>
      have hspared : s.spared.waiting = [] := hwaiting
      rw [complete_of_empty h hwaiting, complete_of_empty (s := s.spared) h hspared]
      rfl
  | cons j rest =>
      have hspared : s.spared.waiting = j :: rest := hwaiting
      rw [complete_of_waiting h hwaiting, complete_of_waiting (s := s.spared) h hspared]
      rfl

/-- A failure that stops a session cancels it. -/
theorem complete_spared {result : Bool} (h : (s.failed || !result) = true ∧ s.strategy = .stop)
    (hreports : s.reports = []) (i : Nat) : s.spared.complete i result = s.complete i result := by
  rw [complete_of_stop h, complete_of_stop (s := s.spared) h, spared, hreports]
  rfl

/-- A cancellation does not matter to how a session settles. -/
theorem spared_settle (s : Session J) : s.settle.spared = s.spared.settle := by
  cases hstage : s.stage with
  | carrying => cases hidle : s.running.isEmpty <;> simp [settle, spared, hstage, hidle]
  | _ => simp [settle, spared, hstage]

/-- Nor does it matter to how the registry is left. -/
theorem spared_leave (s : Session J) : s.leave.spared = s.spared.leave := by
  cases hstage : s.stage <;> simp [leave, spared, hstage]

/-- A report says whether there was one, and nothing else of it. -/
theorem spared_report (s : Session J) : s.report.spared = s.spared.report := by
  cases hstage : s.stage <;> simp [report, spared, hstage]

/-- To cancel a session changes nothing but that it is cancelled. -/
theorem spared_cancel (s : Session J) : s.cancel.1.spared = s.spared := by
  cases hactive : s.isActive <;> simp [cancel, spared, hactive]

/-- A job that is started goes on like any other. -/
theorem spared_begin (h : s.cancelled = false) :
    (s.step .begin).spared = s.spared.step .begin := by
  cases hplace : s.unbegun? with
  | none =>
      have hspared : s.spared.unbegun? = none := hplace
      simp only [step, hplace, hspared]
  | some i =>
      have hspared : s.spared.unbegun? = some i := hplace
      simp only [step, hplace, hspared, h]
      rfl

end Spared

section Step

variable {jobs : List J} {p : Nat} {taken : List J} {folded : List (J × Bool)} {s : Session J}

/-- A session that folds a result reports nothing. -/
theorem Reported.complete (h : s.Reported) (hstage : s.stage = .carrying) (i : Nat)
    (result : Bool) : (s.complete i result).Reported := by
  have hreports : s.reports = [] := h.of_carrying hstage
  rcases s.complete_cases i result with hstop | ⟨waiting, added, htake⟩
  · rw [hstop]
    exact hreports
  · simpa [htake, Reported, hstage] using hreports

/-- Jobs that run are those of a session that carries jobs out. -/
theorem Tracked.carrying (h : Tracked jobs p taken folded s) (hrunning : s.running ≠ []) :
    s.stage = .carrying := by
  rcases h.places with h | h
  · exact h.carrying hrunning
  · exact absurd h.idle hrunning

/-- As long as there is a job to begin, jobs are carried out. -/
theorem Tracked.carrying_of_unbegun (h : Tracked jobs p taken folded s) {i : Nat}
    (hplace : s.unbegun? = some i) : s.stage = .carrying :=
  h.carrying fun hidle => by simp [unbegun?, hidle] at hplace

/-- So they are as long as one is in flight. -/
theorem Tracked.carrying_of_begun (h : Tracked jobs p taken folded s) {i : Nat} {j : J}
    (hjob : s.running[i]? = some (j, true)) : s.stage = .carrying :=
  h.carrying fun hidle => by simp [hidle] at hjob

/-- A report says what the stage says, whether the session was cancelled or not. -/
theorem Tracked.reported_step (h : Tracked jobs p taken folded s) (ev : SessionEvent) :
    (s.step ev).Reported := by
  have hreported := h.reported
  cases ev with
  | begin =>
      cases hplace : s.unbegun? with
      | none => simpa [Session.step, hplace] using hreported
      | some i =>
          have hstage : s.stage = .carrying := h.carrying_of_unbegun hplace
          have hcomplete := hreported.complete hstage i false
          cases hcancelled : s.cancelled with
          | true => simpa [Session.step, hplace, hcancelled] using hcomplete
          | false =>
              simpa [Session.step, hplace, hcancelled, begin, Reported, hstage] using hreported
  | finish i result =>
      cases hfits : s.fits (.finish i result) with
      | false => rwa [(step_of_not_fits hfits).1]
      | true =>
          obtain ⟨j, hjob⟩ := exists_of_fits_finish hfits
          have hstage : s.stage = .carrying := h.carrying_of_begun hjob
          simpa [Session.step, hjob] using hreported.complete hstage i result
  | settle =>
      cases hstage : s.stage <;>
        cases hidle : s.running.isEmpty <;> simp_all [Session.step, settle, Reported]
  | leave => cases hstage : s.stage <;> simp_all [Session.step, leave, Reported]
  | report => cases hstage : s.stage <;> simp_all [Session.step, report, Reported]
  | cancel => cases hstage : s.stage <;> simp_all [Session.step, cancel, isActive, Reported]

/-- The result of a job that has begun is folded. -/
theorem Tracked.complete {t : Session J} (h : Going jobs p taken folded t) (hreported : s.Reported)
    (hstage : t.stage = s.stage) {i : Nat} {j : J} (hjob : t.running[i]? = some (j, true))
    {result : Bool} (hsame : t.complete i result = s.spared.complete i result) :
    Tracked jobs p taken (folded ++ [(j, result)]) (s.complete i result) := by
  have hcarrying : s.stage = .carrying := hstage ▸ (h.taken hjob result).1
  refine ⟨?_, hreported.complete hcarrying i result⟩
  have hfinish := h.finish hjob result
  rw [hsame] at hfinish
  by_cases hstop : (s.failed || !result) = true ∧ s.strategy = .stop
  · rw [complete_spared hstop (hreported.of_carrying hcarrying)] at hfinish
    refine .inr (hfinish.resolve_left fun hgoing => ?_)
    have huncancelled := hgoing.uncancelled
    rw [complete_of_stop hstop] at huncancelled
    cases huncancelled
  · rw [← spared_complete hstop] at hfinish
    refine .inl (hfinish.resolve_right fun hstopped => ?_)
    cases hstopped.cancelled

/-- A cancelled session passes over the job at a place.  That comes to the same as the failure of
the job in `t`, where it has begun. -/
structure PassesLike (s t : Session J) (i : Nat) (j : J) : Prop where
  passes : s.step .begin = s.complete i false
  takes : s.takes? .begin = some j
  folds : s.folds? .begin = some (j, false)
  stage : t.stage = s.stage
  begun : t.running[i]? = some (j, true)
  completes : t.complete i false = s.spared.complete i false
  closer : t.remaining < s.remaining

/-- Before a job is passed over it may as well begin, as if nobody had cancelled the session. -/
theorem Going.pass (h : Going jobs p taken folded s.spared) (hcancelled : s.cancelled = true)
    (hfits : s.fits .begin = true) :
    ∃ t i j, Going jobs p (taken ++ [j]) folded t ∧ PassesLike s t i j := by
  obtain ⟨begun, fresh, hrunning, -, -⟩ := h.places
  cases fresh with
  | nil =>
      have hnone : s.unbegun? = none := by
        rw [unbegun?, show s.running = layout begun [] from hrunning, findIdx?_layout_nil]
      simp [fits, hnone] at hfits
  | cons j fresh =>
      have hlayout : s.running = layout begun (j :: fresh) := hrunning
      have hplace : s.unbegun? = some begun.length := by
        rw [unbegun?, hlayout, findIdx?_layout_cons]
      have hjob : s.running[begun.length]? = some (j, false) := by
        rw [hlayout, getElem?_layout_length]
      have hstep : s.spared.step .begin =
          { s.spared with running := layout (begun ++ [j]) fresh } := h.step_begin hrunning
      have hstarts : s.spared.starts? .begin = some j := by
        have htakes : s.spared.starts? .begin = s.takes? .begin := rfl
        simp [htakes, takes?, hplace, hjob]
      have hbegin := h.begin
      have hlower := remaining_step (.inl h) (by simp) (show s.spared.fits .begin = true from hfits)
      rw [hstarts, show s.spared.folds? .begin = none from rfl, hstep, Option.toList_some,
        Option.toList_none, List.append_nil] at hbegin
      rw [hstep] at hlower
      refine ⟨_, begun.length, j, hbegin,
        { passes := by simp [Session.step, hplace, hcancelled]
          takes := by simp [takes?, hplace, hjob]
          folds := by simp [folds?, hcancelled, hplace, hjob]
          stage := rfl
          begun := by simp [layout]
          completes := ?_
          closer := hlower }⟩
      have hbefore : s.spared.running.eraseIdx begun.length = layout begun fresh := by
        rw [hrunning, layout, List.eraseIdx_append_of_length_le (by simp)]
        simp [layout]
      have hafter : (layout (begun ++ [j]) fresh).eraseIdx begun.length = layout begun fresh := by
        rw [eraseIdx_layout (by simp), List.eraseIdx_append_of_length_le (Nat.le_refl _)]
        simp
      simp only [Session.complete, hbefore, hafter]

/-- An event that does not fit takes up no job. -/
theorem takes?_of_not_fits {ev : SessionEvent} (h : s.fits ev = false) : s.takes? ev = none := by
  cases ev with
  | begin =>
      have hnone : s.unbegun? = none := by simpa [fits] using h
      simp [takes?, hnone]
  | _ => rfl

/-- In a session that was stopped nothing is taken up and nothing is folded. -/
theorem Stopped.keeps (h : Stopped jobs taken folded s) (ev : SessionEvent) :
    s.takes? ev = none ∧ s.folds? ev = none ∧ Stopped jobs taken folded (s.step ev) := by
  by_cases hev : ev = .cancel
  · have hsame : s.step .cancel = s := by
      have hcancelled : { s with cancelled := true } = s :=
        congrArg (fun c => { s with cancelled := c }) h.cancelled.symm
      simp only [Session.step, cancel]
      split
      · exact hcancelled
      · rfl
    rw [hev, hsame]
    exact ⟨rfl, rfl, h⟩
  · obtain ⟨-, hfolds, hstep⟩ := h.step hev
    refine ⟨?_, hfolds, hstep⟩
    cases ev with
    | begin => simp [takes?, unbegun?, h.idle]
    | _ => rfl

/-- A job that is polled is started, or it is passed over. -/
theorem Tracked.begin (h : Going jobs p taken folded s.spared) (hreported : s.Reported)
    (hnext : (s.step .begin).Reported) (hfits : s.fits .begin = true) :
    Tracked jobs p (taken ++ (s.takes? .begin).toList) (folded ++ (s.folds? .begin).toList)
      (s.step .begin) := by
  cases hcancelled : s.cancelled with
  | false =>
      have hplaces := h.begin
      rw [← spared_begin hcancelled] at hplaces
      rw [show s.folds? .begin = none by simp [folds?, hcancelled]]
      exact ⟨.inl hplaces, hnext⟩
  | true =>
      obtain ⟨t, i, j, ht, hlike⟩ := h.pass hcancelled hfits
      rw [hlike.takes, hlike.folds, hlike.passes]
      exact .complete ht hreported hlike.stage hlike.begun hlike.completes

/-- Every event keeps track of all jobs, whether the session was cancelled or not. -/
theorem Tracked.step (h : Tracked jobs p taken folded s) (ev : SessionEvent) :
    Tracked jobs p (taken ++ (s.takes? ev).toList) (folded ++ (s.folds? ev).toList)
      (s.step ev) := by
  have hreported := h.reported_step ev
  rcases h.places with hgoing | hstopped
  · cases hfits : s.fits ev with
    | false =>
        obtain ⟨hstep, -, hfolds⟩ := step_of_not_fits hfits
        rw [hstep, takes?_of_not_fits hfits, hfolds, Option.toList_none, List.append_nil,
          Option.toList_none, List.append_nil]
        exact h
    | true =>
        cases ev with
        | begin => exact .begin hgoing h.reported hreported hfits
        | finish i result =>
            obtain ⟨j, hjob⟩ := exists_of_fits_finish hfits
            have hcomplete : Tracked jobs p taken (folded ++ [(j, result)]) (s.complete i result) :=
              .complete hgoing h.reported rfl hjob rfl
            simpa [takes?, folds?, Session.step, hjob] using hcomplete
        | settle =>
            refine ⟨.inl ?_, hreported⟩
            have hsettle := hgoing.settle
            rw [← spared_settle] at hsettle
            simpa [takes?, folds?, Session.step] using hsettle
        | leave =>
            refine ⟨.inl ?_, hreported⟩
            have hleave := hgoing.leave
            rw [← spared_leave] at hleave
            simpa [takes?, folds?, Session.step] using hleave
        | report =>
            refine ⟨.inl ?_, hreported⟩
            have hreport := hgoing.report
            rw [← spared_report] at hreport
            simpa [takes?, folds?, Session.step] using hreport
        | cancel =>
            refine ⟨.inl ?_, hreported⟩
            have hsame : (s.step .cancel).spared = s.spared := spared_cancel s
            rw [hsame]
            simpa [takes?, folds?] using hgoing
  · obtain ⟨htakes, hfolds, hstep⟩ := hstopped.keeps ev
    rw [htakes, hfolds, Option.toList_none, List.append_nil, Option.toList_none, List.append_nil]
    exact ⟨.inr hstep, hreported⟩

/-- A whole run keeps track of all jobs. -/
theorem Tracked.run (h : Tracked jobs p taken folded s) (events : List SessionEvent) :
    Tracked jobs p (taken ++ s.taken events) (folded ++ s.folded events) (s.run events) := by
  induction events generalizing s taken folded with
  | nil => simpa [Session.taken, Session.folded, observed, Session.run] using h
  | cons ev rest ih =>
      have hrest := ih (h.step ev)
      rw [List.append_assoc, List.append_assoc] at hrest
      exact hrest

/-! ## How a cancelled session comes to its end -/

/-- Whatever fits, other than a cancellation, brings the session closer to its end. -/
theorem Tracked.remaining_step (h : Tracked jobs p taken folded s) {ev : SessionEvent}
    (hev : ev ≠ .cancel) (hfits : s.fits ev = true) : (s.step ev).remaining < s.remaining := by
  have hcomplete : ∀ i result,
      (s.complete i result).remaining = (s.spared.complete i result).remaining := by
    intro i result
    by_cases hstop : (s.failed || !result) = true ∧ s.strategy = .stop
    · rw [complete_of_stop hstop, complete_of_stop (s := s.spared) hstop]
      rfl
    · rw [← spared_complete hstop]
      rfl
  rcases h.places with hgoing | hstopped
  · have hlower : (s.spared.step ev).remaining < s.remaining :=
      Session.remaining_step (.inl hgoing) hev (by cases ev <;> exact hfits)
    cases ev with
    | begin =>
        cases hcancelled : s.cancelled with
        | false =>
            rw [← spared_begin hcancelled] at hlower
            exact hlower
        | true =>
            obtain ⟨t, i, j, ht, hlike⟩ := hgoing.pass hcancelled hfits
            have hfinish : (t.step (.finish i false)).remaining < t.remaining :=
              Session.remaining_step (.inl ht) (by simp) (by simp [fits, hlike.begun])
            rw [show t.step (.finish i false) = t.complete i false by
              simp [Session.step, hlike.begun], hlike.completes, ← hcomplete] at hfinish
            rw [hlike.passes]
            exact Nat.lt_trans hfinish hlike.closer
    | finish i result =>
        obtain ⟨j, hjob⟩ := exists_of_fits_finish hfits
        have hspared : s.spared.running[i]? = some (j, true) := hjob
        simp only [Session.step, hspared, hjob, hcomplete] at hlower ⊢
        exact hlower
    | settle =>
        rw [Session.step, ← spared_settle] at hlower
        exact hlower
    | leave =>
        rw [Session.step, ← spared_leave] at hlower
        exact hlower
    | report =>
        rw [Session.step, ← spared_report] at hlower
        exact hlower
    | cancel => exact absurd rfl hev
  · exact Session.remaining_step (p := p) (.inr hstopped) hev hfits

/-- Until a session has reported, something fits that is no cancellation. -/
theorem Tracked.exists_fits (h : Tracked jobs p taken folded s) (hreports : s.reports = []) :
    ∃ ev, ev ≠ .cancel ∧ s.fits ev = true := by
  rcases h.places with hgoing | hstopped
  · obtain ⟨ev, hev, hfits⟩ := Session.exists_fits (.inl hgoing) (by simp [spared, hreports])
    exact ⟨ev, hev, by cases ev <;> exact hfits⟩
  · exact Session.exists_fits (p := p) (.inr hstopped) hreports

/-- One event has no more to do than it brings the session closer to its end. -/
theorem Tracked.length_fitting?_le (h : Tracked jobs p taken folded s) (ev : SessionEvent) :
    ((s.fitting? ev).toList.filter (· ≠ .cancel)).length + (s.step ev).remaining ≤
      s.remaining := by
  cases hfits : s.fits ev with
  | false => simp [fitting?, hfits, (step_of_not_fits hfits).1]
  | true =>
      by_cases hev : ev = .cancel
      · have hsame : (s.step .cancel).remaining = s.remaining :=
          show s.cancel.1.spared.remaining = s.spared.remaining by rw [spared_cancel]
        subst hev
        simp [fitting?, hfits, hsame]
      · have hlower := h.remaining_step hev hfits
        have hone : ((s.fitting? ev).toList.filter (· ≠ .cancel)).length = 1 := by
          simp [fitting?, hfits, hev]
        omega

/-- A run has no more to do than the session is from its end, cancellations apart. -/
theorem Tracked.length_fitting_le (h : Tracked jobs p taken folded s)
    (events : List SessionEvent) :
    ((s.fitting events).filter (· ≠ .cancel)).length + (s.run events).remaining ≤ s.remaining := by
  induction events generalizing s taken folded with
  | nil => simp [fitting, observed, Session.run]
  | cons ev rest ih =>
      have hfirst := h.length_fitting?_le ev
      have hrest := ih (h.step ev)
      have hfitting : s.fitting (ev :: rest) =
          (s.fitting? ev).toList ++ (s.step ev).fitting rest := rfl
      have hrun : s.run (ev :: rest) = (s.step ev).run rest := rfl
      rw [hfitting, hrun, List.filter_append, List.length_append]
      omega

/-- A session that was cancelled waits for nothing but the jobs in flight.  When all of them have
returned, it comes to its end by itself. -/
theorem Tracked.exists_turns (h : Tracked jobs p taken folded s) (hcancelled : s.cancelled = true)
    (hidle : s.inFlight = []) :
    ∃ turns : List SessionEvent, (∀ ev ∈ turns, ev.isTurn = true) ∧ (s.run turns).reports ≠ [] := by
  -- The session is brought closer to its end by some event until it has reported.
  generalize hleft : s.remaining = left
  induction left using Nat.strongRecOn generalizing s taken folded with
  | ind left ih =>
      by_cases hreports : s.reports = []
      · obtain ⟨ev, hev, hfits⟩ := h.exists_fits hreports
        have hturn : ev.isTurn = true := by
          cases ev with
          | finish i result =>
              rw [fits_finish_of_inFlight hidle] at hfits
              cases hfits
          | cancel => exact absurd rfl hev
          | _ => rfl
        have hnext : (s.step ev).inFlight = [] :=
          List.sublist_nil.1 (hidle ▸ inFlight_step_sublist hcancelled ev)
        obtain ⟨turns, hturns, htold⟩ := ih (s.step ev).remaining
          (hleft ▸ h.remaining_step hev hfits) (h.step ev) (cancelled_step hcancelled ev) hnext rfl
        exact ⟨ev :: turns, List.forall_mem_cons.2 ⟨hturn, hturns⟩, htold⟩
      · exact ⟨[], by simp, hreports⟩

/-! ## When a session can be cancelled -/

/-- A session that folds a result is among the active ones. -/
theorem isActive_complete (hstage : s.stage = .carrying) (i : Nat) (result : Bool) :
    (s.complete i result).isActive = true := by
  rcases s.complete_cases i result with hstop | ⟨waiting, added, htake⟩
  · rw [hstop]
    rfl
  · simp [htake, isActive, hstage]

/-- A session is among the active ones until it leaves them. -/
theorem Tracked.isActive_step (h : Tracked jobs p taken folded s) (ev : SessionEvent) :
    (s.step ev).isActive = (s.isActive && decide (.leave ∉ (s.fitting? ev).toList)) := by
  cases hfits : s.fits ev with
  | false => simp [fitting?, hfits, (step_of_not_fits hfits).1]
  | true =>
      cases ev with
      | begin =>
          obtain ⟨i, hplace⟩ := Option.isSome_iff_exists.1 hfits
          have hstage : s.stage = .carrying := h.carrying_of_unbegun hplace
          have hactive : s.isActive = true := by simp [isActive, hstage]
          have hnext : (s.step .begin).isActive = true := by
            simp only [Session.step, hplace]
            split
            · exact isActive_complete hstage i false
            · exact hactive
          simp [fitting?, hfits, hactive, hnext]
      | finish i result =>
          obtain ⟨j, hjob⟩ := exists_of_fits_finish hfits
          have hstage : s.stage = .carrying := h.carrying_of_begun hjob
          have hactive : s.isActive = true := by simp [isActive, hstage]
          have hnext : (s.step (.finish i result)).isActive = true := by
            simp only [Session.step, hjob]
            exact isActive_complete hstage i result
          simp [fitting?, hfits, hactive, hnext]
      | settle =>
          cases hstage : s.stage <;> simp_all [fits, fitting?, Session.step, settle, isActive]
      | leave =>
          cases hstage : s.stage <;> simp_all [fits, fitting?, Session.step, leave, isActive]
      | report =>
          cases hstage : s.stage <;> simp_all [fits, fitting?, Session.step, report, isActive]
      | cancel =>
          cases hstage : s.stage <;> simp_all [fits, fitting?, Session.step, cancel, isActive]

/-- A session can be cancelled until it has left the active ones. -/
theorem Tracked.isActive_run (h : Tracked jobs p taken folded s) (events : List SessionEvent) :
    (s.run events).isActive = (s.isActive && decide (.leave ∉ s.fitting events)) := by
  induction events generalizing s taken folded with
  | nil => simp [fitting, observed, Session.run]
  | cons ev rest ih =>
      have hrun : s.run (ev :: rest) = (s.step ev).run rest := rfl
      have hfitting : s.fitting (ev :: rest) =
          (s.fitting? ev).toList ++ (s.step ev).fitting rest := rfl
      rw [hrun, ih (h.step ev), h.isActive_step, hfitting, Bool.and_assoc]
      simp [List.mem_append, not_or]

/-- A session that has left the active ones has its result, and nothing runs. -/
theorem Tracked.over (h : Tracked jobs p taken folded s) (hgone : s.isActive = false) :
    s.running = [] ∧ ∃ result, s.outcome = some result := by
  have houtcome : ∃ result, s.outcome = some result := by
    cases hstage : s.stage <;> simp_all [isActive, outcome]
  obtain ⟨result, hresult⟩ := houtcome
  refine ⟨?_, result, hresult⟩
  rcases h.places with hgoing | hstopped
  · exact (hgoing.outcome result hresult).1
  · exact hstopped.idle

end Step

/-- What a session is that has left the active ones, with its result. -/
structure Over (result : Bool) (cancelled : Bool) (s : Session J) : Prop where
  gone : s.isActive = false
  idle : s.running = []
  outcome : s.outcome = some result
  cancelled : s.cancelled = cancelled

/-- Nothing changes the result of a session that has left the active ones. -/
theorem Over.step {result cancelled : Bool} {s : Session J} (h : Over result cancelled s)
    (ev : SessionEvent) : Over result cancelled (s.step ev) := by
  cases hfits : s.fits ev with
  | false => rwa [(step_of_not_fits hfits).1]
  | true =>
      have hgone := h.gone
      have houtcome := h.outcome
      cases ev with
      | begin => simp [fits, unbegun?, h.idle] at hfits
      | finish i result => simp [fits, h.idle] at hfits
      | settle => cases hstage : s.stage <;> simp_all [fits, isActive]
      | leave => cases hstage : s.stage <;> simp_all [fits, isActive]
      | report =>
          cases hstage : s.stage with
          | reporting result' =>
              have hreport : s.step .report = { s with
                  stage := .done result', reports := s.reports ++ [⟨result', s.cancelled⟩] } := by
                simp [Session.step, report, hstage]
              rw [hreport]
              exact ⟨rfl, h.idle, by simpa [Session.outcome, hstage] using houtcome, h.cancelled⟩
          | _ => simp [fits, hstage] at hfits
      | cancel => simp [fits, hgone] at hfits

/-- A session that is over stays so in every run. -/
theorem Over.run {result cancelled : Bool} {s : Session J} (h : Over result cancelled s)
    (events : List SessionEvent) : Over result cancelled (s.run events) := by
  induction events generalizing s with
  | nil => exact h
  | cons ev rest ih => exact ih (h.step ev)

/-! ## What is known of a whole run -/

section Whole

variable {jobs : List J} {p : Nat} {taken : List J} {folded : List (J × Bool)} {s : Session J}
variable {events : List SessionEvent}

/-- Where as many jobs returned successfully as there are results, no failure was folded. -/
theorem forall_of_returned (hlength : (s.folded events).length ≤ jobs.length)
    (hreturned : (s.returned events).Perm (jobs.map (fun j => (j, true)))) :
    ∀ f ∈ s.folded events, f.2 = true := by
  have hall : (s.returned events).length = jobs.length := by
    rw [hreturned.length_eq, List.length_map]
  have hsame : s.returned events = s.folded events :=
    (s.returned_sublist events).eq_of_length_le (hall ▸ hlength)
  intro f hf
  rw [← hsame, hreturned.mem_iff, List.mem_map] at hf
  obtain ⟨j, -, rfl⟩ := hf
  rfl

/-- A report tells of a success exactly when every job was started and returned successfully. -/
theorem Tracked.result_iff
    (h : Tracked jobs p (s.taken events) (s.folded events) (s.run events)) {r : SessionReport}
    (hr : r ∈ (s.run events).reports) :
    r.result = true ↔
      s.started events = jobs ∧ (s.returned events).Perm (jobs.map (fun j => (j, true))) := by
  rcases h.places with hgoing | hstopped
  · have hspared : { r with cancelled := false } ∈ (s.run events).spared.reports :=
      List.mem_map.2 ⟨r, hr, rfl⟩
    obtain ⟨htaken, hfolded, hresult, -⟩ := hgoing.completed hspared
    have hall : r.result = true ↔ ∀ f ∈ s.folded events, f.2 = true := by
      rw [← List.all_eq_true]
      exact ⟨fun h => hresult.symm.trans h, fun h => hresult.trans h⟩
    rw [hall]
    constructor
    · intro hsucceeded
      obtain ⟨hstarted, hreturned⟩ := s.eq_of_folded hsucceeded
      have hpairs : ((s.folded events).map Prod.fst).map (fun j => (j, true)) =
          s.folded events := by
        rw [List.map_map]
        refine (List.map_congr_left fun f hf => ?_).trans (List.map_id _)
        exact Prod.ext rfl (hsucceeded f hf).symm
      refine ⟨hstarted.trans htaken, ?_⟩
      rw [hreturned, ← hpairs]
      exact hfolded.map _
    · rintro ⟨-, hreturned⟩
      have hlength := hfolded.length_eq
      rw [List.length_map] at hlength
      exact forall_of_returned (Nat.le_of_eq hlength) hreturned
  · have hfailed : r.result = false := (hstopped.told hr).1
    obtain ⟨earlier, j, hfailure, -⟩ := hstopped.failure
    refine ⟨fun hresult => absurd (hfailed.symm.trans hresult) (by simp), ?_⟩
    rintro ⟨-, hreturned⟩
    have hlength : (s.folded events).length ≤ jobs.length := by
      have honce := hstopped.once.length_le
      rw [List.length_map] at honce
      exact Nat.le_trans honce hstopped.inOrder.length_le
    have hsucceeded := forall_of_returned hlength hreturned (j, false) (by simp [hfailure])
    cases hsucceeded

/-- Nothing changes the result of a session that cannot be cancelled any more. -/
theorem Tracked.final (h : Tracked jobs p taken folded s) (hgone : s.isActive = false) :
    ∃ result, ∀ later, (s.run later).outcome = some result ∧
      (s.run later).cancelled = s.cancelled := by
  obtain ⟨hidle, result, houtcome⟩ := h.over hgone
  have hover : Over result s.cancelled s := ⟨hgone, hidle, houtcome, rfl⟩
  exact ⟨result, fun later => ⟨(hover.run later).outcome, (hover.run later).cancelled⟩⟩

/-- The jobs that were started are the first ones of the session. -/
theorem Tracked.inOrder
    (h : Tracked jobs p (s.taken events) (s.folded events) (s.run events)) :
    s.started events <+: jobs := by
  refine (s.started_prefix_taken events).trans ?_
  rcases h.places with hgoing | hstopped
  · obtain ⟨begun, fresh, -, hjobs, -⟩ := hgoing.places
    rw [List.append_assoc] at hjobs
    exact ⟨_, hjobs.symm⟩
  · exact hstopped.inOrder

/-- The turns of a cancelled session with no job in flight bring it to the report that it was
cancelled. -/
theorem Tracked.exists_report (h : Tracked jobs p taken folded s)
    (hcancelled : s.cancelled = true) (hidle : s.inFlight = []) :
    ∃ turns : List SessionEvent, (∀ ev ∈ turns, ev.isTurn = true) ∧
      ∃ result, (s.run turns).reports = [⟨result, true⟩] := by
  obtain ⟨turns, hturns, htold⟩ := h.exists_turns hcancelled hidle
  obtain ⟨r, hr⟩ := List.exists_mem_of_ne_nil _ htold
  obtain ⟨hone, -, hflag⟩ := (h.run turns).reported.of_mem hr
  refine ⟨turns, hturns, r.result, ?_⟩
  rw [hone, ← cancelled_run hcancelled turns, ← hflag]

end Whole

/-- What is known of a run of a session for some jobs, in which anybody may cancel at any time. -/
structure Cancellable (jobs : List J) (s : Session J) (events : List SessionEvent) : Prop where
  /-- The session can be cancelled until it has left the active ones. -/
  registered : (s.run events).cancel.2 = true ↔ .leave ∉ s.fitting events
  /-- It has its result when it leaves them, -/
  unsettled : (s.run events).outcome = none → (s.run events).cancel.2 = true
  /-- and nothing changes that any more. -/
  final : (s.run events).cancel.2 = false → ∃ result, ∀ later,
    (s.run (events ++ later)).outcome = some result ∧
      (s.run (events ++ later)).cancelled = (s.run events).cancelled
  /-- Jobs are started in their order, each at most once. -/
  inOrder : s.started events <+: jobs
  /-- After a cancellation no job starts, and those in flight can only return. -/
  stopped : ∀ earlier later, events = earlier ++ .cancel :: later →
    (s.run earlier).cancel.2 = true → (s.run events).cancelled = true ∧
      s.started events = s.started earlier ∧
      (s.run events).inFlight.Sublist (s.run earlier).inFlight
  /-- There is at most one report.  It tells whether the session was cancelled, and tells of a
  success exactly when every job was started and returned successfully. -/
  told : ∀ r ∈ (s.run events).reports, (s.run events).reports = [r] ∧
    r.cancelled = (s.run events).cancelled ∧
    (r.result = true ↔
      s.started events = jobs ∧ (s.returned events).Perm (jobs.map (fun j => (j, true))))
  /-- Until the session has reported, there is something to do, -/
  goesOn : (s.run events).reports = [] → ∃ ev, ev ≠ .cancel ∧ (s.run events).fits ev = true
  /-- but never more than so much. -/
  ends : ((s.fitting events).filter (· ≠ .cancel)).length ≤ 2 * jobs.length + 3
  /-- When the jobs in flight of a cancelled session have returned, it waits for no job any more, -/
  waitsForNone : (s.run events).cancelled = true → (s.run events).inFlight = [] →
    ∀ later i result, (s.run (events ++ later)).fits (.finish i result) = false
  /-- and its own turns bring it to the report that it was cancelled. -/
  reports : (s.run events).cancelled = true → (s.run events).inFlight = [] →
    ∃ turns : List SessionEvent, (∀ ev ∈ turns, ev.isTurn = true) ∧
      ∃ result, (s.run (events ++ turns)).reports = [⟨result, true⟩]

/-- Whatever happens to a session, and whenever it is cancelled: it can be cancelled until it leaves
the active ones, nothing starts after that, it comes to its end when the jobs in flight have
returned, and it tells of a success exactly when all jobs were started and succeeded. -/
theorem cancellable_run (jobs : List J) (parallelism : Option Nat) (strategy : FailureStrategy)
    (events : List SessionEvent) :
    Cancellable jobs (ofTopology (Topology.of jobs parallelism) strategy) events := by
  have hp : 0 < max 1 (parallelism.getD 1) :=
    Nat.lt_of_lt_of_le Nat.zero_lt_one (Nat.le_max_left ..)
  rw [parallelism_of]
  generalize max 1 (parallelism.getD 1) = p at hp
  have hstart : Tracked jobs p [] [] (ofTopology ⟨jobs, p⟩ strategy) := tracked_start hp strategy
  have hactive : (ofTopology ⟨jobs, p⟩ strategy).isActive = true := rfl
  have hremaining : (ofTopology ⟨jobs, p⟩ strategy).remaining = 2 * jobs.length + 3 :=
    remaining_ofTopology jobs p strategy
  generalize ofTopology ⟨jobs, p⟩ strategy = s at hstart hactive hremaining
  have hrun : ∀ events, Tracked jobs p (s.taken events) (s.folded events) (s.run events) :=
    hstart.run
  have hcancel : (s.run events).cancel.2 = (s.run events).isActive := by
    cases h : (s.run events).isActive <;> simp [cancel, h]
  refine
    { registered := ?_
      unsettled := fun hnone => ?_
      final := fun hgone => ?_
      inOrder := (hrun events).inOrder
      stopped := ?_
      told := fun r hr => ?_
      goesOn := (hrun events).exists_fits
      ends := ?_
      waitsForNone := fun hcancelled hidle later => ?_
      reports := fun hcancelled hidle => ?_ }
  · rw [hcancel, hstart.isActive_run, hactive, Bool.true_and, decide_eq_true_eq]
  · rw [hcancel]
    simp [isActive, outcome_eq_none_iff.1 hnone]
  · simp only [run_append]
    exact (hrun events).final (hcancel ▸ hgone)
  · rintro earlier later rfl hthere
    obtain ⟨hcancelled, hstarted, hinFlight⟩ := cut_of_cancel hthere later
    rw [run_append, started, observed_append]
    exact ⟨hcancelled, (congrArg _ hstarted).trans (List.append_nil _), hinFlight⟩
  · obtain ⟨hone, -, hcancelled⟩ := (hrun events).reported.of_mem hr
    exact ⟨hone, hcancelled, (hrun events).result_iff hr⟩
  · have hlength := hstart.length_fitting_le events
    omega
  · rw [run_append]
    have hnone : ((s.run events).run later).inFlight = [] :=
      List.sublist_nil.1 (hidle ▸ inFlight_run_sublist hcancelled later)
    exact fits_finish_of_inFlight hnone
  · simp only [run_append]
    exact (hrun events).exists_report hcancelled hidle

/-- A cancellation between two jobs: the one in flight returns, the others are passed over. -/
example :
    let s : Session String := ofTopology (Topology.of ["a", "b", "c"] (some 2)) .continueOn
    let events : List SessionEvent :=
      [.begin, .cancel, .begin, .finish 0 true, .begin, .settle, .leave, .report]
    s.started events = ["a"] ∧ (s.run events).reports = [⟨false, true⟩] := by
  decide

/-- A cancellation after the last job has returned is reported beside the success. -/
example :
    let s : Session String := ofTopology (Topology.of ["a"] none) .stop
    let events : List SessionEvent := [.begin, .finish 0 true, .settle, .cancel, .leave, .report]
    s.returned events = [("a", true)] ∧ (s.run events).reports = [⟨true, true⟩] := by
  decide

end Session
end Orchestration
