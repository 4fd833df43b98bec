import Orchestration.Proofs.Machine.Retry

/-!
# Wake-ups of a parked loop

A loop that waits for an update must not sleep through one, and must not be roused for nothing.
Two flags are in play, and either can be out of date: `wake` may be left from an update that a pass
has dealt with, and `permit` from a notification that nobody waited for.

A loop is *blocked* when it is parked and no notification is on its way.  An update is *unseen* from
the moment that it is staged until the next pass begins.

Main results:

- `Actor.Watchful.step`, `Actor.Watchful.run`: while an update is unseen, the loop has its wake flag
  set or is about to begin a pass.
- `Actor.Watchful.stage_le_step`, `Actor.Watchful.stage_lt_step`: while an update is unseen, the
  loop never goes back on its way to the next pass, and every turn that it waits for brings it
  further.
- `Actor.Watchful.run_of_blocked`: a blocked loop stays as it is until an update is staged.
- `Actor.wakes_exactly_for_updates`: no wake-up is lost, and none is made up.
-/

namespace Orchestration

/-- How far the loop is on its way to the next pass: the number of turns behind it, of those that a
pass, its state change, a pause and parking can take. -/
def Phase.stage {σ δ κ : Type} : Phase σ δ κ → Nat
  | .idle => 0
  | .acting _ => 0
  | .signalling _ => 1
  | .backingOff => 2
  | .parked => 3
  | .ready => 4
  | .exited => 5
  | .aborted => 5

namespace Actor

variable {σ υ δ κ : Type} [DecidableEq σ]

/-- The loop is parked, and no notification is on its way. -/
def Blocked (a : Actor σ υ δ κ) : Prop :=
  a.phase = .parked ∧ a.permit = false

/-- The number of updates that are staged in a run. -/
def staged (b : Blueprint σ κ) (a : Actor σ υ δ κ) : List (ActorEvent σ υ δ) → Nat
  | [] => 0
  | e :: rest => (if a.stages e then 1 else 0) + staged b (a.step b e) rest

/-- Whether an update is unseen after an event, given whether one was before: it was staged, and no
pass has begun since. -/
def leavesUnseen (a : Actor σ υ δ κ) (unseen : Bool) (e : ActorEvent σ υ δ) : Bool :=
  if a.beginsPass e then false else a.stages e || unseen

/-- Whether an update is unseen after a run. -/
def isUnseen (b : Blueprint σ κ) (a : Actor σ υ δ κ) (unseen : Bool) :
    List (ActorEvent σ υ δ) → Bool
  | [] => unseen
  | e :: rest => isUnseen b (a.step b e) (a.leavesUnseen unseen e) rest

/-- The turns that a loop can need until its next pass: the action returns, its state change is
handled, a pause is over, a notification arrives, and the pass begins. -/
def turns (signals : Bool) (r : ActionResult σ δ) : List (ActorEvent σ υ δ) :=
  [.finish signals r, .handled, .elapsed, .resume, .begin]

/-! ## Parking and going on -/

omit [DecidableEq σ] in
/-- With its wake flag set a loop does not park. -/
theorem park_of_wake {a : Actor σ υ δ κ} (h : a.wake = true) :
    a.park = { a with phase := .ready, wake := false } := by
  simp [park, h]

omit [DecidableEq σ] in
/-- A loop that comes to a waiting state uses up its wake flag. -/
theorem wake_park (a : Actor σ υ δ κ) : a.park.wake = false := by
  cases hwake : a.wake with
  | true => rw [park_of_wake hwake]
  | false =>
      unfold park
      split
      · rfl
      · exact hwake

omit [DecidableEq σ] in
/-- A loop blocks only without its wake flag. -/
theorem wake_continueIn_of_blocked {b : Blueprint σ κ} {a : Actor σ υ δ κ} {s : σ}
    (h : (a.continueIn b s).Blocked) : (a.continueIn b s).wake = false := by
  unfold continueIn at h ⊢
  split <;> rename_i hterminal
  · rw [if_pos hterminal] at h
    cases h.1
  · rw [if_neg hterminal] at h
    split <;> rename_i hpaused
    · rw [if_pos hpaused] at h
      exact wake_park a
    · rw [if_neg hpaused] at h
      cases h.1

omit [DecidableEq σ] in
/-- With its wake flag set, a loop that goes on in a state ends, with the flag still set, or is
about to begin a pass. -/
theorem continueIn_of_wake (b : Blueprint σ κ) {a : Actor σ υ δ κ} (h : a.wake = true) (s : σ) :
    ((a.continueIn b s).phase = .exited ∧ (a.continueIn b s).wake = true) ∨
      (a.continueIn b s).phase = .ready := by
  unfold continueIn
  split
  · exact Or.inl ⟨rfl, h⟩
  · right
    split
    · rw [park_of_wake h]
    · rfl

omit [DecidableEq σ] in
/-- A loop ends in terminal states. -/
theorem isTerminal_of_exited {b : Blueprint σ κ} {a : Actor σ υ δ κ} {s : σ}
    (h : (a.continueIn b s).phase = .exited) : b.isTerminal s = true := by
  unfold continueIn at h
  split at h <;> rename_i hterminal
  · exact hterminal
  · split at h
    · exact absurd h (a.phase_park_ne (by simp) (by simp))
    · cases h

/-! ## Watchful loops -/

/-- A loop that nobody asked to stop, and that does not sleep through an update. -/
structure Watchful (b : Blueprint σ κ) (a : Actor σ υ δ κ) (unseen : Bool) : Prop where
  consistent : a.Consistent
  faithful : Faithful b a
  live : a.stopRequested = false
  blocked : a.Blocked → a.wake = false
  alert : unseen = true → a.wake = true ∨ a.phase = .ready
  exited : a.phase = .exited → b.isTerminal a.machine.current.state = true
  not_aborted : a.phase ≠ .aborted

theorem watchful_new (b : Blueprint σ κ) (first : Snapshot σ δ) :
    Watchful b (new first : Actor σ υ δ κ) false where
  consistent := consistent_new first
  faithful := (Reachable.new b first).faithful
  live := rfl
  blocked _ := rfl
  alert h := by cases h
  exited h := by cases h
  not_aborted h := by cases h

section Watchful

variable {b : Blueprint σ κ} {a : Actor σ υ δ κ} {unseen : Bool} {e : ActorEvent σ υ δ}

theorem Watchful.not_stopped (h : Watchful b a unseen) : a.machine.slot.stopped = false := by
  rw [h.consistent.stopped, h.live]

theorem Watchful.wake (h : Watchful b a true) (hphase : a.phase ≠ .ready) : a.wake = true :=
  (h.alert rfl).resolve_right hphase

omit [DecidableEq σ] in
/-- A machine that is not told to stop begins its passes. -/
theorem beginsPass_of_ready (hready : a.phase = .ready) (hlive : a.machine.slot.stopped = false) :
    a.beginsPass .begin = true := by
  simp [beginsPass, hready, hlive]

/-- An update that is staged sets the wake flag. -/
theorem wake_step_of_stages (b : Blueprint σ κ) (h : a.stages e = true) :
    (a.step b e).wake = true := by
  cases e with
  | notify u =>
      cases hpending : a.machine.slot.pending with
      | some v => simp [stages, notify_of_pending hpending] at h
      | none => simp [step, notify_of_free hpending]
  | _ => cases h

/-- However a loop comes to block, it has no wake flag then. -/
theorem Watchful.blocked_step (h : Watchful b a unseen) (hstop : e.isStop = false)
    (hblocked : (a.step b e).Blocked) : (a.step b e).wake = false := by
  have hmove := a.move_step b e
  generalize a.step b e = a' at hmove hblocked ⊢
  cases hmove with
  | ignored => exact h.blocked hblocked
  | staged u free => cases hblocked.2
  | stopped live => cases hstop
  | acknowledged acting =>
      have hparked : a.phase = .parked := hblocked.1
      simp [acting] at hparked
  | stayed acting signals r pass => exact wake_continueIn_of_blocked hblocked
  | moved acting r pass => exact wake_continueIn_of_blocked hblocked
  | wentOn signalling => exact wake_continueIn_of_blocked hblocked
  | parked pausing waits => exact wake_park _
  | lookedAgain blocked permitted => exact wake_park _
  | _ => cases hblocked.1

/-- An unseen update keeps the wake flag set until the loop is about to begin a pass. -/
theorem Watchful.alert_step (h : Watchful b a true) (hstop : e.isStop = false)
    (hpass : a.beginsPass e = false) :
    (a.step b e).wake = true ∨ (a.step b e).phase = .ready := by
  have hmove := a.move_step b e
  generalize a.step b e = a' at hmove ⊢
  -- From wherever the loop goes on, the flag is still set.
  have hgoesOn (m : Machine σ υ δ κ) (s : σ) (hphase : a.phase ≠ .ready) :
      (continueIn b { a with machine := m } s).wake = true ∨
        (continueIn b { a with machine := m } s).phase = .ready :=
    (continueIn_of_wake b (a := { a with machine := m }) (h.wake hphase) s).imp_left And.right
  cases hmove with
  | ignored => exact h.alert rfl
  | started held live => exact Or.inr rfl
  | staged u free => exact Or.inl rfl
  | stopped live => cases hstop
  | cutOff stopping going =>
      rw [h.live] at stopping
      cases stopping
  | ended ready start => simp [beginsPass_of_ready ready h.not_stopped] at hpass
  | refused ready start => simp [beginsPass_of_ready ready h.not_stopped] at hpass
  | began ready start => simp [beginsPass_of_ready ready h.not_stopped] at hpass
  | acknowledged acting => exact Or.inl (h.wake (by simp [acting]))
  | failed acting signals r pass => exact Or.inl (h.wake (by simp [acting]))
  | stayed acting signals r pass => exact hgoesOn _ _ (by simp [acting])
  | signalled acting r pass => exact Or.inl (h.wake (by simp [acting]))
  | moved acting r pass => exact hgoesOn _ _ (by simp [acting])
  | wentOn signalling => exact hgoesOn a.machine _ (by simp [signalling])
  | parked pausing waits => exact Or.inr (by rw [park_of_wake (h.wake (by simp [pausing]))])
  | retried pausing waits => exact Or.inr rfl
  | lookedAgain blocked permitted =>
      have hwake : a.wake = true := h.wake (by simp [blocked])
      exact Or.inr (by rw [park_of_wake (a := { a with permit := false }) hwake])

/-- A loop that ends has come to a terminal state. -/
theorem Watchful.exited_step (h : Watchful b a unseen) (hstop : e.isStop = false)
    (hexited : (a.step b e).phase = .exited) :
    b.isTerminal (a.step b e).machine.current.state = true := by
  have hmove := a.move_step b e
  generalize a.step b e = a' at hmove hexited ⊢
  cases hmove with
  | ignored => exact h.exited hexited
  | staged u free => exact h.exited hexited
  | stopped live => cases hstop
  | acknowledged acting => exact h.exited hexited
  | ended ready start => exact absurd start (Machine.not_stopped_of_begin h.not_stopped)
  | stayed acting signals r pass =>
      have hstate := isTerminal_of_exited hexited
      rw [machine_continueIn, Machine.finish_current, pass, ← Machine.state_of_stayed pass]
      exact hstate
  | moved acting r pass =>
      have hstate := isTerminal_of_exited hexited
      rw [machine_continueIn, Machine.finish_current, pass]
      exact hstate
  | wentOn signalling =>
      have hstate := isTerminal_of_exited hexited
      rw [machine_continueIn, h.faithful.signalling _ signalling]
      exact hstate
  | parked pausing waits => exact absurd hexited (a.phase_park_ne (by simp) (by simp))
  | lookedAgain blocked permitted => exact absurd hexited (phase_park_ne _ (by simp) (by simp))
  | _ => cases hexited

/-- One event keeps a loop watchful. -/
theorem Watchful.step (h : Watchful b a unseen) (hstop : e.isStop = false) :
    Watchful b (a.step b e) (a.leavesUnseen unseen e) where
  consistent := h.consistent.step b e
  faithful := h.faithful.step e
  live := (stopRequested_step b hstop).trans h.live
  blocked := h.blocked_step hstop
  alert hunseen := by
    simp only [leavesUnseen] at hunseen
    split at hunseen <;> rename_i hpass
    · cases hunseen
    · rcases Bool.or_eq_true_iff.1 hunseen with hstages | rfl
      · exact Or.inl (wake_step_of_stages b hstages)
      · exact h.alert_step hstop (Bool.eq_false_iff.2 hpass)
  exited := h.exited_step hstop
  not_aborted := by
    by_cases habort : e = .abort
    · subst habort
      simpa [Actor.step, h.live] using h.not_aborted
    · exact phase_step_ne_aborted b h.not_aborted habort

/-- A whole run keeps a loop watchful. -/
theorem Watchful.run (h : Watchful b a unseen) {events : List (ActorEvent σ υ δ)}
    (hevents : Unstopped events) :
    Watchful b (Actor.run b a events) (isUnseen b a unseen events) := by
  induction events generalizing a unseen with
  | nil => exact h
  | cons e rest ih => exact ih (h.step hevents.head) hevents.tail

/-! ## On the way to the next pass -/

omit [DecidableEq σ] in
/-- With its wake flag set, a loop that goes on has no turns left but the pass itself. -/
theorem stage_continueIn_of_wake (b : Blueprint σ κ) (h : a.wake = true) (s : σ) :
    4 ≤ (a.continueIn b s).phase.stage := by
  rcases continueIn_of_wake b h s with ⟨hphase, -⟩ | hphase <;> simp [hphase, Phase.stage]

omit [DecidableEq σ] in
theorem stage_park_of_wake (h : a.wake = true) : a.park.phase.stage = 4 := by
  rw [park_of_wake h]
  rfl

/-- While an update is unseen, the loop does not go back on its way to the next pass. -/
theorem Watchful.stage_le_step (h : Watchful b a true) (hstarted : a.phase ≠ .idle)
    (hstop : e.isStop = false) (hpass : a.beginsPass e = false) :
    a.phase.stage ≤ (a.step b e).phase.stage := by
  have hmove := a.move_step b e
  generalize a.step b e = a' at hmove ⊢
  cases hmove with
  | ignored => exact Nat.le_refl _
  | started held live =>
      have hstopped := h.consistent.not_started hstarted held
      rw [live] at hstopped
      cases hstopped
  | staged u free => exact Nat.le_refl _
  | stopped live => cases hstop
  | cutOff stopping going =>
      rw [h.live] at stopping
      cases stopping
  | ended ready start => simp [beginsPass_of_ready ready h.not_stopped] at hpass
  | refused ready start => simp [beginsPass_of_ready ready h.not_stopped] at hpass
  | began ready start => simp [beginsPass_of_ready ready h.not_stopped] at hpass
  | acknowledged acting => exact Nat.le_refl _
  | @wentOn next signalling =>
      have hstage := stage_continueIn_of_wake b (h.wake (by simp [signalling])) next.state
      rw [signalling]
      exact Nat.le_trans (by simp [Phase.stage]) hstage
  | parked pausing waits =>
      rw [stage_park_of_wake (h.wake (by simp [pausing]))]
      simp [pausing, Phase.stage]
  | retried pausing waits => simp [pausing, Phase.stage]
  | lookedAgain blocked permitted =>
      have hwake : a.wake = true := h.wake (by simp [blocked])
      rw [stage_park_of_wake (a := { a with permit := false }) hwake]
      simp [blocked, Phase.stage]
  | failed acting | stayed acting | signalled acting | moved acting => simp [acting, Phase.stage]

/-- While an update is unseen, an action that returns brings the loop further. -/
theorem Watchful.stage_finish_pos (h : Watchful b a true) {t : Transition σ κ}
    (hphase : a.phase = .acting t) (signals : Bool) (r : ActionResult σ δ) :
    0 < (a.finish b signals r).phase.stage := by
  have hgoesOn (m : Machine σ υ δ κ) (s : σ) :
      0 < (continueIn b { a with machine := m } s).phase.stage := by
    have hwake : a.wake = true := h.wake (by simp [hphase])
    exact Nat.lt_of_lt_of_le (by decide)
      (stage_continueIn_of_wake b (a := { a with machine := m }) hwake s)
  simp only [finish, hphase]
  split
  · simp [Phase.stage]
  · exact hgoesOn _ _
  · split
    · simp [Phase.stage]
    · exact hgoesOn _ _

/-- While an update is unseen, the turn that the loop waits for brings it further. -/
theorem Watchful.stage_lt_step (h : Watchful b a true) (hstarted : a.phase ≠ .idle)
    {signals : Bool} {r : ActionResult σ δ}
    (hturn : (turns signals r)[a.phase.stage]? = some e) (hpass : a.beginsPass e = false) :
    a.phase.stage < (a.step b e).phase.stage := by
  cases hphase : a.phase with
  | idle => exact absurd hphase hstarted
  | aborted => exact absurd hphase h.not_aborted
  | acting t =>
      rw [hphase] at hturn
      cases hturn
      exact h.stage_finish_pos hphase signals r
  | signalling s =>
      rw [hphase] at hturn
      cases hturn
      have hstage := stage_continueIn_of_wake b (h.wake (by simp [hphase])) s.state
      simp only [Actor.step, acknowledged, hphase]
      exact Nat.lt_of_lt_of_le (by simp [Phase.stage]) hstage
  | backingOff =>
      rw [hphase] at hturn
      cases hturn
      have hstage := stage_park_of_wake (h.wake (by simp [hphase]))
      simp only [Actor.step, elapsed, hphase]
      split
      · rw [hstage]
        simp [Phase.stage]
      · simp [Phase.stage]
  | parked =>
      rw [hphase] at hturn
      cases hturn
      have hwake : a.wake = true := h.wake (by simp [hphase])
      -- A flag that is set excludes that the loop is blocked.
      have hpermit : a.permit = true := by
        cases hpermit : a.permit with
        | true => rfl
        | false =>
            rw [h.blocked ⟨hphase, hpermit⟩] at hwake
            cases hwake
      have hstage : (park { a with permit := false }).phase.stage = 4 := stage_park_of_wake hwake
      have hresume : a.resume = park { a with permit := false } := by
        simp [resume, hphase, hpermit]
      rw [Actor.step, hresume, hstage]
      simp [Phase.stage]
  | ready =>
      rw [hphase] at hturn
      cases hturn
      simp [beginsPass_of_ready hphase h.not_stopped] at hpass
  | exited =>
      rw [hphase] at hturn
      cases hturn

omit [DecidableEq σ] in
/-- What is left of a list of turns when one event has passed, the first of them or another. -/
theorem sublist_drop_of_cons {α : Type} {l rest : List α} {e : α} {k k' : Nat}
    (h : (l.drop k).Sublist (e :: rest)) (hle : k ≤ k') (hlt : l[k]? = some e → k < k') :
    (l.drop k').Sublist rest := by
  rcases List.sublist_cons_iff.1 h with hrest | ⟨ahead, hdrop, hahead⟩
  · exact (List.drop_sublist_drop_left l hle).trans hrest
  · have hturn : l[k]? = some e := by
      rw [← List.head?_drop, hdrop, List.head?_cons]
    have hnext : l.drop (k + 1) = ahead := by
      rw [← List.tail_drop, hdrop, List.tail_cons]
    rw [← hnext] at hahead
    exact (List.drop_sublist_drop_left l (hlt hturn)).trans hahead

/-- While an update is unseen, a loop that gets the turns ahead of it begins a pass or ends. -/
theorem Watchful.passes_of_turns (h : Watchful b a true) (hstarted : a.phase ≠ .idle)
    {signals : Bool} {r : ActionResult σ δ} {later : List (ActorEvent σ υ δ)}
    (hlater : Unstopped later)
    (hturns : ((turns signals r).drop a.phase.stage).Sublist later) :
    0 < passes b a later ∨ (Actor.run b a later).phase = .exited := by
  induction later generalizing a with
  | nil =>
      right
      have hdone := List.drop_eq_nil_iff.1 (List.sublist_nil.1 hturns)
      cases hphase : a.phase with
      | exited => exact hphase
      | idle => exact absurd hphase hstarted
      | aborted => exact absurd hphase h.not_aborted
      | _ => simp [hphase, turns, Phase.stage] at hdone
  | cons e rest ih =>
      cases hpass : a.beginsPass e with
      | true =>
          left
          rw [passes, if_pos hpass]
          omega
      | false =>
          have hstep : Watchful b (a.step b e) true := by
            have hnext := h.step (e := e) hlater.head
            rwa [leavesUnseen, hpass, if_neg Bool.false_ne_true, Bool.or_true] at hnext
          have hahead : ((turns signals r).drop (a.step b e).phase.stage).Sublist rest :=
            sublist_drop_of_cons hturns (h.stage_le_step hstarted hlater.head hpass)
              fun hturn => h.stage_lt_step hstarted hturn hpass
          have hgoesOn := ih hstep (started_step b hstarted e) hlater.tail hahead
          simpa [passes, hpass, Actor.run] using hgoesOn

/-! ## Blocked loops -/

/-- A blocked loop stays as it is until an update is staged. -/
theorem Watchful.run_of_blocked (h : Watchful b a unseen) (hblocked : a.Blocked)
    {later : List (ActorEvent σ υ δ)} (hlater : Unstopped later) (hstaged : staged b a later = 0) :
    passes b a later = 0 ∧ Actor.run b a later = a := by
  obtain ⟨hphase, hpermit⟩ := hblocked
  induction later with
  | nil => exact ⟨rfl, rfl⟩
  | cons e rest ih =>
      have hstages : a.stages e = false := by
        cases hstages : a.stages e with
        | true => simp [staged, hstages] at hstaged
        | false => rfl
      obtain ⟨hbegins, hstep⟩ :=
        step_of_parked h.consistent h.live hphase hpermit b hlater.head hstages
      rw [staged, hstages, hstep] at hstaged
      obtain ⟨hpasses, hrun⟩ := ih hlater.tail (by simpa using hstaged)
      constructor
      · simp [passes, hbegins, hstep, hpasses]
      · rw [Actor.run, List.foldl_cons, hstep]
        exact hrun

end Watchful

/-- Take any run in which the loop was started and nobody asked the actor to stop.  A blocked loop
has no unseen update.  While an update is unseen, the loop begins a pass once it gets the turns that
it can need for that, unless it has ended in a terminal state.  And a loop that is blocked stays as
it is, and begins no pass, until an update is staged or the actor is asked to stop. -/
theorem wakes_exactly_for_updates (b : Blueprint σ κ) (first : Snapshot σ δ)
    {events : List (ActorEvent σ υ δ)} (hevents : Unstopped events) {a : Actor σ υ δ κ}
    (ha : a = run b (new first) events) (hstarted : a.phase ≠ .idle) :
    (a.Blocked → isUnseen b (new first : Actor σ υ δ κ) false events = false) ∧
    (isUnseen b (new first : Actor σ υ δ κ) false events = true →
      ∀ signals r later, Unstopped later → (turns signals r).Sublist later →
        0 < passes b a later ∨
          (run b a later).phase = .exited ∧
            b.isTerminal (run b a later).machine.current.state = true) ∧
    (a.Blocked → ∀ later, Unstopped later → staged b a later = 0 →
      passes b a later = 0 ∧ run b a later = a) := by
  have h : Watchful b a (isUnseen b (new first : Actor σ υ δ κ) false events) := by
    rw [ha]
    exact (watchful_new b first).run hevents
  refine ⟨fun hblocked => ?_, fun hunseen signals r later hlater hturns => ?_,
    fun hblocked later hlater hstaged => h.run_of_blocked hblocked hlater hstaged⟩
  · cases hunseen : isUnseen b (new first : Actor σ υ δ κ) false events with
    | false => rfl
    | true =>
        rw [hunseen] at h
        have hwake := h.wake (by simp [hblocked.1])
        rw [h.blocked hblocked] at hwake
        cases hwake
  · rw [hunseen] at h
    have hahead : ((turns signals r).drop a.phase.stage).Sublist later :=
      (List.drop_sublist _ _).trans hturns
    refine (h.passes_of_turns hstarted hlater hahead).imp_right fun hexited => ?_
    exact ⟨hexited, (h.run hlater).exited hexited⟩

/-- An operation for an inactive local service arrives while its loop is in a pass: the loop begins
another pass.  Without the operation the loop blocks, and notifications alone do not rouse it. -/
theorem inactive_service_wakes :
    let activate : LocalServiceOperation := .activate ⟨"agent-1"⟩ {}
    let quiet : List (ActorEvent LocalServiceState LocalServiceOperation Unit) :=
      [.start, .begin, .finish true (.ok none)]
    let raced : List (ActorEvent LocalServiceState LocalServiceOperation Unit) :=
      [.start, .begin, .notify activate, .finish true (.ok none)]
    let inactive : Actor LocalServiceState LocalServiceOperation Unit LocalServiceAction :=
      new ⟨.inactive, (), none⟩
    0 < passes LocalService.blueprint (run LocalService.blueprint inactive raced)
        (turns true (.ok none)) ∧
      passes LocalService.blueprint (run LocalService.blueprint inactive quiet)
        [.start, .elapsed, .resume, .begin] = 0 := by
  intro activate quiet raced inactive
  have hsilent : Unstopped (turns true (.ok none) :
      List (ActorEvent LocalServiceState LocalServiceOperation Unit)) := by
    simp [turns, Unstopped, ActorEvent.isStop]
  have hraced : Unstopped raced := by
    simp [raced, Unstopped, ActorEvent.isStop]
  have hquiet : Unstopped quiet := by
    simp [quiet, Unstopped, ActorEvent.isStop]
  have hready : (run LocalService.blueprint inactive raced).phase = .ready := rfl
  have hparked : (run LocalService.blueprint inactive quiet).phase = .parked := rfl
  have hwakes := (wakes_exactly_for_updates LocalService.blueprint ⟨.inactive, (), none⟩ hraced rfl
    (by simp [inactive, hready])).2.1 rfl true (.ok none) _ hsilent (List.Sublist.refl _)
  have hblocked := (wakes_exactly_for_updates LocalService.blueprint ⟨.inactive, (), none⟩ hquiet
    rfl (by simp [inactive, hparked])).2.2 ⟨hparked, rfl⟩ [.start, .elapsed, .resume, .begin]
    (by simp [Unstopped, ActorEvent.isStop]) rfl
  refine ⟨hwakes.resolve_right ?_, hblocked.1⟩
  rintro ⟨hexited, -⟩
  cases hexited

end Actor
end Orchestration
