import Orchestration.LocalService.Machine
import Orchestration.Proofs.Machine.Run

/-!
# Failed passes and pending updates

A pass that fails leaves the pending update where it is, and the loop pauses.  Whether the update
is looked at again depends on where the machine is.  In most states the next pass begins by itself.
In a state in which the machine waits, the loop parks, and then goes on only if an update was staged
since it last looked; the pending update does not count, and it keeps every other one out.

Main results:

- `Actor.phase_step_eq_backingOff_iff`: a loop begins to pause exactly when a pass fails.
- `Actor.step_eq_self`: events that the loop does not wait for change nothing, unless they stage an
  update or stop the loop.
- `Actor.Engaged.passes_of_retried`, `Actor.Engaged.run_of_stranded`: the loop begins another pass,
  or the update is stranded and only a stop ends that.
- `Actor.retried_after_failure_iff`: the exact condition under which a failed pass is followed by
  another one.
-/

namespace Orchestration
namespace Actor

variable {σ υ δ κ : Type} [DecidableEq σ]

/-! ## Failed passes -/

/-- A loop begins to pause exactly when a pass fails. -/
theorem phase_step_eq_backingOff_iff (b : Blueprint σ κ) {a : Actor σ υ δ κ}
    (h : a.phase ≠ .backingOff) (e : ActorEvent σ υ δ) :
    (a.step b e).phase = .backingOff ↔ (a.failure? b e).isSome = true := by
  constructor
  · have hmove := a.move_step b e
    generalize a.step b e = a' at hmove ⊢
    intro hpauses
    cases hmove with
    | ignored => exact absurd hpauses h
    | staged u free => exact absurd hpauses h
    | stopped live => exact absurd hpauses h
    | acknowledged acting => exact absurd hpauses h
    | refused ready start => simp [failure?, ready, start]
    | failed acting signals r pass => simp [failure?, acting, pass]
    | stayed acting signals r pass =>
        exact absurd hpauses (phase_continueIn_ne b _ _ (by simp) (by simp) (by simp))
    | moved acting r pass =>
        exact absurd hpauses (phase_continueIn_ne b _ _ (by simp) (by simp) (by simp))
    | wentOn signalling =>
        exact absurd hpauses (phase_continueIn_ne b _ _ (by simp) (by simp) (by simp))
    | parked pausing waits => exact absurd pausing h
    | retried pausing waits => exact absurd pausing h
    | lookedAgain blocked permitted =>
        exact absurd hpauses (phase_park_ne _ (by simp) (by simp))
    | _ => cases hpauses
  · intro hfailure
    cases e with
    | begin =>
        cases hphase : a.phase with
        | ready =>
            cases hstart : (a.machine.begin b).2 <;>
              simp_all [failure?, step, begin]
        | _ => simp [failure?, hphase] at hfailure
    | finish signals r =>
        cases hphase : a.phase with
        | acting t =>
            cases hend : (a.machine.finish t r).2 <;>
              simp_all [failure?, step, finish]
        | _ => simp [failure?, hphase] at hfailure
    | _ => cases hfailure

/-- A loop that pauses ends no pass. -/
theorem phase_ne_backingOff_of_failure {b : Blueprint σ κ} {a : Actor σ υ δ κ}
    {e : ActorEvent σ υ δ} {error : MachineError σ κ} (h : a.failure? b e = some error) :
    a.phase ≠ .backingOff := by
  intro hphase
  cases e <;> simp [failure?, hphase] at h

/-! ## Events without effect -/

/-- Whether the loop of an actor waits for an event, given its phase. -/
def awaits (a : Actor σ υ δ κ) (e : ActorEvent σ υ δ) : Bool :=
  match a.phase, e with
  | .ready, .begin => true
  | .acting _, .acknowledge => true
  | .acting _, .finish _ _ => true
  | .signalling _, .handled => true
  | .backingOff, .elapsed => true
  | .parked, .resume => a.permit
  | _, _ => false

/-- An event that the loop does not wait for changes nothing, unless it stages an update or stops
the loop: another start is ignored, and so is an update that is refused. -/
theorem step_eq_self {a : Actor σ υ δ κ} (ha : a.Consistent) (hlive : a.stopRequested = false)
    (hstarted : a.phase ≠ .idle) (b : Blueprint σ κ) {e : ActorEvent σ υ δ}
    (hstop : e.isStop = false) (hstages : a.stages e = false) (hawaits : a.awaits e = false) :
    a.step b e = a := by
  cases e with
  | start =>
      have hheld : a.held = true := by
        rcases ha.held hstarted with hheld | hstopped
        · exact hheld
        · rw [hlive] at hstopped
          cases hstopped
      simp [step, start, hheld]
  | notify v =>
      cases hpending : a.machine.slot.pending with
      | some u => simp [step, notify_of_pending hpending]
      | none => simp [stages, notify_of_free hpending] at hstages
  | requestStop => cases hstop
  | abort => simp [step, hlive]
  | begin => cases hphase : a.phase <;> simp_all [awaits, step, begin]
  | acknowledge => cases hphase : a.phase <;> simp_all [awaits, step]
  | finish signals r => cases hphase : a.phase <;> simp_all [awaits, step, finish]
  | handled => cases hphase : a.phase <;> simp_all [awaits, step, acknowledged]
  | elapsed => cases hphase : a.phase <;> simp_all [awaits, step, elapsed]
  | resume => cases hphase : a.phase <;> simp_all [awaits, step, resume]

/-- A parked loop without a notification waits for nothing: it stays where it is, and begins no
pass, unless an update is staged. -/
theorem step_of_parked {a : Actor σ υ δ κ} (ha : a.Consistent) (hlive : a.stopRequested = false)
    (hphase : a.phase = .parked) (hpermit : a.permit = false) (b : Blueprint σ κ)
    {e : ActorEvent σ υ δ} (hstop : e.isStop = false) (hstages : a.stages e = false) :
    a.beginsPass e = false ∧ a.step b e = a := by
  have hawaits : a.awaits e = false := by
    cases e <;> simp [awaits, hphase, hpermit]
  have hbegins : a.beginsPass e = false := by
    cases e <;> simp [beginsPass, hphase]
  exact ⟨hbegins, step_eq_self ha hlive (by simp [hphase]) b hstop hstages hawaits⟩

/-- An actor with a pending update: it was started, and nobody asked it to stop. -/
structure Engaged (a : Actor σ υ δ κ) (u : υ) : Prop where
  consistent : a.Consistent
  live : a.stopRequested = false
  started : a.phase ≠ .idle
  pending : a.machine.slot.pending = some u

omit [DecidableEq σ] in
/-- The machine of such an actor was not told to stop. -/
theorem Engaged.not_stopped {a : Actor σ υ δ κ} {u : υ} (h : a.Engaged u) :
    a.machine.slot.stopped = false := by
  rw [h.consistent.stopped, h.live]

omit [DecidableEq σ] in
/-- Where the loop is, and what wakes it, does not matter for the rest. -/
theorem Engaged.of_phase {a : Actor σ υ δ κ} {u : υ} (h : a.Engaged u) {phase : Phase σ δ κ}
    (hphase : phase ≠ .idle) (wake permit : Bool) :
    Engaged { a with phase := phase, wake := wake, permit := permit } u where
  consistent := h.consistent.of_started h.started rfl rfl rfl
  live := h.live
  started := hphase
  pending := h.pending

omit [DecidableEq σ] in
/-- While an update is pending, no other one is staged. -/
theorem Engaged.not_stages {a : Actor σ υ δ κ} {u : υ} (h : a.Engaged u) (e : ActorEvent σ υ δ) :
    a.stages e = false := by
  cases e with
  | notify v => simp [stages, notify_of_pending h.pending]
  | _ => rfl

/-- While an update is pending, an event that the loop does not wait for changes nothing, unless
it is a stop. -/
theorem Engaged.step_eq_self {a : Actor σ υ δ κ} {u : υ} (h : a.Engaged u) (b : Blueprint σ κ)
    {e : ActorEvent σ υ δ} (hstop : e.isStop = false) (hawaits : a.awaits e = false) :
    a.step b e = a :=
  Actor.step_eq_self h.consistent h.live h.started b hstop (h.not_stages e) hawaits

/-- Nobody is asked to stop. -/
def Unstopped (events : List (ActorEvent σ υ δ)) : Prop :=
  ∀ e ∈ events, e.isStop = false

omit [DecidableEq σ] in
/-- The first event is no stop. -/
theorem Unstopped.head {e : ActorEvent σ υ δ} {rest : List (ActorEvent σ υ δ)}
    (h : Unstopped (e :: rest)) : e.isStop = false :=
  h e List.mem_cons_self

omit [DecidableEq σ] in
/-- Nor is any of the others. -/
theorem Unstopped.tail {e : ActorEvent σ υ δ} {rest : List (ActorEvent σ υ δ)}
    (h : Unstopped (e :: rest)) : Unstopped rest :=
  fun e' he' => h e' (List.mem_cons_of_mem e he')

/-! ## A loop that goes on -/

/-- A loop that is about to begin a pass begins it when it gets to run. -/
theorem Engaged.passes_of_ready {a : Actor σ υ δ κ} {u : υ} (h : a.Engaged u)
    (b : Blueprint σ κ) (hphase : a.phase = .ready) {later : List (ActorEvent σ υ δ)}
    (hlater : Unstopped later) (hbegin : .begin ∈ later) : 0 < passes b a later := by
  induction later with
  | nil => cases hbegin
  | cons e rest ih =>
      cases hawaits : a.awaits e with
      | true =>
          have he : a.beginsPass e = true := by
            cases e <;> simp_all [awaits, beginsPass, h.not_stopped]
          rw [passes, if_pos he]
          omega
      | false =>
          have hrest : .begin ∈ rest := by
            rcases List.mem_cons.1 hbegin with rfl | hrest
            · simp [awaits, hphase] at hawaits
            · exact hrest
          rw [passes, h.step_eq_self b hlater.head hawaits]
          have hpos := ih hlater.tail hrest
          omega

omit [DecidableEq σ] in
/-- The pause ends in another pass: the machine does not wait, or an update was staged since the
loop last looked. -/
theorem Engaged.elapsed_of_retried {a : Actor σ υ δ κ} {u : υ} (h : a.Engaged u)
    (b : Blueprint σ κ) (hphase : a.phase = .backingOff)
    (hretried : b.isPaused a.machine.current.state = true → a.wake = true) :
    (a.elapsed b).Engaged u ∧ (a.elapsed b).phase = .ready := by
  cases hpaused : b.isPaused a.machine.current.state with
  | true =>
      have heq : a.elapsed b = { a with phase := .ready, wake := false, permit := a.permit } := by
        simp [elapsed, hphase, hpaused, park, hretried hpaused]
      rw [heq]
      exact ⟨h.of_phase (by simp) _ _, rfl⟩
  | false =>
      have heq : a.elapsed b = { a with phase := .ready, wake := a.wake, permit := a.permit } := by
        simp [elapsed, hphase, hpaused]
      rw [heq]
      exact ⟨h.of_phase (by simp) _ _, rfl⟩

/-- A failed pass is followed by another one once the loop gets to run. -/
theorem Engaged.passes_of_retried {a : Actor σ υ δ κ} {u : υ} (h : a.Engaged u)
    (b : Blueprint σ κ) (hphase : a.phase = .backingOff)
    (hretried : b.isPaused a.machine.current.state = true → a.wake = true)
    {later : List (ActorEvent σ υ δ)} (hlater : Unstopped later)
    (hturns : [.elapsed, .begin].Sublist later) : 0 < passes b a later := by
  induction later with
  | nil => cases hturns
  | cons e rest ih =>
      rw [passes]
      cases hawaits : a.awaits e with
      | true =>
          have he : e = .elapsed := by
            cases e <;> simp_all [awaits]
          subst he
          obtain ⟨hengaged, hready⟩ := h.elapsed_of_retried b hphase hretried
          have hbegin : .begin ∈ rest := by
            have hrest := List.cons_sublist_cons.1 hturns
            exact hrest.subset List.mem_cons_self
          have hpos := hengaged.passes_of_ready b hready hlater.tail hbegin
          exact Nat.lt_of_lt_of_le hpos (Nat.le_add_left _ _)
      | false =>
          have hrest : [ActorEvent.elapsed, .begin].Sublist rest := by
            cases hturns with
            | cons _ hrest => exact hrest
            | cons_cons _ _ => simp [awaits, hphase] at hawaits
          rw [h.step_eq_self b hlater.head hawaits]
          have hpos := ih hlater.tail hrest
          omega

/-! ## A stranded update -/

omit [DecidableEq σ] in
/-- The pause ends with the loop parked: the machine waits, and no update was staged since the loop
last looked. -/
theorem Engaged.elapsed_of_stranded {a : Actor σ υ δ κ} {u : υ} (h : a.Engaged u)
    (b : Blueprint σ κ) (hphase : a.phase = .backingOff)
    (hpaused : b.isPaused a.machine.current.state = true) (hwake : a.wake = false) :
    a.elapsed b = { a with phase := .parked, wake := a.wake, permit := false } := by
  simp [elapsed, hphase, hpaused, park, hwake, h.not_stopped]

/-- A parked loop with an update pending and no notification stored stays so until a stop. -/
theorem Engaged.run_of_parked {a : Actor σ υ δ κ} {u : υ} (h : a.Engaged u) (b : Blueprint σ κ)
    (hphase : a.phase = .parked) (hpermit : a.permit = false)
    {later : List (ActorEvent σ υ δ)} (hlater : Unstopped later) :
    passes b a later = 0 ∧ run b a later = a := by
  induction later with
  | nil => exact ⟨rfl, rfl⟩
  | cons e rest ih =>
      obtain ⟨hbegins, hstep⟩ :=
        step_of_parked h.consistent h.live hphase hpermit b hlater.head (h.not_stages e)
      obtain ⟨hpasses, hrun⟩ := ih hlater.tail
      constructor
      · simp [passes, hbegins, hstep, hpasses]
      · rw [run, List.foldl_cons, hstep]
        exact hrun

/-- After a failed pass that strands its update, the loop pauses and then parks, and that is all
that ever happens to the actor until a stop. -/
theorem Engaged.run_of_stranded {a : Actor σ υ δ κ} {u : υ} (h : a.Engaged u) (b : Blueprint σ κ)
    (hphase : a.phase = .backingOff) (hpaused : b.isPaused a.machine.current.state = true)
    (hwake : a.wake = false) {later : List (ActorEvent σ υ δ)} (hlater : Unstopped later) :
    passes b a later = 0 ∧
      (run b a later = a ∨ run b a later = { a with phase := .parked, permit := false }) ∧
      (.elapsed ∈ later → (run b a later).phase = .parked) := by
  induction later with
  | nil => exact ⟨rfl, Or.inl rfl, fun hmem => by cases hmem⟩
  | cons e rest ih =>
      have hbegins : a.beginsPass e = false := by
        cases e <;> simp [beginsPass, hphase]
      rw [passes, hbegins, run, List.foldl_cons]
      cases hawaits : a.awaits e with
      | true =>
          have he : e = .elapsed := by
            cases e <;> simp_all [awaits]
          subst he
          have helapsed := h.elapsed_of_stranded b hphase hpaused hwake
          have hparked : Engaged { a with phase := .parked, wake := a.wake, permit := false } u :=
            h.of_phase (by simp) _ _
          obtain ⟨hpasses, hrun⟩ := hparked.run_of_parked b rfl rfl hlater.tail
          simp only [step, helapsed]
          rw [← run, hrun, hpasses]
          exact ⟨rfl, Or.inr rfl, fun _ => rfl⟩
      | false =>
          rw [h.step_eq_self b hlater.head hawaits]
          obtain ⟨hpasses, hrun, hthen⟩ := ih hlater.tail
          refine ⟨by simpa using hpasses, hrun, fun hmem => ?_⟩
          rcases List.mem_cons.1 hmem with rfl | hrest
          · simp [awaits, hphase] at hawaits
          · exact hthen hrest

/-- Take any run in which an event ends a pass with an error while an update is pending, and nobody
asked the actor to stop.  The loop begins another pass by itself, whenever it gets its two turns, if
and only if the machine does not wait in its state or an update was staged since the loop last
looked.  Otherwise the update is stranded: the loop pauses and parks, no pass ever begins again, and
every further update is refused, until the actor is asked to stop. -/
theorem retried_after_failure_iff {b : Blueprint σ κ} {a a' : Actor σ υ δ κ}
    {e : ActorEvent σ υ δ} {error : MachineError σ κ} {u : υ} (ha : Reachable b a)
    (hfailure : a.failure? b e = some error) (ha' : a' = a.step b e)
    (hpending : a'.machine.slot.pending = some u) (hlive : a'.stopRequested = false) :
    ((∀ later, Unstopped later → [.elapsed, .begin].Sublist later → 0 < passes b a' later) ↔
      (b.isPaused a'.machine.current.state = true → a'.wake = true)) ∧
    (b.isPaused a'.machine.current.state = true → a'.wake = false →
      ∀ later, Unstopped later →
        passes b a' later = 0 ∧ (run b a' later).machine = a'.machine ∧
        (.elapsed ∈ later → (run b a' later).phase = .parked) ∧
        ∀ v, (run b a' later).notify v = (run b a' later, false)) := by
  have hphase : a'.phase = .backingOff := by
    rw [ha', phase_step_eq_backingOff_iff b (phase_ne_backingOff_of_failure hfailure), hfailure]
    rfl
  have hengaged : a'.Engaged u :=
    { consistent := by
        rw [ha']
        exact ha.consistent.step b e
      live := hlive
      started := by simp [hphase]
      pending := hpending }
  constructor
  · constructor
    · intro hturns hpaused
      cases hwake : a'.wake with
      | true => rfl
      | false =>
          have hsilent : Unstopped ([.elapsed, .begin] : List (ActorEvent σ υ δ)) := by
            simp [Unstopped, ActorEvent.isStop]
          have hpos := hturns _ hsilent (List.Sublist.refl _)
          have hzero := (hengaged.run_of_stranded b hphase hpaused hwake hsilent).1
          omega
    · intro hretried later hlater hturns
      exact hengaged.passes_of_retried b hphase hretried hlater hturns
  · intro hpaused hwake later hlater
    obtain ⟨hpasses, hrun, hthen⟩ := hengaged.run_of_stranded b hphase hpaused hwake hlater
    have hmachine : (run b a' later).machine = a'.machine := by
      rcases hrun with hrun | hrun
      · rw [hrun]
      · rw [hrun]
    refine ⟨hpasses, hmachine, hthen, fun v => ?_⟩
    apply notify_of_pending (u := u)
    rw [hmachine]
    exact hpending

/-- A local service that waits for its emergency deactivation takes the operation to deactivate, and
the action fails once.  The operation stays pending, nothing runs any more, and the same operation
is refused. -/
theorem emergency_deactivation_stranded :
    let opSpec : ClusterOpSpec := {}
    let deactivate : LocalServiceOperation := .deactivate ⟨"agent-1"⟩ opSpec
    let before : List (ActorEvent LocalServiceState LocalServiceOperation Unit) :=
      [.start, .begin, .finish true (.ok none), .notify deactivate, .resume, .begin]
    let failing : ActorEvent LocalServiceState LocalServiceOperation Unit :=
      .finish true (.error (.failed "timeout"))
    let a := step LocalService.blueprint (run LocalService.blueprint
      (new ⟨.emergencyDeactivationRequested, (), none⟩) before) failing
    let later : List (ActorEvent LocalServiceState LocalServiceOperation Unit) :=
      [.elapsed, .resume, .begin, .notify deactivate, .resume, .begin]
    a.machine.current.state = .emergencyDeactivationRequested ∧
      a.machine.slot.pending = some deactivate ∧
      passes LocalService.blueprint a later = 0 ∧
      (run LocalService.blueprint a later).phase = .parked ∧
      ((run LocalService.blueprint a later).notify deactivate).2 = false := by
  intro opSpec deactivate before failing a later
  have hlater : Unstopped later := by
    simp [later, Unstopped, ActorEvent.isStop]
  have hfailure : failure? LocalService.blueprint
      (run LocalService.blueprint (new ⟨.emergencyDeactivationRequested, (), none⟩) before)
      failing = some (.action .emergencyDeactivation (.failed "timeout")) := rfl
  have hpending : a.machine.slot.pending = some deactivate := rfl
  have hlive : a.stopRequested = false := rfl
  obtain ⟨hpasses, -, hparked, hrefused⟩ :=
    (retried_after_failure_iff ⟨_, before, rfl⟩ hfailure rfl hpending hlive).2 rfl rfl later hlater
  refine ⟨rfl, hpending, hpasses, hparked List.mem_cons_self, ?_⟩
  rw [hrefused]

end Actor
end Orchestration
