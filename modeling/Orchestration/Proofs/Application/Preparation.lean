import Orchestration.Proofs.Lifecycle.Evolution
import Orchestration.Proofs.Lifecycle.Kinds

/-!
# Scaling and the desired count

When an actor reaches the state that asks for scaling, the engine writes the target of the pending
operation into the record of the application, or stages a scaling to the count in the record where
nothing is pending.  Only then does the loop go on and dispatch the scaling.  The state may be left
by nothing but a scaling that succeeds, so the same arrival may be followed by many attempts, and
the action may acknowledge the operation in any of them.

Main results:

- `Application.Orderly.step`, `Application.Prepared.step`: what every event keeps, as long as the
  surroundings leave the desired counts alone.
- `Application.scale_prepared_iff`: the target of a dispatched scaling is the stored count exactly
  when the operation of the arrival is still pending and is a scaling, or a later one happens to
  have the count of the arrival.
-/

namespace Orchestration

namespace ApplicationStores

/-- The records take writes. -/
def Open (w : ApplicationStores) : Prop :=
  w.records.accepting = true

/-- The desired count of an application is left alone: if it has a record afterwards, it had one
before, with the same count. -/
def KeepsCount (w w' : ApplicationStores) (id : DeployableId) : Prop :=
  ∀ rec', w'.record? id = some rec' →
    ∃ rec, w.record? id = some rec ∧ rec.instances = rec'.instances

/-- Whoever does nothing leaves the counts alone. -/
theorem KeepsCount.refl (w : ApplicationStores) (id : DeployableId) : KeepsCount w w id :=
  fun rec' h => ⟨rec', h, rfl⟩

/-- The records go on taking writes when a count is written. -/
@[simp]
theorem accepting_persistInstances (w : ApplicationStores) (id : DeployableId) (n : UInt64) :
    (w.persistInstances id n).records.accepting = w.records.accepting := by
  unfold persistInstances
  split <;> simp [writeRecord]

/-- So they do when a record is deleted. -/
@[simp]
theorem accepting_forget (w : ApplicationStores) (id : DeployableId) :
    (w.forget id).records.accepting = w.records.accepting := by
  simp [forget, deleteRecord, deleteInstances]

/-- The count is written, if there is a record to write it into. -/
theorem instances_persistInstances {w : ApplicationStores} (h : w.Open) {id : DeployableId}
    {n : UInt64} {rec : ApplicationRecord}
    (hrec : (w.persistInstances id n).record? id = some rec) : rec.instances = n := by
  unfold Open at h
  unfold persistInstances at hrec
  split at hrec
  · simp only [writeRecord, record?, Gated.root_write, h, if_true,
      SortedMap.find?_insert_self] at hrec
    cases hrec
    rfl
  · rename_i hnone
    rw [hnone] at hrec
    cases hrec

/-- The count of one application is not the count of another. -/
theorem keepsCount_persistInstances_of_ne (w : ApplicationStores) {id id' : DeployableId}
    (h : id' ≠ id) (n : UInt64) : KeepsCount w (w.persistInstances id n) id' := by
  unfold persistInstances
  split
  · intro rec' hrec'
    refine ⟨rec', ?_, rfl⟩
    rw [← hrec']
    simp only [writeRecord, record?, Gated.root_write]
    split
    · exact (SortedMap.find?_insert_of_ne _ _ h).symm
    · rfl
  · exact KeepsCount.refl w id'

/-- Records that are deleted are not changed. -/
theorem keepsCount_forget (w : ApplicationStores) (id id' : DeployableId) :
    KeepsCount w (w.forget id) id' := by
  intro rec' hrec'
  refine ⟨rec', ?_, rfl⟩
  simp only [forget, deleteRecord, deleteInstances, record?, Gated.root_write] at hrec' ⊢
  split at hrec'
  · by_cases hid : id' = id
    · subst hid
      simp at hrec'
    · rwa [SortedMap.find?_erase_of_ne _ hid] at hrec'
  · exact hrec'

end ApplicationStores

/-- What happens to an engine of applications. -/
abbrev ApplicationEngineEvent : Type :=
  EngineEvent ApplicationState ApplicationOperation ApplicationRecord ApplicationStores

/-- An actor of an engine of applications. -/
abbrev ApplicationResident : Type :=
  Resident ApplicationState ApplicationOperation ApplicationRecord ApplicationAction

namespace Application

/-! ## The surroundings -/

/-- What the surroundings of an engine have to keep to: nobody is removed, the records take writes,
and nobody writes a desired count except an action that creates its own application. -/
def Admits (e : ApplicationEngine) : ApplicationEngineEvent → Prop
  | .work n w =>
    w.Open ∧ ∀ id, ApplicationStores.KeepsCount e.world w id ∨
      (e.action? n = some .create ∧ ∃ r, e.resident? n = some r ∧ r.id = id)
  | .outside w => w.Open ∧ ∀ id, ApplicationStores.KeepsCount e.world w id
  | ev => ev.isRemoval = false

/-- The surroundings keep to it in a whole run. -/
def Permitted : ApplicationEngine → List ApplicationEngineEvent → Prop
  | _, [] => True
  | e, ev :: rest => Admits e ev ∧ Permitted (e.step kind ev) rest

/-- Nobody is removed then. -/
theorem Admits.isRemoval {e : ApplicationEngine} {ev : ApplicationEngineEvent}
    (h : Admits e ev) : ev.isRemoval = false := by
  cases ev <;> first | rfl | exact h

/-- An engine whose records take writes, and in which nobody was removed. -/
structure Orderly (e : ApplicationEngine) : Prop where
  sound : LifecycleEngine.Sound kind e
  sole : LifecycleEngine.Sole e
  world_open : e.world.Open

/-- An engine without actors is orderly, as long as its records take writes. -/
theorem orderly_start (settings : EngineSettings) {w : ApplicationStores} (h : w.Open) :
    Orderly (LifecycleEngine.start settings w) where
  sound := LifecycleEngine.sound_start kind settings w
  sole := LifecycleEngine.sole_start settings w
  world_open := h

/-! ## What the engine writes -/

/-- A reached state is followed by the write of the target of a pending scaling, by the deletion of
an application that is gone, or by no write. -/
theorem world_react_cases (e : ApplicationEngine) (id : DeployableId) (state : ApplicationState)
    (pending : Option ApplicationOperation) :
    (e.react kind id state pending).world = e.world ∨
    (e.react kind id state pending).world = e.world.forget id ∨
    ∃ target n opSpec, pending = some (.scale target n opSpec) ∧
      (e.react kind id state pending).world = e.world.persistInstances target n := by
  rw [LifecycleEngine.world_react]
  split
  · split
    · exact Or.inr (Or.inl rfl)
    · exact Or.inl rfl
  · have hreact : kind.react = react := rfl
    rw [hreact, react_fst]
    unfold persisted
    split
    · exact Or.inr (Or.inr ⟨_, _, _, rfl, rfl⟩)
    · exact Or.inl rfl

/-- The stores after an event: as before, as given by the surroundings, without an application that
is gone, or with the target of a scaling that was pending for the actor whose state is handled. -/
theorem Orderly.world_step_cases {e : ApplicationEngine} (h : Orderly e)
    (ev : ApplicationEngineEvent) :
    (e.step kind ev).world = e.world ∨
    (∃ n w, ev = .work n w ∧ (e.step kind ev).world = w) ∨
    (∃ w, ev = .outside w ∧ (e.step kind ev).world = w) ∨
    (∃ id, (e.step kind ev).world = e.world.forget id) ∨
    ∃ m r id n opSpec, ev.handlesStateOf e m = true ∧ e.resident? m = some r ∧
      r.actor.machine.slot.pending = some (.scale id n opSpec) ∧
      (e.step kind ev).world = e.world.persistInstances id n := by
  rcases h.sound.world_step_cases ev with hsame | hwork | houtside | ⟨m, r, state, hm, hr, hreact⟩
  · exact Or.inl hsame
  · exact Or.inr (Or.inl hwork)
  · exact Or.inr (Or.inr (Or.inl houtside))
  · rw [hreact]
    rcases world_react_cases e r.id state r.actor.machine.slot.pending with
      hsame | hforget | ⟨id, n, opSpec, hpending, hpersist⟩
    · exact Or.inl hsame
    · exact Or.inr (Or.inr (Or.inr (Or.inl ⟨r.id, hforget⟩)))
    · exact Or.inr (Or.inr (Or.inr (Or.inr ⟨m, r, id, n, opSpec, hm, hr, hpending, hpersist⟩)))

/-- The records go on taking writes. -/
theorem Orderly.open_step {e : ApplicationEngine} (h : Orderly e) {ev : ApplicationEngineEvent}
    (hev : Admits e ev) : (e.step kind ev).world.Open := by
  rcases h.world_step_cases ev with
    hsame | ⟨n, w, rfl, hw⟩ | ⟨w, rfl, hw⟩ | ⟨id, hforget⟩ |
      ⟨m, r, id, n, opSpec, -, -, -, hpersist⟩
  · rw [hsame]
    exact h.world_open
  · rw [hw]
    exact hev.1
  · rw [hw]
    exact hev.1
  · rw [hforget, ApplicationStores.Open, ApplicationStores.accepting_forget]
    exact h.world_open
  · rw [hpersist, ApplicationStores.Open, ApplicationStores.accepting_persistInstances]
    exact h.world_open

/-- Every event keeps an engine orderly. -/
theorem Orderly.step {e : ApplicationEngine} (h : Orderly e) {ev : ApplicationEngineEvent}
    (hev : Admits e ev) : Orderly (e.step kind ev) where
  sound := h.sound.step lawful_kind ev
  sole := h.sole.step lawful_kind h.sound hev.isRemoval
  world_open := h.open_step hev

/-! ## Arrivals -/

/-- What an actor finds prepared: the count that the record held when the last state of the actor
had been handled, and the operation that was pending then, until it is acknowledged. -/
structure Preparation where
  count : Option UInt64
  kept : Option ApplicationOperation

/-- What is prepared once a state of an actor has been handled. -/
def arrival (e : ApplicationEngine) (n : Nat) : Option Preparation :=
  (e.resident? n).map fun r => ⟨(e.world.record? r.id).map (·.instances), e.pending? n⟩

/-- What is prepared after an event. -/
def prepare (n : Nat) (e : ApplicationEngine) (p : Option Preparation)
    (ev : ApplicationEngineEvent) : Option Preparation :=
  let e' := e.step kind ev
  if ev.handlesStateOf e n then arrival e' n
  else if (e'.pending? n).isNone then p.map ({ · with kept := none })
  else p

/-- What is prepared after a whole run. -/
def preparation (n : Nat) (e : ApplicationEngine) (p : Option Preparation) :
    List ApplicationEngineEvent → Option Preparation
  | [] => p
  | ev :: rest => preparation n (e.step kind ev) (prepare n e p ev) rest

/-- What holds of an actor and of what it finds prepared.  In the state that asks for scaling, once
that has been handled, the record holds the count of the arrival, and so does a scaling that is
pending since. -/
structure Prepared (n : Nat) (e : ApplicationEngine) (p : Option Preparation) : Prop where
  kept : ∀ q op, p = some q → q.kept = some op → e.pending? n = some op
  persisted : ∀ r rec, e.resident? n = some r → r.actor.phase ≠ .exited → r.actor.Settled →
    r.actor.machine.current.state = .scalingRequested → e.world.record? r.id = some rec →
    ∃ q, p = some q ∧ q.count = some rec.instances ∧
      ∀ id c opSpec, q.kept = some (.scale id c opSpec) → c = rec.instances

/-- While an actor is to scale, nobody else writes the desired count of its application. -/
theorem Orderly.keepsCount_step {e : ApplicationEngine} (h : Orderly e)
    {ev : ApplicationEngineEvent} (hev : Admits e ev) {n : Nat}
    {r : ApplicationResident} (hn : ev.handlesStateOf e n = false) (hr : e.resident? n = some r)
    (hexited : r.actor.phase ≠ .exited)
    (hstate : r.actor.machine.current.state = .scalingRequested) :
    ApplicationStores.KeepsCount e.world (e.step kind ev).world r.id := by
  rcases h.world_step_cases ev with
    hsame | ⟨m, w, rfl, hw⟩ | ⟨w, rfl, hw⟩ | ⟨id, hforget⟩ |
      ⟨m, s, id, c, opSpec, hm, hs, hpending, hpersist⟩
  · rw [hsame]
    exact ApplicationStores.KeepsCount.refl _ _
  · rw [hw]
    rcases hev.2 r.id with hkeeps | ⟨hcreate, s, hs, hid⟩
    · exact hkeeps
    · obtain ⟨s', t, hs', hacting, ht⟩ := LifecycleEngine.acting_of_action? hcreate
      rw [hs] at hs'
      cases hs'
      obtain rfl : n = m :=
        h.sole.eq_of_id_eq hr hs hid.symm hexited (by simp [hacting])
      rw [hr] at hs
      cases hs
      have htransition := (h.sound.reachable n r hr).faithful.acting t hacting
      rw [hstate] at htransition
      cases htransition
      cases ht
  · rw [hw]
    exact hev.2 r.id
  · rw [hforget]
    exact ApplicationStores.keepsCount_forget _ _ _
  · rw [hpersist]
    apply ApplicationStores.keepsCount_persistInstances_of_ne
    intro hid
    obtain ⟨reached, rest, s', -, -, hs', hreached⟩ := h.sound.reached_of_handlesStateOf hm
    rw [hs] at hs'
    cases hs'
    have haimed : id = s.id := h.sound.aimed m s _ hs hpending
    have hsignalling := hreached.2.resolve_right (h.sole.uncut m s hs)
    obtain rfl : n = m :=
      h.sole.eq_of_id_eq hr hs (hid.trans haimed) hexited (by simp [hsignalling])
    rw [hn] at hm
    cases hm

/-- The actor whose state is handled, before and after: its pending operation stays, and where
nothing is pending in the state that asks for scaling, the engine may stage a scaling to the count
of the record. -/
theorem Orderly.pending_arrival {e : ApplicationEngine} (h : Orderly e)
    {ev : ApplicationEngineEvent} {n : Nat} (hn : ev.handlesStateOf e n = true)
    {r' : ApplicationResident} (hr' : (e.step kind ev).resident? n = some r')
    (hstate : r'.actor.machine.current.state = .scalingRequested) :
    ∃ r, e.resident? n = some r ∧ r'.id = r.id ∧
      (e.step kind ev).world =
        (react e.settings e.world r.id .scalingRequested r.actor.machine.slot.pending).1 ∧
      (r'.actor.machine.slot.pending = r.actor.machine.slot.pending ∨
        r.actor.machine.slot.pending = none ∧
          r'.actor.machine.slot.pending = some (.scale r.id
            (((e.world.record? r.id).map (·.instances)).getD 0) e.settings.defaultOpSpec)) := by
  obtain ⟨reached, rest, r, rfl, hchanges, hr, hcurrent, -⟩ := h.sound.reached_of_handlesStateOf hn
  obtain ⟨s, hs, hid, hmachine⟩ := LifecycleEngine.resident?_handleChange h.sound hchanges hr
  rw [LifecycleEngine.step, hs] at hr'
  cases hr'
  have hsame : r'.actor.machine.current = r.actor.machine.current := by
    rcases hmachine with hsame | ⟨world, op, -, hoffered⟩
    · rw [hsame]
    · rw [hoffered]
      exact Actor.current_step kind.blueprint r.actor (e := .notify _) (by simp)
  have hreached : reached.state = .scalingRequested := by
    rw [← hstate, hsame, hcurrent]
  refine ⟨r, hr, hid, ?_, ?_⟩
  · rw [LifecycleEngine.step, LifecycleEngine.world_handleChange kind hchanges hr,
      LifecycleEngine.world_react, hreached]
    rfl
  · rcases hmachine with hsame | ⟨world, op, hreact, hoffered⟩
    · left
      rw [hsame]
    · cases hpending : r.actor.machine.slot.pending with
      | some u =>
          left
          rw [hoffered, Actor.notify_of_pending hpending, hpending]
      | none =>
          right
          rw [hreached, hpending] at hreact
          cases hreact
          rw [hoffered, Actor.notify_of_free hpending]
          exact ⟨rfl, rfl⟩

/-- Once the state that asks for scaling has been handled, a scaling that is pending has the count
of the record: either it was pending before, and its target was written, or the engine took it from
the record. -/
theorem Orderly.instances_of_arrival {e : ApplicationEngine} (h : Orderly e)
    {ev : ApplicationEngineEvent} {n : Nat} (hn : ev.handlesStateOf e n = true)
    {r' : ApplicationResident} (hr' : (e.step kind ev).resident? n = some r')
    (hstate : r'.actor.machine.current.state = .scalingRequested) {rec : ApplicationRecord}
    (hrec : (e.step kind ev).world.record? r'.id = some rec) {id : DeployableId} {c : UInt64}
    {opSpec : ClusterOpSpec}
    (hpending : r'.actor.machine.slot.pending = some (.scale id c opSpec)) : c = rec.instances := by
  obtain ⟨r, hr, hid, hworld, hkept | ⟨hfree, hstaged⟩⟩ := h.pending_arrival hn hr' hstate
  · rw [hkept] at hpending
    rw [hworld, hid, react_fst, hpending] at hrec
    have haimed : id = r.id := h.sound.aimed n r _ hr hpending
    subst haimed
    exact (ApplicationStores.instances_persistInstances h.world_open hrec).symm
  · rw [hstaged] at hpending
    cases hpending
    rw [hworld, hid, react_fst, hfree] at hrec
    have hrecord : e.world.record? r.id = some rec := hrec
    simp [hrecord]

/-- Where nobody is dispatched, nothing is prepared. -/
theorem prepared_start (n : Nat) (settings : EngineSettings) (w : ApplicationStores) :
    Prepared n (LifecycleEngine.start settings w) none where
  kept q op h := by cases h
  persisted r rec h := by cases h

/-- The handling of a state of the actor itself. -/
theorem Prepared.arrival {n : Nat} {e : ApplicationEngine} (h : Orderly e)
    {ev : ApplicationEngineEvent} (hn : ev.handlesStateOf e n = true) :
    Prepared n (e.step kind ev) (arrival (e.step kind ev) n) where
  kept q op hq hop := by
    obtain ⟨r, -, rfl⟩ := Option.map_eq_some_iff.1 hq
    exact hop
  persisted r rec hr _ _ hstate hrec := by
    refine ⟨_, by rw [Application.arrival, hr, Option.map_some], by simp [hrec], ?_⟩
    intro id c opSpec hkept
    have hpending : r.actor.machine.slot.pending = some (.scale id c opSpec) := by
      simpa [LifecycleEngine.pending?, hr] using hkept
    exact h.instances_of_arrival hn hr hstate hrec hpending

/-- Between arrivals the count stays, and so does the operation until it is acknowledged. -/
theorem prepare_some {n : Nat} {e : ApplicationEngine} {ev : ApplicationEngineEvent}
    (hn : ev.handlesStateOf e n = false) (q : Preparation) :
    ∃ q', prepare n e (some q) ev = some q' ∧ q'.count = q.count ∧
      ∀ op, q'.kept = some op → q.kept = some op ∧ (e.step kind ev).pending? n ≠ none := by
  cases hfree : (e.step kind ev).pending? n with
  | none => exact ⟨{ q with kept := none }, by simp [prepare, hn, hfree], rfl, by simp⟩
  | some op' => exact ⟨q, by simp [prepare, hn, hfree], rfl, by simp⟩

/-- An event in which no state of the actor is handled. -/
theorem Prepared.lapse {n : Nat} {e : ApplicationEngine} {p : Option Preparation}
    (hp : Prepared n e p) (h : Orderly e) {ev : ApplicationEngineEvent} (hev : Admits e ev)
    (hn : ev.handlesStateOf e n = false) :
    Prepared n (e.step kind ev) (prepare n e p ev) := by
  have hfollows := LifecycleEngine.follows_step h.sound hev.isRemoval hn
  constructor
  · intro q' op hq' hop
    cases p with
    | none => simp [prepare, hn] at hq'
    | some q =>
        obtain ⟨q'', hprepare, -, hkept⟩ := prepare_some hn q
        rw [hprepare] at hq'
        cases hq'
        obtain ⟨hop, hpending⟩ := hkept op hop
        exact (hfollows.pending?_eq (hp.kept q op rfl hop)).resolve_right hpending
  · intro r' rec' hr' hexited hsettled hstate hrec'
    obtain ⟨r, hr, hid, hevolves⟩ | ⟨-, hinitial⟩ := hfollows r' hr'
    · obtain ⟨hsettled, hcurrent⟩ := hevolves.settled hsettled
      have hexited : r.actor.phase ≠ .exited := fun hphase => hexited (hevolves.exited hphase)
      rw [hcurrent] at hstate
      rw [hid] at hrec'
      obtain ⟨rec, hrec, hcount⟩ := h.keepsCount_step hev hn hr hexited hstate rec' hrec'
      obtain ⟨q, rfl, hq, htarget⟩ := hp.persisted r rec hr hexited hsettled hstate hrec
      obtain ⟨q', hprepare, hq', hkept⟩ := prepare_some hn q
      rw [← hcount]
      refine ⟨q', hprepare, hq'.trans hq, fun id c opSpec hop => ?_⟩
      exact htarget id c opSpec (hkept _ hop).1
    · -- An actor that was just founded is not there yet.
      rw [hinitial] at hstate
      cases hstate

/-- Every event that is permitted. -/
theorem Prepared.step {n : Nat} {e : ApplicationEngine} {p : Option Preparation}
    (hp : Prepared n e p) (h : Orderly e) {ev : ApplicationEngineEvent} (hev : Admits e ev) :
    Prepared n (e.step kind ev) (prepare n e p ev) := by
  cases hn : ev.handlesStateOf e n with
  | false => exact hp.lapse h hev hn
  | true =>
      have hprepare : prepare n e p ev = Application.arrival (e.step kind ev) n := by
        simp [prepare, hn]
      rw [hprepare]
      exact Prepared.arrival h hn

/-- Every run that is permitted. -/
theorem Prepared.run {n : Nat} {e : ApplicationEngine} {p : Option Preparation}
    (hp : Prepared n e p) (h : Orderly e) {events : List ApplicationEngineEvent}
    (hevents : Permitted e events) :
    Orderly (e.run kind events) ∧ Prepared n (e.run kind events) (preparation n e p events) := by
  induction events generalizing e p with
  | nil => exact ⟨h, hp⟩
  | cons ev rest ih => exact ih (hp.step h hevents.1) (h.step hevents.1) hevents.2

/-! ## Dispatch -/

/-- Only the state that asks for scaling scales. -/
theorem scalingRequested_of_transition? {s : ApplicationState}
    {t : Transition ApplicationState ApplicationAction} (h : kind.blueprint.transition? s = some t)
    (ht : t.action = .scale) : s = .scalingRequested := by
  cases s <;> first | rfl | (cases h <;> cases ht)

/-- An actor that is about to dispatch a scaling is in the state that asks for it, and its loop is
not held up. -/
theorem ready_of_begin {e : ApplicationEngine} (h : LifecycleEngine.Sound kind e) {n : Nat}
    {r : ApplicationResident} (hr : e.resident? n = some r) (hidle : e.action? n = none)
    (hscale : (e.step kind (.begin n)).action? n = some .scale) :
    r.actor.phase = .ready ∧ r.actor.machine.current.state = .scalingRequested := by
  obtain ⟨r', t, hr', hacting, ht⟩ := LifecycleEngine.acting_of_action? hscale
  obtain ⟨r₀, hr₀, rfl⟩ := LifecycleEngine.exists_of_resident?_update hr'
  rw [hr] at hr₀
  cases hr₀
  simp only [if_true] at hacting
  have hready : r.actor.phase = .ready := by
    cases hphase : r.actor.phase with
    | ready => rfl
    | acting t' => simp [LifecycleEngine.action?, hr, hphase] at hidle
    | _ => simp [Actor.begin, hphase] at hacting
  have htransition := ((h.reachable n r hr).step .begin).faithful.acting t hacting
  rw [Actor.current_step kind.blueprint r.actor (by simp)] at htransition
  exact ⟨hready, scalingRequested_of_transition? htransition ht⟩

/-- Take any run in which nobody is removed, the records take writes, and nobody writes a desired
count except an action that creates its application.  Whenever an actor dispatches a scaling of an
application that has a record, the record holds the count of the arrival.  The pending operation is
a scaling to that count if and only if it is a scaling that is pending since the arrival, or what
was pending then was acknowledged and a later scaling asks for the same count. -/
theorem scale_prepared_iff (settings : EngineSettings) {w : ApplicationStores} (hw : w.Open)
    {events : List ApplicationEngineEvent}
    (hevents : Permitted (LifecycleEngine.start settings w) events) {e : ApplicationEngine}
    (he : e = (LifecycleEngine.start settings w).run kind events) {n : Nat}
    {r : ApplicationResident} (hr : e.resident? n = some r) (hidle : e.action? n = none)
    (hscale : (e.step kind (.begin n)).action? n = some .scale) {rec : ApplicationRecord}
    (hrec : e.world.record? r.id = some rec) :
    ∃ q, preparation n (LifecycleEngine.start settings w) none events = some q ∧
      q.count = some rec.instances ∧
      ((∃ opSpec, e.pending? n = some (.scale r.id rec.instances opSpec)) ↔
        (∃ c opSpec, q.kept = some (.scale r.id c opSpec)) ∨
        (q.kept = none ∧
          ∃ c opSpec, e.pending? n = some (.scale r.id c opSpec) ∧ q.count = some c)) := by
  obtain ⟨horderly, hprepared⟩ :=
    (prepared_start n settings w).run (orderly_start settings hw) hevents
  rw [← he] at horderly hprepared
  obtain ⟨hready, hstate⟩ := ready_of_begin horderly.sound hr hidle hscale
  obtain ⟨q, hq, hcount, htarget⟩ := hprepared.persisted r rec hr (by simp [hready])
    (by simp [Actor.Settled, hready]) hstate hrec
  refine ⟨q, hq, hcount, ?_, ?_⟩
  · rintro ⟨opSpec, hpending⟩
    cases hkept : q.kept with
    | none => exact Or.inr ⟨rfl, rec.instances, opSpec, hpending, hcount⟩
    | some op =>
        left
        rw [hprepared.kept q op hq hkept] at hpending
        cases hpending
        exact ⟨rec.instances, opSpec, rfl⟩
  · rintro (⟨c, opSpec, hkept⟩ | ⟨-, c, opSpec, hpending, hc⟩)
    · obtain rfl := htarget r.id c opSpec hkept
      exact ⟨opSpec, hprepared.kept q _ hq hkept⟩
    · rw [hcount] at hc
      cases hc
      exact ⟨opSpec, hpending⟩

/-- An application with one healthy instance is to scale to zero.  The target is written, and the
scaling acknowledges its operation but then fails.  By then a scaling to one instance was accepted:
it is dispatched in the same state, and the record still holds zero. -/
theorem scale_dispatched_unprepared :
    let shop : ApplicationSpec :=
      { name := "SHOP", version := "1", executable := { image := "shop" }
        resources := ResourceRequirement.ofCoresAndMemory 1 512 }
    let stored : ApplicationRecord := .ofSpec .epoch shop 1
    let healthy : InstanceRecord :=
      { owner := shop.id, ownerName := "SHOP", instanceId := ⟨"shop-1"⟩, executorId := ⟨"host-1"⟩
        hostname := "host", state := .healthy, created := .epoch, updated := .epoch }
    let w : ApplicationStores :=
      { now := .epoch, records := { root := SortedMap.insert ∅ shop.id stored }
        instances := { root := (∅ : Instances).put shop.id healthy.instanceId healthy } }
    let events : List ApplicationEngineEvent :=
      [.handle (.create shop 1 {}), .begin 0, .acknowledge 0,
        .finish 0 (.ok (some ⟨.running, stored, none⟩)), .handleChange,
        .handle (.scale shop.id 0 {}), .begin 0, .route 0, .handleChange,
        .begin 0, .acknowledge 0, .handle (.scale shop.id 1 {}),
        .finish 0 (.error (.failed "timeout")), .elapsed 0]
    let e : ApplicationEngine := (LifecycleEngine.start {} w).run kind events
    (e.step kind (.begin 0)).action? 0 = some .scale ∧
      (e.world.record? shop.id).map (·.instances) = some 0 ∧
      e.pending? 0 = some (.scale shop.id 1 {}) ∧
      ∃ q, preparation 0 (LifecycleEngine.start {} w) none events = some q ∧ q.count = some 0 ∧
        ∀ c opSpec, q.kept ≠ some (.scale shop.id c opSpec) := by
  intro shop stored healthy w events e
  have hevents : Permitted (LifecycleEngine.start {} w) events :=
    ⟨rfl, rfl, rfl, rfl, rfl, rfl, rfl, rfl, rfl, rfl, rfl, rfl, rfl, rfl, trivial⟩
  have hrun : (e.step kind (.begin 0)).action? 0 = some .scale ∧ e.action? 0 = none ∧
      (e.resident? 0).map (·.id) = some shop.id ∧
      (e.world.record? shop.id).map (·.instances) = some 0 := by
    simp only [e, events, w, stored, healthy, shop]
    decide +kernel
  have hpending : e.pending? 0 = some (.scale shop.id 1 {}) := by
    simp only [e, events, w, stored, healthy, shop]
    rfl
  obtain ⟨hscale, hidle, hresident, hrecord⟩ := hrun
  obtain ⟨r, hr, hid⟩ := Option.map_eq_some_iff.1 hresident
  obtain ⟨rec, hrec, hzero⟩ := Option.map_eq_some_iff.1 hrecord
  obtain ⟨q, hq, hcount, hiff⟩ :=
    scale_prepared_iff {} (w := w) rfl hevents rfl hr hidle hscale (by rw [hid, hrec])
  refine ⟨hscale, hrecord, hpending, q, hq, by rw [hcount, hzero], ?_⟩
  intro c opSpec hkept
  obtain ⟨opSpec', htarget⟩ := hiff.2 (Or.inl ⟨c, opSpec, by rw [hid, hkept]⟩)
  rw [hpending, hzero] at htarget
  simp at htarget

end Application
end Orchestration
