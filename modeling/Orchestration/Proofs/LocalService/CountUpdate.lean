import Orchestration.Proofs.Lifecycle.Destruction

/-!
# Updates of the instance count

The number of instances on every executor is written into the record of a local service when its
actor reaches the state that updates it, and that state is where the update is carried out.  The
write is not repeated when an attempt fails.  It does not have to be, because no operation is
admitted in that state, and because nobody else writes the number, unless the service has a second
actor: a client may end a registration, the actor goes on, and another one is founded.

So the closed gate is one thing: it holds in every run, and leaves the actor alone even where its
registration has ended and a creation of the service is admitted.  The record is another one: it
follows the update, from the first attempt to the last, as long as one actor of the service at most
is at work.

Main results:

- `LocalService.handle_of_updating`, `LocalService.resident?_handle_iff`: no operation is
  staged for an actor that updates the instance count.
- `LocalService.Persisted.step`: what every event keeps, as long as one actor of the service at most
  is at work and the surroundings leave the number alone.
- `LocalService.keepsCount_run`: while an actor stays in that state, so does the number.
- `LocalService.count_update_meets_record`: whenever the update is carried out, the record holds the
  number that it is for.
-/

namespace Orchestration

namespace LocalServiceStores

/-- The records take writes. -/
def Open (w : LocalServiceStores) : Prop :=
  w.records.accepting = true

/-- The number of instances on every executor is left alone: if a local service has a record
afterwards, it had one before, with the same number. -/
def KeepsCount (w w' : LocalServiceStores) (id : DeployableId) : Prop :=
  ∀ rec', w'.record? id = some rec' →
    ∃ rec, w.record? id = some rec ∧ rec.instancesPerHost = rec'.instancesPerHost

/-- Whoever does nothing leaves the number alone. -/
theorem KeepsCount.refl (w : LocalServiceStores) (id : DeployableId) : KeepsCount w w id :=
  fun rec' h => ⟨rec', h, rfl⟩

/-- What is left alone twice is left alone. -/
theorem KeepsCount.trans {w w' w'' : LocalServiceStores} {id : DeployableId}
    (h : KeepsCount w w' id) (h' : KeepsCount w' w'' id) : KeepsCount w w'' id := by
  intro rec'' hrec''
  obtain ⟨rec', hrec', hcount'⟩ := h' rec'' hrec''
  obtain ⟨rec, hrec, hcount⟩ := h rec' hrec'
  exact ⟨rec, hrec, hcount.trans hcount'⟩

/-- The records go on taking writes when a number is written. -/
@[simp]
theorem accepting_persistInstancesPerHost (w : LocalServiceStores) (id : DeployableId)
    (n : UInt32) : (w.persistInstancesPerHost id n).records.accepting = w.records.accepting := by
  unfold persistInstancesPerHost
  split <;> simp [writeRecord]

/-- So they do when a record is deleted. -/
@[simp]
theorem accepting_forget (w : LocalServiceStores) (id : DeployableId) :
    (w.forget id).records.accepting = w.records.accepting := by
  simp [forget, deleteRecord, deleteInstances]

/-- The number is written, if there is a record to write it into. -/
theorem instancesPerHost_persist {w : LocalServiceStores} (h : w.Open) {id : DeployableId}
    {n : UInt32} {rec : LocalServiceRecord}
    (hrec : (w.persistInstancesPerHost id n).record? id = some rec) : rec.instancesPerHost = n := by
  unfold Open at h
  unfold persistInstancesPerHost at hrec
  split at hrec
  · simp only [writeRecord, record?, Gated.root_write, h, if_true,
      SortedMap.find?_insert_self] at hrec
    cases hrec
    rfl
  · rename_i hnone
    rw [hnone] at hrec
    cases hrec

/-- The number of one local service is not the number of another. -/
theorem keepsCount_persist_of_ne (w : LocalServiceStores) {id id' : DeployableId} (h : id' ≠ id)
    (n : UInt32) : KeepsCount w (w.persistInstancesPerHost id n) id' := by
  intro rec' hrec'
  refine ⟨rec', ?_, rfl⟩
  rw [← hrec']
  unfold persistInstancesPerHost
  split
  · simp only [writeRecord, record?, Gated.root_write]
    split
    · exact (SortedMap.find?_insert_of_ne _ _ h).symm
    · rfl
  · rfl

/-- Records that are deleted are not changed. -/
theorem keepsCount_forget (w : LocalServiceStores) (id id' : DeployableId) :
    KeepsCount w (w.forget id) id' := by
  intro rec' hrec'
  refine ⟨rec', ?_, rfl⟩
  by_cases hid : id' = id
  · subst hid
    simp only [forget, deleteRecord, deleteInstances, record?, Gated.root_write] at hrec' ⊢
    split at hrec'
    · simp at hrec'
    · exact hrec'
  · rw [← hrec']
    exact (congrArg Prod.fst (w.recordsOf_forget_of_ne hid)).symm

end LocalServiceStores

/-- What happens to an engine of local services. -/
abbrev LocalServiceEngineEvent : Type :=
  EngineEvent LocalServiceState LocalServiceOperation LocalServiceRecord LocalServiceStores

/-- An actor of an engine of local services. -/
abbrev LocalServiceResident : Type :=
  Resident LocalServiceState LocalServiceOperation LocalServiceRecord LocalServiceAction

namespace LocalService

/-! ## The closed gate -/

/-- No operation is admitted for a local service whose instance count is being updated. -/
theorem review_of_updating (settings : AdmissionSettings)
    {stateOf : DeployableId → Option LocalServiceState} (w : LocalServiceStores)
    {op : LocalServiceOperation} (hstate : stateOf op.serviceId = some .updatingInstancesCount) :
    (review settings stateOf w op).isSuccess = false := by
  unfold review
  dsimp only
  split
  · rfl
  · cases hrefusal : Admission.byState op.serviceId "local service"
        (Named.name LocalServiceState.updatingInstancesCount) op.opType
        (allowed .updatingInstancesCount) with
    | none => exact absurd (Admission.byState_eq_none_iff.1 hrefusal) (by simp [allowed])
    | some refusal =>
        have hrefused : refusal.isSuccess = false := Admission.isSuccess_of_byState hrefusal
        cases op with
        | create spec n opSpec =>
            simp [LocalServiceOperation.opType, reviewInState, hstate]
        | _ =>
            simp only [LocalServiceOperation.opType] at hrefusal ⊢
            rw [hstate]
            simp only [hrefusal]
            exact hrefused

/-- Every operation for it is refused, and nothing changes. -/
theorem handle_of_updating {e : LocalServiceEngine} {n : Nat} {r : LocalServiceResident}
    (hr : e.resident? n = some r)
    (hstate : r.actor.machine.current.state = .updatingInstancesCount)
    {op : LocalServiceOperation} (hregistered : e.registered? op.serviceId = some n) :
    (e.handle kind op).1 = e ∧ (e.handle kind op).2.isSuccess = false := by
  have hrefusal : (kind.review e.settings e.stateOf e.world op).isSuccess = false := by
    apply review_of_updating
    rw [LifecycleEngine.stateOf, hregistered, Option.bind_some, hr, Option.map_some, hstate]
  rw [LifecycleEngine.handle_of_review rfl hrefusal]
  exact ⟨rfl, hrefusal⟩

/-- Whatever is submitted, an actor that updates the instance count is as it was. -/
theorem resident?_handle_iff {e : LocalServiceEngine} (he : LifecycleEngine.Sound kind e)
    (op : LocalServiceOperation) (n : Nat) {r : LocalServiceResident}
    (hstate : r.actor.machine.current.state = .updatingInstancesCount) :
    (e.handle kind op).1.resident? n = some r ↔ e.resident? n = some r := by
  rcases e.handle_cases kind op with heq | ⟨m, hregistered, heq⟩ | ⟨f, -, heq⟩
  · rw [heq]
  · by_cases hm : n = m
    · subst hm
      -- The gate is closed, so that nothing is staged after all.
      have hclosed : ∀ s, e.resident? n = some s →
          s.actor.machine.current.state = .updatingInstancesCount → (e.handle kind op).1 = e :=
        fun s hs hsame => (handle_of_updating hs hsame hregistered).1
      refine ⟨fun hr => ?_, fun hr => by rw [hclosed r hr hstate, hr]⟩
      have hr' := hr
      rw [heq] at hr'
      obtain ⟨s, hs, rfl⟩ := LifecycleEngine.exists_of_resident?_update hr'
      have hcurrent : (s.actor.notify (kind.canonical e.settings e.world op)).1.machine.current =
          s.actor.machine.current :=
        Actor.current_step kind.blueprint s.actor (e := .notify _) (by simp)
      rw [hclosed s hs (by simpa [hcurrent] using hstate)] at hr
      exact hr
    · rw [heq, LifecycleEngine.stage, LifecycleEngine.resident?_update_of_ne _ _ _ hm]
  · rw [heq, LifecycleEngine.resident?_found]
    split
    · rename_i hnext
      refine ⟨fun hr => ?_, fun hr => absurd (he.fresh n r hr) (by omega)⟩
      cases hr
      cases hstate
    · rfl

/-- A local service engine submits no operations to itself. -/
theorem react_snd (w : LocalServiceStores) (id : DeployableId) (state : LocalServiceState)
    (pending : Option LocalServiceOperation) : (react w id state pending).2 = none := by
  unfold react
  split <;> rfl

/-- The handling of a state leaves the machine of its actor alone. -/
theorem machine_handleChange {e : LocalServiceEngine} (he : LifecycleEngine.Sound kind e) {n : Nat}
    {reached : Snapshot LocalServiceState LocalServiceRecord}
    {rest : List (Nat × Snapshot LocalServiceState LocalServiceRecord)}
    {r r' : LocalServiceResident} (hchanges : e.changes = (n, reached) :: rest)
    (hr : e.resident? n = some r) (hr' : (e.handleChange kind).resident? n = some r') :
    r'.id = r.id ∧ r'.actor.machine = r.actor.machine := by
  obtain ⟨s, hs, hid, hmachine⟩ := LifecycleEngine.resident?_handleChange he hchanges hr
  rw [hs] at hr'
  cases hr'
  refine ⟨hid, hmachine.resolve_right ?_⟩
  rintro ⟨world, op, hreact, -⟩
  have hquiet : (react e.world r.id reached.state r.actor.machine.slot.pending).2 = some op :=
    congrArg Prod.snd hreact
  rw [react_snd] at hquiet
  cases hquiet

/-- While an actor updates the instance count, nothing is staged for it. -/
theorem pending_step_of_updating {e : LocalServiceEngine} (he : LifecycleEngine.Sound kind e)
    (ev : LocalServiceEngineEvent) {n : Nat} {r r' : LocalServiceResident}
    (hr : e.resident? n = some r)
    (hstate : r.actor.machine.current.state = .updatingInstancesCount)
    (hr' : (e.step kind ev).resident? n = some r') {op : LocalServiceOperation}
    (hop : r'.actor.machine.slot.pending = some op) : r.actor.machine.slot.pending = some op := by
  by_cases hhandle : ∃ op', ev = .handle op'
  · obtain ⟨op', rfl⟩ := hhandle
    have hsame : (e.handle kind op').1.resident? n = some r :=
      (resident?_handle_iff he op' n hstate).2 hr
    rw [LifecycleEngine.step, hsame] at hr'
    cases hr'
    exact hop
  cases hn : ev.handlesStateOf e n with
  | true =>
      obtain ⟨reached, rest, s, rfl, hchanges, -, -⟩ := he.reached_of_handlesStateOf hn
      rwa [(machine_handleChange he hchanges hr hr').2] at hop
  | false =>
      obtain ⟨s, hs, -, hcontinues⟩ := LifecycleEngine.keeps_step he (fun _ => react_snd)
        (fun op hop => hhandle ⟨op, hop⟩) hn r' hr'
      rw [hr] at hs
      cases hs
      exact hcontinues.pending op hop

/-! ## The surroundings -/

/-- What the surroundings of an engine have to keep to: the records take writes, and nobody writes
the number of instances of a service except an action that creates it. -/
def Admits (id : DeployableId) (e : LocalServiceEngine) : LocalServiceEngineEvent → Prop
  | .work n w =>
    w.Open ∧ (LocalServiceStores.KeepsCount e.world w id ∨
      (e.action? n = some .create ∧ ∃ r, e.resident? n = some r ∧ r.id = id))
  | .outside w => w.Open ∧ LocalServiceStores.KeepsCount e.world w id
  | _ => True

/-- The surroundings keep to it in a whole run. -/
def Permitted (id : DeployableId) : LocalServiceEngine → List LocalServiceEngineEvent → Prop
  | _, [] => True
  | e, ev :: rest => Admits id e ev ∧ Permitted id (e.step kind ev) rest

/-- What is permitted as a whole is permitted in both of its parts. -/
theorem Permitted.of_append {id : DeployableId} {e : LocalServiceEngine}
    {before after : List LocalServiceEngineEvent} (h : Permitted id e (before ++ after)) :
    Permitted id e before ∧ Permitted id (e.run kind before) after := by
  induction before generalizing e with
  | nil => exact ⟨trivial, h⟩
  | cons ev rest ih =>
      obtain ⟨hbefore, hafter⟩ := ih h.2
      exact ⟨⟨h.1, hbefore⟩, hafter⟩

/-! ## Actors that update the count -/

/-- The actor of a number, one of the local service `id`, is in the state that updates the instance
count, and its loop goes on there: the update is in flight, or the next attempt is to come. -/
def Updates (id : DeployableId) (n : Nat) (e : LocalServiceEngine) : Prop :=
  ∃ r, e.resident? n = some r ∧ r.id = id ∧ r.actor.Going ∧
    r.actor.machine.current.state = .updatingInstancesCount

/-- Only the state that updates the instance count carries out the update. -/
theorem updating_of_transition? {s : LocalServiceState}
    {t : Transition LocalServiceState LocalServiceAction}
    (h : kind.blueprint.transition? s = some t) (ht : t.action = .updateInstanceCount) :
    s = .updatingInstancesCount := by
  cases s <;> first | rfl | (cases h <;> cases ht)

/-- An actor that has the update in flight is in that state, and its loop goes on. -/
theorem updates_of_action? {e : LocalServiceEngine} (he : LifecycleEngine.Sound kind e) {n : Nat}
    {r : LocalServiceResident} (hr : e.resident? n = some r)
    (haction : e.action? n = some .updateInstanceCount) : Updates r.id n e := by
  obtain ⟨r', t, hr', hacting, ht⟩ := LifecycleEngine.acting_of_action? haction
  rw [hr] at hr'
  cases hr'
  have hgoing : r.actor.Going :=
    ⟨by simp [hacting, Phase.isFinished], by simp [Actor.Settled, hacting]⟩
  have htransition := (he.reachable n r hr).faithful.acting t hacting
  exact ⟨r, hr, rfl, hgoing, updating_of_transition? htransition ht⟩

/-- No state of an actor is handled while its loop goes on. -/
theorem Updates.handlesStateOf_eq {id : DeployableId} {n : Nat} {e : LocalServiceEngine}
    (h : Updates id n e) (he : LifecycleEngine.Sound kind e) (ev : LocalServiceEngineEvent) :
    ev.handlesStateOf e n = false := by
  obtain ⟨r, hr, -, ⟨hlive, hsettled⟩, -⟩ := h
  cases hn : ev.handlesStateOf e n with
  | false => rfl
  | true =>
      obtain ⟨reached, rest, s, -, -, hs, -, hphase⟩ := he.reached_of_handlesStateOf hn
      rw [hr] at hs
      cases hs
      rcases hphase with hsignalling | haborted
      · exact absurd hsignalling (hsettled reached)
      · simp [haborted, Phase.isFinished] at hlive

/-! ## What the engine writes -/

/-- A reached state is followed by the write of a number of instances, by the deletion of a service
that is gone, or by no write. -/
theorem world_react_cases (e : LocalServiceEngine) (id : DeployableId) (state : LocalServiceState)
    (pending : Option LocalServiceOperation) :
    (e.react kind id state pending).world = e.world ∨
    (e.react kind id state pending).world = e.world.forget id ∨
    ∃ n, (e.react kind id state pending).world = e.world.persistInstancesPerHost id n := by
  rw [LifecycleEngine.world_react]
  split
  · split
    · exact Or.inr (Or.inl rfl)
    · exact Or.inl rfl
  · have hreact : (kind.react e.settings e.world id state pending).1 =
        persisted e.world id state pending := react_fst e.world id state pending
    rw [hreact]
    unfold persisted
    split
    · exact Or.inr (Or.inr ⟨_, rfl⟩)
    · exact Or.inl rfl

section Step

variable {id : DeployableId} {e : LocalServiceEngine} {ev : LocalServiceEngineEvent}

/-- The records go on taking writes. -/
theorem open_step (he : LifecycleEngine.Sound kind e) (hopen : e.world.Open)
    (hev : Admits id e ev) : (e.step kind ev).world.Open := by
  rcases he.world_step_cases ev with
    hsame | ⟨n, w, rfl, hw⟩ | ⟨w, rfl, hw⟩ | ⟨n, r, state, -, -, hreact⟩
  · rw [hsame]
    exact hopen
  · rw [hw]
    exact hev.1
  · rw [hw]
    exact hev.1
  · rw [hreact]
    rcases world_react_cases e r.id state r.actor.machine.slot.pending with h | h | ⟨c, h⟩
    · rw [h]
      exact hopen
    · rw [h, LocalServiceStores.Open, LocalServiceStores.accepting_forget]
      exact hopen
    · rw [h, LocalServiceStores.Open, LocalServiceStores.accepting_persistInstancesPerHost]
      exact hopen

/-- While an actor of a service updates the instance count, and is the only one at work, nobody else
writes the number of instances. -/
theorem keepsCount_step (he : LifecycleEngine.Sound kind e) (halone : LifecycleEngine.Alone id e)
    (hev : Admits id e ev) {n : Nat} (hn : Updates id n e) :
    LocalServiceStores.KeepsCount e.world (e.step kind ev).world id := by
  have hunhandled : ev.handlesStateOf e n = false := hn.handlesStateOf_eq he ev
  obtain ⟨r, hr, hid, hgoing, hstate⟩ := hn
  have hwork : e.AtWork n := Or.inl ⟨r, hr, hgoing.1⟩
  rcases he.world_step_cases ev with
    hsame | ⟨m, w, rfl, hw⟩ | ⟨w, rfl, hw⟩ | ⟨m, s, state, hm, hs, hreact⟩
  · rw [hsame]
    exact .refl _ _
  · rw [hw]
    rcases hev.2 with hkeeps | ⟨hcreate, s, hs, hsid⟩
    · exact hkeeps
    · -- The action that creates the service would be the actor's own, in another state.
      obtain ⟨s', t, hs', hacting, ht⟩ := LifecycleEngine.acting_of_action? hcreate
      rw [hs] at hs'
      cases hs'
      have hlive : s.actor.phase.isFinished = false := by simp [hacting, Phase.isFinished]
      obtain rfl : n = m := halone n m r s hr hid hs hsid hwork (Or.inl ⟨s, hs, hlive⟩)
      rw [hr] at hs
      cases hs
      have htransition := (he.reachable n r hr).faithful.acting t hacting
      rw [hstate] at htransition
      cases htransition
      cases ht
  · rw [hw]
    exact hev.2
  · rw [hreact]
    rcases world_react_cases e s.id state s.actor.machine.slot.pending with h | h | ⟨c, h⟩
    · rw [h]
      exact .refl _ _
    · rw [h]
      exact LocalServiceStores.keepsCount_forget _ _ _
    · rw [h]
      apply LocalServiceStores.keepsCount_persist_of_ne
      rintro rfl
      obtain ⟨reached, rest, -, -, hchanges, -, -⟩ := he.reached_of_handlesStateOf hm
      have hwaits : e.AtWork m := Or.inr ⟨reached, by simp [hchanges]⟩
      obtain rfl : n = m := halone n m r s hr hid hs rfl hwork hwaits
      rw [hunhandled] at hm
      cases hm

/-! ## The number of the pending update -/

/-- In the state that updates the instance count, once that has been handled, the record of a
service holds the number of a pending update. -/
def Persisted (id : DeployableId) (e : LocalServiceEngine) : Prop :=
  ∀ n r target c opSpec rec, e.resident? n = some r → r.id = id → r.actor.Going →
    r.actor.machine.current.state = .updatingInstancesCount →
    r.actor.machine.slot.pending = some (.updateInstanceCount target c opSpec) →
    e.world.record? id = some rec → rec.instancesPerHost = c

/-- Where nobody is at work, there is nothing to hold. -/
theorem persisted_start (id : DeployableId) (settings : EngineSettings) (w : LocalServiceStores) :
    Persisted id (LifecycleEngine.start settings w) := by
  intro n r target c opSpec rec hr
  cases hr

/-- The handling of the state itself writes the number. -/
theorem instancesPerHost_of_arrival (he : LifecycleEngine.Sound kind e) (hopen : e.world.Open)
    {n : Nat} (hn : ev.handlesStateOf e n = true) {r' : LocalServiceResident}
    (hr' : (e.step kind ev).resident? n = some r')
    (hstate : r'.actor.machine.current.state = .updatingInstancesCount) {target : DeployableId}
    {c : UInt32} {opSpec : ClusterOpSpec}
    (hpending : r'.actor.machine.slot.pending = some (.updateInstanceCount target c opSpec))
    {rec : LocalServiceRecord} (hrec : (e.step kind ev).world.record? r'.id = some rec) :
    rec.instancesPerHost = c := by
  obtain ⟨reached, rest, r, rfl, hchanges, hr, hcurrent, -⟩ := he.reached_of_handlesStateOf hn
  obtain ⟨hid, hmachine⟩ := machine_handleChange he hchanges hr hr'
  rw [hmachine, hcurrent] at hstate
  rw [hmachine] at hpending
  rw [LifecycleEngine.step, LifecycleEngine.world_handleChange kind hchanges hr,
    LifecycleEngine.world_react, hid, hpending, hstate] at hrec
  exact LocalServiceStores.instancesPerHost_persist hopen hrec

/-- Every event that is permitted. -/
theorem Persisted.step (h : Persisted id e) (he : LifecycleEngine.Sound kind e)
    (hopen : e.world.Open) (halone : LifecycleEngine.Alone id e) (hev : Admits id e ev) :
    Persisted id (e.step kind ev) := by
  intro n r' target c opSpec rec' hr' hid hgoing' hstate hpending hrec'
  by_cases hhandle : ∃ op, ev = .handle op
  · obtain ⟨op, rfl⟩ := hhandle
    rw [LifecycleEngine.step, LifecycleEngine.world_handle] at hrec'
    exact h n r' target c opSpec rec' ((resident?_handle_iff he op n hstate).1 hr') hid hgoing'
      hstate hpending hrec'
  cases hn : ev.handlesStateOf e n with
  | true =>
      rw [← hid] at hrec'
      exact instancesPerHost_of_arrival he hopen hn hr' hstate hpending hrec'
  | false =>
      obtain ⟨r, hr, hsame, hcontinues⟩ := LifecycleEngine.keeps_step he (fun _ => react_snd)
        (fun op hop => hhandle ⟨op, hop⟩) hn r' hr'
      obtain ⟨hgoing, hcurrent⟩ := hcontinues.going hgoing'
      rw [hsame] at hid
      rw [hcurrent] at hstate
      have hupdates : Updates id n e := ⟨r, hr, hid, hgoing, hstate⟩
      obtain ⟨rec, hrec, hcount⟩ := keepsCount_step he halone hev hupdates rec' hrec'
      rw [← hcount]
      exact h n r target c opSpec rec hr hid hgoing hstate (hcontinues.pending _ hpending) hrec

end Step

section Run

variable {id : DeployableId} {e : LocalServiceEngine} {events : List LocalServiceEngineEvent}

/-- Every run that is permitted, and in which one actor of the service at most is at work. -/
theorem Persisted.run (h : Persisted id e) (he : LifecycleEngine.Sound kind e)
    (hopen : e.world.Open) (hevents : Permitted id e events)
    (halone : LifecycleEngine.Throughout kind (LifecycleEngine.Alone id) e events) :
    Persisted id (e.run kind events) := by
  induction events generalizing e with
  | nil => exact h
  | cons ev rest ih =>
      refine ih (h.step he hopen halone.1 hevents.1) (he.step lawful_kind ev) ?_ hevents.2 halone.2
      exact open_step he hopen hevents.1

/-- While an actor stays in the state that updates the instance count, and is the only one at work,
the number stays what it was, whether or not the update is pending any more. -/
theorem keepsCount_run (he : LifecycleEngine.Sound kind e) (hevents : Permitted id e events)
    (halone : LifecycleEngine.Throughout kind (LifecycleEngine.Alone id) e events) {n : Nat}
    (hn : LifecycleEngine.Throughout kind (Updates id n) e events) :
    LocalServiceStores.KeepsCount e.world (e.run kind events).world id := by
  induction events generalizing e with
  | nil => exact .refl _ _
  | cons ev rest ih =>
      have hfirst : LocalServiceStores.KeepsCount e.world (e.step kind ev).world id :=
        keepsCount_step he halone.1 hevents.1 hn.1
      exact hfirst.trans (ih (he.step lawful_kind ev) hevents.2 halone.2 hn.2)

end Run

/-! ## Updates and the record -/

/-- The gate is closed for an actor `n`, which is `r`, of an engine `e`. -/
structure Closed (e : LocalServiceEngine) (n : Nat) (r : LocalServiceResident) : Prop where
  /-- Nothing is staged for the actor, whatever happens. -/
  staged : ∀ ev op, (e.step kind ev).pending? n = some op → e.pending? n = some op
  /-- No operation changes the actor.  That is so, too, when its registration has ended and the
  operation creates the service anew. -/
  untouched : ∀ op, (e.handle kind op).1.resident? n = some r
  /-- An operation for the service that the actor is registered for is refused, and changes
  nothing. -/
  refused : ∀ op, e.registered? op.serviceId = some n →
    (e.handle kind op).1 = e ∧ (e.handle kind op).2.isSuccess = false

/-- An actor `n` of the local service `id` has an update to `c` instances in flight in an engine
`e`, and `later` is what happens after that. -/
structure MeetsRecord (e : LocalServiceEngine) (later : List LocalServiceEngineEvent) (n : Nat)
    (id : DeployableId) (c : UInt32) : Prop where
  /-- The record holds the number. -/
  persisted : ∀ rec, e.world.record? id = some rec → rec.instancesPerHost = c
  /-- It goes on to do so as long as the actor does not leave the state: while the action is in
  flight, whether or not it has acknowledged the update, and in every later attempt. -/
  kept : LifecycleEngine.Throughout kind (Updates id n) e later →
    ∀ rec, (e.run kind later).world.record? id = some rec → rec.instancesPerHost = c

/-- The gate is closed for every actor that updates the instance count. -/
theorem closed_of_updating {e : LocalServiceEngine} (he : LifecycleEngine.Sound kind e) {n : Nat}
    {r : LocalServiceResident} (hr : e.resident? n = some r)
    (hstate : r.actor.machine.current.state = .updatingInstancesCount) : Closed e n r where
  staged ev op hop := by
    obtain ⟨r', hr', hop⟩ := Option.bind_eq_some_iff.1 hop
    rw [LifecycleEngine.pending?, hr, Option.bind_some]
    exact pending_step_of_updating he ev hr hstate hr' hop
  untouched op := (resident?_handle_iff he op n hstate).2 hr
  refused _ hregistered := handle_of_updating hr hstate hregistered

/-- An update in flight meets its number in the record. -/
theorem Persisted.meetsRecord {id : DeployableId} {e : LocalServiceEngine} (h : Persisted id e)
    (he : LifecycleEngine.Sound kind e) {later : List LocalServiceEngineEvent}
    (hlater : Permitted id e later)
    (halone : LifecycleEngine.Throughout kind (LifecycleEngine.Alone id) e later) {n : Nat}
    {r : LocalServiceResident} (hr : e.resident? n = some r) (hid : r.id = id)
    (haction : e.action? n = some .updateInstanceCount) {target : DeployableId} {c : UInt32}
    {opSpec : ClusterOpSpec}
    (hpending : e.pending? n = some (.updateInstanceCount target c opSpec)) :
    MeetsRecord e later n id c := by
  have hpersisted : ∀ rec, e.world.record? id = some rec → rec.instancesPerHost = c := by
    obtain ⟨s, hs, -, hgoing, hstate⟩ := updates_of_action? he hr haction
    rw [hr] at hs
    cases hs
    rw [LifecycleEngine.pending?, hr, Option.bind_some] at hpending
    exact fun rec => h n r target c opSpec rec hr hid hgoing hstate hpending
  refine ⟨hpersisted, fun hstays rec' hrec' => ?_⟩
  obtain ⟨rec, hrec, hcount⟩ := keepsCount_run he hlater halone hstays rec' hrec'
  rw [← hcount]
  exact hpersisted rec hrec

/-- Take any run.  An actor that carries out an update of the instance count is in the state that
does so, and in that state the gate is closed for it: no operation is staged for it, none changes
it, and every operation for the service that it is registered for is refused without any effect.

Now take a local service of which one actor at most is at work at any time, as it is in every run in
which no client ends a registration of the service.  Let the records take writes, and nobody write
the number of instances of the service except an action that creates it.  Whenever an actor of the
service starts or has in flight an update that is pending, in whichever attempt, the record holds
the number of that update; and it holds that number until the actor leaves the state. -/
theorem count_update_meets_record (settings : EngineSettings) (w : LocalServiceStores)
    (events : List LocalServiceEngineEvent) :
    let first : LocalServiceEngine := LifecycleEngine.start settings w
    let e : LocalServiceEngine := first.run kind events
    (∀ n r, e.resident? n = some r →
      (e.action? n = some .updateInstanceCount → Updates r.id n e) ∧
      (r.actor.machine.current.state = .updatingInstancesCount → Closed e n r)) ∧
    (∀ id, LifecycleEngine.removedIn kind id first events = false →
      LifecycleEngine.Throughout kind (LifecycleEngine.Alone id) first events) ∧
    (w.Open → ∀ id, Permitted id first events →
      LifecycleEngine.Throughout kind (LifecycleEngine.Alone id) first events →
      ∀ before later, events = before ++ later →
        let e' : LocalServiceEngine := first.run kind before
        ∀ n r, e'.resident? n = some r → r.id = id →
          e'.action? n = some .updateInstanceCount →
          ∀ target c opSpec, e'.pending? n = some (.updateInstanceCount target c opSpec) →
            MeetsRecord e' later n id c) := by
  intro first e
  have hfirst : LifecycleEngine.Sound kind first := LifecycleEngine.sound_start kind settings w
  have hsound : LifecycleEngine.Sound kind e := hfirst.run lawful_kind events
  refine ⟨fun n r hr => ⟨updates_of_action? hsound hr, closed_of_updating hsound hr⟩,
    fun id hevents => ?_, fun hw id hpermitted halone => ?_⟩
  · exact LifecycleEngine.alone_throughout_of_not_removedIn lawful_kind settings w hevents
  · rintro before later rfl e' n r hr hid haction target c opSpec hpending
    obtain ⟨hbefore, hlater⟩ := hpermitted.of_append
    obtain ⟨halone, halone'⟩ := halone.of_append
    have hpersisted : Persisted id e' :=
      (persisted_start id settings w).run hfirst hw hbefore halone
    exact hpersisted.meetsRecord (hfirst.run lawful_kind before) hlater halone' hr hid haction
      hpending

/-- An update to five instances fails once and is carried out again.  The record holds five, also
after the action has acknowledged the update, and another update is refused. -/
theorem count_update_retried :
    let agent : LocalServiceSpec :=
      { name := "AGENT", version := "1", executable := { image := "agent" }
        resources := ResourceRequirement.ofCoresAndMemory 1 256 }
    let record : LocalServiceRecord := .ofSpec .epoch agent 1
    let w : LocalServiceStores := { now := .epoch }
    let written : LocalServiceStores :=
      { w with records := { root := SortedMap.insert ∅ agent.id record } }
    let events : List LocalServiceEngineEvent :=
      [.handle (.create agent 1 {}), .begin 0, .work 0 written, .acknowledge 0,
        .finish 0 (.ok (some ⟨.inactive, record, none⟩)), .handleChange,
        .handle (.updateInstanceCount agent.id 5 {}), .begin 0, .route 0, .handleChange, .begin 0,
        .finish 0 (.error (.failed "timeout")), .elapsed 0, .begin 0]
    let e : LocalServiceEngine := (LifecycleEngine.start {} w).run kind events
    let e' : LocalServiceEngine := e.step kind (.acknowledge 0)
    (e.action? 0 = some .updateInstanceCount ∧
        e.pending? 0 = some (.updateInstanceCount agent.id 5 {}) ∧
        (e.world.record? agent.id).map (·.instancesPerHost) = some 5) ∧
      (e'.action? 0 = some .updateInstanceCount ∧ e'.pending? 0 = none ∧
        (e'.world.record? agent.id).map (·.instancesPerHost) = some 5) ∧
      (e'.handle kind (.updateInstanceCount agent.id 7 {})).2.isSuccess = false := by
  intro agent record w written events e e'
  obtain ⟨hgate, halone, hmeets⟩ := count_update_meets_record {} w (events ++ [.acknowledge 0])
  let created : LocalServiceEngine :=
    ((LifecycleEngine.start {} w).step kind (.handle (.create agent 1 {}))).step kind (.begin 0)
  have hcreates : created.action? 0 = some .create ∧
      (created.resident? 0).map (·.id) = some agent.id := by
    simp only [created, w, agent]
    decide +kernel
  have hevents : Permitted agent.id (LifecycleEngine.start {} w) (events ++ [.acknowledge 0]) :=
    ⟨trivial, trivial, ⟨rfl, Or.inr ⟨hcreates.1, Option.map_eq_some_iff.1 hcreates.2⟩⟩, trivial,
      trivial, trivial, trivial, trivial, trivial, trivial, trivial, trivial, trivial, trivial,
      trivial, trivial⟩
  have hrun : e.action? 0 = some .updateInstanceCount ∧
      (e.resident? 0).map (·.id) = some agent.id ∧ (e.world.record? agent.id).isSome = true ∧
      LifecycleEngine.removedIn kind agent.id (LifecycleEngine.start {} w)
        (events ++ [.acknowledge 0]) = false := by
    simp only [e, events, written, w, record, agent]
    decide +kernel
  have hrun' : e'.action? 0 = some .updateInstanceCount ∧
      (e'.resident? 0).map (fun r => (r.id, r.actor.machine.current.state)) =
        some (agent.id, .updatingInstancesCount) ∧
      e'.registered? agent.id = some 0 ∧ (e'.world.record? agent.id).isSome = true := by
    simp only [e', e, events, written, w, record, agent]
    decide +kernel
  have hpending : e.pending? 0 = some (.updateInstanceCount agent.id 5 {}) ∧
      e'.pending? 0 = none := by
    simp only [e', e, events, written, w, record, agent]
    exact ⟨rfl, rfl⟩
  obtain ⟨haction, hresident, hrecord, hremoved⟩ := hrun
  obtain ⟨haction', hresident', hregistered, hrecord'⟩ := hrun'
  obtain ⟨r, hr, hid⟩ := Option.map_eq_some_iff.1 hresident
  obtain ⟨r', hr', hnamed⟩ := Option.map_eq_some_iff.1 hresident'
  obtain ⟨hid', hstate⟩ := Prod.mk.inj hnamed
  have hlast : (LifecycleEngine.start {} w).run kind (events ++ [.acknowledge 0]) = e' :=
    LifecycleEngine.run_append_singleton kind _ events (.acknowledge 0)
  rw [hlast] at hgate
  obtain ⟨hupdates', hclosed⟩ := hgate 0 r' hr'
  have hsound : LifecycleEngine.Sound kind e :=
    (LifecycleEngine.sound_start kind {} w).run lawful_kind events
  have hstays : LifecycleEngine.Throughout kind (Updates agent.id 0) e [.acknowledge 0] :=
    ⟨hid ▸ updates_of_action? hsound hr haction, hid' ▸ hupdates' haction'⟩
  have hmeets : MeetsRecord e [.acknowledge 0] 0 agent.id 5 :=
    hmeets rfl agent.id hevents (halone agent.id hremoved) events [.acknowledge 0] rfl 0 r hr hid
      haction agent.id 5 {} hpending.1
  clear_value e
  obtain ⟨rec, hrec⟩ := Option.isSome_iff_exists.1 hrecord
  obtain ⟨rec', hrec'⟩ := Option.isSome_iff_exists.1 hrecord'
  refine ⟨⟨haction, hpending.1, ?_⟩, ⟨haction', hpending.2, ?_⟩, ?_⟩
  · rw [hrec, Option.map_some, hmeets.persisted rec hrec]
  · rw [hrec', Option.map_some, hmeets.kept hstays rec' hrec']
  · exact ((hclosed hstate).refused (.updateInstanceCount agent.id 7 {}) hregistered).2

/-- The same update has failed when a client ends the registration of the service and creates it
again.  The new actor updates the number of instances to seven; then the old one carries out its own
update again, and the record holds seven. -/
theorem count_update_meets_other_record :
    let agent : LocalServiceSpec :=
      { name := "AGENT", version := "1", executable := { image := "agent" }
        resources := ResourceRequirement.ofCoresAndMemory 1 256 }
    let record : LocalServiceRecord := .ofSpec .epoch agent 1
    let w : LocalServiceStores := { now := .epoch }
    let written : LocalServiceStores :=
      { w with records := { root := SortedMap.insert ∅ agent.id record } }
    let inactive : ActionResult LocalServiceState LocalServiceRecord :=
      .ok (some ⟨.inactive, record, none⟩)
    let events : List LocalServiceEngineEvent :=
      [.handle (.create agent 1 {}), .begin 0, .work 0 written, .acknowledge 0, .finish 0 inactive,
        .handleChange,
        .handle (.updateInstanceCount agent.id 5 {}), .begin 0, .route 0, .handleChange, .begin 0,
        .finish 0 (.error (.failed "timeout")),
        .deregister agent.id, .handle (.create agent 5 {}), .begin 1, .acknowledge 1,
        .finish 1 inactive, .handleChange,
        .handle (.updateInstanceCount agent.id 7 {}), .begin 1, .route 1, .handleChange, .begin 1,
        .acknowledge 1, .finish 1 inactive, .handleChange, .elapsed 0]
    let e : LocalServiceEngine := (LifecycleEngine.start {} w).run kind events
    Permitted agent.id (LifecycleEngine.start {} w) events ∧
      (e.resident? 0).map (·.id) = some agent.id ∧
      (e.step kind (.begin 0)).action? 0 = some .updateInstanceCount ∧
      e.pending? 0 = some (.updateInstanceCount agent.id 5 {}) ∧
      (e.world.record? agent.id).map (·.instancesPerHost) = some 7 ∧
      ¬ ∀ target c opSpec rec, e.pending? 0 = some (.updateInstanceCount target c opSpec) →
        e.world.record? agent.id = some rec → rec.instancesPerHost = c := by
  intro agent record w written inactive events e
  let created : LocalServiceEngine :=
    ((LifecycleEngine.start {} w).step kind (.handle (.create agent 1 {}))).step kind (.begin 0)
  have hcreates : created.action? 0 = some .create ∧
      (created.resident? 0).map (·.id) = some agent.id := by
    simp only [created, w, agent]
    decide +kernel
  have hevents : Permitted agent.id (LifecycleEngine.start {} w) events :=
    ⟨trivial, trivial, ⟨rfl, Or.inr ⟨hcreates.1, Option.map_eq_some_iff.1 hcreates.2⟩⟩, trivial,
      trivial, trivial, trivial, trivial, trivial, trivial, trivial, trivial, trivial, trivial,
      trivial, trivial, trivial, trivial, trivial, trivial, trivial, trivial, trivial, trivial,
      trivial, trivial, trivial, trivial⟩
  have hrun : (e.step kind (.begin 0)).action? 0 = some .updateInstanceCount ∧
      (e.resident? 0).map (·.id) = some agent.id ∧
      (e.world.record? agent.id).map (·.instancesPerHost) = some 7 := by
    simp only [e, events, inactive, written, w, record, agent]
    decide +kernel
  have hpending : e.pending? 0 = some (.updateInstanceCount agent.id 5 {}) := by
    simp only [e, events, inactive, written, w, record, agent]
    set_option maxRecDepth 4000 in
    rfl
  obtain ⟨haction, hresident, hcount⟩ := hrun
  clear_value e
  refine ⟨hevents, hresident, haction, hpending, hcount, fun hmeets => ?_⟩
  obtain ⟨rec, hrec, hseven⟩ := Option.map_eq_some_iff.1 hcount
  have hfive := hmeets agent.id 5 {} rec hpending hrec
  rw [hseven] at hfive
  exact absurd hfive (by decide)

end LocalService
end Orchestration
