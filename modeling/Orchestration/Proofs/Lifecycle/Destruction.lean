import Orchestration.Proofs.Lifecycle.Evolution
import Orchestration.Proofs.Lifecycle.Kinds
import Orchestration.Proofs.Store.GroupCoherence

/-!
# The end of a deployable

An actor that loses its registration goes on, and by the time it reports that its deployable is gone
another actor may have been founded for the same identifier.  The engine goes by the identifier
alone: whoever holds it loses the registration, and the records under it are deleted.

So the end of a deployable spares all other actors exactly when none of them holds its identifier.
As long as no client ends a registration of the identifier, every actor of it whose loop goes on is
the registered one, and nobody else can be hit.

Main results:

- `LifecycleEngine.SoleAt.step_of_not_removes`, `LifecycleEngine.Unasked.step`: what every event
  keeps for the actors of an identifier, unless a client ends a registration of it.
- `LifecycleEngine.soleAt_of_not_removedIn`: the same for whole runs.
- `LifecycleEngine.alone_throughout_of_not_removedIn`: as long as no client ends a registration of
  the identifier, one actor of it at most is at work.
- `LifecycleEngine.endsDeployable_run`: what the end of a deployable does in any run.
- `LifecycleEngine.destruction_spares_others_iff`: that for applications and for local services.
-/

namespace Orchestration

namespace ApplicationStores

/-- The record of an application, and those of its instances. -/
def recordsOf (w : ApplicationStores) (id : DeployableId) :
    Option ApplicationRecord × SortedMap InstanceId InstanceRecord :=
  (w.record? id, w.instances.root.group id)

/-- Where deletions are accepted, the record of an application that is forgotten is gone. -/
theorem record?_forget_self {w : ApplicationStores} (h : w.records.accepting = true)
    (id : DeployableId) : (w.forget id).record? id = none := by
  simp [forget, deleteRecord, deleteInstances, record?, Gated.root_write, h]

/-- The records of one application are not those of another. -/
theorem recordsOf_forget_of_ne (w : ApplicationStores) {id id' : DeployableId} (h : id' ≠ id) :
    (w.forget id).recordsOf id' = w.recordsOf id' := by
  have hrecord : (w.forget id).record? id' = w.record? id' := by
    simp only [forget, deleteRecord, deleteInstances, record?, Gated.root_write]
    split
    · exact SortedMap.find?_erase_of_ne _ h
    · rfl
  have hgroup : (w.forget id).instances.root.group id' = w.instances.root.group id' := by
    simp only [forget, deleteRecord, deleteInstances, Gated.root_write]
    split
    · exact Groups.group_removeGroup_of_ne _ h
    · rfl
  rw [recordsOf, hrecord, hgroup, recordsOf]

end ApplicationStores

namespace LocalServiceStores

/-- The record of a local service, and those of its instances. -/
def recordsOf (w : LocalServiceStores) (id : DeployableId) :
    Option LocalServiceRecord × SortedMap InstanceId InstanceRecord :=
  (w.record? id, w.instances.root.group id)

/-- The records of one local service are not those of another. -/
theorem recordsOf_forget_of_ne (w : LocalServiceStores) {id id' : DeployableId} (h : id' ≠ id) :
    (w.forget id).recordsOf id' = w.recordsOf id' := by
  have hrecord : (w.forget id).record? id' = w.record? id' := by
    simp only [forget, deleteRecord, deleteInstances, record?, Gated.root_write]
    split
    · exact SortedMap.find?_erase_of_ne _ h
    · rfl
  have hgroup : (w.forget id).instances.root.group id' = w.instances.root.group id' := by
    simp only [forget, deleteRecord, deleteInstances, Gated.root_write]
    split
    · exact Groups.group_removeGroup_of_ne _ h
    · rfl
  rw [recordsOf, hrecord, hgroup, recordsOf]

end LocalServiceStores

namespace LifecycleEngine

variable {σ ω δ κ W : Type} [DecidableEq σ] [DecidableEq κ]

/-- Whether an event ends a registration of an identifier at the will of a client. -/
def removes (e : LifecycleEngine σ ω δ κ W) (id : DeployableId) : EngineEvent σ ω δ W → Bool
  | .deregister id' => id' = id && (e.registered? id).isSome
  | .stopAll => (e.registered? id).isSome
  | _ => false

/-- Whether a client ends a registration of an identifier in a run. -/
def removedIn (k : LifecycleKind σ ω δ κ W) (id : DeployableId) (e : LifecycleEngine σ ω δ κ W) :
    List (EngineEvent σ ω δ W) → Bool
  | [] => false
  | ev :: rest => e.removes id ev || removedIn k id (e.step k ev) rest

/-! ## Actors that were asked to stop -/

/-- Only actors whose loops have ended were asked to stop, as far as an identifier goes, and only
those wait to be stopped. -/
structure Unasked (id : DeployableId) (e : LifecycleEngine σ ω δ κ W) : Prop where
  stopped : ∀ n r, e.resident? n = some r → r.id = id → r.actor.stopRequested = true →
    r.actor.phase = .exited
  ended : ∀ n ∈ e.ended, ∃ r, e.resident? n = some r ∧ r.actor.phase = .exited

omit [DecidableEq σ] [DecidableEq κ] in
theorem unasked_start (id : DeployableId) (settings : EngineSettings) (world : W) :
    Unasked id (start settings world : LifecycleEngine σ ω δ κ W) where
  stopped n r h := by cases h
  ended n h := by cases h

section Unasked

variable {k : LifecycleKind σ ω δ κ W} {e : LifecycleEngine σ ω δ κ W} {id : DeployableId}

omit [DecidableEq σ] [DecidableEq κ] in
/-- Only residents and ended loops matter. -/
theorem Unasked.of_eq {e' : LifecycleEngine σ ω δ κ W} (h : Unasked id e)
    (hresidents : e'.residents = e.residents) (hended : e'.ended = e.ended) : Unasked id e' := by
  have hresident : e'.resident? = e.resident? := by
    funext n
    rw [resident?, hresidents, resident?]
  constructor
  · rw [hresident]
    exact h.stopped
  · rw [hresident, hended]
    exact h.ended

omit [DecidableEq σ] [DecidableEq κ] in
/-- A change of one actor queues no other to be stopped. -/
theorem ended_update {n m : Nat} {change : Actor σ ω δ κ → Actor σ ω δ κ}
    (h : m ∈ (e.update n change).ended) :
    m ∈ e.ended ∨
      (m = n ∧ ∃ r, e.resident? n = some r ∧ (change r.actor).phase = .exited) := by
  cases hr : e.resident? n with
  | none =>
      rw [LifecycleEngine.update, hr] at h
      exact Or.inl h
  | some r =>
      rw [LifecycleEngine.update, hr] at h
      dsimp only at h
      split at h
      · exact Or.inl h
      · rename_i hexited _
        rcases List.mem_append.1 h with h | h
        · exact Or.inl h
        · exact Or.inr ⟨List.mem_singleton.1 h, r, rfl, hexited⟩
      · exact Or.inl h

omit [DecidableEq κ] in
/-- An event of one actor.  Actors of the identifier are asked to stop only when they have ended. -/
theorem Unasked.update (h : Unasked id e) (he : Sound k e) (n : Nat) (ev : ActorEvent σ ω δ)
    (hstop : ev = .requestStop → ∀ r, e.resident? n = some r → r.id = id →
      r.actor.phase = .exited) :
    Unasked id (e.update n (·.step k.blueprint ev)) where
  stopped m r' hr' hid hasked := by
    obtain ⟨r, hr, rfl⟩ := exists_of_resident?_update hr'
    have hconsistent := (he.reachable m r hr).consistent
    by_cases hm : m = n
    · subst hm
      simp only [if_true] at hasked ⊢
      have hexited : r.actor.phase = .exited := by
        cases hev : ev.isStop with
        | false =>
            rw [Actor.stopRequested_step k.blueprint hev] at hasked
            exact h.stopped m r hr hid hasked
        | true =>
            have hrequest : ev = .requestStop := by
              cases ev <;> first | rfl | cases hev
            exact hstop hrequest r hr hid
      exact Actor.phase_step_of_exited hconsistent hexited k.blueprint ev
    · simp only [if_neg hm] at hasked ⊢
      exact h.stopped m r hr hid hasked
  ended m hm := by
    rcases ended_update hm with hm | ⟨rfl, r, hr, hexited⟩
    · obtain ⟨r, hr, hexited⟩ := h.ended m hm
      refine ⟨_, resident?_update_of_some hr n _, ?_⟩
      by_cases hmn : m = n
      · simpa [hmn] using
          Actor.phase_step_of_exited (he.reachable m r hr).consistent hexited k.blueprint ev
      · simpa [hmn] using hexited
    · exact ⟨_, resident?_update_of_some hr m _, by simpa using hexited⟩

omit [DecidableEq κ] in
/-- The return of an action in flight. -/
theorem Unasked.finish (h : Unasked id e) (he : Sound k e) (n : Nat) (r : ActionResult σ δ) :
    Unasked id (e.finish k n r) := by
  have hupdate := h.update he n (.finish true r) (by simp)
  rw [finish_eq]
  dsimp only
  split
  · exact hupdate.of_eq rfl rfl
  · exact hupdate

omit [DecidableEq κ] in
/-- An operation of a client or of the engine itself. -/
theorem Unasked.handle (h : Unasked id e) (he : Sound k e) (op : ω) :
    Unasked id (e.handle k op).1 := by
  rcases e.handle_cases k op with heq | ⟨n, -, heq⟩ | ⟨f, -, heq⟩
  · rw [heq]
    exact h
  · rw [heq]
    exact h.update he n (.notify (k.canonical e.settings e.world op)) (by simp)
  · rw [heq]
    constructor
    · intro n r hr hid hasked
      rw [resident?_found] at hr
      split at hr
      · cases hr
        simp [Actor.new, Actor.start, Actor.notify_of_free] at hasked
      · exact h.stopped n r hr hid hasked
    · intro n hn
      obtain ⟨r, hr, hexited⟩ := h.ended n hn
      have hne : n ≠ e.next := Nat.ne_of_lt (he.fresh n r hr)
      exact ⟨r, by rw [resident?_found, if_neg hne, hr], hexited⟩

omit [DecidableEq κ] in
/-- What follows from a reached state. -/
theorem Unasked.react (h : Unasked id e) (he : Sound k e) (id' : DeployableId) (state : σ)
    (pending : Option ω) : Unasked id (e.react k id' state pending) := by
  cases hgone : k.isGone state with
  | false =>
      have hworld : ∀ world, Unasked id { e with world := world } := fun _ => h.of_eq rfl rfl
      have hsound : ∀ world, Sound k { e with world := world } := fun _ => he.of_eq rfl rfl rfl rfl
      rw [react_of_not_gone hgone pending]
      split
      · exact (hworld _).handle (hsound _) _
      · exact hworld _
  | true =>
      rw [LifecycleEngine.react, if_pos hgone, deregisterWith]
      split
      · exact h.of_eq rfl rfl
      · exact h

omit [DecidableEq κ] in
/-- The handling of the state that was reached first. -/
theorem Unasked.handleChange (hk : k.Lawful) (h : Unasked id e) (he : Sound k e) :
    Unasked id (e.handleChange k) := by
  cases hchanges : e.changes with
  | nil => simpa [LifecycleEngine.handleChange, hchanges] using h
  | cons change rest =>
      obtain ⟨n, reached⟩ := change
      obtain ⟨hrest, -⟩ := he.dequeue hchanges
      obtain ⟨r, hr, -⟩ := he.reached n reached (by simp [hchanges])
      rw [handleChange_eq k hchanges hr]
      have hrest' : Unasked id { e with changes := rest } := h.of_eq rfl rfl
      have hreact := hrest'.react hrest r.id reached.state r.actor.machine.slot.pending
      have hsound := hrest.react hk r.id reached.state r.actor.machine.slot.pending
      have hpublish : Unasked id ((LifecycleEngine.react k { e with changes := rest } r.id
          reached.state r.actor.machine.slot.pending).publish
          (k.event r.id r.name r.version reached.state)) := hreact.of_eq rfl rfl
      exact hpublish.update (hsound.publish _) n .handled (by simp)

/-! ## Stopping everybody else -/

omit [DecidableEq κ] in
/-- Actors that are not of the identifier are asked to stop. -/
theorem Unasked.requestStops {numbers : List Nat} (h : Unasked id e) (he : Sound k e)
    (hothers : ∀ n ∈ numbers, ∀ r, e.resident? n = some r → r.id ≠ id) :
    Unasked id (numbers.foldl (fun e n => e.update n (fun a => a.requestStop.1)) e) := by
  induction numbers generalizing e with
  | nil => exact h
  | cons n rest ih =>
      have hstep : Unasked id (e.update n (·.step k.blueprint .requestStop)) := by
        refine h.update he n .requestStop fun _ r hr hid => ?_
        exact absurd hid (hothers n List.mem_cons_self r hr)
      refine ih hstep (he.update n .requestStop (by simp) (by simp)) ?_
      intro m hm r' hr'
      obtain ⟨r, hr, rfl⟩ := exists_of_resident?_update hr'
      exact hothers m (List.mem_cons_of_mem n hm) r hr

omit [DecidableEq κ] in
/-- Actors that are not of the identifier are asked to stop. -/
theorem SoleAt.requestStops {numbers : List Nat} (h : SoleAt id e) (he : Sound k e) :
    SoleAt id (numbers.foldl (fun e n => e.update n (fun a => a.requestStop.1)) e) := by
  induction numbers generalizing e with
  | nil => exact h
  | cons n rest ih =>
      exact ih (h.update he n .requestStop (by simp)) (he.update n .requestStop (by simp) (by simp))

omit [DecidableEq κ] in
/-- Where the identifier is not registered, the registered actors are those of others. -/
theorem Sound.id_ne_of_mem_values (he : Sound k e) (hfree : e.registered? id = none) {n : Nat}
    (hn : n ∈ e.registry.values) {r : Resident σ ω δ κ} (hr : e.resident? n = some r) :
    r.id ≠ id := by
  rintro rfl
  obtain ⟨id', hid'⟩ := (SortedMap.mem_values_iff e.registry n).1 hn
  obtain ⟨r', hr', rfl⟩ := he.registered id' n hid'
  rw [hr] at hr'
  cases hr'
  rw [registered?, hid'] at hfree
  cases hfree

/-! ## Events that remove nobody of the identifier -/

/-- Every event by which no client ends a registration of the identifier. -/
theorem Unasked.step (hk : k.Lawful) (h : Unasked id e) (he : Sound k e)
    {ev : EngineEvent σ ω δ W} (hev : e.removes id ev = false) : Unasked id (e.step k ev) := by
  have hmove := e.move_step k ev
  generalize e.step k ev = e' at hmove ⊢
  cases hmove with
  | ignored => exact h
  | submitted op => exact h.handle he op
  | deregistered id' => exact h.of_eq rfl rfl
  | stopped =>
      have hfree : e.registered? id = none := by simpa [removes] using hev
      have hclear : Unasked id { e with registry := ∅ } := h.of_eq rfl rfl
      exact hclear.requestStops he.clear fun n hn r hr => he.id_ne_of_mem_values hfree hn hr
  | cutOff n => exact h.update he n .abort (by simp)
  | began n => exact h.update he n .begin (by simp)
  | routed n acting r => exact h.finish he n r
  | dropped n acting r =>
      have hsound := he.update n .acknowledge (by simp) (by simp)
      exact (h.update he n .acknowledge (by simp)).finish hsound n r
  | worked n supplied world => exact h.of_eq rfl rfl
  | acknowledged n acting => exact h.update he n .acknowledge (by simp)
  | returned n acting r => exact h.finish he n r
  | paused n => exact h.update he n .elapsed (by simp)
  | resumed n => exact h.update he n .resume (by simp)
  | changed => exact h.handleChange hk he
  | reaped n rest queued =>
      have hrest : Unasked id { e with ended := rest } :=
        { stopped := h.stopped
          ended := fun m hm => h.ended m (by rw [queued]; exact List.mem_cons_of_mem n hm) }
      have hsound : Sound k { e with ended := rest } := he.of_eq rfl rfl rfl rfl
      refine hrest.update hsound n .requestStop fun _ r hr _ => ?_
      obtain ⟨r', hr', hexited⟩ := h.ended n (by simp [queued])
      have hr : e.resident? n = some r := hr
      rw [hr] at hr'
      cases hr'
      exact hexited
  | given world => exact h.of_eq rfl rfl

/-- Every event by which no client ends a registration of the identifier. -/
theorem SoleAt.step_of_not_removes (hk : k.Lawful) (h : SoleAt id e) (hasked : Unasked id e)
    (he : Sound k e) {ev : EngineEvent σ ω δ W} (hev : e.removes id ev = false) :
    SoleAt id (e.step k ev) := by
  by_cases hderegister : ev = .deregister id
  · subst hderegister
    have hfree : e.registered? id = none := by simpa [removes] using hev
    refine h.of_eq rfl ?_
    rw [hfree]
    exact SortedMap.find?_erase_self e.registry id
  by_cases hstop : ev = .stopAll
  · subst hstop
    have hfree : e.registered? id = none := by simpa [removes] using hev
    have hclear : SoleAt id { e with registry := ∅ } := h.of_eq rfl hfree.symm
    exact hclear.requestStops he.clear
  · refine h.step hk he hderegister hstop fun n _ r hr hid hrequested => ?_
    exact hasked.stopped n r hr hid hrequested

/-- A run in which no client ends a registration of the identifier. -/
theorem soleAt_of_not_removedIn (hk : k.Lawful) (h : SoleAt id e) (hasked : Unasked id e)
    (he : Sound k e) {events : List (EngineEvent σ ω δ W)}
    (hevents : removedIn k id e events = false) : SoleAt id (e.run k events) := by
  induction events generalizing e with
  | nil => exact h
  | cons ev rest ih =>
      obtain ⟨hev, hrest⟩ := Bool.or_eq_false_iff.1 hevents
      exact ih (h.step_of_not_removes hk hasked he hev) (hasked.step hk he hev) (he.step hk ev)
        hrest

end Unasked

/-! ## One actor at work -/

omit [DecidableEq σ] [DecidableEq κ] in
/-- An actor is at work: its loop has not ended, or a state that it reached waits to be handled. -/
def AtWork (e : LifecycleEngine σ ω δ κ W) (n : Nat) : Prop :=
  (∃ r, e.resident? n = some r ∧ r.actor.phase.isFinished = false) ∨ ∃ s, (n, s) ∈ e.changes

omit [DecidableEq σ] [DecidableEq κ] in
/-- At most one actor of an identifier is at work. -/
def Alone (id : DeployableId) (e : LifecycleEngine σ ω δ κ W) : Prop :=
  ∀ n m r s, e.resident? n = some r → r.id = id → e.resident? m = some s → s.id = id →
    e.AtWork n → e.AtWork m → n = m

section Alone

variable {k : LifecycleKind σ ω δ κ W} {e : LifecycleEngine σ ω δ κ W} {id : DeployableId}

omit [DecidableEq κ] in
/-- The loop of an actor that is at work has not ended by itself. -/
theorem AtWork.not_exited {n : Nat} (h : e.AtWork n) (he : Sound k e) {r : Resident σ ω δ κ}
    (hr : e.resident? n = some r) : r.actor.phase ≠ .exited := by
  rcases h with ⟨r', hr', hlive⟩ | ⟨s, hs⟩
  · rw [hr] at hr'
    cases hr'
    intro hexited
    simp [hexited, Phase.isFinished] at hlive
  · obtain ⟨r', hr', -, hphase⟩ := he.reached n s hs
    rw [hr] at hr'
    cases hr'
    rcases hphase with hphase | hphase <;> simp [hphase]

omit [DecidableEq κ] in
/-- Where the actor of an identifier that goes on is the registered one, it is alone. -/
theorem SoleAt.alone (h : SoleAt id e) (he : Sound k e) : Alone id e := by
  intro n m r s hr hrid hs hsid hn hm
  have hregistered := (h.registered n r hr hrid).resolve_right (hn.not_exited he hr)
  rw [(h.registered m s hs hsid).resolve_right (hm.not_exited he hs)] at hregistered
  exact (Option.some.inj hregistered).symm

/-- Something holds before the first event of a run, and after every event of it. -/
def Throughout (k : LifecycleKind σ ω δ κ W) (p : LifecycleEngine σ ω δ κ W → Prop)
    (e : LifecycleEngine σ ω δ κ W) : List (EngineEvent σ ω δ W) → Prop
  | [] => p e
  | ev :: rest => p e ∧ Throughout k p (e.step k ev) rest

/-- What holds throughout a run holds throughout both of its parts. -/
theorem Throughout.of_append {p : LifecycleEngine σ ω δ κ W → Prop}
    {before after : List (EngineEvent σ ω δ W)} (h : Throughout k p e (before ++ after)) :
    Throughout k p e before ∧ Throughout k p (e.run k before) after := by
  induction before generalizing e with
  | nil =>
      cases after with
      | nil => exact ⟨h, h⟩
      | cons ev rest => exact ⟨h.1, h⟩
  | cons ev rest ih =>
      obtain ⟨hbefore, hafter⟩ := ih h.2
      exact ⟨⟨h.1, hbefore⟩, hafter⟩

/-- As long as no client ends a registration of the identifier, one actor at most is at work. -/
theorem SoleAt.alone_throughout (h : SoleAt id e) (hk : k.Lawful) (hasked : Unasked id e)
    (he : Sound k e) {events : List (EngineEvent σ ω δ W)}
    (hevents : removedIn k id e events = false) : Throughout k (Alone id) e events := by
  induction events generalizing e with
  | nil => exact h.alone he
  | cons ev rest ih =>
      obtain ⟨hev, hrest⟩ := Bool.or_eq_false_iff.1 hevents
      refine ⟨h.alone he, ih ?_ ?_ (he.step hk ev) hrest⟩
      · exact h.step_of_not_removes hk hasked he hev
      · exact hasked.step hk he hev

/-- So it is in every run of an engine that starts without actors. -/
theorem alone_throughout_of_not_removedIn (hk : k.Lawful) (settings : EngineSettings) (world : W)
    {events : List (EngineEvent σ ω δ W)}
    (hevents : removedIn k id (start settings world) events = false) :
    Throughout k (Alone id) (start settings world) events := by
  have hsole : SoleAt id (start settings world : LifecycleEngine σ ω δ κ W) :=
    (sole_iff_soleAt _).1 (sole_start settings world) id
  exact hsole.alone_throughout hk (unasked_start id settings world) (sound_start k settings world)
    hevents

end Alone

/-! ## What the end of a deployable does -/

/-- What becomes of the actors and of the stores when the state of an actor `n` of the identifier
`id` is handled that says that its deployable is gone.  `records` are the records of an identifier,
and `removed` says whether a client has ended a registration of `id` before. -/
structure EndsDeployable {R : Type} (k : LifecycleKind σ ω δ κ W) (records : W → DeployableId → R)
    (e e' : LifecycleEngine σ ω δ κ W) (n : Nat) (id : DeployableId) (removed : Bool) : Prop where
  /-- Other identifiers keep their registration and their records. -/
  others : ∀ id', id' ≠ id →
    e'.registered? id' = e.registered? id' ∧ records e'.world id' = records e.world id'
  /-- Nobody is registered for the identifier afterwards. -/
  unregistered : e'.registered? id = none
  /-- The records of the identifier are deleted if anybody was registered for it before. -/
  forgotten : e'.world = if (e.registered? id).isSome then k.forget e.world id else e.world
  /-- Every other actor stays registered and keeps its records if and only if none of them holds the
  identifier. -/
  spares_iff :
    (∀ m id', m ≠ n → e.registered? id' = some m →
      e'.registered? id' = some m ∧ records e'.world id' = records e.world id') ↔
    ∀ m, e.registered? id = some m → m = n
  /-- Another actor holds the identifier only where a client has ended a registration of it. -/
  held_after_removal : ∀ m, e.registered? id = some m → m ≠ n → removed = true

/-- In every run, if the deletion of all records of an identifier leaves those of others alone. -/
theorem endsDeployable_run {R : Type} {k : LifecycleKind σ ω δ κ W} (hk : k.Lawful)
    {records : W → DeployableId → R}
    (hforget : ∀ w id id', id' ≠ id → records (k.forget w id) id' = records w id')
    (settings : EngineSettings) (world : W) (events : List (EngineEvent σ ω δ W))
    {e : LifecycleEngine σ ω δ κ W} (he : e = (start settings world).run k events) {n : Nat}
    {reached : Snapshot σ δ} {rest : List (Nat × Snapshot σ δ)}
    (hchanges : e.changes = (n, reached) :: rest) (hgone : k.isGone reached.state = true)
    {r : Resident σ ω δ κ} (hr : e.resident? n = some r) :
    EndsDeployable k records e (e.step k .handleChange) n r.id
      (removedIn k r.id (start settings world) events) := by
  have hstart : Sound k (start settings world) := sound_start k settings world
  have hsound : Sound k e := he ▸ hstart.run hk events
  have hworld : (e.step k .handleChange).world =
      if (e.registered? r.id).isSome then k.forget e.world r.id else e.world := by
    rw [step, world_handleChange k hchanges hr, world_react, if_pos hgone]
  have hregistry : ∀ id, (e.step k .handleChange).registered? id =
      (LifecycleEngine.react k { e with changes := rest } r.id reached.state
        r.actor.machine.slot.pending).registered? id := by
    intro id
    rw [step, handleChange_eq k hchanges hr]
    simp [registered?, publish]
  have hreact : LifecycleEngine.react k { e with changes := rest } r.id reached.state
      r.actor.machine.slot.pending =
        (({ e with changes := rest } : LifecycleEngine σ ω δ κ W).deregisterWith r.id
          (k.forget · r.id)).1 := by
    rw [react, if_pos hgone]
  have hothers : ∀ id', id' ≠ r.id →
      (e.step k .handleChange).registered? id' = e.registered? id' ∧
      records (e.step k .handleChange).world id' = records e.world id' := by
    intro id' hid'
    constructor
    · rw [hregistry, hreact, deregisterWith]
      split
      · exact SortedMap.find?_erase_of_ne _ hid'
      · rfl
    · rw [hworld]
      split
      · exact hforget e.world r.id id' hid'
      · rfl
  have hown : (e.step k .handleChange).registered? r.id = none := by
    rw [hregistry, hreact, deregisterWith]
    split <;> rename_i hregistered
    · exact SortedMap.find?_erase_self _ _
    · exact hregistered
  refine
    { others := hothers
      unregistered := hown
      forgotten := hworld
      spares_iff := ⟨fun hspares m hm => ?_, fun hheld m id' hmn hm => ?_⟩
      held_after_removal := fun m hm hmn => ?_ }
  · by_contra hmn
    have hspared := (hspares m r.id hmn hm).1
    rw [hown] at hspared
    cases hspared
  · have hid' : id' ≠ r.id := by
      rintro rfl
      exact hmn (hheld m hm)
    rw [(hothers id' hid').1]
    exact ⟨hm, (hothers id' hid').2⟩
  · cases hremoved : removedIn k r.id (start settings world) events with
    | true => rfl
    | false =>
        have hsole : SoleAt r.id e := by
          rw [he]
          exact soleAt_of_not_removedIn hk ((sole_iff_soleAt _).1 (sole_start settings world) r.id)
            (unasked_start r.id settings world) hstart hremoved
        obtain ⟨r', hr', -, hphase⟩ := hsound.reached n reached (by simp [hchanges])
        rw [hr] at hr'
        cases hr'
        -- The loop of the actor is held up, so that it has not ended: the actor is registered.
        have hgoing : r.actor.phase ≠ .exited := by
          rcases hphase with hphase | hphase <;> simp [hphase]
        have hregistered := (hsole.registered n r hr rfl).resolve_right hgoing
        rw [hm] at hregistered
        exact absurd (Option.some.inj hregistered) hmn

/-- Whoever held the identifier, its application record is deleted with it. -/
theorem EndsDeployable.record?_eq_none {e e' : ApplicationEngine} {n m : Nat} {id : DeployableId}
    {removed : Bool}
    (h : EndsDeployable Application.kind ApplicationStores.recordsOf e e' n id removed)
    (haccepting : e.world.records.accepting = true) (hheld : e.registered? id = some m) :
    e'.world.record? id = none := by
  have hworld : e'.world = e.world.forget id := by
    rw [h.forgotten, hheld]
    rfl
  rw [hworld]
  exact ApplicationStores.record?_forget_self haccepting id

/-- Take any run of either engine, and any actor of which a state is about to be handled that says
that its deployable is gone.  Every other actor stays registered and keeps its records if and only
if none of them holds the identifier; an actor that holds it loses both.  It can hold it only where
a client has ended a registration of the identifier. -/
theorem destruction_spares_others_iff (settings : EngineSettings) (n : Nat) :
    (∀ (world : ApplicationStores) events reached rest r,
      let e : ApplicationEngine := (start settings world).run Application.kind events
      e.changes = (n, reached) :: rest → reached.state = .destroyed → e.resident? n = some r →
      EndsDeployable Application.kind ApplicationStores.recordsOf e
        (e.step Application.kind .handleChange) n r.id
        (removedIn Application.kind r.id (start settings world) events)) ∧
    (∀ (world : LocalServiceStores) events reached rest r,
      let e : LocalServiceEngine := (start settings world).run LocalService.kind events
      e.changes = (n, reached) :: rest → reached.state = .destroyed → e.resident? n = some r →
      EndsDeployable LocalService.kind LocalServiceStores.recordsOf e
        (e.step LocalService.kind .handleChange) n r.id
        (removedIn LocalService.kind r.id (start settings world) events)) := by
  constructor
  · intro world events reached rest r e hchanges hstate hr
    have hgone : Application.kind.isGone reached.state = true := by
      simp [Application.kind, hstate]
    exact endsDeployable_run Application.lawful_kind
      (fun w _ _ hid => w.recordsOf_forget_of_ne hid) settings world events rfl hchanges hgone hr
  · intro world events reached rest r e hchanges hstate hr
    have hgone : LocalService.kind.isGone reached.state = true := by
      simp [LocalService.kind, hstate]
    exact endsDeployable_run LocalService.lawful_kind
      (fun w _ _ hid => w.recordsOf_forget_of_ne hid) settings world events rfl hchanges hgone hr

/-- An application is being destroyed when a client ends its registration and creates it again.  The
new actor is registered and its record is written; then the state of the old actor is handled, and
the new actor loses its registration and its record. -/
theorem recreated_application_destroyed :
    let shop : ApplicationSpec :=
      { name := "SHOP", version := "1", executable := { image := "shop" }
        resources := ResourceRequirement.ofCoresAndMemory 1 512 }
    let record : ApplicationRecord := .ofSpec .epoch shop 0
    let w : ApplicationStores := { now := .epoch }
    let written : ApplicationStores :=
      { w with records := { root := SortedMap.insert ∅ shop.id record } }
    let events : List (EngineEvent ApplicationState ApplicationOperation ApplicationRecord
        ApplicationStores) :=
      [.handle (.create shop 0 {}), .begin 0, .work 0 written, .acknowledge 0,
        .finish 0 (.ok (some ⟨.monitoring, record, none⟩)), .handleChange,
        .handle (.destroy shop.id {}), .begin 0, .route 0, .handleChange, .begin 0, .acknowledge 0,
        .deregister shop.id,
        .handle (.create shop 0 {}), .begin 1, .work 1 written, .acknowledge 1,
        .finish 1 (.ok (some ⟨.monitoring, record, none⟩)), .handleChange,
        .finish 0 (.ok (some ⟨.destroyed, record, none⟩))]
    let e : ApplicationEngine := (start {} w).run Application.kind events
    let e' := e.step Application.kind .handleChange
    e.registered? shop.id = some 1 ∧ (e.world.record? shop.id).isSome = true ∧
      e'.registered? shop.id = none ∧ e'.world.record? shop.id = none ∧
      ¬ ∀ m id, m ≠ 0 → e.registered? id = some m →
        e'.registered? id = some m ∧ e'.world.recordsOf id = e.world.recordsOf id := by
  intro shop record w written events e e'
  have hrun : e.changes.map (fun c => (c.1, c.2.state)) = [(0, .destroyed)] ∧
      (e.resident? 0).map (·.id) = some shop.id ∧ e.registered? shop.id = some 1 ∧
      (e.world.record? shop.id).isSome = true ∧ e.world.records.accepting = true := by
    simp only [e, events, written, w, record, shop]
    decide +kernel
  obtain ⟨hwaiting, hresident, hregistered, hrecord, haccepting⟩ := hrun
  obtain ⟨⟨n, reached⟩, rest, hchanges, hhead, -⟩ := List.map_eq_cons_iff.1 hwaiting
  obtain ⟨rfl, hstate⟩ := Prod.mk.inj hhead
  obtain ⟨r, hr, hid⟩ := Option.map_eq_some_iff.1 hresident
  have hends : EndsDeployable Application.kind ApplicationStores.recordsOf e e' 0 r.id
      (removedIn Application.kind r.id (start {} w) events) :=
    (destruction_spares_others_iff {} 0).1 w events reached rest r hchanges hstate hr
  rw [hid] at hends
  -- From here on, what the two states are no longer matters, and must not be computed.
  clear_value e' e
  have hdeleted : e'.world.record? shop.id = none :=
    hends.record?_eq_none haccepting hregistered
  refine ⟨hregistered, hrecord, hends.unregistered, hdeleted, fun hspares => ?_⟩
  exact absurd (hends.spares_iff.1 hspares 1 hregistered) (by decide)

end LifecycleEngine
end Orchestration
