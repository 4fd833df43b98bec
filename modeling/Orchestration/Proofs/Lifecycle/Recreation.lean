import Orchestration.Proofs.Lifecycle.Destruction

/-!
# Deployables that are created again

When the deployable of a registered actor is gone, the engine deletes its records and ends its
registration first, then publishes the event, and then lets the loop of the actor go on, which ends
and waits to be stopped.  From the first of these steps on the identifier is free, and it may be
created again before any of the others.

Until then the identifier is taken: an actor that is registered has been so ever since it was
founded, since no event registers an actor again.  And from then on the actor is departed.  Nobody
knows its number any more, no state of it waits to be handled, and its loop has ended or is about
to; whatever it still does stays with itself.

Main results:

- `LifecycleEngine.registered?_of_run`: whoever is registered has been so since it was founded.
- `LifecycleEngine.Departed.step`, `LifecycleEngine.Departed.leavesOthers`: a departed actor stays
  departed, and its steps leave everybody else alone.
- `LifecycleEngine.departed_consequences`: the actor of a deployable that is gone has departed
  before anybody is told.
- `LifecycleEngine.destroys_for_good`: all of that for applications and for local services.
-/

namespace Orchestration

/-! ## Second creations and deleted records -/

/-- An identifier that is made of a name and a version is not blank. -/
theorem DeployableId.isBlank_ofNameVersion (name version : String) :
    (ofNameVersion name version).isBlank = false := by
  have hdash : Blank.isBlank '-' = false := by decide
  simp [isBlank, Blank.isBlankText, ofNameVersion, hdash]

/-- A second creation of a registered application is refused. -/
theorem Application.review_of_known (settings : AdmissionSettings)
    {stateOf : DeployableId → Option ApplicationState} (w : ApplicationStores)
    {op : ApplicationOperation} (hcreates : op.opType = .create)
    (hknown : (stateOf op.appId).isSome = true) :
    review settings stateOf w op = .failure ("App " ++ op.appId.text ++ " already exists") := by
  cases op with
  | create spec n opSpec =>
      have hblank : (ApplicationOperation.create spec n opSpec).appId.isBlank = false :=
        DeployableId.isBlank_ofNameVersion spec.name spec.version
      simp [review, hblank, reviewInState, hknown, ApplicationOperation.opType]
  | _ => cases hcreates

/-- A second creation of a registered local service is refused. -/
theorem LocalService.review_of_known (settings : AdmissionSettings)
    {stateOf : DeployableId → Option LocalServiceState} (w : LocalServiceStores)
    {op : LocalServiceOperation} (hcreates : op.opType = .create)
    (hknown : (stateOf op.serviceId).isSome = true) :
    review settings stateOf w op =
      .failure ("Local service " ++ op.serviceId.text ++ " already exists") := by
  cases op with
  | create spec n opSpec =>
      have hblank : (LocalServiceOperation.create spec n opSpec).serviceId.isBlank = false :=
        DeployableId.isBlank_ofNameVersion spec.name spec.version
      simp [review, hblank, reviewInState, hknown, LocalServiceOperation.opType]
  | _ => cases hcreates

/-- Where deletions are accepted, nothing is recorded of an application that is forgotten. -/
theorem ApplicationStores.recordsOf_forget_self {w : ApplicationStores}
    (hrecords : w.records.accepting = true) (hinstances : w.instances.accepting = true)
    (id : DeployableId) : (w.forget id).recordsOf id = (none, ∅) := by
  have hgroup : (w.forget id).instances.root.group id = ∅ := by
    simp [forget, deleteRecord, deleteInstances, Gated.root_write, hinstances,
      Groups.group_removeGroup_self]
  rw [recordsOf, record?_forget_self hrecords id, hgroup]

/-- Where deletions are accepted, nothing is recorded of a local service that is forgotten. -/
theorem LocalServiceStores.recordsOf_forget_self {w : LocalServiceStores}
    (hrecords : w.records.accepting = true) (hinstances : w.instances.accepting = true)
    (id : DeployableId) : (w.forget id).recordsOf id = (none, ∅) := by
  have hrecord : (w.forget id).record? id = none := by
    simp [forget, deleteRecord, deleteInstances, record?, Gated.root_write, hrecords]
  have hgroup : (w.forget id).instances.root.group id = ∅ := by
    simp [forget, deleteRecord, deleteInstances, Gated.root_write, hinstances,
      Groups.group_removeGroup_self]
  rw [recordsOf, hrecord, hgroup]

/-! ## Loops that are about to end -/

namespace Actor

variable {σ υ δ κ : Type} [DecidableEq σ]

omit [DecidableEq σ] in
/-- The loop has ended, or is held up by a state after which it will end. -/
def Ending (b : Blueprint σ κ) (a : Actor σ υ δ κ) : Prop :=
  a.phase.isFinished = true ∨ ∃ s, a.phase = .signalling s ∧ b.isTerminal s.state = true

omit [DecidableEq σ] in
/-- A loop that is about to end has no action in flight. -/
theorem Ending.not_acting {b : Blueprint σ κ} {a : Actor σ υ δ κ} (h : a.Ending b)
    (t : Transition σ κ) : a.phase ≠ .acting t := by
  rintro hacting
  rcases h with hfinished | ⟨s, hsignalling, -⟩
  · rw [hacting] at hfinished
    cases hfinished
  · rw [hacting] at hsignalling
    cases hsignalling

/-- A loop that is about to end does not begin again. -/
theorem Ending.step {b : Blueprint σ κ} {a : Actor σ υ δ κ} (h : a.Ending b) (ha : a.Consistent)
    (e : ActorEvent σ υ δ) : (a.step b e).Ending b := by
  have hstarted : a.phase ≠ .idle := by
    rintro hidle
    rcases h with hfinished | ⟨s, hsignalling, -⟩ <;> simp_all [Phase.isFinished]
  have hmove := a.move_step b e
  generalize a.step b e = a' at hmove ⊢
  cases hmove with
  | ignored => exact h
  | started held live =>
      have hstopped := ha.not_started hstarted held
      rw [live] at hstopped
      cases hstopped
  | staged u free => exact h
  | stopped live => exact h
  | acknowledged acting => exact h
  | cutOff stopping going => exact .inl rfl
  | wentOn signalling =>
      left
      rcases h with hfinished | ⟨s, hsignalling, hterminal⟩
      · rw [signalling] at hfinished
        cases hfinished
      · rw [signalling] at hsignalling
        cases hsignalling
        rw [continueIn, if_pos hterminal]
        rfl
  | _ => rcases h with hfinished | ⟨s, hsignalling, -⟩ <;> simp_all [Phase.isFinished]

end Actor

/-- An event is a step of the actor of a number: of its loop, of its action in flight, of the
handling of a state that it reached, or of its end. -/
def EngineEvent.isStepOf {σ ω δ κ W : Type} (e : LifecycleEngine σ ω δ κ W) (n : Nat) :
    EngineEvent σ ω δ W → Bool
  | .abort m => m = n
  | .begin m => m = n
  | .route m => m = n
  | .work m _ => m = n
  | .acknowledge m => m = n
  | .finish m _ => m = n
  | .elapsed m => m = n
  | .resume m => m = n
  | .handleChange => e.changes.head?.map Prod.fst = some n
  | .reap => e.ended.head? = some n
  | _ => false

namespace LifecycleEngine

variable {σ ω δ κ W : Type} [DecidableEq σ] [DecidableEq κ]

/-! ## Registrations are not renewed -/

section Registrations

variable {k : LifecycleKind σ ω δ κ W} {e e' e'' : LifecycleEngine σ ω δ κ W}

/-- Between two engines no actor is registered anew, but those that are founded. -/
structure RenewsNobody (e e' : LifecycleEngine σ ω δ κ W) : Prop where
  next : e.next ≤ e'.next
  registered : ∀ id n, e'.registered? id = some n → e.registered? id = some n ∨ e.next ≤ n

omit [DecidableEq σ] [DecidableEq κ] in
/-- Whoever leaves the registry alone renews nobody. -/
theorem RenewsNobody.of_eq (hnext : e'.next = e.next) (hregistry : e'.registry = e.registry) :
    RenewsNobody e e' where
  next := hnext.ge
  registered id n hn := .inl (by rwa [registered?, hregistry] at hn)

omit [DecidableEq σ] [DecidableEq κ] in
/-- An actor that is founded in between is not one that was there before. -/
theorem RenewsNobody.trans (h : RenewsNobody e e') (h' : RenewsNobody e' e'') :
    RenewsNobody e e'' where
  next := h.next.trans h'.next
  registered id n hn := by
    rcases h'.registered id n hn with hn | hn
    · exact h.registered id n hn
    · exact .inr (h.next.trans hn)

omit [DecidableEq σ] [DecidableEq κ] in
/-- A change of an actor concerns no registration. -/
theorem renewsNobody_update (e : LifecycleEngine σ ω δ κ W) (n : Nat)
    (change : Actor σ ω δ κ → Actor σ ω δ κ) : RenewsNobody e (e.update n change) :=
  .of_eq (next_update e n change) (registry_update e n change)

omit [DecidableEq σ] [DecidableEq κ] in
/-- The end of a registration. -/
theorem renewsNobody_erase (e : LifecycleEngine σ ω δ κ W) (world : W) (id : DeployableId) :
    RenewsNobody e { e with world := world, registry := e.registry.erase id } where
  next := le_refl e.next
  registered id' n hn := by
    by_cases hid : id' = id
    · subst hid
      simp [registered?] at hn
    · exact .inl ((SortedMap.find?_erase_of_ne _ hid).symm.trans hn)

omit [DecidableEq κ] in
/-- Nor does the return of an action. -/
theorem renewsNobody_finish (k : LifecycleKind σ ω δ κ W) (e : LifecycleEngine σ ω δ κ W) (n : Nat)
    (r : ActionResult σ δ) : RenewsNobody e (e.finish k n r) := by
  have hupdate := renewsNobody_update e n (·.step k.blueprint (.finish true r))
  rw [finish_eq]
  dsimp only
  split
  · exact hupdate.trans (.of_eq rfl rfl)
  · exact hupdate

omit [DecidableEq σ] [DecidableEq κ] in
/-- An operation registers a new number at most. -/
theorem renewsNobody_handle (k : LifecycleKind σ ω δ κ W) (e : LifecycleEngine σ ω δ κ W)
    (op : ω) : RenewsNobody e (e.handle k op).1 := by
  rcases e.handle_cases k op with heq | ⟨n, -, heq⟩ | ⟨f, -, heq⟩
  · rw [heq]
    exact .of_eq rfl rfl
  · rw [heq]
    exact renewsNobody_update e n _
  · rw [heq]
    refine ⟨Nat.le_succ e.next, fun id n hn => ?_⟩
    by_cases hid : id = k.target op
    · simp only [registered?, found, hid, SortedMap.find?_insert_self, Option.some.injEq] at hn
      exact .inr hn.le
    · exact .inl ((SortedMap.find?_insert_of_ne _ _ hid).symm.trans hn)

omit [DecidableEq σ] [DecidableEq κ] in
/-- A reached state ends a registration at most, or submits an operation. -/
theorem renewsNobody_react (k : LifecycleKind σ ω δ κ W) (e : LifecycleEngine σ ω δ κ W)
    (id : DeployableId) (state : σ) (pending : Option ω) :
    RenewsNobody e (e.react k id state pending) := by
  cases hgone : k.isGone state with
  | true =>
      rw [react, if_pos hgone, deregisterWith]
      split
      · exact renewsNobody_erase e _ id
      · exact .of_eq rfl rfl
  | false =>
      have hworld (world : W) : RenewsNobody e { e with world := world } := .of_eq rfl rfl
      rw [react_of_not_gone hgone]
      split
      · exact (hworld _).trans (renewsNobody_handle k _ _)
      · exact hworld _

omit [DecidableEq σ] [DecidableEq κ] in
/-- Actors that are asked to stop are not registered for that. -/
theorem renewsNobody_requestStops (numbers : List Nat) (e : LifecycleEngine σ ω δ κ W) :
    RenewsNobody e (numbers.foldl (fun e n => e.update n (fun a => a.requestStop.1)) e) := by
  induction numbers generalizing e with
  | nil => exact .of_eq rfl rfl
  | cons n rest ih => exact (renewsNobody_update e n _).trans (ih _)

omit [DecidableEq σ] [DecidableEq κ] in
/-- The handling of a reached state registers a new number at most. -/
theorem renewsNobody_handleChange (k : LifecycleKind σ ω δ κ W) (e : LifecycleEngine σ ω δ κ W) :
    RenewsNobody e (e.handleChange k) := by
  unfold handleChange
  split
  · exact .of_eq rfl rfl
  · rename_i n reached rest _
    have hrest : RenewsNobody e { e with changes := rest } := .of_eq rfl rfl
    dsimp only
    split
    · exact hrest
    · have hpublish (e : LifecycleEngine σ ω δ κ W) (event : LifecycleEvent) :
          RenewsNobody e (e.publish event) := .of_eq rfl rfl
      exact ((hrest.trans (renewsNobody_react k _ _ _ _)).trans (hpublish _ _)).trans
        (renewsNobody_update _ n _)

/-- No event registers an actor anew, but one that it founds. -/
theorem renewsNobody_step (k : LifecycleKind σ ω δ κ W) (e : LifecycleEngine σ ω δ κ W)
    (ev : EngineEvent σ ω δ W) : RenewsNobody e (e.step k ev) := by
  have hmove := e.move_step k ev
  generalize e.step k ev = e' at hmove ⊢
  cases hmove with
  | submitted op => exact renewsNobody_handle k e op
  | deregistered id => exact renewsNobody_erase e e.world id
  | stopped =>
      have hclear : RenewsNobody e { e with registry := ∅ } :=
        ⟨le_refl e.next, fun id n hn => nomatch hn⟩
      exact hclear.trans (renewsNobody_requestStops _ _)
  | routed n acting r => exact renewsNobody_finish k e n r
  | dropped n acting r =>
      exact (renewsNobody_update e n _).trans (renewsNobody_finish k _ n r)
  | returned n acting r => exact renewsNobody_finish k e n r
  | changed => exact renewsNobody_handleChange k e
  | reaped n rest queued =>
      have hrest : RenewsNobody e { e with ended := rest } := .of_eq rfl rfl
      exact hrest.trans (renewsNobody_update _ n _)
  | ignored => exact .of_eq rfl rfl
  | worked n supplied world => exact .of_eq rfl rfl
  | given world => exact .of_eq rfl rfl
  | _ => exact renewsNobody_update e _ _

/-- No run registers an actor anew, but those that it founds. -/
theorem renewsNobody_run (k : LifecycleKind σ ω δ κ W) (e : LifecycleEngine σ ω δ κ W)
    (events : List (EngineEvent σ ω δ W)) : RenewsNobody e (e.run k events) := by
  induction events generalizing e with
  | nil => exact .of_eq rfl rfl
  | cons ev rest ih => exact (renewsNobody_step k e ev).trans (ih _)

/-- Whoever is registered has been so since it was founded. -/
theorem registered?_of_run {events : List (EngineEvent σ ω δ W)} {id : DeployableId} {n : Nat}
    (h : (e.run k events).registered? id = some n) (hn : n < e.next) :
    e.registered? id = some n :=
  ((renewsNobody_run k e events).registered id n h).resolve_right (Nat.not_le.2 hn)

end Registrations

/-! ## Departed actors -/

/-- The actor of a number is on its way out: nobody knows it any more, no state of it waits to be
handled, and its loop has ended or is about to. -/
structure Departed (k : LifecycleKind σ ω δ κ W) (e : LifecycleEngine σ ω δ κ W) (n : Nat) :
    Prop where
  known : n < e.next
  unregistered : ∀ id, e.registered? id ≠ some n
  settled : ∀ s, (n, s) ∉ e.changes
  ending : ∀ r, e.resident? n = some r → r.actor.Ending k.blueprint

/-- One engine leaves everybody alone whom there is in another one, except for a single actor: the
registry, the stores and the states that wait to be handled are the same, and so are all other
actors. -/
structure LeavesOthers (n : Nat) (e e' : LifecycleEngine σ ω δ κ W) : Prop where
  registry : e'.registry = e.registry
  world : e'.world = e.world
  changes : e'.changes = e.changes
  others : ∀ m, m ≠ n → e'.resident? m = e.resident? m

section Departed

variable {k : LifecycleKind σ ω δ κ W} {e e' : LifecycleEngine σ ω δ κ W} {n : Nat}

omit [DecidableEq σ] [DecidableEq κ] in
/-- A change of one actor is no change of another one. -/
theorem leavesOthers_update (e : LifecycleEngine σ ω δ κ W) (n : Nat)
    (change : Actor σ ω δ κ → Actor σ ω δ κ) : LeavesOthers n e (e.update n change) :=
  ⟨registry_update e n change, world_update e n change, changes_update e n change,
    fun _ hm => resident?_update_of_ne e n change hm⟩

omit [DecidableEq σ] [DecidableEq κ] in
/-- What stays of a departed actor where nobody is registered anew. -/
theorem Departed.of_renewsNobody (h : Departed k e n) (hrenews : RenewsNobody e e')
    (hsettled : ∀ s, (n, s) ∉ e'.changes)
    (hending : ∀ r, e'.resident? n = some r → r.actor.Ending k.blueprint) : Departed k e' n where
  known := h.known.trans_le hrenews.next
  unregistered id hid := by
    rcases hrenews.registered id n hid with hid | hnew
    · exact h.unregistered id hid
    · exact Nat.not_le.2 h.known hnew
  settled := hsettled
  ending := hending

omit [DecidableEq σ] [DecidableEq κ] in
/-- The stores, the events and the ended loops do not matter. -/
theorem Departed.of_eq (h : Departed k e n) (hresidents : e'.residents = e.residents)
    (hnext : e'.next = e.next) (hregistry : e'.registry = e.registry)
    (hchanges : e'.changes = e.changes) : Departed k e' n := by
  refine h.of_renewsNobody (.of_eq hnext hregistry) ?_ ?_
  · rw [hchanges]
    exact h.settled
  · intro r hr
    exact h.ending r (by rwa [resident?, hresidents] at hr)

omit [DecidableEq σ] [DecidableEq κ] in
/-- An event that is published brings nobody back. -/
theorem Departed.publish (h : Departed k e n) (event : LifecycleEvent) :
    Departed k (e.publish event) n :=
  h.of_eq rfl rfl rfl rfl

omit [DecidableEq κ] in
/-- An event of any actor. -/
theorem Departed.update (h : Departed k e n) (he : Sound k e) (m : Nat)
    (ev : ActorEvent σ ω δ) : Departed k (e.update m (·.step k.blueprint ev)) n := by
  refine h.of_renewsNobody (renewsNobody_update e m _) ?_ fun r' hr' => ?_
  · rw [changes_update]
    exact h.settled
  · obtain ⟨r, hr, rfl⟩ := exists_of_resident?_update hr'
    dsimp only
    split
    · exact (h.ending r hr).step (he.reachable n r hr).consistent ev
    · exact h.ending r hr

omit [DecidableEq σ] [DecidableEq κ] in
/-- A departed actor has no action in flight. -/
theorem Departed.action?_eq_none (h : Departed k e n) : e.action? n = none := by
  cases haction : e.action? n with
  | none => rfl
  | some action =>
      obtain ⟨r, t, hr, hacting, -⟩ := acting_of_action? haction
      exact absurd hacting ((h.ending r hr).not_acting t)

omit [DecidableEq σ] [DecidableEq κ] in
/-- Whoever has an action in flight has not departed. -/
theorem Departed.ne_of_acting (h : Departed k e n) {m : Nat}
    (hacting : (e.action? m).isSome = true) : n ≠ m := by
  rintro rfl
  rw [h.action?_eq_none] at hacting
  cases hacting

omit [DecidableEq κ] in
/-- The return of the action of another actor. -/
theorem Departed.finish (h : Departed k e n) (he : Sound k e) {m : Nat} (hm : n ≠ m)
    (r : ActionResult σ δ) : Departed k (e.finish k m r) n := by
  have hupdate := h.update he m (.finish true r)
  rw [finish_eq]
  dsimp only
  split
  · refine ⟨hupdate.known, hupdate.unregistered, fun s hs => ?_, hupdate.ending⟩
    rcases List.mem_append.1 hs with hs | hs
    · exact h.settled s hs
    · exact hm (congrArg Prod.fst (List.mem_singleton.1 hs))
  · exact hupdate

omit [DecidableEq κ] in
/-- An operation does not reach a departed actor. -/
theorem Departed.handle (h : Departed k e n) (he : Sound k e) (op : ω) :
    Departed k (e.handle k op).1 n := by
  rcases e.handle_cases k op with heq | ⟨m, -, heq⟩ | ⟨f, -, heq⟩
  · rwa [heq]
  · rw [heq]
    exact h.update he m (.notify (k.canonical e.settings e.world op))
  · have hrenews := renewsNobody_handle k e op
    rw [heq] at hrenews ⊢
    refine h.of_renewsNobody hrenews h.settled fun r hr => h.ending r ?_
    rwa [resident?_found, if_neg h.known.ne] at hr

omit [DecidableEq κ] in
/-- What follows from a reached state. -/
theorem Departed.react (h : Departed k e n) (he : Sound k e) (id : DeployableId) (state : σ)
    (pending : Option ω) : Departed k (e.react k id state pending) n := by
  cases hgone : k.isGone state with
  | true =>
      rw [LifecycleEngine.react, if_pos hgone, deregisterWith]
      split
      · exact h.of_renewsNobody (renewsNobody_erase e _ id) h.settled h.ending
      · exact h
  | false =>
      have hworld (world : W) : Departed k { e with world := world } n := h.of_eq rfl rfl rfl rfl
      have hsound (world : W) : Sound k { e with world := world } := he.of_eq rfl rfl rfl rfl
      rw [react_of_not_gone hgone]
      split
      · exact (hworld _).handle (hsound _) _
      · exact hworld _

omit [DecidableEq κ] in
/-- The handling of a state, which is another actor's. -/
theorem Departed.handleChange (hk : k.Lawful) (h : Departed k e n) (he : Sound k e) :
    Departed k (e.handleChange k) n := by
  cases hchanges : e.changes with
  | nil => simpa [LifecycleEngine.handleChange, hchanges] using h
  | cons change rest =>
      obtain ⟨m, reached⟩ := change
      obtain ⟨hrest, -⟩ := he.dequeue hchanges
      obtain ⟨r, hr, -⟩ := he.reached m reached (by simp [hchanges])
      have hdequeued : Departed k { e with changes := rest } n :=
        ⟨h.known, h.unregistered,
          fun s hs => h.settled s (by rw [hchanges]; exact List.mem_cons_of_mem _ hs), h.ending⟩
      have hreact := hdequeued.react hrest r.id reached.state r.actor.machine.slot.pending
      have hsound := hrest.react hk r.id reached.state r.actor.machine.slot.pending
      rw [handleChange_eq k hchanges hr]
      exact (hreact.publish _).update (hsound.publish _) m .handled

omit [DecidableEq κ] in
/-- Whoever is asked to stop is not brought back by that. -/
theorem Departed.requestStops (numbers : List Nat) (h : Departed k e n) (he : Sound k e) :
    Departed k (numbers.foldl (fun e m => e.update m (fun a => a.requestStop.1)) e) n := by
  induction numbers generalizing e with
  | nil => exact h
  | cons m rest ih =>
      exact ih (h.update he m .requestStop) (he.update m .requestStop (by simp) (by simp))

/-- A departed actor stays departed, whatever happens. -/
theorem Departed.step (hk : k.Lawful) (h : Departed k e n) (he : Sound k e)
    (ev : EngineEvent σ ω δ W) : Departed k (e.step k ev) n := by
  have hmove := e.move_step k ev
  generalize e.step k ev = e' at hmove ⊢
  cases hmove with
  | ignored => exact h
  | submitted op => exact h.handle he op
  | deregistered id => exact h.of_renewsNobody (renewsNobody_erase e e.world id) h.settled h.ending
  | stopped =>
      have hclear : Departed k { e with registry := ∅ } n :=
        ⟨h.known, fun _ hid => (nomatch hid), h.settled, h.ending⟩
      exact hclear.requestStops _ he.clear
  | cutOff m => exact h.update he m .abort
  | began m => exact h.update he m .begin
  | routed m acting r => exact h.finish he (h.ne_of_acting acting) r
  | dropped m acting r =>
      have hsound := he.update m .acknowledge (by simp) (by simp)
      exact (h.update he m .acknowledge).finish hsound (h.ne_of_acting acting) r
  | worked m supplied world => exact h.of_eq rfl rfl rfl rfl
  | acknowledged m acting => exact h.update he m .acknowledge
  | returned m acting r => exact h.finish he (h.ne_of_acting acting) r
  | paused m => exact h.update he m .elapsed
  | resumed m => exact h.update he m .resume
  | changed => exact h.handleChange hk he
  | reaped m rest =>
      have hended : Departed k { e with ended := rest } n := h.of_eq rfl rfl rfl rfl
      have hsound : Sound k { e with ended := rest } := he.of_eq rfl rfl rfl rfl
      exact hended.update hsound m .requestStop
  | given world => exact h.of_eq rfl rfl rfl rfl

/-- No run brings a departed actor back. -/
theorem Departed.run (hk : k.Lawful) (h : Departed k e n) (he : Sound k e)
    (events : List (EngineEvent σ ω δ W)) : Departed k (e.run k events) n := by
  induction events generalizing e with
  | nil => exact h
  | cons ev rest ih => exact ih (h.step hk he ev) (he.step hk ev)

/-- The steps of a departed actor leave everybody else alone. -/
theorem Departed.leavesOthers (h : Departed k e n) {ev : EngineEvent σ ω δ W}
    (hev : ev.isStepOf e n = true) : LeavesOthers n e (e.step k ev) := by
  have hacting : ∀ {m}, m = n → (e.action? m).isSome = true → False := by
    rintro m rfl hacting
    exact h.ne_of_acting hacting rfl
  have hmove := e.move_step k ev
  generalize e.step k ev = e' at hmove ⊢
  cases hmove with
  | ignored => exact ⟨rfl, rfl, rfl, fun _ _ => rfl⟩
  | submitted op => cases hev
  | deregistered id => cases hev
  | stopped => cases hev
  | given world => cases hev
  | routed m acting r => exact (hacting (of_decide_eq_true hev) acting).elim
  | dropped m acting r => exact (hacting (of_decide_eq_true hev) acting).elim
  | worked m supplied world =>
      exact (hacting (of_decide_eq_true hev) (isSome_action?_of_isSupplied supplied)).elim
  | acknowledged m acting => exact (hacting (of_decide_eq_true hev) acting).elim
  | returned m acting r => exact (hacting (of_decide_eq_true hev) acting).elim
  | changed =>
      -- A state of it would have to wait.
      obtain ⟨change, hchange, rfl⟩ := Option.map_eq_some_iff.1 (of_decide_eq_true hev)
      exact absurd (List.mem_of_head? hchange) (h.settled change.2)
  | reaped m rest queued =>
      have hm : m = n := by simpa [EngineEvent.isStepOf, queued] using hev
      subst hm
      have hupdate := leavesOthers_update { e with ended := rest } m
        (·.step k.blueprint .requestStop)
      exact ⟨hupdate.registry, hupdate.world, hupdate.changes, hupdate.others⟩
  | cutOff m =>
      obtain rfl : m = n := of_decide_eq_true hev
      exact leavesOthers_update e m _
  | began m =>
      obtain rfl : m = n := of_decide_eq_true hev
      exact leavesOthers_update e m _
  | paused m =>
      obtain rfl : m = n := of_decide_eq_true hev
      exact leavesOthers_update e m _
  | resumed m =>
      obtain rfl : m = n := of_decide_eq_true hev
      exact leavesOthers_update e m _

end Departed

/-! ## The end of a deployable, in its three steps -/

/-- The engine once the consequences of the state that was reached first have been drawn, before
anybody is told. -/
def consequences (k : LifecycleKind σ ω δ κ W) (e : LifecycleEngine σ ω δ κ W) :
    LifecycleEngine σ ω δ κ W :=
  match e.changes with
  | [] => e
  | (n, reached) :: rest =>
    match e.resident? n with
    | none => { e with changes := rest }
    | some r =>
      LifecycleEngine.react k { e with changes := rest } r.id reached.state
        r.actor.machine.slot.pending

/-- The event is published, and then the loop of the actor goes on. -/
def conclude (k : LifecycleKind σ ω δ κ W) (e : LifecycleEngine σ ω δ κ W) (n : Nat)
    (event : LifecycleEvent) : LifecycleEngine σ ω δ κ W :=
  (e.publish event).update n (·.step k.blueprint .handled)

/-- The actor of a number can do nothing to anybody: it is not registered, and its steps leave
everybody else alone. -/
structure Powerless (k : LifecycleKind σ ω δ κ W) (e : LifecycleEngine σ ω δ κ W) (n : Nat) :
    Prop where
  unregistered : ∀ id, e.registered? id ≠ some n
  steps : ∀ ev : EngineEvent σ ω δ W, ev.isStepOf e n = true → LeavesOthers n e (e.step k ev)

section Conclude

variable {k : LifecycleKind σ ω δ κ W} {e : LifecycleEngine σ ω δ κ W} {n : Nat}

omit [DecidableEq κ] in
/-- The handling of a state: its consequences, its event, and then the loop goes on. -/
theorem handleChange_eq_conclude {reached : Snapshot σ δ} {rest : List (Nat × Snapshot σ δ)}
    {r : Resident σ ω δ κ} (hchanges : e.changes = (n, reached) :: rest)
    (hr : e.resident? n = some r) :
    e.handleChange k =
      (e.consequences k).conclude k n (k.event r.id r.name r.version reached.state) := by
  rw [handleChange_eq k hchanges hr]
  simp only [consequences, hchanges, hr, conclude]

omit [DecidableEq σ] [DecidableEq κ] in
/-- The consequences of a state that says that the deployable of a registered actor is gone. -/
theorem consequences_of_gone {reached : Snapshot σ δ} {rest : List (Nat × Snapshot σ δ)}
    {r : Resident σ ω δ κ} (hchanges : e.changes = (n, reached) :: rest)
    (hr : e.resident? n = some r) (hgone : k.isGone reached.state = true)
    (hregistered : e.registered? r.id = some n) :
    e.consequences k = { e with
      changes := rest
      world := k.forget e.world r.id
      registry := e.registry.erase r.id } := by
  simp only [consequences, hchanges, hr]
  exact react_of_gone (e := { e with changes := rest }) hgone hregistered _

omit [DecidableEq κ] in
/-- After these consequences the actor has departed. -/
theorem departed_consequences (hk : k.Lawful) (he : Sound k e) {reached : Snapshot σ δ}
    {rest : List (Nat × Snapshot σ δ)} {r : Resident σ ω δ κ}
    (hchanges : e.changes = (n, reached) :: rest) (hr : e.resident? n = some r)
    (hgone : k.isGone reached.state = true) (hregistered : e.registered? r.id = some n) :
    Departed k (e.consequences k) n := by
  rw [consequences_of_gone hchanges hr hgone hregistered]
  refine ⟨he.fresh n r hr, fun id hid => ?_, (he.dequeue hchanges).2, fun r' hr' => ?_⟩
  · by_cases hself : id = r.id
    · subst hself
      simp [registered?] at hid
    · -- The registry names the actor under its own identifier only.
      have hid : e.registered? id = some n := (SortedMap.find?_erase_of_ne _ hself).symm.trans hid
      obtain ⟨s, hs, hsid⟩ := he.registered id n hid
      rw [hr] at hs
      cases hs
      exact hself hsid.symm
  · have hr' : e.resident? n = some r' := hr'
    rw [hr] at hr'
    cases hr'
    obtain ⟨s, hs, -, hphase⟩ := he.reached n reached (by simp [hchanges])
    rw [hr] at hs
    cases hs
    rcases hphase with hsignalling | haborted
    · exact .inr ⟨reached, hsignalling, hk.isTerminal_of_isGone _ hgone⟩
    · left
      rw [haborted]
      rfl

omit [DecidableEq κ] in
/-- The consequences of a reached state leave the engine sound. -/
theorem sound_consequences (hk : k.Lawful) (he : Sound k e) : Sound k (e.consequences k) := by
  unfold consequences
  split
  · exact he
  · rename_i hchanges
    obtain ⟨hrest, -⟩ := he.dequeue hchanges
    split
    · exact hrest
    · exact hrest.react hk _ _ _

/-- A departed actor is powerless. -/
theorem Departed.powerless (h : Departed k e n) : Powerless k e n where
  unregistered := h.unregistered
  steps _ hev := h.leavesOthers hev

omit [DecidableEq κ] in
/-- The publication and the end of the loop change nothing for a departed actor either. -/
theorem Departed.conclude (h : Departed k e n) (he : Sound k e) (event : LifecycleEvent) :
    Departed k (e.conclude k n event) n ∧ Sound k (e.conclude k n event) :=
  ⟨(h.publish event).update (he.publish event) n .handled,
    (he.publish event).update n .handled (by simp) fun _ => h.settled⟩

omit [DecidableEq κ] in
/-- To publish that an actor is gone concerns that actor alone. -/
theorem leavesOthers_conclude (k : LifecycleKind σ ω δ κ W) (e : LifecycleEngine σ ω δ κ W)
    (n : Nat) (event : LifecycleEvent) : LeavesOthers n e (e.conclude k n event) := by
  have hupdate := leavesOthers_update (e.publish event) n (·.step k.blueprint .handled)
  exact ⟨hupdate.registry, hupdate.world, hupdate.changes, hupdate.others⟩

end Conclude

/-! ## Destroyed for good -/

/-- What the destruction of a deployable comes to.  `events` lead from `first` to `e`, and the state
of the registered actor `n` is about to be handled that says that its deployable is gone; `event`
tells of that.  `Creates` says which operations create a deployable, `known` is the refusal of a
second creation, and `Unrecorded` says that the stores hold nothing of a deployable. -/
structure DestroysForGood (k : LifecycleKind σ ω δ κ W) (Creates : ω → Prop)
    (known : DeployableId → Verdict) (Unrecorded : W → DeployableId → Prop)
    (first : LifecycleEngine σ ω δ κ W) (events : List (EngineEvent σ ω δ W))
    (e : LifecycleEngine σ ω δ κ W) (n : Nat) (id : DeployableId) (event : LifecycleEvent) :
    Prop where
  /-- From its founding until now the actor holds the identifier, and another creation is
  refused. -/
  taken : ∀ before after, events = before ++ after → n < (first.run k before).next →
    (first.run k before).registered? id = some n ∧
    ∀ op, Creates op → k.target op = id →
      (first.run k before).handle k op = (first.run k before, known id)
  /-- Before anybody is told, the registration has ended, and the records are gone. -/
  unregistered : (e.consequences k).registered? id = none
  unrecorded : Unrecorded (e.consequences k).world id
  untold : (e.consequences k).published = e.published
  told : e.step k .handleChange = (e.consequences k).conclude k n event
  /-- Whatever happens before anybody is told, the actor is powerless. -/
  departs : ∀ between, Powerless k ((e.consequences k).run k between) n
  /-- To tell of it, and to let the loop of the actor end, leaves everybody else alone. -/
  concludes : ∀ between, let e' := (e.consequences k).run k between
    LeavesOthers n e' (e'.conclude k n event) ∧
      (e'.conclude k n event).published = e'.published ++ [event]
  /-- Whatever happens from then on, the actor stays powerless. -/
  departed : ∀ between later,
    Powerless k ((((e.consequences k).run k between).conclude k n event).run k later) n

/-- In every run, if a second creation is refused as such, and the stores accept the deletion of all
records of the identifier. -/
theorem destroysForGood_run {k : LifecycleKind σ ω δ κ W} (hk : k.Lawful) {Creates : ω → Prop}
    {known : DeployableId → Verdict} {Unrecorded : W → DeployableId → Prop}
    (hknown : ∀ settings stateOf w op, Creates op → (stateOf (k.target op)).isSome = true →
      k.review settings stateOf w op = known (k.target op))
    (hrefusal : ∀ id, (known id).isSuccess = false) (settings : EngineSettings) (world : W)
    (events : List (EngineEvent σ ω δ W)) {e : LifecycleEngine σ ω δ κ W}
    (he : e = (start settings world).run k events) {n : Nat} {reached : Snapshot σ δ}
    {rest : List (Nat × Snapshot σ δ)} (hchanges : e.changes = (n, reached) :: rest)
    (hgone : k.isGone reached.state = true) {r : Resident σ ω δ κ} (hr : e.resident? n = some r)
    (hregistered : e.registered? r.id = some n)
    (hforget : Unrecorded (k.forget e.world r.id) r.id) :
    DestroysForGood k Creates known Unrecorded (start settings world) events e n r.id
      (k.event r.id r.name r.version reached.state) := by
  have hstart : Sound k (start settings world) := sound_start k settings world
  have hsound : Sound k e := he ▸ hstart.run hk events
  have hconsequences := consequences_of_gone (k := k) hchanges hr hgone hregistered
  have hsound' : Sound k (e.consequences k) := sound_consequences hk hsound
  have hdeparted : Departed k (e.consequences k) n :=
    departed_consequences hk hsound hchanges hr hgone hregistered
  refine
    { taken := ?_
      unregistered := ?_
      unrecorded := ?_
      untold := ?_
      told := handleChange_eq_conclude hchanges hr
      departs := fun between => (hdeparted.run hk hsound' between).powerless
      concludes := fun between => ⟨leavesOthers_conclude k _ n _, published_update _ n _⟩
      departed := fun between later => ?_ }
  · rintro before after rfl hfounded
    have hheld : ((start settings world).run k before).registered? r.id = some n := by
      rw [he, run, List.foldl_append] at hregistered
      exact registered?_of_run hregistered hfounded
    refine ⟨hheld, fun op hcreates htarget => ?_⟩
    obtain ⟨s, hs, -⟩ := (hstart.run hk before).registered r.id n hheld
    refine handle_of_review ?_ (hrefusal r.id)
    rw [← htarget]
    refine hknown _ _ _ op hcreates ?_
    rw [htarget, stateOf, hheld, Option.bind_some, hs]
    rfl
  · rw [hconsequences]
    exact SortedMap.find?_erase_self _ _
  · rw [hconsequences]
    exact hforget
  · rw [hconsequences]
  · have hbetween := hdeparted.run hk hsound' between
    obtain ⟨hconcluded, hsound''⟩ := hbetween.conclude (hsound'.run hk between)
      (k.event r.id r.name r.version reached.state)
    exact (hconcluded.run hk hsound'' later).powerless

/-- Take any run of either engine over stores that accept deletions, and any registered actor whose
deployable is destroyed.  Its identifier was taken ever since the actor was founded; before the
event is published, the registration has ended and all records are gone; and from then on nothing
that the actor does reaches anybody else, whoever is created for the identifier and when. -/
theorem destroys_for_good (settings : EngineSettings) (n : Nat) :
    (∀ (world : ApplicationStores) events reached rest r,
      let first : ApplicationEngine := start settings world
      let e : ApplicationEngine := first.run Application.kind events
      e.changes = (n, reached) :: rest → reached.state = .destroyed → e.resident? n = some r →
      e.registered? r.id = some n →
      e.world.records.accepting = true → e.world.instances.accepting = true →
      DestroysForGood Application.kind (fun op => op.opType = .create)
        (fun id => .failure ("App " ++ id.text ++ " already exists"))
        (fun w id => w.recordsOf id = (none, ∅)) first events e n r.id
        (.applicationStateChange r.id r.name r.version .destroyed)) ∧
    (∀ (world : LocalServiceStores) events reached rest r,
      let first : LocalServiceEngine := start settings world
      let e : LocalServiceEngine := first.run LocalService.kind events
      e.changes = (n, reached) :: rest → reached.state = .destroyed → e.resident? n = some r →
      e.registered? r.id = some n →
      e.world.records.accepting = true → e.world.instances.accepting = true →
      DestroysForGood LocalService.kind (fun op => op.opType = .create)
        (fun id => .failure ("Local service " ++ id.text ++ " already exists"))
        (fun w id => w.recordsOf id = (none, ∅)) first events e n r.id
        (.localServiceStateChange r.id r.name r.version .destroyed)) := by
  constructor
  · intro world events reached rest r first e hchanges hstate hr hregistered hrecords hinstances
    have hgone : Application.kind.isGone reached.state = true := by
      simp [Application.kind, hstate]
    rw [← hstate]
    exact destroysForGood_run Application.lawful_kind
      (fun settings _ w _ hcreates => Application.review_of_known settings.admission w hcreates)
      (fun _ => rfl) settings world events rfl hchanges hgone hr hregistered
      (ApplicationStores.recordsOf_forget_self hrecords hinstances r.id)
  · intro world events reached rest r first e hchanges hstate hr hregistered hrecords hinstances
    have hgone : LocalService.kind.isGone reached.state = true := by
      simp [LocalService.kind, hstate]
    rw [← hstate]
    exact destroysForGood_run LocalService.lawful_kind
      (fun settings _ w _ hcreates => LocalService.review_of_known settings.admission w hcreates)
      (fun _ => rfl) settings world events rfl hchanges hgone hr hregistered
      (LocalServiceStores.recordsOf_forget_self hrecords hinstances r.id)

/-- An application is destroyed, and created again before anybody is told.  The event is published,
the loop of the old actor ends, and the new actor records the application.  Then the old actor is
stopped, and the new one keeps its registration, its place and its record. -/
theorem recreated_application_kept :
    let shop : ApplicationSpec :=
      { name := "SHOP", version := "1", executable := { image := "shop" }
        resources := ResourceRequirement.ofCoresAndMemory 1 512 }
    let record : ApplicationRecord := .ofSpec .epoch shop 0
    let w : ApplicationStores := { now := .epoch }
    let written : ApplicationStores :=
      { w with records := { root := SortedMap.insert ∅ shop.id record } }
    let settle (n : Nat) : List (EngineEvent ApplicationState ApplicationOperation
        ApplicationRecord ApplicationStores) :=
      [.begin n, .work n written, .acknowledge n,
        .finish n (.ok (some ⟨.monitoring, record, none⟩)), .handleChange]
    let creation : ApplicationOperation := .create shop 0 {}
    let events := .handle creation :: settle 0 ++
      [.handle (.destroy shop.id {}), .begin 0, .route 0, .handleChange, .begin 0, .acknowledge 0,
        .finish 0 (.ok (some ⟨.destroyed, record, none⟩))]
    let e : ApplicationEngine := (start {} w).run Application.kind events
    let freed : ApplicationEngine := e.consequences Application.kind
    let recreated : ApplicationEngine := freed.run Application.kind [.handle creation]
    let told : ApplicationEngine := recreated.conclude Application.kind 0
      (.applicationStateChange shop.id "SHOP" "1" .destroyed)
    let settled : ApplicationEngine := told.run Application.kind (settle 1)
    let reaped : ApplicationEngine := settled.step Application.kind .reap
    e.registered? shop.id = some 0 ∧
      e.handle Application.kind creation =
        (e, .failure ("App " ++ shop.id.text ++ " already exists")) ∧
      freed.registered? shop.id = none ∧ freed.world.recordsOf shop.id = (none, ∅) ∧
      recreated.registered? shop.id = some 1 ∧ told.registered? shop.id = some 1 ∧
      told.resident? 1 = recreated.resident? 1 ∧ settled.ended = [0] ∧
      reaped.registered? shop.id = some 1 ∧ reaped.resident? 1 = settled.resident? 1 ∧
      (reaped.world.record? shop.id).isSome = true := by
  intro shop record w written settle creation events e freed recreated told settled reaped
  have hrun : e.changes.map (fun c => (c.1, c.2.state)) = [(0, .destroyed)] ∧
      (e.resident? 0).map (fun r => (r.id, r.name, r.version)) = some (shop.id, "SHOP", "1") ∧
      e.registered? shop.id = some 0 ∧ e.world.records.accepting = true ∧
      e.world.instances.accepting = true ∧ recreated.registered? shop.id = some 1 ∧
      settled.ended = [0] ∧ settled.registered? shop.id = some 1 ∧
      (settled.world.record? shop.id).isSome = true := by
    simp only [settled, told, recreated, freed, e, events, creation, settle, written, w, record,
      shop]
    decide +kernel
  obtain ⟨hwaiting, hresident, hregistered, hrecords, hinstances, hagain, hended, hheld, hrecord⟩ :=
    hrun
  obtain ⟨⟨n, reached⟩, rest, hchanges, hhead, -⟩ := List.map_eq_cons_iff.1 hwaiting
  obtain ⟨rfl, hstate⟩ := Prod.mk.inj hhead
  obtain ⟨r, hr, hnamed⟩ := Option.map_eq_some_iff.1 hresident
  obtain ⟨hid, hname, hversion⟩ : r.id = shop.id ∧ r.name = "SHOP" ∧ r.version = "1" :=
    ⟨congrArg (·.1) hnamed, congrArg (·.2.1) hnamed, congrArg (·.2.2) hnamed⟩
  have hfounded : 0 < e.next :=
    ((sound_start Application.kind {} w).run Application.lawful_kind events).fresh 0 r hr
  have hheld' : e.registered? r.id = some 0 := by rw [hid, hregistered]
  -- Stated of `e`, they would have the unifier evaluate the run.
  simp only [e] at hrecords hinstances
  have hgood : DestroysForGood Application.kind (fun op => op.opType = .create)
      (fun id => .failure ("App " ++ id.text ++ " already exists"))
      (fun w id => w.recordsOf id = (none, ∅)) (start {} w) events e 0 r.id
      (.applicationStateChange r.id r.name r.version .destroyed) :=
    (destroys_for_good {} 0).1 w events reached rest r hchanges hstate hr hheld' hrecords
      hinstances
  rw [hid, hname, hversion] at hgood
  have htaken : e.handle Application.kind creation =
      (e, .failure ("App " ++ shop.id.text ++ " already exists")) :=
    (hgood.taken events [] (List.append_nil _).symm hfounded).2 creation rfl rfl
  have hfreed : freed.registered? shop.id = none := hgood.unregistered
  have hunrecorded : freed.world.recordsOf shop.id = (none, ∅) := hgood.unrecorded
  have htold : LeavesOthers 0 recreated told := (hgood.concludes [.handle creation]).1
  have hreaps : EngineEvent.isStepOf settled 0 (.reap : EngineEvent ApplicationState
      ApplicationOperation ApplicationRecord ApplicationStores) = true := by
    simp only [EngineEvent.isStepOf, hended, List.head?_cons, decide_true]
  have hreaped : LeavesOthers 0 settled reaped :=
    (hgood.departed [.handle creation] (settle 1)).steps .reap hreaps
  -- From here on, what the states are no longer matters, and must not be computed.
  clear_value reaped settled told recreated freed e
  have hkept : reaped.registered? shop.id = settled.registered? shop.id :=
    congrArg (SortedMap.find? · shop.id) hreaped.registry
  have hkept' : told.registered? shop.id = recreated.registered? shop.id :=
    congrArg (SortedMap.find? · shop.id) htold.registry
  exact ⟨hregistered, htaken, hfreed, hunrecorded, hagain, hkept'.trans hagain,
    htold.others 1 (by decide), hended, hkept.trans hheld, hreaped.others 1 (by decide),
    hreaped.world ▸ hrecord⟩

end LifecycleEngine
end Orchestration
