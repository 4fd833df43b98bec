import Orchestration.Proofs.Lifecycle.Run

/-!
# One actor among many

What an engine does to one of its actors while it handles no state of it.  The pending operation may
be acknowledged, and an operation may be staged into an empty slot, but one pending operation is
never replaced by another in a single event.  The state may change, and then the loop is held up
until that is handled.

Main results:

- `Actor.Evolves.step`, `Actor.Continues.step`: the events of an actor.
- `LifecycleEngine.follows_step`: the events of an engine, seen by one actor.
- `LifecycleEngine.Sound.world_step_cases`: the events of an engine, seen by its stores.
- `LifecycleEngine.keeps_step`: the events of an engine that submits no operations to itself,
  removals included, seen by one actor.
-/

namespace Orchestration

namespace Actor

variable {σ υ δ κ : Type} [DecidableEq σ]

omit [DecidableEq σ] in
/-- What may happen to an actor while no state of it is handled. -/
structure Evolves (a a' : Actor σ υ δ κ) : Prop where
  pending : ∀ u, a.machine.slot.pending = some u →
    a'.machine.slot.pending = some u ∨ a'.machine.slot.pending = none
  settled : a'.Settled → a.Settled ∧ a'.machine.current = a.machine.current
  exited : a.phase = .exited → a'.phase = .exited

omit [DecidableEq σ] in
/-- An actor that nothing happens to evolves. -/
theorem Evolves.refl (a : Actor σ υ δ κ) : Evolves a a where
  pending _ h := Or.inl h
  settled h := ⟨h, rfl⟩
  exited h := h

/-- An event of the actor in which no state of it is handled. -/
theorem Evolves.step (b : Blueprint σ κ) {a : Actor σ υ δ κ} (ha : a.Consistent)
    {e : ActorEvent σ υ δ} (hhandled : e ≠ .handled) (habort : e ≠ .abort)
    (hfinish : ∀ r, e ≠ .finish false r) : Evolves a (a.step b e) where
  pending u hu := by
    rcases pending_step b a e with hsame | hnone | ⟨hfree, -⟩
    · left
      rw [hsame, hu]
    · exact Or.inr hnone
    · rw [hu] at hfree
      cases hfree
  settled h := Settled.of_step ha b hhandled habort hfinish h
  exited h := phase_step_of_exited ha h b e

/-- The action in flight returns after that. -/
theorem Evolves.finish {a a' : Actor σ υ δ κ} (h : Evolves a a') (ha' : a'.Consistent)
    (b : Blueprint σ κ) (r : ActionResult σ δ) : Evolves a (a'.step b (.finish true r)) where
  pending u hu := by
    rw [Actor.step, slot_finish]
    exact h.pending u hu
  settled hs := by
    obtain ⟨hs', hcurrent⟩ := Settled.of_step ha' b (by simp) (by simp) (by simp) hs
    obtain ⟨hs, hcurrent'⟩ := h.settled hs'
    exact ⟨hs, hcurrent.trans hcurrent'⟩
  exited hexited := phase_step_of_exited ha' (h.exited hexited) b _

omit [DecidableEq σ] in
/-- What may happen to an actor that nobody notifies while no state of it is handled.  The loop may
be cut off. -/
structure Continues (a a' : Actor σ υ δ κ) : Prop where
  going : a'.Going → a.Going ∧ a'.machine.current = a.machine.current
  pending : ∀ u, a'.machine.slot.pending = some u → a.machine.slot.pending = some u

omit [DecidableEq σ] in
/-- An actor that nothing happens to continues. -/
theorem Continues.refl (a : Actor σ υ δ κ) : Continues a a where
  going h := ⟨h, rfl⟩
  pending _ h := h

omit [DecidableEq σ] in
/-- Whoever continues twice continues. -/
theorem Continues.trans {a a' a'' : Actor σ υ δ κ} (h : Continues a a') (h' : Continues a' a'') :
    Continues a a'' where
  going hgoing := by
    obtain ⟨hgoing', hcurrent'⟩ := h'.going hgoing
    obtain ⟨hgoing, hcurrent⟩ := h.going hgoing'
    exact ⟨hgoing, hcurrent'.trans hcurrent⟩
  pending u hu := h.pending u (h'.pending u hu)

/-- An event of the actor that is no notification, and in which no state of it is handled. -/
theorem Continues.step (b : Blueprint σ κ) {a : Actor σ υ δ κ} (ha : a.Consistent)
    {e : ActorEvent σ υ δ} (hnotify : ∀ u, e ≠ .notify u) (hhandled : e ≠ .handled)
    (hfinish : ∀ r, e ≠ .finish false r) : Continues a (a.step b e) where
  going h := h.of_step ha b hhandled hfinish
  pending _ hu := pending_of_step hnotify hu

end Actor

/-- An event handles a state that an actor reached. -/
def EngineEvent.handlesStateOf {σ ω δ κ W : Type} (e : LifecycleEngine σ ω δ κ W) (n : Nat) :
    EngineEvent σ ω δ W → Bool
  | .handleChange => e.changes.head?.map Prod.fst = some n
  | _ => false

namespace LifecycleEngine

variable {σ ω δ κ W : Type} [DecidableEq σ] [DecidableEq κ]

omit [DecidableEq σ] [DecidableEq κ] in
/-- Seen by the actor of a number, one engine follows another while no state of that actor is
handled: the actor evolves, or it has just been founded. -/
def Follows (k : LifecycleKind σ ω δ κ W) (n : Nat) (e e' : LifecycleEngine σ ω δ κ W) : Prop :=
  ∀ r', e'.resident? n = some r' →
    (∃ r, e.resident? n = some r ∧ r'.id = r.id ∧ r.actor.Evolves r'.actor) ∨
    (e.resident? n = none ∧ r'.actor.machine.current.state = k.initial)

omit [DecidableEq σ] [DecidableEq κ] in
/-- Nothing happened to the actor. -/
theorem Follows.of_eq {k : LifecycleKind σ ω δ κ W} {n : Nat} {e e' : LifecycleEngine σ ω δ κ W}
    (h : e'.resident? n = e.resident? n) : Follows k n e e' := by
  intro r' hr'
  rw [h] at hr'
  exact Or.inl ⟨r', hr', rfl, Actor.Evolves.refl _⟩

omit [DecidableEq σ] [DecidableEq κ] in
/-- Where nothing happens to the actor afterwards, it follows all the same. -/
theorem Follows.then_eq {k : LifecycleKind σ ω δ κ W} {n : Nat}
    {e e' e'' : LifecycleEngine σ ω δ κ W} (h : Follows k n e e')
    (heq : e''.resident? n = e'.resident? n) : Follows k n e e'' := by
  intro r' hr'
  rw [heq] at hr'
  exact h r' hr'

omit [DecidableEq σ] [DecidableEq κ] in
/-- A change of one actor founds nobody. -/
theorem resident?_update_of_none {e : LifecycleEngine σ ω δ κ W} {n : Nat} (m : Nat)
    (change : Actor σ ω δ κ → Actor σ ω δ κ) (h : e.resident? n = none) :
    (e.update m change).resident? n = none := by
  cases hr' : (e.update m change).resident? n with
  | none => rfl
  | some r' =>
      obtain ⟨r, hr, -⟩ := exists_of_resident?_update hr'
      rw [h] at hr
      cases hr

omit [DecidableEq κ] in
/-- An event of an actor in which no state of it is handled. -/
theorem Follows.update {k : LifecycleKind σ ω δ κ W} {e : LifecycleEngine σ ω δ κ W}
    (he : Sound k e) (n m : Nat) (ev : ActorEvent σ ω δ) (hhandled : ev ≠ .handled)
    (habort : ev ≠ .abort) (hfinish : ∀ r, ev ≠ .finish false r) :
    Follows k n e (e.update m (·.step k.blueprint ev)) := by
  intro r' hr'
  obtain ⟨r, hr, rfl⟩ := exists_of_resident?_update hr'
  refine Or.inl ⟨r, hr, rfl, ?_⟩
  by_cases hm : n = m
  · simpa [hm] using
      Actor.Evolves.step k.blueprint (he.reachable n r hr).consistent hhandled habort hfinish
  · simpa [hm] using Actor.Evolves.refl r.actor

omit [DecidableEq κ] in
/-- The return of an action in flight, after whatever else. -/
theorem Follows.finish {k : LifecycleKind σ ω δ κ W} {n : Nat}
    {e e' : LifecycleEngine σ ω δ κ W} (h : Follows k n e e')
    (hnone : e.resident? n = none → e'.resident? n = none) (he' : Sound k e')
    (m : Nat) (r : ActionResult σ δ) : Follows k n e (e'.finish k m r) := by
  have hupdate : Follows k n e (e'.update m (·.step k.blueprint (.finish true r))) := by
    intro s' hs'
    obtain ⟨s, hs, rfl⟩ := exists_of_resident?_update hs'
    obtain ⟨s₀, hs₀, hid, hevolves⟩ | ⟨hfounded, -⟩ := h s hs
    · refine Or.inl ⟨s₀, hs₀, hid, ?_⟩
      by_cases hm : n = m
      · simpa [hm] using hevolves.finish (he'.reachable n s hs).consistent k.blueprint r
      · simpa [hm] using hevolves
    · rw [hnone hfounded] at hs
      cases hs
  rw [finish_eq]
  dsimp only
  split
  · exact hupdate.then_eq rfl
  · exact hupdate

omit [DecidableEq κ] in
/-- An operation of a client or of the engine itself. -/
theorem Follows.handle {k : LifecycleKind σ ω δ κ W} {e : LifecycleEngine σ ω δ κ W}
    (he : Sound k e) (n : Nat) (op : ω) : Follows k n e (e.handle k op).1 := by
  rcases e.handle_cases k op with heq | ⟨m, -, heq⟩ | ⟨f, -, heq⟩
  · rw [heq]
    exact Follows.of_eq rfl
  · rw [heq]
    exact Follows.update he n m (.notify (k.canonical e.settings e.world op))
      (by simp) (by simp) (by simp)
  · rw [heq]
    intro r' hr'
    rw [resident?_found] at hr'
    split at hr'
    · rename_i hn
      right
      constructor
      · cases hresident : e.resident? n with
        | none => rfl
        | some r => exact absurd (he.fresh n r hresident) (by omega)
      · cases hr'
        rfl
    · exact Or.inl ⟨r', hr', rfl, Actor.Evolves.refl _⟩

omit [DecidableEq κ] in
/-- What follows from a state that an actor reached. -/
theorem Follows.react {k : LifecycleKind σ ω δ κ W} {e : LifecycleEngine σ ω δ κ W}
    (he : Sound k e) (n : Nat) (id : DeployableId) (state : σ) (pending : Option ω) :
    Follows k n e (e.react k id state pending) := by
  unfold LifecycleEngine.react
  split
  · unfold deregisterWith
    split <;> exact Follows.of_eq rfl
  · dsimp only
    split
    · have hworld : Sound k { e with world := (k.react e.settings e.world id state pending).1 } :=
        he.of_eq rfl rfl rfl rfl
      exact Follows.handle hworld n _
    · exact Follows.of_eq rfl

omit [DecidableEq κ] in
/-- The handling of a state of another actor. -/
theorem Follows.handleChange {k : LifecycleKind σ ω δ κ W} {e : LifecycleEngine σ ω δ κ W}
    (he : Sound k e) {n : Nat} (hn : EngineEvent.handleChange.handlesStateOf e n = false) :
    Follows k n e (e.handleChange k) := by
  cases hchanges : e.changes with
  | nil =>
      simp only [LifecycleEngine.handleChange, hchanges]
      exact Follows.of_eq rfl
  | cons change rest =>
      obtain ⟨m, reached⟩ := change
      have hm : n ≠ m := by
        rintro rfl
        simp [EngineEvent.handlesStateOf, hchanges] at hn
      obtain ⟨hrest, -⟩ := he.dequeue hchanges
      obtain ⟨r, hr, -⟩ := he.reached m reached (by simp [hchanges])
      have hreact : Follows k n e (LifecycleEngine.react k { e with changes := rest } r.id
          reached.state r.actor.machine.slot.pending) :=
        Follows.react hrest n r.id reached.state r.actor.machine.slot.pending
      rw [handleChange_eq k hchanges hr]
      exact hreact.then_eq (resident?_update_of_ne _ m _ hm)

/-- Seen by an actor of which no state is handled, every event that is no removal is followed. -/
theorem follows_step {k : LifecycleKind σ ω δ κ W} {e : LifecycleEngine σ ω δ κ W}
    (he : Sound k e) {n : Nat} {ev : EngineEvent σ ω δ W} (hev : ev.isRemoval = false)
    (hn : ev.handlesStateOf e n = false) : Follows k n e (e.step k ev) := by
  have hmove := e.move_step k ev
  generalize e.step k ev = e' at hmove ⊢
  cases hmove with
  | ignored => exact Follows.of_eq rfl
  | submitted op => exact Follows.handle he n op
  | deregistered id => cases hev
  | stopped => cases hev
  | cutOff m => cases hev
  | began m => exact Follows.update he n m .begin (by simp) (by simp) (by simp)
  | routed m acting r => exact (Follows.of_eq rfl).finish id he m r
  | dropped m acting r =>
      have hsound := he.update m .acknowledge (by simp) (by simp)
      exact (Follows.update he n m .acknowledge (by simp) (by simp) (by simp)).finish
        (resident?_update_of_none m _) hsound m r
  | worked m supplied world => exact Follows.of_eq rfl
  | acknowledged m acting =>
      exact Follows.update he n m .acknowledge (by simp) (by simp) (by simp)
  | returned m acting r => exact (Follows.of_eq rfl).finish id he m r
  | paused m => exact Follows.update he n m .elapsed (by simp) (by simp) (by simp)
  | resumed m => exact Follows.update he n m .resume (by simp) (by simp) (by simp)
  | changed => exact Follows.handleChange he hn
  | reaped m rest =>
      have hended : Sound k { e with ended := rest } := he.of_eq rfl rfl rfl rfl
      exact Follows.update hended n m .requestStop (by simp) (by simp) (by simp)
  | given world => exact Follows.of_eq rfl

omit [DecidableEq κ] in
/-- The state that is handled is signalled by its actor, unless that was cut off. -/
theorem Sound.reached_of_handlesStateOf {k : LifecycleKind σ ω δ κ W}
    {e : LifecycleEngine σ ω δ κ W} (h : Sound k e) {n : Nat} {ev : EngineEvent σ ω δ W}
    (hn : ev.handlesStateOf e n = true) :
    ∃ reached rest r, ev = .handleChange ∧ e.changes = (n, reached) :: rest ∧
      e.resident? n = some r ∧ r.actor.Reached reached := by
  cases ev with
  | handleChange =>
      cases hchanges : e.changes with
      | nil => simp [EngineEvent.handlesStateOf, hchanges] at hn
      | cons change rest =>
          obtain ⟨m, reached⟩ := change
          have hm : m = n := by simpa [EngineEvent.handlesStateOf, hchanges] using hn
          subst hm
          obtain ⟨r, hr, hreached⟩ := h.reached m reached (by simp [hchanges])
          exact ⟨reached, rest, r, rfl, rfl, hr, hreached⟩
  | _ => cases hn

omit [DecidableEq κ] in
/-- An operation is offered to an actor, or does not concern it. -/
theorem resident?_handle {k : LifecycleKind σ ω δ κ W} {e : LifecycleEngine σ ω δ κ W}
    (he : Sound k e) (op : ω) {n : Nat} {r : Resident σ ω δ κ} (hr : e.resident? n = some r) :
    (e.handle k op).1.resident? n = some r ∨
    (e.handle k op).1.resident? n = some { r with
      actor := r.actor.step k.blueprint (.notify (k.canonical e.settings e.world op)) } := by
  rcases e.handle_cases k op with heq | ⟨m, -, heq⟩ | ⟨f, -, heq⟩
  · rw [heq]
    exact Or.inl hr
  · rw [heq, stage, resident?_update_of_some hr]
    split
    · exact Or.inr rfl
    · exact Or.inl rfl
  · have hn : n ≠ e.next := Nat.ne_of_lt (he.fresh n r hr)
    rw [heq, resident?_found, if_neg hn]
    exact Or.inl hr

omit [DecidableEq κ] in
/-- What follows from a reached state for an actor: the engine may offer it an operation. -/
theorem resident?_react {k : LifecycleKind σ ω δ κ W} {e : LifecycleEngine σ ω δ κ W}
    (he : Sound k e) (id : DeployableId) (state : σ) (pending : Option ω) {n : Nat}
    {r : Resident σ ω δ κ} (hr : e.resident? n = some r) :
    (e.react k id state pending).resident? n = some r ∨
    ∃ world op, k.react e.settings e.world id state pending = (world, some op) ∧
      (e.react k id state pending).resident? n = some { r with
        actor := r.actor.step k.blueprint (.notify (k.canonical e.settings world op)) } := by
  cases hgone : k.isGone state with
  | true =>
      left
      rw [react, if_pos hgone, deregisterWith]
      split <;> exact hr
  | false =>
      rw [react_of_not_gone hgone]
      rcases hreact : k.react e.settings e.world id state pending with ⟨world, _ | op⟩
      · exact Or.inl hr
      · have hworld : Sound k { e with world := world } := he.of_eq rfl rfl rfl rfl
        rcases resident?_handle hworld op hr with hsame | hoffered
        · exact Or.inl hsame
        · exact Or.inr ⟨world, op, rfl, hoffered⟩

omit [DecidableEq κ] in
/-- The actor whose state is handled keeps its machine, unless the engine offers it the operation
that follows from the state. -/
theorem resident?_handleChange {k : LifecycleKind σ ω δ κ W} {e : LifecycleEngine σ ω δ κ W}
    (he : Sound k e) {n : Nat} {reached : Snapshot σ δ} {rest : List (Nat × Snapshot σ δ)}
    {r : Resident σ ω δ κ} (hchanges : e.changes = (n, reached) :: rest)
    (hr : e.resident? n = some r) :
    ∃ r', (e.handleChange k).resident? n = some r' ∧ r'.id = r.id ∧
      (r'.actor.machine = r.actor.machine ∨
        ∃ world op, k.react e.settings e.world r.id reached.state r.actor.machine.slot.pending =
            (world, some op) ∧
          r'.actor.machine = (r.actor.notify (k.canonical e.settings world op)).1.machine) := by
  have hmachine : ∀ a : Actor σ ω δ κ, (a.step k.blueprint .handled).machine = a.machine := by
    intro a
    simp only [Actor.step, Actor.acknowledged]
    split <;> simp
  let e₁ := LifecycleEngine.react k { e with changes := rest } r.id reached.state
    r.actor.machine.slot.pending
  have hgoes : ∀ s, e₁.resident? n = some s → ∃ r', (e.handleChange k).resident? n = some r' ∧
      r'.id = s.id ∧ r'.actor.machine = s.actor.machine := by
    intro s hs
    have hs' : (e₁.publish (k.event r.id r.name r.version reached.state)).resident? n = some s := hs
    rw [handleChange_eq k hchanges hr]
    exact ⟨_, resident?_update_of_some hs' n _, rfl, by simp [hmachine]⟩
  obtain ⟨hrest, -⟩ := he.dequeue hchanges
  rcases resident?_react hrest r.id reached.state r.actor.machine.slot.pending hr with
    hsame | ⟨world, op, hreact, hoffered⟩
  · obtain ⟨r', hr', hid, hsame⟩ := hgoes r hsame
    exact ⟨r', hr', hid, Or.inl hsame⟩
  · obtain ⟨r', hr', hid, hoffered⟩ := hgoes _ hoffered
    exact ⟨r', hr', hid, Or.inr ⟨world, op, hreact, hoffered⟩⟩

/-! ## Pending operations and stores -/

omit [DecidableEq σ] [DecidableEq κ] in
/-- The actor with an action in flight. -/
theorem acting_of_action? {e : LifecycleEngine σ ω δ κ W} {n : Nat} {action : κ}
    (h : e.action? n = some action) :
    ∃ r t, e.resident? n = some r ∧ r.actor.phase = .acting t ∧ t.action = action := by
  obtain ⟨r, hr, haction⟩ := Option.bind_eq_some_iff.1 h
  cases hphase : r.actor.phase with
  | acting t =>
      rw [hphase] at haction
      exact ⟨r, t, hr, hphase, Option.some.inj haction⟩
  | _ =>
      rw [hphase] at haction
      cases haction

omit [DecidableEq σ] [DecidableEq κ] in
/-- The operation that is pending for the actor of a number. -/
def pending? (e : LifecycleEngine σ ω δ κ W) (n : Nat) : Option ω :=
  (e.resident? n).bind (·.actor.machine.slot.pending)

omit [DecidableEq σ] [DecidableEq κ] in
/-- While no state of an actor is handled, its pending operation stays or is acknowledged. -/
theorem Follows.pending?_eq {k : LifecycleKind σ ω δ κ W} {n : Nat}
    {e e' : LifecycleEngine σ ω δ κ W} (h : Follows k n e e') {op : ω}
    (hop : e.pending? n = some op) : e'.pending? n = some op ∨ e'.pending? n = none := by
  obtain ⟨r, hr, hpending⟩ := Option.bind_eq_some_iff.1 hop
  unfold pending?
  cases hr' : e'.resident? n with
  | none => exact Or.inr rfl
  | some r' =>
      obtain ⟨r₀, hr₀, -, hevolves⟩ | ⟨hnone, -⟩ := h r' hr'
      · rw [hr] at hr₀
        cases hr₀
        exact hevolves.pending op hpending
      · rw [hr] at hnone
        cases hnone

omit [DecidableEq κ] in
/-- For the actors the return of an action is no more than that. -/
theorem resident?_finish (k : LifecycleKind σ ω δ κ W) (e : LifecycleEngine σ ω δ κ W) (n : Nat)
    (r : ActionResult σ δ) (m : Nat) :
    (e.finish k n r).resident? m =
      (e.update n (·.step k.blueprint (.finish true r))).resident? m := by
  rw [finish_eq]
  dsimp only
  split <;> rfl

/-- Routing for one actor leaves the others alone. -/
theorem resident?_step_route_of_ne (k : LifecycleKind σ ω δ κ W) (e : LifecycleEngine σ ω δ κ W)
    {n m : Nat} (h : n ≠ m) : (e.step k (.route m)).resident? n = e.resident? n := by
  have hmove := e.move_step k (.route m)
  generalize e.step k (.route m) = e' at hmove ⊢
  cases hmove with
  | ignored => rfl
  | routed m acting r => rw [resident?_finish, resident?_update_of_ne _ _ _ h]
  | dropped m acting r =>
      rw [resident?_finish, resident?_update_of_ne _ _ _ h, resident?_update_of_ne _ _ _ h]

omit [DecidableEq κ] in
/-- The return of an action leaves the stores alone. -/
@[simp]
theorem world_finish (k : LifecycleKind σ ω δ κ W) (e : LifecycleEngine σ ω δ κ W) (n : Nat)
    (r : ActionResult σ δ) : (e.finish k n r).world = e.world := by
  rw [finish_eq]
  dsimp only
  split <;> simp

omit [DecidableEq σ] [DecidableEq κ] in
/-- To ask actors to stop changes no store. -/
theorem world_requestStops (e : LifecycleEngine σ ω δ κ W) (numbers : List Nat) :
    (numbers.foldl (fun e n => e.update n (fun a => a.requestStop.1)) e).world = e.world := by
  induction numbers generalizing e with
  | nil => rfl
  | cons n rest ih => rw [List.foldl_cons, ih, world_update]

/-- Only supplied actions, others, and the handling of states change the stores. -/
theorem world_step (k : LifecycleKind σ ω δ κ W) (e : LifecycleEngine σ ω δ κ W)
    {ev : EngineEvent σ ω δ W} (hwork : ∀ n world, ev ≠ .work n world)
    (houtside : ∀ world, ev ≠ .outside world) (hhandled : ev ≠ .handleChange) :
    (e.step k ev).world = e.world := by
  have hmove := e.move_step k ev
  generalize e.step k ev = e' at hmove ⊢
  cases hmove with
  | ignored => rfl
  | submitted op => exact world_handle k e op
  | deregistered id => rfl
  | stopped => exact world_requestStops _ _
  | worked n supplied world => exact absurd rfl (hwork n world)
  | changed => exact absurd rfl hhandled
  | given world => exact absurd rfl (houtside world)
  | routed n acting r => exact world_finish k e n r
  | dropped n acting r => rw [world_finish, world_update]
  | returned n acting r => exact world_finish k e n r
  | _ => rw [world_update]

omit [DecidableEq σ] [DecidableEq κ] in
/-- What follows from a reached state for the stores. -/
theorem world_react (k : LifecycleKind σ ω δ κ W) (e : LifecycleEngine σ ω δ κ W)
    (id : DeployableId) (state : σ) (pending : Option ω) :
    (e.react k id state pending).world =
      if k.isGone state then
        if (e.registered? id).isSome then k.forget e.world id else e.world
      else (k.react e.settings e.world id state pending).1 := by
  unfold LifecycleEngine.react
  split
  · unfold deregisterWith
    split <;> simp [*]
  · dsimp only
    split <;> simp

omit [DecidableEq κ] in
/-- The handling of the state that was reached first changes the stores as follows from it. -/
theorem world_handleChange (k : LifecycleKind σ ω δ κ W) {e : LifecycleEngine σ ω δ κ W} {n : Nat}
    {reached : Snapshot σ δ} {rest : List (Nat × Snapshot σ δ)} {r : Resident σ ω δ κ}
    (hchanges : e.changes = (n, reached) :: rest) (hr : e.resident? n = some r) :
    (e.handleChange k).world =
      (e.react k r.id reached.state r.actor.machine.slot.pending).world := by
  rw [handleChange_eq k hchanges hr]
  dsimp only
  rw [world_update, publish, world_react, world_react]
  rfl

/-- The stores after an event: as before, as given by a supplied action or by others, or as follows
from the state that an actor reached. -/
theorem Sound.world_step_cases {k : LifecycleKind σ ω δ κ W} {e : LifecycleEngine σ ω δ κ W}
    (he : Sound k e) (ev : EngineEvent σ ω δ W) :
    (e.step k ev).world = e.world ∨
    (∃ n w, ev = .work n w ∧ (e.step k ev).world = w) ∨
    (∃ w, ev = .outside w ∧ (e.step k ev).world = w) ∨
    ∃ n r state, ev.handlesStateOf e n = true ∧ e.resident? n = some r ∧
      (e.step k ev).world = (e.react k r.id state r.actor.machine.slot.pending).world := by
  cases ev with
  | work n w =>
      simp only [LifecycleEngine.step]
      split
      · exact Or.inr (Or.inl ⟨n, w, rfl, rfl⟩)
      · exact Or.inl rfl
  | outside w => exact Or.inr (Or.inr (Or.inl ⟨w, rfl, rfl⟩))
  | handleChange =>
      cases hchanges : e.changes with
      | nil => simp [LifecycleEngine.step, LifecycleEngine.handleChange, hchanges]
      | cons change rest =>
          obtain ⟨n, reached⟩ := change
          obtain ⟨r, hr, -⟩ := he.reached n reached (by simp [hchanges])
          have hn : EngineEvent.handleChange.handlesStateOf e n = true := by
            simp [EngineEvent.handlesStateOf, hchanges]
          exact Or.inr (Or.inr (Or.inr
            ⟨n, r, reached.state, hn, hr, world_handleChange k hchanges hr⟩))
  | _ => exact Or.inl (world_step k e (by simp) (by simp) (by simp))

/-! ## Actors that nobody notifies -/

omit [DecidableEq σ] [DecidableEq κ] in
/-- Seen by the actor of a number, it continues from one engine to another. -/
def Keeps (n : Nat) (e e' : LifecycleEngine σ ω δ κ W) : Prop :=
  ∀ r', e'.resident? n = some r' →
    ∃ r, e.resident? n = some r ∧ r'.id = r.id ∧ r.actor.Continues r'.actor

section Keeps

variable {k : LifecycleKind σ ω δ κ W} {e e' e'' : LifecycleEngine σ ω δ κ W} {n : Nat}

omit [DecidableEq σ] [DecidableEq κ] in
/-- An actor that is the same continues. -/
theorem Keeps.of_eq (h : e'.resident? n = e.resident? n) : Keeps n e e' := by
  intro r' hr'
  rw [h] at hr'
  exact ⟨r', hr', rfl, .refl _⟩

omit [DecidableEq σ] [DecidableEq κ] in
/-- Whoever continues from engine to engine continues. -/
theorem Keeps.trans (h : Keeps n e e') (h' : Keeps n e' e'') : Keeps n e e'' := by
  intro r'' hr''
  obtain ⟨r', hr', hid', hcontinues'⟩ := h' r'' hr''
  obtain ⟨r, hr, hid, hcontinues⟩ := h r' hr'
  exact ⟨r, hr, hid'.trans hid, hcontinues.trans hcontinues'⟩

omit [DecidableEq κ] in
/-- An event of an actor that is no notification, and in which no state is handled. -/
theorem keeps_update (he : Sound k e) (n m : Nat) {ev : ActorEvent σ ω δ}
    (hnotify : ∀ op, ev ≠ .notify op) (hhandled : ev ≠ .handled)
    (hfinish : ∀ r, ev ≠ .finish false r) : Keeps n e (e.update m (·.step k.blueprint ev)) := by
  by_cases hm : n = m
  · subst hm
    intro r' hr'
    obtain ⟨r, hr, rfl⟩ := exists_of_resident?_update hr'
    refine ⟨r, hr, rfl, ?_⟩
    simpa using
      Actor.Continues.step k.blueprint (he.reachable n r hr).consistent hnotify hhandled hfinish
  · exact .of_eq (resident?_update_of_ne e m _ hm)

omit [DecidableEq κ] in
/-- An actor that is asked to stop, or sees others asked, continues. -/
theorem keeps_requestStops (he : Sound k e) (n : Nat) (numbers : List Nat) :
    Keeps n e (numbers.foldl (fun e m => e.update m (fun a => a.requestStop.1)) e) := by
  induction numbers generalizing e with
  | nil => exact .of_eq rfl
  | cons m rest ih =>
      have hfirst : Keeps n e (e.update m (·.step k.blueprint .requestStop)) :=
        keeps_update he n m (by simp) (by simp) (by simp)
      exact hfirst.trans (ih (he.update m .requestStop (by simp) (by simp)))

omit [DecidableEq κ] in
/-- The return of an action in flight. -/
theorem keeps_finish (he : Sound k e) (n m : Nat) (r : ActionResult σ δ) :
    Keeps n e (e.finish k m r) := by
  have hupdate : Keeps n e (e.update m (·.step k.blueprint (.finish true r))) :=
    keeps_update he n m (by simp) (by simp) (by simp)
  exact hupdate.trans (.of_eq (resident?_finish k e m r n))

omit [DecidableEq σ] [DecidableEq κ] in
/-- Where no operation of the engine itself follows from a state, no actor is touched. -/
theorem resident?_react_of_quiet {id : DeployableId} {state : σ} {pending : Option ω}
    (hquiet : (k.react e.settings e.world id state pending).2 = none) :
    (e.react k id state pending).resident? n = e.resident? n := by
  unfold LifecycleEngine.react
  split
  · unfold deregisterWith
    split <;> rfl
  · dsimp only
    rw [hquiet]
    rfl

omit [DecidableEq κ] in
/-- The handling of a state of another actor. -/
theorem keeps_handleChange (he : Sound k e)
    (hquiet : ∀ settings w id state pending, (k.react settings w id state pending).2 = none)
    (hn : EngineEvent.handleChange.handlesStateOf e n = false) : Keeps n e (e.handleChange k) := by
  cases hchanges : e.changes with
  | nil =>
      simp only [LifecycleEngine.handleChange, hchanges]
      exact .of_eq rfl
  | cons change rest =>
      obtain ⟨m, reached⟩ := change
      have hm : n ≠ m := by
        rintro rfl
        simp [EngineEvent.handlesStateOf, hchanges] at hn
      obtain ⟨r, hr, -⟩ := he.reached m reached (by simp [hchanges])
      rw [handleChange_eq k hchanges hr]
      refine .of_eq ((resident?_update_of_ne _ m _ hm).trans ?_)
      exact resident?_react_of_quiet (e := { e with changes := rest }) (hquiet _ _ _ _ _)

/-- Every event that is no operation of a client and handles no state of the actor, if the engine
submits no operations to itself. -/
theorem keeps_step (he : Sound k e)
    (hquiet : ∀ settings w id state pending, (k.react settings w id state pending).2 = none)
    {ev : EngineEvent σ ω δ W} (hop : ∀ op, ev ≠ .handle op)
    (hn : ev.handlesStateOf e n = false) : Keeps n e (e.step k ev) := by
  have hmove := e.move_step k ev
  generalize e.step k ev = e' at hmove ⊢
  cases hmove with
  | ignored => exact .of_eq rfl
  | submitted op => exact absurd rfl (hop op)
  | deregistered id => exact .of_eq rfl
  | stopped => exact keeps_requestStops he.clear n e.registry.values
  | cutOff m => exact keeps_update he n m (by simp) (by simp) (by simp)
  | began m => exact keeps_update he n m (by simp) (by simp) (by simp)
  | routed m acting r => exact keeps_finish he n m r
  | dropped m acting r =>
      have hsound := he.update m .acknowledge (by simp) (by simp)
      exact (keeps_update he n m (by simp) (by simp) (by simp)).trans (keeps_finish hsound n m r)
  | worked m supplied world => exact .of_eq rfl
  | acknowledged m acting => exact keeps_update he n m (by simp) (by simp) (by simp)
  | returned m acting r => exact keeps_finish he n m r
  | paused m => exact keeps_update he n m (by simp) (by simp) (by simp)
  | resumed m => exact keeps_update he n m (by simp) (by simp) (by simp)
  | changed => exact keeps_handleChange he hquiet hn
  | reaped m rest =>
      have hended : Sound k { e with ended := rest } := he.of_eq rfl rfl rfl rfl
      exact keeps_update hended n m (by simp) (by simp) (by simp)
  | given world => exact .of_eq rfl

end Keeps

end LifecycleEngine
end Orchestration
