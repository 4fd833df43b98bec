import Orchestration.Proofs.Application.Preparation

/-!
# Admission, routing and the transition table

An operation is admitted in the state of its actor and staged in its canonical form.  By the time
that it is routed, other passes may have begun and ended, and operations can be staged while the
actor scales or by the engine itself.  Four tables have to agree for routing to succeed: what a
state allows, which forms are canonical, where an operation is routed to, and where a transition may
lead.

They agree because of what can be pending in a state.  In the states that allow operations, a
pending operation is one of those.  In the others it is the operation that the action of the state
is there to deal with, and the action acknowledges it before it moves on.

Main results:

- `Application.Staged.of_review`: an admitted operation is staged in a form that the state allows.
- `Application.Staged.route`: an operation that a waiting state allows is routed along a transition.
- `Application.Tidy.step`, `Application.Tidy.run`: what may be pending in a state.
- `Application.routing_never_fails`: routing ends every pass where the table allows it.
-/

namespace Orchestration

/-- The machine of an application in its loop. -/
abbrev ApplicationActor : Type :=
  Actor ApplicationState ApplicationOperation ApplicationRecord ApplicationAction

namespace Application

@[simp]
theorem blueprint_kind : kind.blueprint = blueprint :=
  rfl

/-! ## Operations and the states that allow them -/

/-- An operation is in canonical form and of a kind that a state allows. -/
def Staged (s : ApplicationState) (op : ApplicationOperation) : Prop :=
  op.opType ∈ allowed s ∧ op.opType ≠ .startInstances ∧ op.opType ≠ .suspend

/-- The kind of an operation that is admitted in a state is one that the state allows: a second
creation is refused. -/
theorem opType_mem_allowed {settings : AdmissionSettings}
    {stateOf : DeployableId → Option ApplicationState} {w : ApplicationStores}
    {op : ApplicationOperation} {s : ApplicationState} (hstate : stateOf op.appId = some s)
    (h : (review settings stateOf w op).isSuccess = true) : op.opType ∈ allowed s := by
  unfold review at h
  simp only [hstate] at h
  split at h
  · cases h
  · cases hrefusal : Admission.byState op.appId "app" (Named.name s) op.opType (allowed s) with
    | none => exact Admission.byState_eq_none_iff.1 hrefusal
    | some refusal =>
        have hrefused : refusal.isSuccess = false := Admission.isSuccess_of_byState hrefusal
        cases op with
        | create spec n opSpec => simp [ApplicationOperation.opType, reviewInState] at h
        | _ =>
            simp only [ApplicationOperation.opType] at h hrefusal
            rw [hrefusal, hrefused] at h
            cases h

/-- An operation that is admitted in a state is staged in a form that the state allows: wherever
instances may be started or the application suspended, it may be scaled. -/
theorem Staged.of_review {settings : AdmissionSettings}
    {stateOf : DeployableId → Option ApplicationState} {w : ApplicationStores}
    {op : ApplicationOperation} {s : ApplicationState} (hstate : stateOf op.appId = some s)
    (h : (review settings stateOf w op).isSuccess = true) (settings' : EngineSettings)
    (w' : ApplicationStores) : Staged s (canonical settings' w' op) := by
  have hmem := opType_mem_allowed hstate h
  cases op <;> cases s <;>
    simp_all [Staged, allowed, canonical, ApplicationOperation.opType]

/-- An operation that a waiting state allows is routed along the transition of the state.  It stays
pending, and where it is routed to it is allowed as well, or no operation is. -/
theorem Staged.route {s : ApplicationState} {op : ApplicationOperation} (h : Staged s op)
    (hwaits : s = .monitoring ∨ s = .running) {δ : Type} (current : Snapshot ApplicationState δ) :
    ∃ s' t, Application.route (some op) current = { result := .ok (some (current.move s')) } ∧
      blueprint.transition? s = some t ∧ s' ∈ t.targets ∧ (allowed s' = [] ∨ Staged s' op) := by
  rcases hwaits with rfl | rfl
  · cases op <;> simp [Staged, allowed, ApplicationOperation.opType] at h <;>
      exact ⟨_, _, rfl, rfl, by decide, by simp [Staged, allowed, ApplicationOperation.opType]⟩
  · cases op <;> simp [Staged, allowed, ApplicationOperation.opType] at h <;>
      exact ⟨_, _, rfl, rfl, by decide, by simp [Staged, allowed, ApplicationOperation.opType]⟩

/-- Only waiting states route. -/
theorem waits_of_transition? {s : ApplicationState}
    {t : Transition ApplicationState ApplicationAction} (h : blueprint.transition? s = some t)
    (ht : t.action = .route) : s = .monitoring ∨ s = .running := by
  cases s <;> first | exact Or.inl rfl | exact Or.inr rfl | (cases h <;> cases ht)

/-- Where a supplied action moves on from a state in which an operation is allowed, the operation is
allowed in the next state as well. -/
theorem Staged.of_supplied {s s' : ApplicationState} {op : ApplicationOperation} (h : Staged s op)
    {t : Transition ApplicationState ApplicationAction} (ht : blueprint.transition? s = some t)
    (haction : t.action ≠ .route) (hs' : s' ∈ t.targets) : Staged s' op := by
  cases s with
  | monitoring =>
      cases ht
      exact absurd rfl haction
  | running =>
      cases ht
      exact absurd rfl haction
  | scalingRequested =>
      -- The only such state: what it allows is to scale, and so do the states that follow it.
      cases ht
      have hscale : op.opType = .scaleInstances := List.mem_singleton.1 h.1
      replace hs' : s' ∈ [ApplicationState.monitoring, .running, .scalingRequested] := hs'
      simp only [List.mem_cons, List.not_mem_nil, or_false] at hs'
      rcases hs' with rfl | rfl | rfl <;> simp [Staged, hscale, allowed]
  | _ => cases h.1

/-! ## What may be pending -/

/-- What may be pending for an actor.  In a state that allows operations it is one of those.  In
another it is what the action of the state has to deal with: while the action is in flight it owes
an acknowledgement. -/
def Routable (a : ApplicationActor) (owed : Bool) : Prop :=
  ∀ op, a.machine.slot.pending = some op →
    Staged a.machine.current.state op ∨
      (allowed a.machine.current.state = [] ∧ ∀ t, a.phase = .acting t → owed = true)

/-- Where nothing is staged, the state stays and no pass begins, the same may be pending. -/
theorem Routable.of_step {a : ApplicationActor} {owed : Bool} (h : Routable a owed)
    {e : ActorEvent ApplicationState ApplicationOperation ApplicationRecord}
    (hnotify : ∀ u, e ≠ .notify u) (hbegin : e ≠ .begin)
    (hfinish : ∀ signals r, e ≠ .finish signals r) : Routable (a.step blueprint e) owed := by
  intro op hop
  rw [Actor.current_step blueprint a hfinish]
  refine (h op (Actor.pending_of_step hnotify hop)).imp_right ?_
  rintro ⟨hallowed, howed⟩
  exact ⟨hallowed, fun t ht => howed t (Actor.acting_of_step hbegin ht)⟩

/-- An operation that the state allows may be staged. -/
theorem Routable.notify {a : ApplicationActor} {owed : Bool} (h : Routable a owed)
    {u : ApplicationOperation} (hu : Staged a.machine.current.state u) :
    Routable (a.step blueprint (.notify u)) owed := by
  cases hpending : a.machine.slot.pending with
  | some v =>
      rw [Actor.step, Actor.notify_of_pending hpending]
      exact h
  | none =>
      intro op hop
      rw [Actor.step, Actor.notify_of_free hpending] at hop ⊢
      cases hop
      exact Or.inl hu

/-- The action that a pass begins owes an acknowledgement of whatever is pending. -/
theorem Routable.begin {a : ApplicationActor} {owed : Bool} (h : Routable a owed) :
    Routable (a.step blueprint .begin) a.machine.slot.pending.isSome := by
  intro op hop
  have hpending : a.machine.slot.pending = some op := Actor.pending_of_step (by simp) hop
  rw [Actor.current_step blueprint a (by simp)]
  refine (h op hpending).imp_right fun ⟨hallowed, _⟩ => ⟨hallowed, fun _ _ => ?_⟩
  rw [hpending]
  rfl

/-- Once nothing is pending, no acknowledgement is owed. -/
theorem Routable.acknowledge (a : ApplicationActor) (owed : Bool) :
    Routable a.acknowledge owed := by
  intro op hop
  cases hop

/-- An action returns.  Whatever is still pending has to be allowed in the next state, unless no
operation is. -/
theorem Routable.finish {a : ApplicationActor} {owed : Bool} (h : Routable a owed)
    (r : ActionResult ApplicationState ApplicationRecord)
    (hmoved : ∀ t next op, a.phase = .acting t → r = .ok (some next) → next.state ∈ t.targets →
      a.machine.slot.pending = some op → allowed next.state = [] ∨ Staged next.state op) :
    Routable (a.step blueprint (.finish true r)) owed := by
  intro op hop
  have hpending : a.machine.slot.pending = some op := Actor.pending_of_step (by simp) hop
  have hmove := a.move_step blueprint (.finish true r)
  generalize a.step blueprint (.finish true r) = a' at hmove ⊢
  -- Where the machine stays where it is, no action is in flight any more.
  have hstays : a'.machine.current = a.machine.current → (∀ t, a'.phase ≠ .acting t) →
      Staged a'.machine.current.state op ∨
        (allowed a'.machine.current.state = [] ∧ ∀ t, a'.phase = .acting t → owed = true) := by
    intro hcurrent hphase
    rw [hcurrent]
    refine (h op hpending).imp_right ?_
    rintro ⟨hallowed, -⟩
    exact ⟨hallowed, fun t ht => absurd ht (hphase t)⟩
  cases hmove with
  | ignored => exact h op hpending
  | failed acting signals r pass =>
      refine hstays ?_ (by simp)
      rw [Machine.finish_current, pass]
  | stayed acting signals r pass =>
      refine hstays ?_ fun t => Actor.phase_continueIn_ne _ _ _ (by simp) (by simp) (by simp)
      rw [Actor.machine_continueIn, Machine.finish_current, pass]
  | @signalled t acting r next pass =>
      obtain ⟨hr, htarget⟩ := Machine.result_of_moved pass
      rw [Machine.finish_current, pass]
      exact (hmoved t next op acting hr htarget hpending).symm.imp_right
        fun hallowed => ⟨hallowed, fun t ht => by cases ht⟩

/-! ## Whole runs -/

/-- Whether the action in flight of an actor owes an acknowledgement after an event, given whether
it did before: it was given an operation when it began, and has not acknowledged it since. -/
def owes (n : Nat) (e : ApplicationEngine) (owed : Bool) : ApplicationEngineEvent → Bool
  | .begin m => if m = n ∧ e.action? n = none then (e.pending? n).isSome else owed
  | .acknowledge m => if m = n ∧ e.isSupplied kind n then false else owed
  | _ => owed

/-- The supplied actions of an actor acknowledge the operation that they were given before they
return a next state. -/
def Acknowledges (n : Nat) : ApplicationEngine → Bool → List ApplicationEngineEvent → Prop
  | _, _, [] => True
  | e, owed, ev :: rest =>
    (∀ next, ev = .finish n (.ok (some next)) → owed = false) ∧
      Acknowledges n (e.step kind ev) (owes n e owed ev) rest

/-- What may be pending for the actor of a number. -/
def Tidy (n : Nat) (e : ApplicationEngine) (owed : Bool) : Prop :=
  ∀ r, e.resident? n = some r → Routable r.actor owed

section Tidy

variable {n : Nat} {e e' : ApplicationEngine} {owed : Bool}

/-- Where nothing happens to the actor, the same may be pending. -/
theorem Tidy.of_eq (h : Tidy n e owed) (heq : e'.resident? n = e.resident? n) : Tidy n e' owed := by
  intro r hr
  rw [heq] at hr
  exact h r hr

/-- A change of one actor. -/
theorem Tidy.update (h : Tidy n e owed) (m : Nat) {change : ApplicationActor → ApplicationActor}
    (hchange : ∀ r, e.resident? m = some r → Routable r.actor owed →
      Routable (change r.actor) owed) : Tidy n (e.update m change) owed := by
  intro r' hr'
  obtain ⟨r, hr, rfl⟩ := LifecycleEngine.exists_of_resident?_update hr'
  by_cases hm : n = m
  · subst hm
    simpa using hchange r hr (h r hr)
  · simpa [hm] using h r hr

/-- An event of an actor that stages nothing, begins no pass and ends none. -/
theorem Tidy.update_step (h : Tidy n e owed) (m : Nat)
    (ev : ActorEvent ApplicationState ApplicationOperation ApplicationRecord)
    (hnotify : ∀ u, ev ≠ .notify u) (hbegin : ev ≠ .begin)
    (hfinish : ∀ signals r, ev ≠ .finish signals r) :
    Tidy n (e.update m (·.step kind.blueprint ev)) owed :=
  h.update m fun _ _ hr => hr.of_step hnotify hbegin hfinish

/-- An operation of a client or of the engine itself. -/
theorem Tidy.handle (h : Tidy n e owed) (op : ApplicationOperation) :
    Tidy n (e.handle kind op).1 owed := by
  by_cases hadmitted : (kind.review e.settings e.stateOf e.world op).isSuccess = true
  · rcases e.handle_cases kind op with heq | ⟨m, hm, heq⟩ | ⟨f, -, heq⟩
    · rw [heq]
      exact h
    · rw [heq]
      refine h.update m fun r hr hroutable => hroutable.notify ?_
      have hstate : e.stateOf op.appId = some r.actor.machine.current.state := by
        have hregistered : e.registered? op.appId = some m := hm
        simp [LifecycleEngine.stateOf, hregistered, hr]
      exact Staged.of_review hstate hadmitted e.settings e.world
    · rw [heq]
      intro r hr
      rw [LifecycleEngine.resident?_found] at hr
      split at hr
      · cases hr
        intro op' hop'
        exact Or.inr ⟨rfl, fun t ht => by cases ht⟩
      · exact h r hr
  · have hrefused : (e.handle kind op).1 = e := by
      simp [LifecycleEngine.handle, hadmitted]
    rw [hrefused]
    exact h

/-- What follows from a reached state. -/
theorem Tidy.react (h : Tidy n e owed) (id : DeployableId) (state : ApplicationState)
    (pending : Option ApplicationOperation) : Tidy n (e.react kind id state pending) owed := by
  cases hgone : kind.isGone state with
  | true =>
      rw [LifecycleEngine.react, if_pos hgone, LifecycleEngine.deregisterWith]
      split
      · exact h.of_eq rfl
      · exact h
  | false =>
      have hworld (world : ApplicationStores) : Tidy n { e with world := world } owed := h.of_eq rfl
      rw [LifecycleEngine.react_of_not_gone hgone]
      split
      · exact (hworld _).handle _
      · exact hworld _

/-- The handling of the state that was reached first. -/
theorem Tidy.handleChange (h : Tidy n e owed) : Tidy n (e.handleChange kind) owed := by
  cases hchanges : e.changes with
  | nil => simpa [LifecycleEngine.handleChange, hchanges] using h
  | cons change rest =>
      obtain ⟨m, reached⟩ := change
      have hrest : Tidy n { e with changes := rest } owed := h.of_eq rfl
      cases hr : e.resident? m with
      | none =>
          have hsame : (e.handleChange kind).resident? n = e.resident? n := by
            have hr' : LifecycleEngine.resident? { e with changes := rest } m = none := hr
            simp only [LifecycleEngine.handleChange, hchanges, hr']
            rfl
          exact h.of_eq hsame
      | some r =>
          rw [LifecycleEngine.handleChange_eq kind hchanges hr]
          have hreact := hrest.react r.id reached.state r.actor.machine.slot.pending
          exact Tidy.update_step (e := LifecycleEngine.publish _ _) (hreact.of_eq rfl) m _ (by simp)
            (by simp) (by simp)

/-- Several actors are asked to stop. -/
theorem Tidy.requestStops (h : Tidy n e owed) (numbers : List Nat) :
    Tidy n (numbers.foldl (fun e m => e.update m (fun a => a.requestStop.1)) e) owed := by
  induction numbers generalizing e with
  | nil => exact h
  | cons m rest ih =>
      exact ih (h.update_step m .requestStop (by simp) (by simp) (by simp))

/-- An action returns. -/
theorem Tidy.finish (h : Tidy n e owed) (m : Nat)
    (result : ActionResult ApplicationState ApplicationRecord)
    (hmoved : m = n → ∀ r t next op, e.resident? n = some r → r.actor.phase = .acting t →
      result = .ok (some next) → next.state ∈ t.targets →
      r.actor.machine.slot.pending = some op → allowed next.state = [] ∨ Staged next.state op) :
    Tidy n (e.finish kind m result) owed := by
  intro r' hr'
  rw [LifecycleEngine.resident?_finish] at hr'
  obtain ⟨r, hr, rfl⟩ := LifecycleEngine.exists_of_resident?_update hr'
  by_cases hm : n = m
  · subst hm
    have hfinish := (h r hr).finish result fun t next op => hmoved rfl r t next op hr
    simpa using hfinish
  · simpa [hm] using h r hr

/-- A supplied action returns.  If it moves on, then what is pending was staged after the operation
that it was given. -/
theorem Tidy.returned (h : Tidy n e owed) (he : LifecycleEngine.Sound kind e) {m : Nat}
    (hsupplied : e.isSupplied kind m = true)
    (result : ActionResult ApplicationState ApplicationRecord)
    (hpaid : m = n → ∀ next, result = .ok (some next) → owed = false) :
    Tidy n (e.finish kind m result) owed := by
  refine h.finish m result ?_
  rintro rfl r t next op hr hacting hresult htarget hpending
  right
  have hstaged : Staged r.actor.machine.current.state op := by
    refine (h r hr op hpending).resolve_right ?_
    rintro ⟨-, howed⟩
    rw [hpaid rfl next hresult] at howed
    exact absurd (howed t hacting) (by simp)
  have htransition := (he.reachable m r hr).faithful.acting t hacting
  have haction : t.action ≠ kind.routing := by
    rw [LifecycleEngine.isSupplied, LifecycleEngine.action?, hr] at hsupplied
    simpa [hacting] using hsupplied
  exact hstaged.of_supplied htransition haction htarget

/-- Where routing is in flight, it finds nothing pending, or an operation that it routes along the
transition of the state. -/
theorem Tidy.routing (h : Tidy n e owed) (he : LifecycleEngine.Sound kind e)
    (haction : e.action? n = some .route) :
    ∃ r t, e.resident? n = some r ∧ r.actor.phase = .acting t ∧
      (r.actor.machine.current.state = .monitoring ∨ r.actor.machine.current.state = .running) ∧
      blueprint.transition? r.actor.machine.current.state = some t ∧
      (r.actor.machine.slot.pending = none ∨
        ∃ op s', r.actor.machine.slot.pending = some op ∧
          Application.route (some op) r.actor.machine.current =
            { result := .ok (some (r.actor.machine.current.move s')) } ∧
          s' ∈ t.targets ∧ (allowed s' = [] ∨ Staged s' op)) := by
  obtain ⟨r, t, hr, hacting, ht⟩ := LifecycleEngine.acting_of_action? haction
  have htransition := (he.reachable n r hr).faithful.acting t hacting
  have hwaits := waits_of_transition? htransition ht
  refine ⟨r, t, hr, hacting, hwaits, htransition, ?_⟩
  cases hpending : r.actor.machine.slot.pending with
  | none => exact Or.inl rfl
  | some op =>
      right
      have hstaged : Staged r.actor.machine.current.state op := by
        refine (h r hr op hpending).resolve_right ?_
        rintro ⟨hnone, -⟩
        rcases hwaits with hstate | hstate <;> rw [hstate] at hnone <;> cases hnone
      obtain ⟨s', t', hroute, ht', hs', hallowed⟩ := hstaged.route hwaits r.actor.machine.current
      rw [← blueprint_kind, htransition] at ht'
      cases ht'
      exact ⟨op, s', rfl, hroute, hs', hallowed⟩

/-- Routing leaves the pending operation where it is, and hands the pass its result. -/
theorem Tidy.route_eq (h : Tidy n e owed) (he : LifecycleEngine.Sound kind e)
    (haction : e.action? n = some .route) {r : ApplicationResident} (hr : e.resident? n = some r) :
    e.step kind (.route n) = e.finish kind n
      (Application.route r.actor.machine.slot.pending r.actor.machine.current).result := by
  obtain ⟨r', t, hr', -, -, -, hrouting⟩ := h.routing he haction
  rw [hr] at hr'
  cases hr'
  have hkind : kind.route r.actor.machine.slot.pending r.actor.machine.current =
      Application.route r.actor.machine.slot.pending r.actor.machine.current := rfl
  have hkeeps : (Application.route r.actor.machine.slot.pending
      r.actor.machine.current).acknowledges = false := by
    rcases hrouting with hpending | ⟨op, s', hpending, hroute, -⟩
    · rw [hpending]
      rfl
    · rw [hpending, hroute]
  have hrouted : e.step kind (.route n) = e.route kind n := if_pos haction
  simp only [hrouted, LifecycleEngine.route, hr, hkind, hkeeps, Bool.false_eq_true, if_false]

/-- Routing in flight returns. -/
theorem Tidy.route (h : Tidy n e owed) (he : LifecycleEngine.Sound kind e) (m : Nat) :
    Tidy n (e.step kind (.route m)) owed := by
  by_cases haction : e.action? m = some .route
  · by_cases hm : m = n
    · subst hm
      obtain ⟨r, t, hr, -, -, -, hrouting⟩ := h.routing he haction
      rw [h.route_eq he haction hr]
      refine h.finish m _ fun _ r' t' next op hr' _ hresult _ hpending => ?_
      rw [hr] at hr'
      cases hr'
      rcases hrouting with hnone | ⟨op', s', hpending', hroute, -, hallowed⟩
      · rw [hnone] at hpending
        cases hpending
      · rw [hpending'] at hpending
        cases hpending
        rw [hpending', hroute] at hresult
        cases hresult
        exact hallowed
    · exact h.of_eq (LifecycleEngine.resident?_step_route_of_ne kind e (Ne.symm hm))
  · have hignored : e.step kind (.route m) = e := if_neg haction
    rw [hignored]
    exact h

/-- A pass begins.  What is pending then is given to its action. -/
theorem Tidy.began (h : Tidy n e owed) (m : Nat) :
    Tidy n (e.step kind (.begin m)) (owes n e owed (.begin m)) := by
  by_cases hm : m = n
  · subst hm
    intro r' hr'
    obtain ⟨r, hr, rfl⟩ := LifecycleEngine.exists_of_resident?_update hr'
    have hroutable := h r hr
    cases haction : e.action? m with
    | none =>
        have howes : owes m e owed (.begin m) = r.actor.machine.slot.pending.isSome := by
          simp [owes, haction, LifecycleEngine.pending?, hr]
        rw [howes]
        simpa [Actor.step] using hroutable.begin
    | some action =>
        obtain ⟨r₀, t, hr₀, hacting, -⟩ := LifecycleEngine.acting_of_action? haction
        rw [hr] at hr₀
        cases hr₀
        have howes : owes m e owed (.begin m) = owed := by
          simp [owes, haction]
        have hsame : r.actor.begin kind.blueprint = r.actor := by
          simp [Actor.begin, hacting]
        rw [howes, if_pos rfl, hsame]
        exact hroutable
  · have howes : owes n e owed (.begin m) = owed := by
      simp [owes, hm]
    rw [howes]
    exact h.of_eq (LifecycleEngine.resident?_update_of_ne e m _ (Ne.symm hm))

/-- A supplied action acknowledges. -/
theorem Tidy.acknowledged (h : Tidy n e owed) (m : Nat) :
    Tidy n (e.step kind (.acknowledge m)) (owes n e owed (.acknowledge m)) := by
  simp only [LifecycleEngine.step]
  split <;> rename_i hsupplied
  · by_cases hm : m = n
    · subst hm
      intro r' hr'
      obtain ⟨r, -, rfl⟩ := LifecycleEngine.exists_of_resident?_update hr'
      rw [if_pos rfl]
      exact Routable.acknowledge r.actor _
    · have howes : owes n e owed (.acknowledge m) = owed := by
        simp [owes, hm]
      rw [howes]
      exact h.of_eq (LifecycleEngine.resident?_update_of_ne e m _ (Ne.symm hm))
  · have howes : owes n e owed (.acknowledge m) = owed := by
      by_cases hm : m = n
      · subst hm
        simp [owes, hsupplied]
      · simp [owes, hm]
    rw [howes]
    exact h

/-- Every event, as long as supplied actions acknowledge the operations that they were given. -/
theorem Tidy.step (h : Tidy n e owed) (he : LifecycleEngine.Sound kind e)
    {ev : ApplicationEngineEvent}
    (hpaid : ∀ next, ev = .finish n (.ok (some next)) → owed = false) :
    Tidy n (e.step kind ev) (owes n e owed ev) := by
  cases ev with
  | handle op => exact h.handle op
  | deregister id => exact h.of_eq rfl
  | stopAll =>
      have hcleared : Tidy n { e with registry := ∅ } owed := h.of_eq rfl
      exact hcleared.requestStops e.registry.values
  | abort m => exact h.update_step m .abort (by simp) (by simp) (by simp)
  | begin m => exact h.began m
  | route m => exact h.route he m
  | work m world =>
      simp only [LifecycleEngine.step]
      split
      · exact h.of_eq rfl
      · exact h
  | acknowledge m => exact h.acknowledged m
  | finish m result =>
      simp only [LifecycleEngine.step]
      split <;> rename_i hsupplied
      · refine h.returned he hsupplied result ?_
        rintro rfl next rfl
        exact hpaid next rfl
      · exact h
  | elapsed m => exact h.update_step m .elapsed (by simp) (by simp) (by simp)
  | resume m => exact h.update_step m .resume (by simp) (by simp) (by simp)
  | handleChange => exact h.handleChange
  | reap =>
      simp only [LifecycleEngine.step, LifecycleEngine.reap]
      split
      · exact h
      · rename_i m rest _
        have hrest : Tidy n { e with ended := rest } owed := h.of_eq rfl
        exact hrest.update_step m .requestStop (by simp) (by simp) (by simp)
  | outside world => exact h.of_eq rfl

/-- Every run in which supplied actions acknowledge the operations that they were given. -/
theorem Tidy.run (h : Tidy n e owed) (he : LifecycleEngine.Sound kind e)
    {events : List ApplicationEngineEvent} (hpaid : Acknowledges n e owed events) :
    ∃ owed', Tidy n (e.run kind events) owed' := by
  induction events generalizing e owed with
  | nil => exact ⟨owed, h⟩
  | cons ev rest ih => exact ih (h.step he hpaid.1) (he.step lawful_kind ev) hpaid.2

end Tidy

/-! ## Routing passes -/

/-- Take any run in which the supplied actions of an actor acknowledge the operation that they were
given before they return a next state.  Whenever routing is in flight for the actor, that is in a
waiting state; it returns no error, and either no state or one to which the transition of the
current state may lead; and so the pass does not fail. -/
theorem routing_never_fails (settings : EngineSettings) (w : ApplicationStores) (n : Nat)
    {events : List ApplicationEngineEvent}
    (hevents : Acknowledges n (LifecycleEngine.start settings w) false events)
    {e : ApplicationEngine} (he : e = (LifecycleEngine.start settings w).run kind events)
    (haction : e.action? n = some .route) :
    ∃ r t, e.resident? n = some r ∧ r.actor.phase = .acting t ∧
      (r.actor.machine.current.state = .monitoring ∨ r.actor.machine.current.state = .running) ∧
      blueprint.transition? r.actor.machine.current.state = some t ∧
      ∃ next, (route r.actor.machine.slot.pending r.actor.machine.current).result = .ok next ∧
        (∀ s, next = some s → s.state ∈ t.targets) ∧
        (∀ error, (r.actor.machine.finish t (.ok next)).2 ≠ .failed error) ∧
        (e.step kind (.route n)).resident? n =
          some { r with actor := r.actor.step blueprint (.finish true (.ok next)) } := by
  have hsound : LifecycleEngine.Sound kind e := by
    rw [he]
    exact (LifecycleEngine.sound_start kind settings w).run lawful_kind events
  obtain ⟨owed, htidy⟩ : ∃ owed, Tidy n e owed := by
    have hstart : Tidy n (LifecycleEngine.start settings w) false := fun r hr => by cases hr
    rw [he]
    exact hstart.run (LifecycleEngine.sound_start kind settings w) hevents
  obtain ⟨r, t, hr, hacting, hwaits, htransition, hrouting⟩ := htidy.routing hsound haction
  have hstep := htidy.route_eq hsound haction hr
  have hnext (next : Option (Snapshot ApplicationState ApplicationRecord))
      (hresult : (route r.actor.machine.slot.pending r.actor.machine.current).result = .ok next) :
      (e.step kind (.route n)).resident? n =
        some { r with actor := r.actor.step blueprint (.finish true (.ok next)) } := by
    rw [hstep, hresult, LifecycleEngine.resident?_finish,
      LifecycleEngine.resident?_update_of_some hr]
    simp
  refine ⟨r, t, hr, hacting, hwaits, htransition, ?_⟩
  rcases hrouting with hpending | ⟨op, s', hpending, hroute, hs', -⟩
  · have hresult : (route r.actor.machine.slot.pending r.actor.machine.current).result =
        .ok none := by
      rw [hpending]
      rfl
    exact ⟨none, hresult, by simp, by simp [Machine.finish], hnext none hresult⟩
  · have hresult : (route r.actor.machine.slot.pending r.actor.machine.current).result =
        .ok (some (r.actor.machine.current.move s')) := by
      rw [hpending, hroute]
    refine ⟨_, hresult, ?_, ?_, hnext _ hresult⟩
    · rintro s ⟨⟩
      exact hs'
    · simp [Machine.finish, hs']

/-- An application is created to run one instance and is suspended, which is staged as a scaling to
zero.  Routing is in flight for it, and ends where the table allows. -/
theorem suspension_routed :
    let shop : ApplicationSpec :=
      { name := "SHOP", version := "1", executable := { image := "shop" }
        resources := ResourceRequirement.ofCoresAndMemory 1 512 }
    let stored : ApplicationRecord := .ofSpec .epoch shop 1
    let w : ApplicationStores :=
      { now := .epoch, records := { root := {} }, instances := { root := {} } }
    let events : List ApplicationEngineEvent :=
      [.handle (.create shop 1 {}), .begin 0, .acknowledge 0,
        .finish 0 (.ok (some ⟨.running, stored, none⟩)), .handleChange,
        .handle (.suspend shop.id none), .begin 0]
    let e : ApplicationEngine := (LifecycleEngine.start {} w).run kind events
    ∃ r t, e.resident? 0 = some r ∧
      r.actor.machine.slot.pending = some (.scale shop.id 0 e.settings.defaultOpSpec) ∧
      blueprint.transition? r.actor.machine.current.state = some t ∧
      ∃ next, (route r.actor.machine.slot.pending r.actor.machine.current).result = .ok next ∧
        ∀ s, next = some s → s.state ∈ t.targets := by
  intro shop stored w events e
  have hevents : Acknowledges 0 (LifecycleEngine.start {} w) false events := by
    refine ⟨by simp, by simp, by simp, fun _ _ => ?_, by simp, by simp, by simp, trivial⟩
    simp only [w, shop]
    decide +kernel
  have haction : e.action? 0 = some .route := by
    simp only [e, events, w, stored, shop]
    decide +kernel
  obtain ⟨r, t, hr, hacting, hwaits, htransition, next, hresult, htarget, -⟩ :=
    routing_never_fails {} w 0 hevents rfl haction
  have hpending : e.pending? 0 = some (.scale shop.id 0 e.settings.defaultOpSpec) := by
    simp only [e, events, w, stored, shop]
    rfl
  rw [LifecycleEngine.pending?, hr] at hpending
  exact ⟨r, t, hr, hpending, htransition, next, hresult, htarget⟩

end Application
end Orchestration
