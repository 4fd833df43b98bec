import Orchestration.Lifecycle.Engine
import Orchestration.Proofs.Machine.Run

/-!
# Runs of a lifecycle engine

An engine takes operations from its clients, drives the loops of its actors, handles the states that
they reach, and shares its stores with the actions that are supplied from outside and with everybody
else.  A run is any list of such events, in any order; an event that does not fit the engine does
nothing.

Main results:

- `LifecycleEngine.move_step`: everything that an event can do, with what made it possible.
- `LifecycleEngine.Sound.step`, `LifecycleEngine.Sound.run`: in every run the actors are reachable,
  the registry names actors of its identifiers, pending operations are aimed at their actors, and
  every reached state that waits to be handled is one of its actor's.
- `LifecycleEngine.Sole.step`: as long as nobody is removed, every actor whose loop goes on is the
  registered one.
-/

namespace Orchestration

/-- What happens to an engine.  Actors go by their numbers. -/
inductive EngineEvent (σ ω δ W : Type) where
  /-- A client submits an operation. -/
  | handle (op : ω)
  /-- A client ends the registration of an identifier. -/
  | deregister (id : DeployableId)
  /-- All actors are asked to stop. -/
  | stopAll
  /-- A stop that waited too long cuts a loop off. -/
  | abort (n : Nat)
  /-- A loop begins a pass. -/
  | begin (n : Nat)
  /-- The routing action in flight deals with the pending operation and returns. -/
  | route (n : Nat)
  /-- A supplied action in flight leaves the stores as given. -/
  | work (n : Nat) (world : W)
  /-- A supplied action in flight acknowledges the pending operation. -/
  | acknowledge (n : Nat)
  /-- A supplied action in flight returns. -/
  | finish (n : Nat) (r : ActionResult σ δ)
  /-- The pause after a failed pass is over. -/
  | elapsed (n : Nat)
  /-- A blocked loop that was notified looks again. -/
  | resume (n : Nat)
  /-- The state that was reached first is handled. -/
  | handleChange
  /-- The actor whose loop ended first is stopped. -/
  | reap
  /-- Somebody else leaves the stores as given. -/
  | outside (world : W)

/-- An event removes actors from the registry, or cuts one off, at the will of a client. -/
def EngineEvent.isRemoval {σ ω δ W : Type} : EngineEvent σ ω δ W → Bool
  | .deregister _ => true
  | .stopAll => true
  | .abort _ => true
  | _ => false

/-- What the parts of a kind have to do with each other. -/
structure LifecycleKind.Lawful {σ ω δ κ W : Type} (k : LifecycleKind σ ω δ κ W) : Prop where
  /-- The form in which an operation is staged is aimed at the same deployable. -/
  target_canonical : ∀ settings w op, k.target (k.canonical settings w op) = k.target op
  /-- A deployable that is gone stays gone. -/
  isTerminal_of_isGone : ∀ s, k.isGone s = true → k.blueprint.isTerminal s = true
  /-- Nothing leads out of a terminal state. -/
  source_ne_of_isTerminal : ∀ s, k.blueprint.isTerminal s = true →
    ∀ t ∈ k.blueprint.table, t.source ≠ s

namespace LifecycleEngine

variable {σ ω δ κ W : Type} [DecidableEq σ] [DecidableEq κ]

/-- The action that an actor has in flight. -/
def action? (e : LifecycleEngine σ ω δ κ W) (n : Nat) : Option κ :=
  (e.resident? n).bind fun r =>
    match r.actor.phase with
    | .acting t => some t.action
    | _ => none

/-- Whether an actor has an action in flight that was supplied from outside. -/
def isSupplied (k : LifecycleKind σ ω δ κ W) (e : LifecycleEngine σ ω δ κ W) (n : Nat) : Bool :=
  match e.action? n with
  | some action => action ≠ k.routing
  | none => false

/-- One event. -/
def step (k : LifecycleKind σ ω δ κ W) (e : LifecycleEngine σ ω δ κ W) :
    EngineEvent σ ω δ W → LifecycleEngine σ ω δ κ W
  | .handle op => (e.handle k op).1
  | .deregister id => (e.deregister id).1
  | .stopAll => e.stopAll.1
  | .abort n => e.update n (fun a => if a.stopRequested then a.abort else a)
  | .begin n => e.begin k n
  | .route n => if e.action? n = some k.routing then e.route k n else e
  | .work n world => if e.isSupplied k n then { e with world := world } else e
  | .acknowledge n => if e.isSupplied k n then e.acknowledge n else e
  | .finish n r => if e.isSupplied k n then e.finish k n r else e
  | .elapsed n => e.elapsed k n
  | .resume n => e.resume n
  | .handleChange => e.handleChange k
  | .reap => e.reap
  | .outside world => { e with world := world }

/-- A whole run. -/
def run (k : LifecycleKind σ ω δ κ W) (e : LifecycleEngine σ ω δ κ W)
    (events : List (EngineEvent σ ω δ W)) : LifecycleEngine σ ω δ κ W :=
  events.foldl (step k) e

/-- The last event of a run is one after all others. -/
theorem run_append_singleton (k : LifecycleKind σ ω δ κ W) (e : LifecycleEngine σ ω δ κ W)
    (events : List (EngineEvent σ ω δ W)) (ev : EngineEvent σ ω δ W) :
    e.run k (events ++ [ev]) = (e.run k events).step k ev :=
  List.foldl_append

/-- An engine without actors. -/
def start (settings : EngineSettings) (world : W) : LifecycleEngine σ ω δ κ W :=
  { settings := settings, world := world }

/-! ## Changes of one actor -/

omit [DecidableEq σ] [DecidableEq κ] in
/-- After a change of one actor the actors are those of before, and that one is changed. -/
theorem exists_of_resident?_update {e : LifecycleEngine σ ω δ κ W} {n m : Nat}
    {change : Actor σ ω δ κ → Actor σ ω δ κ} {r' : Resident σ ω δ κ}
    (h : (e.update n change).resident? m = some r') :
    ∃ r, e.resident? m = some r ∧
      r' = { r with actor := if m = n then change r.actor else r.actor } := by
  by_cases hm : m = n
  · subst hm
    rw [resident?_update_self, Option.map_eq_some_iff] at h
    obtain ⟨r, hr, rfl⟩ := h
    exact ⟨r, hr, by simp⟩
  · rw [resident?_update_of_ne e n change hm] at h
    exact ⟨r', h, by simp [hm]⟩

omit [DecidableEq σ] [DecidableEq κ] in
/-- Every actor of before is still there after a change of one. -/
theorem resident?_update_of_some {e : LifecycleEngine σ ω δ κ W} {m : Nat} {r : Resident σ ω δ κ}
    (h : e.resident? m = some r) (n : Nat) (change : Actor σ ω δ κ → Actor σ ω δ κ) :
    (e.update n change).resident? m =
      some { r with actor := if m = n then change r.actor else r.actor } := by
  by_cases hm : m = n
  · subst hm
    rw [resident?_update_self, h]
    simp
  · rw [resident?_update_of_ne e n change hm, h]
    simp [hm]

omit [DecidableEq σ] [DecidableEq κ] in
/-- Only what a change does to the actor at hand matters. -/
theorem update_congr {e : LifecycleEngine σ ω δ κ W} {n : Nat}
    {change change' : Actor σ ω δ κ → Actor σ ω δ κ}
    (h : ∀ r, e.resident? n = some r → change r.actor = change' r.actor) :
    e.update n change = e.update n change' := by
  unfold update
  cases hresident : e.resident? n with
  | none => rfl
  | some r => simp only [h r hresident]

omit [DecidableEq σ] in
theorem isSome_action?_of_isSupplied {k : LifecycleKind σ ω δ κ W}
    {e : LifecycleEngine σ ω δ κ W} {n : Nat} (h : e.isSupplied k n = true) :
    (e.action? n).isSome = true := by
  unfold isSupplied at h
  split at h
  · simp [*]
  · cases h

omit [DecidableEq κ] in
/-- An acknowledgement leaves the action in flight. -/
theorem action?_acknowledge (b : Blueprint σ κ) (e : LifecycleEngine σ ω δ κ W) (n : Nat) :
    (e.update n (·.step b .acknowledge)).action? n = e.action? n := by
  unfold action?
  rw [resident?_update_self]
  cases hresident : e.resident? n with
  | none => rfl
  | some r => cases hphase : r.actor.phase <;> simp [Actor.step, Actor.acknowledge, hphase]

omit [DecidableEq κ] in
/-- An acknowledgement is an event of the actor, if it has an action in flight. -/
theorem acknowledge_eq {e : LifecycleEngine σ ω δ κ W} {n : Nat} (b : Blueprint σ κ)
    (h : (e.action? n).isSome = true) :
    e.acknowledge n = e.update n (·.step b .acknowledge) := by
  apply update_congr
  intro r hr
  cases hphase : r.actor.phase <;> simp_all [action?, Actor.step]

omit [DecidableEq κ] in
/-- The return of an action is an event of the actor, and queues the state that was reached. -/
theorem finish_eq (k : LifecycleKind σ ω δ κ W) (e : LifecycleEngine σ ω δ κ W) (n : Nat)
    (r : ActionResult σ δ) :
    e.finish k n r =
      let e' := e.update n (·.step k.blueprint (.finish true r))
      match (e'.resident? n).map (·.actor.phase) with
      | some (.signalling reached) => { e' with changes := e.changes ++ [(n, reached)] }
      | _ => e' := by
  cases hresident : e.resident? n with
  | none =>
      have hupdate : e.update n (·.step k.blueprint (.finish true r)) = e := by
        simp [update, hresident]
      simp [finish, hresident, hupdate]
  | some s =>
      have hupdate : e.update n (fun _ => s.actor.finish k.blueprint true r) =
          e.update n (·.step k.blueprint (.finish true r)) := by
        apply update_congr
        intro s' hs'
        rw [hresident] at hs'
        cases hs'
        rfl
      simp only [finish, hresident, Option.map_some, hupdate, changes_update]
      rw [resident?_update_of_some hresident]
      simp only [if_true, Option.map_some]
      cases hphase : (s.actor.step k.blueprint (.finish true r)).phase <;>
        simp_all [Actor.step]

omit [DecidableEq κ] in
/-- Routing is an acknowledgement or nothing, and then a return. -/
theorem route_cases (k : LifecycleKind σ ω δ κ W) {e : LifecycleEngine σ ω δ κ W} {n : Nat}
    (h : (e.action? n).isSome = true) :
    ∃ r, e.route k n = e.finish k n r ∨
      e.route k n = (e.update n (·.step k.blueprint .acknowledge)).finish k n r := by
  obtain ⟨s, hs, -⟩ := Option.bind_eq_some_iff.1 (Option.get_mem h)
  simp only [route, hs]
  split
  · rw [acknowledge_eq k.blueprint h]
    exact ⟨_, Or.inr rfl⟩
  · exact ⟨_, Or.inl rfl⟩

/-- The moves of an engine: what an event does, where it fits. -/
inductive Move (k : LifecycleKind σ ω δ κ W) (e : LifecycleEngine σ ω δ κ W) :
    EngineEvent σ ω δ W → LifecycleEngine σ ω δ κ W → Prop where
  /-- The event does not fit and is ignored. -/
  | ignored (ev : EngineEvent σ ω δ W) : Move k e ev e
  | submitted (op : ω) : Move k e (.handle op) (e.handle k op).1
  | deregistered (id : DeployableId) : Move k e (.deregister id) (e.deregister id).1
  | stopped : Move k e .stopAll e.stopAll.1
  | cutOff (n : Nat) : Move k e (.abort n) (e.update n (·.step k.blueprint .abort))
  | began (n : Nat) : Move k e (.begin n) (e.update n (·.step k.blueprint .begin))
  /-- The routing action returns. -/
  | routed (n : Nat) (acting : (e.action? n).isSome = true) (r : ActionResult σ δ) :
      Move k e (.route n) (e.finish k n r)
  /-- The routing action drops the pending operation and returns. -/
  | dropped (n : Nat) (acting : (e.action? n).isSome = true) (r : ActionResult σ δ) :
      Move k e (.route n) ((e.update n (·.step k.blueprint .acknowledge)).finish k n r)
  | worked (n : Nat) (supplied : e.isSupplied k n = true) (world : W) :
      Move k e (.work n world) { e with world := world }
  | acknowledged (n : Nat) (acting : (e.action? n).isSome = true) :
      Move k e (.acknowledge n) (e.update n (·.step k.blueprint .acknowledge))
  | returned (n : Nat) (acting : (e.action? n).isSome = true) (r : ActionResult σ δ) :
      Move k e (.finish n r) (e.finish k n r)
  | paused (n : Nat) : Move k e (.elapsed n) (e.update n (·.step k.blueprint .elapsed))
  | resumed (n : Nat) : Move k e (.resume n) (e.update n (·.step k.blueprint .resume))
  | changed : Move k e .handleChange (e.handleChange k)
  | reaped (n : Nat) (rest : List Nat) (queued : e.ended = n :: rest) :
      Move k e .reap ({ e with ended := rest }.update n (·.step k.blueprint .requestStop))
  | given (world : W) : Move k e (.outside world) { e with world := world }

/-- Every event is one of the moves. -/
theorem move_step (k : LifecycleKind σ ω δ κ W) (e : LifecycleEngine σ ω δ κ W)
    (ev : EngineEvent σ ω δ W) : Move k e ev (e.step k ev) := by
  cases ev with
  | handle op => exact .submitted op
  | deregister id => exact .deregistered id
  | stopAll => exact .stopped
  | abort n => exact .cutOff n
  | begin n => exact .began n
  | route n =>
      simp only [step]
      split <;> rename_i haction
      · have hacting : (e.action? n).isSome = true := by simp [haction]
        obtain ⟨r, heq | heq⟩ := route_cases k hacting
        · rw [heq]
          exact .routed n hacting r
        · rw [heq]
          exact .dropped n hacting r
      · exact .ignored _
  | work n world =>
      simp only [step]
      split <;> rename_i hsupplied
      · exact .worked n hsupplied world
      · exact .ignored _
  | acknowledge n =>
      simp only [step]
      split <;> rename_i hsupplied
      · have hacting := isSome_action?_of_isSupplied hsupplied
        rw [acknowledge_eq k.blueprint hacting]
        exact .acknowledged n hacting
      · exact .ignored _
  | finish n r =>
      simp only [step]
      split <;> rename_i hsupplied
      · exact .returned n (isSome_action?_of_isSupplied hsupplied) r
      · exact .ignored _
  | elapsed n => exact .paused n
  | resume n => exact .resumed n
  | handleChange => exact .changed
  | reap =>
      simp only [step, reap]
      split <;> rename_i queued
      · exact .ignored _
      · exact .reaped _ _ queued
  | outside world => exact .given world

/-! ## Soundness -/

/-- What holds of an engine after every run. -/
structure Sound (k : LifecycleKind σ ω δ κ W) (e : LifecycleEngine σ ω δ κ W) : Prop where
  /-- Numbers that were not given out belong to nobody. -/
  fresh : ∀ n r, e.resident? n = some r → n < e.next
  reachable : ∀ n r, e.resident? n = some r → r.actor.Reachable k.blueprint
  /-- The registry names actors of its identifiers. -/
  registered : ∀ id n, e.registered? id = some n → ∃ r, e.resident? n = some r ∧ r.id = id
  /-- Pending operations are aimed at the deployables of their actors. -/
  aimed : ∀ n r op, e.resident? n = some r → r.actor.machine.slot.pending = some op →
    k.target op = r.id
  /-- A state that waits to be handled is where its actor is. -/
  reached : ∀ n s, (n, s) ∈ e.changes → ∃ r, e.resident? n = some r ∧ r.actor.Reached s
  /-- Every actor waits for one state at most. -/
  once : (e.changes.map Prod.fst).Nodup

omit [DecidableEq κ] in
theorem sound_start (k : LifecycleKind σ ω δ κ W) (settings : EngineSettings) (world : W) :
    Sound k (start settings world) where
  fresh n r h := by cases h
  reachable n r h := by cases h
  registered id n h := by cases h
  aimed n r op h := by cases h
  reached n s h := by cases h
  once := List.nodup_nil

omit [DecidableEq κ] in
/-- Stores and events do not matter. -/
theorem Sound.of_eq {k : LifecycleKind σ ω δ κ W} {e e' : LifecycleEngine σ ω δ κ W}
    (h : Sound k e) (hresidents : e'.residents = e.residents) (hnext : e'.next = e.next)
    (hregistry : e'.registry = e.registry) (hchanges : e'.changes = e.changes) : Sound k e' := by
  have hresident : e'.resident? = e.resident? := by
    funext n
    rw [resident?, hresidents, resident?]
  have hregistered : e'.registered? = e.registered? := by
    funext id
    rw [registered?, hregistry, registered?]
  constructor
  · rw [hresident, hnext]
    exact h.fresh
  · rw [hresident]
    exact h.reachable
  · rw [hresident, hregistered]
    exact h.registered
  · rw [hresident]
    exact h.aimed
  · rw [hresident, hchanges]
    exact h.reached
  · rw [hchanges]
    exact h.once

omit [DecidableEq κ] in
/-- An event of one actor: an update that it is notified of has to be aimed at it, and a state
change is handled only when it does not wait to be handled any more. -/
theorem Sound.update {k : LifecycleKind σ ω δ κ W} {e : LifecycleEngine σ ω δ κ W}
    (h : Sound k e) (n : Nat) (ev : ActorEvent σ ω δ)
    (hnotify : ∀ op r, ev = .notify op → e.resident? n = some r → k.target op = r.id)
    (hhandled : ev = .handled → ∀ s, (n, s) ∉ e.changes) :
    Sound k (e.update n (·.step k.blueprint ev)) where
  fresh m r' hr' := by
    obtain ⟨r, hr, -⟩ := exists_of_resident?_update hr'
    rw [next_update]
    exact h.fresh m r hr
  reachable m r' hr' := by
    obtain ⟨r, hr, rfl⟩ := exists_of_resident?_update hr'
    by_cases hm : m = n
    · simpa [hm] using (h.reachable m r hr).step ev
    · simpa [hm] using h.reachable m r hr
  registered id m hm := by
    obtain ⟨r, hr, hid⟩ := h.registered id m (by simpa [registered?] using hm)
    exact ⟨_, resident?_update_of_some hr n _, hid⟩
  aimed m r' op hr' hpending := by
    obtain ⟨r, hr, rfl⟩ := exists_of_resident?_update hr'
    by_cases hm : m = n
    · subst hm
      simp only [if_true] at hpending
      rcases Actor.pending_step k.blueprint r.actor ev with hsame | hnone | ⟨-, u, hev, hstaged⟩
      · rw [hsame] at hpending
        exact h.aimed m r op hr hpending
      · rw [hnone] at hpending
        cases hpending
      · rw [hstaged] at hpending
        cases hpending
        exact hnotify op r hev hr
    · simp only [if_neg hm] at hpending
      exact h.aimed m r op hr hpending
  reached m s hs := by
    rw [changes_update] at hs
    obtain ⟨r, hr, hreached⟩ := h.reached m s hs
    refine ⟨_, resident?_update_of_some hr n _, ?_⟩
    by_cases hm : m = n
    · subst hm
      have hev : ev ≠ .handled := fun hev => hhandled hev s hs
      simpa using hreached.step (h.reachable m r hr).consistent k.blueprint hev
    · simpa [hm] using hreached
  once := by
    rw [changes_update]
    exact h.once

omit [DecidableEq κ] in
/-- An actor with an action in flight does not wait for a state to be handled. -/
theorem Sound.not_mem_changes {k : LifecycleKind σ ω δ κ W} {e : LifecycleEngine σ ω δ κ W}
    (h : Sound k e) {n : Nat} (hacting : (e.action? n).isSome = true) (s : Snapshot σ δ) :
    (n, s) ∉ e.changes := by
  intro hmem
  obtain ⟨r, hr, -, hphase⟩ := h.reached n s hmem
  rcases hphase with hphase | hphase <;> simp [action?, hr, hphase] at hacting

omit [DecidableEq κ] in
/-- The return of an action in flight. -/
theorem Sound.finish {k : LifecycleKind σ ω δ κ W} {e : LifecycleEngine σ ω δ κ W}
    (h : Sound k e) {n : Nat} (hacting : (e.action? n).isSome = true) (r : ActionResult σ δ) :
    Sound k (e.finish k n r) := by
  have hupdate : Sound k (e.update n (·.step k.blueprint (.finish true r))) :=
    h.update n _ (by simp) (by simp)
  rw [finish_eq]
  cases hphase : ((e.update n (·.step k.blueprint (.finish true r))).resident? n).map
      (·.actor.phase) with
  | none => simpa [hphase] using hupdate
  | some phase =>
      cases phase with
      | signalling reached =>
          simp only [hphase]
          obtain ⟨s', hs', hs⟩ := Option.map_eq_some_iff.1 hphase
          have hfaithful := (hupdate.reachable n s' hs').faithful.signalling reached hs
          constructor
          · exact hupdate.fresh
          · exact hupdate.reachable
          · exact hupdate.registered
          · exact hupdate.aimed
          · intro m s hms
            rcases List.mem_append.1 hms with hms | hms
            · exact hupdate.reached m s (by simpa using hms)
            · cases List.mem_singleton.1 hms
              exact ⟨s', hs', hfaithful, Or.inl hs⟩
          · rw [List.map_append, List.nodup_append]
            refine ⟨h.once, by simp, ?_⟩
            rintro m hm _ hn rfl
            cases List.mem_singleton.1 hn
            obtain ⟨⟨m, s⟩, hms, rfl⟩ := List.mem_map.1 hm
            exact h.not_mem_changes hacting s hms
      | _ => simpa [hphase] using hupdate

/-! ### Operations -/

omit [DecidableEq σ] [DecidableEq κ] in
/-- An operation that the review refuses is refused with its verdict, and changes nothing. -/
theorem handle_of_review {k : LifecycleKind σ ω δ κ W} {e : LifecycleEngine σ ω δ κ W} {op : ω}
    {verdict : Verdict} (h : k.review e.settings e.stateOf e.world op = verdict)
    (hrefusal : verdict.isSuccess = false) :
    e.handle k op = (e, verdict) := by
  simp [handle, h, hrefusal]

omit [DecidableEq σ] [DecidableEq κ] in
@[simp]
theorem changes_handle (k : LifecycleKind σ ω δ κ W) (e : LifecycleEngine σ ω δ κ W) (op : ω) :
    (e.handle k op).1.changes = e.changes := by
  rcases e.handle_cases k op with h | ⟨n, -, h⟩ | ⟨f, -, h⟩
  · rw [h]
  · rw [h, stage, changes_update]
  · rw [h, found]

omit [DecidableEq σ] [DecidableEq κ] in
@[simp]
theorem world_handle (k : LifecycleKind σ ω δ κ W) (e : LifecycleEngine σ ω δ κ W) (op : ω) :
    (e.handle k op).1.world = e.world := by
  rcases e.handle_cases k op with h | ⟨n, -, h⟩ | ⟨f, -, h⟩
  · rw [h]
  · rw [h, stage, world_update]
  · rw [h, found]

omit [DecidableEq σ] [DecidableEq κ] in
/-- The actor that an operation founds, and the others. -/
theorem resident?_found (k : LifecycleKind σ ω δ κ W) (e : LifecycleEngine σ ω δ κ W)
    (f : Founding δ) (op : ω) (n : Nat) :
    (e.found k f op).resident? n =
      if n = e.next then
        some ⟨k.target op, f.name, f.version,
          ((Actor.new { state := k.initial, data := f.data }).notify op).1.start⟩
      else e.resident? n := by
  by_cases hn : n = e.next
  · subst hn
    simp [found, resident?, Actor.new]
  · rw [if_neg hn]
    exact SortedMap.find?_insert_of_ne _ _ hn

omit [DecidableEq κ] in
/-- The founding of an actor. -/
theorem Sound.found {k : LifecycleKind σ ω δ κ W} {e : LifecycleEngine σ ω δ κ W}
    (h : Sound k e) (f : Founding δ) (op : ω) : Sound k (e.found k f op) := by
  have hothers : ∀ n r, e.resident? n = some r → (e.found k f op).resident? n = some r := by
    intro n r hr
    have hn : n ≠ e.next := Nat.ne_of_lt (h.fresh n r hr)
    rw [resident?_found, if_neg hn, hr]
  constructor
  · intro n r hr
    rw [resident?_found] at hr
    show n < e.next + 1
    split at hr
    · omega
    · have hn := h.fresh n r hr
      omega
  · intro n r hr
    rw [resident?_found] at hr
    split at hr
    · cases hr
      exact ((Actor.Reachable.new k.blueprint _).step (.notify op)).step .start
    · exact h.reachable n r hr
  · intro id n hn
    by_cases hid : id = k.target op
    · subst hid
      have hnext : n = e.next := by
        simpa [registered?, LifecycleEngine.found] using hn.symm
      subst hnext
      exact ⟨_, by rw [resident?_found, if_pos rfl], rfl⟩
    · have hold : e.registered? id = some n := by
        rw [← hn]
        exact (SortedMap.find?_insert_of_ne _ _ hid).symm
      obtain ⟨r, hr, hrid⟩ := h.registered id n hold
      exact ⟨r, hothers n r hr, hrid⟩
  · intro n r op' hr hpending
    rw [resident?_found] at hr
    split at hr
    · cases hr
      have hstaged : ((Actor.new { state := k.initial, data := f.data } :
          Actor σ ω δ κ).notify op).1.start.machine.slot.pending = some op := rfl
      rw [hstaged] at hpending
      cases hpending
      rfl
    · exact h.aimed n r op' hr hpending
  · intro n s hns
    obtain ⟨r, hr, hreached⟩ := h.reached n s hns
    exact ⟨r, hothers n r hr, hreached⟩
  · exact h.once

omit [DecidableEq κ] in
/-- An operation of a client or of the engine itself. -/
theorem Sound.handle {k : LifecycleKind σ ω δ κ W} (hk : k.Lawful)
    {e : LifecycleEngine σ ω δ κ W} (h : Sound k e) (op : ω) : Sound k (e.handle k op).1 := by
  rcases e.handle_cases k op with heq | ⟨n, hn, heq⟩ | ⟨f, -, heq⟩
  · rw [heq]
    exact h
  · rw [heq]
    refine h.update n (.notify (k.canonical e.settings e.world op)) ?_ (by simp)
    intro op' r hev hr
    cases hev
    rw [hk.target_canonical]
    obtain ⟨r', hr', hid⟩ := h.registered _ n hn
    rw [hr] at hr'
    cases hr'
    exact hid.symm
  · rw [heq]
    exact h.found f op

/-! ### Handled states and removals -/

omit [DecidableEq κ] in
/-- The end of a registration. -/
theorem Sound.erase {k : LifecycleKind σ ω δ κ W} {e : LifecycleEngine σ ω δ κ W}
    (h : Sound k e) (world : W) (id : DeployableId) :
    Sound k { e with world := world, registry := e.registry.erase id } where
  fresh := h.fresh
  reachable := h.reachable
  registered id' n hn := by
    by_cases hid : id' = id
    · subst hid
      simp [registered?] at hn
    · rw [registered?, SortedMap.find?_erase_of_ne _ hid] at hn
      exact h.registered id' n hn
  aimed := h.aimed
  reached := h.reached
  once := h.once

omit [DecidableEq κ] in
/-- The end of all registrations. -/
theorem Sound.clear {k : LifecycleKind σ ω δ κ W} {e : LifecycleEngine σ ω δ κ W}
    (h : Sound k e) : Sound k { e with registry := ∅ } where
  fresh := h.fresh
  reachable := h.reachable
  registered id n hn := by cases hn
  aimed := h.aimed
  reached := h.reached
  once := h.once

omit [DecidableEq κ] in
/-- Several actors are asked to stop. -/
theorem Sound.requestStops {k : LifecycleKind σ ω δ κ W} (numbers : List Nat)
    {e : LifecycleEngine σ ω δ κ W} (h : Sound k e) :
    Sound k (numbers.foldl (fun e n => e.update n (fun a => a.requestStop.1)) e) := by
  induction numbers generalizing e with
  | nil => exact h
  | cons n rest ih => exact ih (h.update n .requestStop (by simp) (by simp))

omit [DecidableEq κ] in
theorem Sound.publish {k : LifecycleKind σ ω δ κ W} {e : LifecycleEngine σ ω δ κ W}
    (h : Sound k e) (event : LifecycleEvent) : Sound k (e.publish event) :=
  h.of_eq rfl rfl rfl rfl

omit [DecidableEq σ] [DecidableEq κ] in
/-- A deployable that is gone loses its registration and all records. -/
theorem react_of_gone {k : LifecycleKind σ ω δ κ W} {e : LifecycleEngine σ ω δ κ W}
    {id : DeployableId} {n : Nat} {state : σ} (hgone : k.isGone state = true)
    (hregistered : e.registered? id = some n) (pending : Option ω) :
    e.react k id state pending =
      { e with world := k.forget e.world id, registry := e.registry.erase id } := by
  simp [react, hgone, deregisterWith, hregistered]

omit [DecidableEq σ] [DecidableEq κ] in
/-- Otherwise the stores change, and the engine may submit an operation to itself. -/
theorem react_of_not_gone {k : LifecycleKind σ ω δ κ W} {e : LifecycleEngine σ ω δ κ W}
    {id : DeployableId} {state : σ} (hgone : k.isGone state = false) (pending : Option ω) :
    e.react k id state pending =
      match k.react e.settings e.world id state pending with
      | (world, some op) => (LifecycleEngine.handle k { e with world := world } op).1
      | (world, none) => { e with world := world } := by
  rw [react, if_neg (by simp [hgone])]
  rcases k.react e.settings e.world id state pending with ⟨world, _ | op⟩ <;> rfl

omit [DecidableEq κ] in
/-- What follows from a reached state. -/
theorem Sound.react {k : LifecycleKind σ ω δ κ W} (hk : k.Lawful)
    {e : LifecycleEngine σ ω δ κ W} (h : Sound k e) (id : DeployableId) (state : σ)
    (pending : Option ω) : Sound k (e.react k id state pending) := by
  unfold LifecycleEngine.react
  split
  · unfold deregisterWith
    split
    · exact h.erase _ id
    · exact h
  · have hworld : Sound k { e with world := (k.react e.settings e.world id state pending).1 } :=
      h.of_eq rfl rfl rfl rfl
    simp only
    split
    · exact hworld.handle hk _
    · exact hworld

omit [DecidableEq σ] [DecidableEq κ] in
/-- Nobody stops waiting because of what follows from a state. -/
theorem changes_react (k : LifecycleKind σ ω δ κ W) (e : LifecycleEngine σ ω δ κ W)
    (id : DeployableId) (state : σ) (pending : Option ω) :
    (e.react k id state pending).changes = e.changes := by
  unfold LifecycleEngine.react
  split
  · unfold deregisterWith
    split <;> rfl
  · simp only
    split
    · rw [changes_handle]
    · rfl

omit [DecidableEq κ] in
/-- The handling of the state that was reached first: its consequences, its event, and then the
actor goes on. -/
theorem handleChange_eq (k : LifecycleKind σ ω δ κ W) {e : LifecycleEngine σ ω δ κ W} {n : Nat}
    {reached : Snapshot σ δ} {rest : List (Nat × Snapshot σ δ)} {r : Resident σ ω δ κ}
    (hchanges : e.changes = (n, reached) :: rest) (hr : e.resident? n = some r) :
    e.handleChange k =
      let e' := LifecycleEngine.react k { e with changes := rest } r.id reached.state
        r.actor.machine.slot.pending
      (e'.publish (k.event r.id r.name r.version reached.state)).update n
        (·.step k.blueprint .handled) := by
  have hr' : LifecycleEngine.resident? { e with changes := rest } n = some r := hr
  simp only [handleChange, hchanges, hr']
  rfl

omit [DecidableEq κ] in
/-- A state that is about to be handled does not wait any more. -/
theorem Sound.dequeue {k : LifecycleKind σ ω δ κ W} {e : LifecycleEngine σ ω δ κ W}
    (h : Sound k e) {n : Nat} {reached : Snapshot σ δ} {rest : List (Nat × Snapshot σ δ)}
    (hchanges : e.changes = (n, reached) :: rest) :
    Sound k { e with changes := rest } ∧ ∀ s, (n, s) ∉ rest := by
  have hnodup := h.once
  rw [hchanges, List.map_cons, List.nodup_cons] at hnodup
  constructor
  · exact
      { fresh := h.fresh
        reachable := h.reachable
        registered := h.registered
        aimed := h.aimed
        reached := fun m s hms =>
          h.reached m s (by rw [hchanges]; exact List.mem_cons_of_mem _ hms)
        once := hnodup.2 }
  · intro s hmem
    exact hnodup.1 (List.mem_map.2 ⟨(n, s), hmem, rfl⟩)

omit [DecidableEq κ] in
/-- The handling of the state that was reached first. -/
theorem Sound.handleChange {k : LifecycleKind σ ω δ κ W} (hk : k.Lawful)
    {e : LifecycleEngine σ ω δ κ W} (h : Sound k e) : Sound k (e.handleChange k) := by
  cases hchanges : e.changes with
  | nil => simpa [LifecycleEngine.handleChange, hchanges] using h
  | cons change rest =>
      obtain ⟨n, reached⟩ := change
      obtain ⟨hrest, hnot⟩ := h.dequeue hchanges
      obtain ⟨r, hr, -⟩ := h.reached n reached (by simp [hchanges])
      rw [handleChange_eq k hchanges hr]
      have hreact := hrest.react hk r.id reached.state r.actor.machine.slot.pending
      refine (hreact.publish _).update n .handled (by simp) ?_
      intro _ s hs
      exact hnot s (by simpa only [LifecycleEngine.publish, changes_react] using hs)

/-- Every event keeps an engine sound. -/
theorem Sound.step {k : LifecycleKind σ ω δ κ W} (hk : k.Lawful)
    {e : LifecycleEngine σ ω δ κ W} (h : Sound k e) (ev : EngineEvent σ ω δ W) :
    Sound k (e.step k ev) := by
  have hmove := e.move_step k ev
  generalize e.step k ev = e' at hmove ⊢
  cases hmove with
  | ignored => exact h
  | submitted op => exact h.handle hk op
  | deregistered id => exact h.erase e.world id
  | stopped => exact h.clear.requestStops _
  | cutOff n => exact h.update n .abort (by simp) (by simp)
  | began n => exact h.update n .begin (by simp) (by simp)
  | routed n acting r => exact h.finish acting r
  | dropped n acting r =>
      refine (h.update n .acknowledge (by simp) (by simp)).finish ?_ r
      rw [action?_acknowledge]
      exact acting
  | worked n supplied world => exact h.of_eq rfl rfl rfl rfl
  | acknowledged n acting => exact h.update n .acknowledge (by simp) (by simp)
  | returned n acting r => exact h.finish acting r
  | paused n => exact h.update n .elapsed (by simp) (by simp)
  | resumed n => exact h.update n .resume (by simp) (by simp)
  | changed => exact h.handleChange hk
  | reaped n rest =>
      have hended : Sound k { e with ended := rest } := h.of_eq rfl rfl rfl rfl
      exact hended.update n .requestStop (by simp) (by simp)
  | given world => exact h.of_eq rfl rfl rfl rfl

/-- Every run keeps an engine sound. -/
theorem Sound.run {k : LifecycleKind σ ω δ κ W} (hk : k.Lawful)
    {e : LifecycleEngine σ ω δ κ W} (h : Sound k e) (events : List (EngineEvent σ ω δ W)) :
    Sound k (e.run k events) := by
  induction events generalizing e with
  | nil => exact h
  | cons ev rest ih => exact ih (h.step hk ev)

/-! ## One actor for every identifier -/

/-- Every actor of an identifier whose loop goes on is the registered one, and no loop of them was
cut off. -/
structure SoleAt (id : DeployableId) (e : LifecycleEngine σ ω δ κ W) : Prop where
  registered : ∀ n r, e.resident? n = some r → r.id = id →
    e.registered? id = some n ∨ r.actor.phase = .exited
  uncut : ∀ n r, e.resident? n = some r → r.id = id → r.actor.phase ≠ .aborted

/-- Every actor whose loop goes on is the registered one of its identifier, and no loop was cut
off. -/
structure Sole (e : LifecycleEngine σ ω δ κ W) : Prop where
  registered : ∀ n r, e.resident? n = some r →
    e.registered? r.id = some n ∨ r.actor.phase = .exited
  uncut : ∀ n r, e.resident? n = some r → r.actor.phase ≠ .aborted

omit [DecidableEq σ] [DecidableEq κ] in
/-- One actor for every identifier is one actor for each of them. -/
theorem sole_iff_soleAt (e : LifecycleEngine σ ω δ κ W) : Sole e ↔ ∀ id, SoleAt id e where
  mp h _ :=
    { registered := fun n r hr hid => hid ▸ h.registered n r hr
      uncut := fun n r hr _ => h.uncut n r hr }
  mpr h :=
    { registered := fun n r hr => (h r.id).registered n r hr rfl
      uncut := fun n r hr => (h r.id).uncut n r hr rfl }

omit [DecidableEq σ] [DecidableEq κ] in
theorem sole_start (settings : EngineSettings) (world : W) :
    Sole (start settings world : LifecycleEngine σ ω δ κ W) where
  registered n r h := by cases h
  uncut n r h := by cases h

section SoleAt

variable {k : LifecycleKind σ ω δ κ W} {e : LifecycleEngine σ ω δ κ W} {id : DeployableId}

omit [DecidableEq σ] [DecidableEq κ] in
/-- Stores, events and waiting states do not matter, nor does the registration of others. -/
theorem SoleAt.of_eq {e' : LifecycleEngine σ ω δ κ W} (h : SoleAt id e)
    (hresidents : e'.residents = e.residents)
    (hregistered : e'.registered? id = e.registered? id) : SoleAt id e' where
  registered n r hr := by
    rw [hregistered]
    exact h.registered n r (by rwa [resident?, ← hresidents])
  uncut n r hr := h.uncut n r (by rwa [resident?, ← hresidents])

omit [DecidableEq κ] in
/-- An event of one actor.  A loop of this identifier is cut off only where it has ended anyway. -/
theorem SoleAt.update (h : SoleAt id e) (he : Sound k e) (n : Nat) (ev : ActorEvent σ ω δ)
    (habort : ev = .abort → ∀ r, e.resident? n = some r → r.id = id →
      r.actor.stopRequested = true → r.actor.phase = .exited) :
    SoleAt id (e.update n (·.step k.blueprint ev)) where
  registered m r' hr' hid := by
    obtain ⟨r, hr, rfl⟩ := exists_of_resident?_update hr'
    rw [registered?, registry_update]
    rcases h.registered m r hr hid with hregistered | hexited
    · exact Or.inl hregistered
    · right
      by_cases hm : m = n
      · simpa [hm] using Actor.phase_step_of_exited (he.reachable m r hr).consistent hexited _ ev
      · simpa [hm] using hexited
  uncut m r' hr' hid := by
    obtain ⟨r, hr, rfl⟩ := exists_of_resident?_update hr'
    have huncut := h.uncut m r hr hid
    by_cases hm : m = n
    · subst hm
      simp only [if_true]
      by_cases hev : ev = .abort
      · subst hev
        cases hstop : r.actor.stopRequested with
        | false => simpa [Actor.step, hstop] using huncut
        | true =>
            rw [Actor.phase_step_of_exited (he.reachable m r hr).consistent
              (habort rfl r hr hid hstop)]
            simp
      · exact Actor.phase_step_ne_aborted k.blueprint huncut hev
    · simpa [hm] using huncut

omit [DecidableEq κ] in
/-- The return of an action in flight. -/
theorem SoleAt.finish (h : SoleAt id e) (he : Sound k e) (n : Nat) (r : ActionResult σ δ) :
    SoleAt id (e.finish k n r) := by
  have hupdate := h.update he n (.finish true r) (by simp)
  rw [finish_eq]
  dsimp only
  split
  · exact hupdate.of_eq rfl rfl
  · exact hupdate

omit [DecidableEq κ] in
/-- An operation of a client or of the engine itself. -/
theorem SoleAt.handle (h : SoleAt id e) (he : Sound k e) (op : ω) :
    SoleAt id (e.handle k op).1 := by
  rcases e.handle_cases k op with heq | ⟨n, -, heq⟩ | ⟨f, hfree, heq⟩
  · rw [heq]
    exact h
  · rw [heq]
    exact h.update he n (.notify (k.canonical e.settings e.world op)) (by simp)
  · rw [heq]
    constructor
    · intro n r hr hid
      rw [resident?_found] at hr
      split at hr
      · rename_i hn
        cases hr
        left
        simp [registered?, found, hn, ← hid]
      · rcases h.registered n r hr hid with hregistered | hexited
        · left
          have hne : id ≠ k.target op := by
            rintro rfl
            rw [hfree] at hregistered
            cases hregistered
          rw [← hregistered]
          exact SortedMap.find?_insert_of_ne _ _ hne
        · exact Or.inr hexited
    · intro n r hr hid
      rw [resident?_found] at hr
      split at hr
      · cases hr
        simp [Actor.new, Actor.start, Actor.notify_of_free]
      · exact h.uncut n r hr hid

omit [DecidableEq κ] in
/-- What follows from a state of a deployable that is not gone, or is another one. -/
theorem SoleAt.react (h : SoleAt id e) (he : Sound k e) {id' : DeployableId} {state : σ}
    (hspared : k.isGone state = false ∨ id ≠ id') (pending : Option ω) :
    SoleAt id (e.react k id' state pending) := by
  cases hgone : k.isGone state with
  | false =>
      have hworld : ∀ world, SoleAt id { e with world := world } := fun _ => h.of_eq rfl rfl
      have hsound : ∀ world, Sound k { e with world := world } := fun _ => he.of_eq rfl rfl rfl rfl
      rw [react_of_not_gone hgone pending]
      split
      · exact (hworld _).handle (hsound _) _
      · exact hworld _
  | true =>
      have hid : id ≠ id' := hspared.resolve_left (by simp [hgone])
      rw [LifecycleEngine.react, if_pos hgone, deregisterWith]
      split
      · exact h.of_eq rfl (SortedMap.find?_erase_of_ne _ hid)
      · exact h

omit [DecidableEq κ] in
/-- The handling of the state that was reached first.  An actor whose deployable is gone loses its
registration and ends. -/
theorem SoleAt.handleChange (hk : k.Lawful) (h : SoleAt id e) (he : Sound k e) :
    SoleAt id (e.handleChange k) := by
  cases hchanges : e.changes with
  | nil => simpa [LifecycleEngine.handleChange, hchanges] using h
  | cons change rest =>
      obtain ⟨n, reached⟩ := change
      obtain ⟨hrest, -⟩ := he.dequeue hchanges
      obtain ⟨r, hr, -, hphase⟩ := he.reached n reached (by simp [hchanges])
      rw [handleChange_eq k hchanges hr]
      by_cases hspared : k.isGone reached.state = false ∨ id ≠ r.id
      · have hrest' : SoleAt id { e with changes := rest } := h.of_eq rfl rfl
        have hreact := hrest'.react hrest hspared r.actor.machine.slot.pending
        have hsound := hrest.react hk r.id reached.state r.actor.machine.slot.pending
        have hpublish : SoleAt id ((LifecycleEngine.react k { e with changes := rest } r.id
            reached.state r.actor.machine.slot.pending).publish
            (k.event r.id r.name r.version reached.state)) := hreact.of_eq rfl rfl
        exact hpublish.update (hsound.publish _) n .handled (by simp)
      · simp only [not_or, Bool.not_eq_false, ne_eq, Decidable.not_not] at hspared
        obtain ⟨hgone, rfl⟩ := hspared
        have hsignalling := hphase.resolve_right (h.uncut n r hr rfl)
        have hregistered : e.registered? r.id = some n :=
          (h.registered n r hr rfl).resolve_right (by simp [hsignalling])
        rw [react_of_gone (e := { e with changes := rest }) hgone hregistered]
        have hends : (r.actor.step k.blueprint .handled).phase = .exited := by
          simp [Actor.step, Actor.acknowledged, hsignalling, Actor.continueIn,
            hk.isTerminal_of_isGone _ hgone]
        -- The other actors of the identifier have ended already.
        have hothers : ∀ m s, m ≠ n → e.resident? m = some s → s.id = r.id →
            s.actor.phase = .exited := by
          intro m s hm hs hid
          refine (h.registered m s hs hid).resolve_left fun hregistered' => ?_
          rw [hregistered] at hregistered'
          exact hm (Option.some.inj hregistered').symm
        have hexited : ∀ m s', ((LifecycleEngine.publish { e with
              changes := rest
              world := k.forget e.world r.id
              registry := e.registry.erase r.id }
            (k.event r.id r.name r.version reached.state)).update n
              (·.step k.blueprint .handled)).resident? m = some s' → s'.id = r.id →
            s'.actor.phase = .exited := by
          intro m s' hs' hid
          obtain ⟨s, hs, rfl⟩ := exists_of_resident?_update hs'
          have hs : e.resident? m = some s := hs
          by_cases hm : m = n
          · subst hm
            rw [hr] at hs
            cases hs
            simpa using hends
          · simpa [hm] using hothers m s hm hs hid
        constructor
        · intro m s' hs' hid
          exact Or.inr (hexited m s' hs' hid)
        · intro m s' hs' hid
          rw [hexited m s' hs' hid]
          simp

/-- Every event that does not remove the actor of this identifier. -/
theorem SoleAt.step (hk : k.Lawful) (h : SoleAt id e) (he : Sound k e) {ev : EngineEvent σ ω δ W}
    (hderegister : ev ≠ .deregister id) (hstop : ev ≠ .stopAll)
    (habort : ∀ n, ev = .abort n → ∀ r, e.resident? n = some r → r.id = id →
      r.actor.stopRequested = true → r.actor.phase = .exited) : SoleAt id (e.step k ev) := by
  have hmove := e.move_step k ev
  generalize e.step k ev = e' at hmove ⊢
  cases hmove with
  | ignored => exact h
  | submitted op => exact h.handle he op
  | deregistered id' =>
      have hid : id ≠ id' := by
        rintro rfl
        exact hderegister rfl
      exact h.of_eq rfl (SortedMap.find?_erase_of_ne _ hid)
  | stopped => exact absurd rfl hstop
  | cutOff n => exact h.update he n .abort fun _ => habort n rfl
  | began n => exact h.update he n .begin (by simp)
  | routed n acting r => exact h.finish he n r
  | dropped n acting r =>
      have hsound := he.update n .acknowledge (by simp) (by simp)
      exact (h.update he n .acknowledge (by simp)).finish hsound n r
  | worked n supplied world => exact h.of_eq rfl rfl
  | acknowledged n acting => exact h.update he n .acknowledge (by simp)
  | returned n acting r => exact h.finish he n r
  | paused n => exact h.update he n .elapsed (by simp)
  | resumed n => exact h.update he n .resume (by simp)
  | changed => exact h.handleChange hk he
  | reaped n rest =>
      have hended : SoleAt id { e with ended := rest } := h.of_eq rfl rfl
      have hsound : Sound k { e with ended := rest } := he.of_eq rfl rfl rfl rfl
      exact hended.update hsound n .requestStop (by simp)
  | given world => exact h.of_eq rfl rfl

end SoleAt

/-- Every event that is no removal keeps one actor for every identifier. -/
theorem Sole.step {k : LifecycleKind σ ω δ κ W} (hk : k.Lawful)
    {e : LifecycleEngine σ ω δ κ W} (h : Sole e) (he : Sound k e) {ev : EngineEvent σ ω δ W}
    (hev : ev.isRemoval = false) : Sole (e.step k ev) := by
  refine (sole_iff_soleAt _).2 fun id => ((sole_iff_soleAt e).1 h id).step hk he ?_ ?_ ?_
  · rintro rfl
    cases hev
  · rintro rfl
    cases hev
  · rintro n rfl
    cases hev

omit [DecidableEq σ] [DecidableEq κ] in
/-- Two actors of one identifier: the loop of one of them has ended. -/
theorem Sole.eq_of_id_eq {e : LifecycleEngine σ ω δ κ W} (h : Sole e) {n m : Nat}
    {r s : Resident σ ω δ κ} (hr : e.resident? n = some r) (hs : e.resident? m = some s)
    (hid : r.id = s.id) (hn : r.actor.phase ≠ .exited) (hm : s.actor.phase ≠ .exited) : n = m := by
  have hregistered := (h.registered n r hr).resolve_right hn
  rw [hid, (h.registered m s hs).resolve_right hm] at hregistered
  exact (Option.some.inj hregistered).symm

end LifecycleEngine
end Orchestration
