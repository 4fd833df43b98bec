import Orchestration.Proofs.Lifecycle.Evolution
import Orchestration.Proofs.Lifecycle.Kinds

/-!
# Published events and the trace of a machine

A pass that moves a machine puts the state that was reached into the queue of the engine, and holds
the loop up until the state has been handled.  Handling it has consequences first, which may make
the engine submit an operation to the same actor; then the event is published; and then the loop
goes on.

The events that are published are therefore the trace of the machines, and nothing else: every
committed state is handled once and in the order in which it was reached, or still waits.

Main results:

- `LifecycleEngine.Yields.step`: every event but the handling of a state commits what a pass moves
  to, and publishes nothing.
- `LifecycleEngine.conservation`: what is committed is what is handled and what still waits.
- `LifecycleEngine.published_run`: what is published are the events of what is handled.
- `LifecycleEngine.path_commits`: what an actor commits is a path through its transition table.
- `LifecycleEngine.publishes_trace`: all of that for applications and for local services.
-/

namespace Orchestration

/-- A path through a transition table: every state is among the targets of the transition of the one
before, which is not terminal. -/
inductive Blueprint.Path {σ κ : Type} [DecidableEq σ] (b : Blueprint σ κ) :
    σ → List σ → σ → Prop where
  | done (s : σ) : Path b s [] s
  | move {s next last : σ} {states : List σ} {t : Transition σ κ} (live : b.isTerminal s = false)
      (leads : b.transition? s = some t) (target : next ∈ t.targets)
      (rest : Path b next states last) : Path b s (next :: states) last

namespace LifecycleEngine

variable {σ ω δ κ W : Type} [DecidableEq σ] [DecidableEq κ]

/-! ## Commits and handled states -/

/-- The actor whose action in flight returns with an event, and what the action returns. -/
def returns? (k : LifecycleKind σ ω δ κ W) (e : LifecycleEngine σ ω δ κ W) :
    EngineEvent σ ω δ W → Option (Nat × ActionResult σ δ)
  | .route n =>
    if e.action? n = some k.routing then
      (e.resident? n).map fun r =>
        (n, (k.route r.actor.machine.slot.pending r.actor.machine.current).result)
    else none
  | .finish n result => if e.isSupplied k n then some (n, result) else none
  | _ => none

/-- The snapshot that an event commits, with the actor whose machine moves to it. -/
def commit? (k : LifecycleKind σ ω δ κ W) (e : LifecycleEngine σ ω δ κ W)
    (ev : EngineEvent σ ω δ W) : Option (Nat × Snapshot σ δ) :=
  (e.returns? k ev).bind fun (n, result) =>
    (e.resident? n).bind fun r => (r.actor.moved? result).map fun next => (n, next)

/-- The snapshots that are committed in a run, in their order. -/
def commits (k : LifecycleKind σ ω δ κ W) (e : LifecycleEngine σ ω δ κ W) :
    List (EngineEvent σ ω δ W) → List (Nat × Snapshot σ δ)
  | [] => []
  | ev :: rest => (e.commit? k ev).toList ++ commits k (e.step k ev) rest

/-- The snapshot that an event handles. -/
def handled? (e : LifecycleEngine σ ω δ κ W) : EngineEvent σ ω δ W → Option (Nat × Snapshot σ δ)
  | .handleChange => e.changes.head?
  | _ => none

/-- The snapshots that are handled in a run, in their order. -/
def handled (k : LifecycleKind σ ω δ κ W) (e : LifecycleEngine σ ω δ κ W) :
    List (EngineEvent σ ω δ W) → List (Nat × Snapshot σ δ)
  | [] => []
  | ev :: rest => (e.handled? ev).toList ++ handled k (e.step k ev) rest

/-- The event that tells of a state that an actor reached. -/
def event? (k : LifecycleKind σ ω δ κ W) (e : LifecycleEngine σ ω δ κ W)
    (change : Nat × Snapshot σ δ) : Option LifecycleEvent :=
  (e.resident? change.1).map fun r => k.event r.id r.name r.version change.2.state

/-- The state of the machine of a number; one that was not founded yet will start in the initial
state. -/
def machineState (k : LifecycleKind σ ω δ κ W) (e : LifecycleEngine σ ω δ κ W) (n : Nat) : σ :=
  ((e.resident? n).map (·.actor.machine.current.state)).getD k.initial

/-- The states of one actor in a list of snapshots. -/
def statesOf (n : Nat) (changes : List (Nat × Snapshot σ δ)) : List σ :=
  (changes.filter (fun change => change.1 = n)).map (·.2.state)

/-! ## What an event commits -/

/-- One engine follows another, and in between one snapshot was committed, or none.  Nothing was
published, and the actors go by the same names. -/
structure Yields (k : LifecycleKind σ ω δ κ W) (e e' : LifecycleEngine σ ω δ κ W)
    (commit : Option (Nat × Snapshot σ δ)) : Prop where
  changes : e'.changes = e.changes ++ commit.toList
  published : e'.published = e.published
  named : ∀ change event, e.event? k change = some event → e'.event? k change = some event
  moved : ∀ n next, commit = some (n, next) → e'.machineState k n = next.state
  stayed : ∀ n, (∀ next, commit ≠ some (n, next)) → e'.machineState k n = e.machineState k n

section Yields

variable {k : LifecycleKind σ ω δ κ W} {e e' e'' : LifecycleEngine σ ω δ κ W}

omit [DecidableEq σ] [DecidableEq κ] in
/-- What the registry and the stores are does not matter. -/
theorem Yields.of_eq (hresidents : e'.residents = e.residents) (hchanges : e'.changes = e.changes)
    (hpublished : e'.published = e.published) : Yields k e e' none where
  changes := by simp [hchanges]
  published := hpublished
  named change event h := by rwa [event?, resident?, hresidents]
  moved n next h := by cases h
  stayed n _ := by rw [machineState, resident?, hresidents]; rfl

omit [DecidableEq σ] [DecidableEq κ] in
/-- Where nothing is committed before, what is committed after is committed in all. -/
theorem Yields.trans {commit : Option (Nat × Snapshot σ δ)} (h : Yields k e e' none)
    (h' : Yields k e' e'' commit) : Yields k e e'' commit where
  changes := by rw [h'.changes, h.changes]; simp
  published := by rw [h'.published, h.published]
  named change event hevent := h'.named change event (h.named change event hevent)
  moved := h'.moved
  stayed n hn := by rw [h'.stayed n hn, h.stayed n (by simp)]

omit [DecidableEq σ] [DecidableEq κ] in
/-- A change of an actor does not change its name. -/
theorem event?_update (n : Nat) (change : Actor σ ω δ κ → Actor σ ω δ κ)
    {c : Nat × Snapshot σ δ} {event : LifecycleEvent} (h : e.event? k c = some event) :
    (e.update n change).event? k c = some event := by
  obtain ⟨r, hr, hevent⟩ := Option.map_eq_some_iff.1 h
  rw [event?, resident?_update_of_some hr]
  exact congrArg some hevent

omit [DecidableEq σ] [DecidableEq κ] in
theorem machineState_of_resident {n : Nat} {r : Resident σ ω δ κ} (hr : e.resident? n = some r) :
    e.machineState k n = r.actor.machine.current.state := by
  rw [machineState, hr]
  rfl

omit [DecidableEq σ] [DecidableEq κ] in
theorem machineState_update_of_ne {n m : Nat} (h : m ≠ n)
    (change : Actor σ ω δ κ → Actor σ ω δ κ) :
    (e.update n change).machineState k m = e.machineState k m := by
  rw [machineState, machineState, resident?_update_of_ne e n change h]

omit [DecidableEq σ] [DecidableEq κ] in
/-- A change of one actor that leaves its state alone. -/
theorem Yields.update (n : Nat) {change : Actor σ ω δ κ → Actor σ ω δ κ}
    (hstate : ∀ r, e.resident? n = some r →
      (change r.actor).machine.current.state = r.actor.machine.current.state) :
    Yields k e (e.update n change) none where
  changes := by simp
  published := published_update e n change
  named _ _ := event?_update n change
  moved m next h := by cases h
  stayed m _ := by
    by_cases hm : m = n
    · subst hm
      cases hr : e.resident? m with
      | none => rw [LifecycleEngine.update, hr]
      | some r =>
          rw [machineState_of_resident hr, ← hstate r hr]
          exact machineState_of_resident (r := { r with actor := change r.actor })
            (by rw [resident?_update_self, hr]; rfl)
    · exact machineState_update_of_ne hm change

omit [DecidableEq κ] in
/-- An event of an actor in which no action returns. -/
theorem Yields.update_step (n : Nat) (ev : ActorEvent σ ω δ)
    (hfinish : ∀ signals r, ev ≠ .finish signals r) :
    Yields k e (e.update n (·.step k.blueprint ev)) none :=
  Yields.update n fun r _ => by rw [Actor.current_step k.blueprint r.actor hfinish]

omit [DecidableEq κ] in
/-- An operation of a client or of the engine itself. -/
theorem Yields.handle (he : Sound k e) (op : ω) : Yields k e (e.handle k op).1 none := by
  rcases e.handle_cases k op with heq | ⟨n, -, heq⟩ | ⟨f, -, heq⟩
  · rw [heq]
    exact Yields.of_eq rfl rfl rfl
  · rw [heq]
    exact Yields.update_step n (.notify (k.canonical e.settings e.world op)) (by simp)
  · have hfree : e.resident? e.next = none := by
      cases hr : e.resident? e.next with
      | none => rfl
      | some r => exact absurd (he.fresh e.next r hr) (Nat.lt_irrefl _)
    rw [heq]
    constructor
    · simp [found]
    · rfl
    · intro c event hevent
      obtain ⟨r, hr, hevent⟩ := Option.map_eq_some_iff.1 hevent
      have hn : c.1 ≠ e.next := Nat.ne_of_lt (he.fresh c.1 r hr)
      rw [event?, resident?_found, if_neg hn, hr]
      exact congrArg some hevent
    · intro n next h
      cases h
    · intro n _
      rw [machineState, machineState, resident?_found]
      split <;> rename_i hn
      · -- A machine that is founded is in its initial state.
        rw [hn, hfree]
        rfl
      · rfl

omit [DecidableEq κ] in
/-- What follows from a reached state. -/
theorem Yields.react (he : Sound k e) (id : DeployableId) (state : σ) (pending : Option ω) :
    Yields k e (e.react k id state pending) none := by
  cases hgone : k.isGone state with
  | true =>
      rw [LifecycleEngine.react, if_pos hgone, deregisterWith]
      split
      · exact Yields.of_eq rfl rfl rfl
      · exact Yields.of_eq rfl rfl rfl
  | false =>
      have hworld (world : W) : Yields k e { e with world := world } none :=
        Yields.of_eq rfl rfl rfl
      have hsound (world : W) : Sound k { e with world := world } := he.of_eq rfl rfl rfl rfl
      rw [react_of_not_gone hgone]
      split
      · exact (hworld _).trans (Yields.handle (hsound _) _)
      · exact hworld _

omit [DecidableEq κ] in
/-- Several actors are asked to stop. -/
theorem Yields.requestStops (numbers : List Nat) (h : Yields k e e' none) :
    Yields k e (numbers.foldl (fun e n => e.update n (fun a => a.requestStop.1)) e') none := by
  induction numbers generalizing e' with
  | nil => exact h
  | cons n rest ih => exact ih (h.trans (Yields.update_step n .requestStop (by simp)))

omit [DecidableEq κ] in
/-- What the machine moves to when the action in flight returns waits to be handled. -/
theorem changes_finish (k : LifecycleKind σ ω δ κ W) {n : Nat} {r : Resident σ ω δ κ}
    (hr : e.resident? n = some r) {t : Transition σ κ} (hacting : r.actor.phase = .acting t)
    (result : ActionResult σ δ) :
    (e.finish k n result).changes =
      e.changes ++ ((r.actor.moved? result).map fun next => (n, next)).toList := by
  have hphase (next : Snapshot σ δ) :
      (r.actor.finish k.blueprint true result).phase = .signalling next ↔
        r.actor.moved? result = some next := Actor.phase_step_finish hacting result next
  simp only [LifecycleEngine.finish, hr, Option.map_some]
  cases hmoved : r.actor.moved? result with
  | some next =>
      rw [(hphase next).2 hmoved]
      simp
  | none =>
      split <;> rename_i hsignalling
      · rw [(hphase _).1 hsignalling] at hmoved
        cases hmoved
      · simp

omit [DecidableEq κ] in
/-- The return of an action in flight commits what the machine moves to. -/
theorem Yields.finish {n : Nat} {r : Resident σ ω δ κ} (hr : e.resident? n = some r)
    {t : Transition σ κ} (hacting : r.actor.phase = .acting t) (result : ActionResult σ δ) :
    Yields k e (e.finish k n result) ((r.actor.moved? result).map fun next => (n, next)) := by
  let change : Actor σ ω δ κ → Actor σ ω δ κ := (·.step k.blueprint (.finish true result))
  have hr' : (e.update n change).resident? n = some { r with actor := change r.actor } := by
    rw [resident?_update_self, hr]
    rfl
  have hcurrent := Actor.current_step_finish k.blueprint r.actor true result
  have hresident : (e.finish k n result).resident? = (e.update n change).resident? := by
    funext m
    exact resident?_finish k e n result m
  have hstate : (e.finish k n result).machineState k n = (change r.actor).machine.current.state :=
    machineState_of_resident (by rw [hresident, hr'])
  constructor
  · exact changes_finish k hr hacting result
  · rw [finish_eq]
    dsimp only
    split <;> exact published_update e n change
  · intro c event hevent
    have hnamed := event?_update (k := k) n change hevent
    rwa [event?, hresident]
  · intro m next hm
    obtain ⟨next', hmoved, heq⟩ := Option.map_eq_some_iff.1 hm
    cases heq
    rw [hstate, hcurrent, hmoved]
    rfl
  · intro m hm
    by_cases hmn : m = n
    · subst hmn
      have hnone : r.actor.moved? result = none := by
        cases hmoved : r.actor.moved? result with
        | none => rfl
        | some next => exact absurd (by rw [hmoved]; rfl) (hm next)
      rw [hstate, hcurrent, hnone, machineState_of_resident hr]
      rfl
    · rw [machineState, hresident]
      exact machineState_update_of_ne hmn change

/-- The return of an action in flight, after an acknowledgement or without one. -/
theorem step_of_returns {ev : EngineEvent σ ω δ W} {n : Nat} {result : ActionResult σ δ}
    (h : e.returns? k ev = some (n, result)) :
    ∃ r t, e.resident? n = some r ∧ r.actor.phase = .acting t ∧
      (e.step k ev = e.finish k n result ∨
        e.step k ev = (e.update n (·.step k.blueprint .acknowledge)).finish k n result) := by
  cases ev with
  | route m =>
      simp only [returns?] at h
      split at h <;> rename_i haction
      · obtain ⟨r, hr, heq⟩ := Option.map_eq_some_iff.1 h
        cases heq
        obtain ⟨r', t, hr', hacting, -⟩ := acting_of_action? haction
        rw [hr] at hr'
        cases hr'
        refine ⟨r, t, hr, hacting, ?_⟩
        rw [step, if_pos haction]
        simp only [LifecycleEngine.route, hr]
        split
        · right
          rw [acknowledge_eq k.blueprint (by simp [haction])]
        · exact Or.inl rfl
      · cases h
  | finish m result' =>
      simp only [returns?] at h
      split at h <;> rename_i hsupplied
      · cases h
        obtain ⟨action, haction⟩ := Option.isSome_iff_exists.1
          (isSome_action?_of_isSupplied hsupplied)
        obtain ⟨r, t, hr, hacting, -⟩ := acting_of_action? haction
        exact ⟨r, t, hr, hacting, Or.inl (if_pos hsupplied)⟩
      · cases h
  | _ => cases h

/-- Every event but the handling of a state commits what a pass moves to, if it ends one, and
publishes nothing. -/
theorem Yields.step (he : Sound k e) {ev : EngineEvent σ ω δ W} (hchange : ev ≠ .handleChange) :
    Yields k e (e.step k ev) (e.commit? k ev) := by
  cases hreturns : e.returns? k ev with
  | some returned =>
      obtain ⟨n, result⟩ := returned
      obtain ⟨r, t, hr, hacting, hstep | hstep⟩ := step_of_returns hreturns
      · have hcommit : e.commit? k ev = (r.actor.moved? result).map fun next => (n, next) := by
          simp [commit?, hreturns, hr]
        rw [hstep, hcommit]
        exact Yields.finish hr hacting result
      · have hcommit : e.commit? k ev =
            ((r.actor.step k.blueprint .acknowledge).moved? result).map fun next => (n, next) := by
          simp [commit?, hreturns, hr, Actor.moved?_acknowledge]
        have hr' : (e.update n (·.step k.blueprint .acknowledge)).resident? n =
            some { r with actor := r.actor.step k.blueprint .acknowledge } := by
          rw [resident?_update_self, hr]
          rfl
        have hacting' : (r.actor.step k.blueprint .acknowledge).phase = .acting t := by
          simp [Actor.step, hacting, Actor.acknowledge]
        rw [hstep, hcommit]
        exact (Yields.update_step n _ (by simp)).trans (Yields.finish hr' hacting' result)
  | none =>
      have hcommit : e.commit? k ev = none := by
        simp [commit?, hreturns]
      have hsame : Yields k e e none := Yields.of_eq rfl rfl rfl
      rw [hcommit]
      cases ev with
      | handle op => exact Yields.handle he op
      | deregister id => exact Yields.of_eq rfl rfl rfl
      | stopAll => exact Yields.requestStops _ (Yields.of_eq rfl rfl rfl)
      | abort n =>
          exact Yields.update_step n .abort (by simp)
      | begin n => exact Yields.update_step n .begin (by simp)
      | route n =>
          rw [LifecycleEngine.step]
          split <;> rename_i haction
          · obtain ⟨r, -, hr, -⟩ := acting_of_action? haction
            simp [returns?, haction, hr] at hreturns
          · exact hsame
      | work n world =>
          rw [LifecycleEngine.step]
          split
          · exact Yields.of_eq rfl rfl rfl
          · exact hsame
      | acknowledge n =>
          rw [LifecycleEngine.step]
          split
          · exact Yields.update n fun r _ => rfl
          · exact hsame
      | finish n result =>
          rw [LifecycleEngine.step]
          split <;> rename_i hsupplied
          · simp [returns?, hsupplied] at hreturns
          · exact hsame
      | elapsed n => exact Yields.update_step n .elapsed (by simp)
      | resume n => exact Yields.update_step n .resume (by simp)
      | handleChange => exact absurd rfl hchange
      | reap =>
          simp only [LifecycleEngine.step, reap]
          split
          · exact hsame
          · rename_i n rest _
            have hended : Yields k e { e with ended := rest } none := Yields.of_eq rfl rfl rfl
            exact hended.trans (Yields.update_step n .requestStop (by simp))
      | outside world => exact Yields.of_eq rfl rfl rfl

omit [DecidableEq κ] in
/-- The handling of a state changes nothing that was committed, and publishes the event of that
state. -/
theorem Yields.handleChange (he : Sound k e) {n : Nat} {reached : Snapshot σ δ}
    {rest : List (Nat × Snapshot σ δ)} {r : Resident σ ω δ κ}
    (hchanges : e.changes = (n, reached) :: rest) (hr : e.resident? n = some r) :
    ∃ e₁, Yields k { e with changes := rest } e₁ none ∧
      Yields k (e₁.publish (k.event r.id r.name r.version reached.state)) (e.handleChange k)
        none := by
  obtain ⟨hrest, -⟩ := he.dequeue hchanges
  refine ⟨_, Yields.react hrest r.id reached.state r.actor.machine.slot.pending, ?_⟩
  rw [handleChange_eq k hchanges hr]
  exact Yields.update_step n _ (by simp)

end Yields

/-! ## What an event does to the queue and to the published events -/

section Step

variable {k : LifecycleKind σ ω δ κ W} {e : LifecycleEngine σ ω δ κ W}

/-- What one event does: what was waiting and what it commits is what it handles and what waits
afterwards; it publishes what it handles; nobody is renamed; and the states of the machines are
those of before, unless it commits another. -/
structure Traces (k : LifecycleKind σ ω δ κ W) (e e' : LifecycleEngine σ ω δ κ W)
    (commit handled : Option (Nat × Snapshot σ δ)) : Prop where
  conserved : e.changes ++ commit.toList = handled.toList ++ e'.changes
  published : e'.published.map some = e.published.map some ++ handled.toList.map (e.event? k)
  named : ∀ c event, e.event? k c = some event → e'.event? k c = some event
  moved : ∀ n next, commit = some (n, next) → e'.machineState k n = next.state
  stayed : ∀ n, (∀ next, commit ≠ some (n, next)) → e'.machineState k n = e.machineState k n

omit [DecidableEq σ] [DecidableEq κ] in
/-- An event that handles no state. -/
theorem Yields.traces {e' : LifecycleEngine σ ω δ κ W} {commit : Option (Nat × Snapshot σ δ)}
    (h : Yields k e e' commit) : Traces k e e' commit none where
  conserved := by simp [h.changes]
  published := by simp [h.published]
  named := h.named
  moved := h.moved
  stayed := h.stayed

/-- Every event. -/
theorem traces_step (he : Sound k e) (ev : EngineEvent σ ω δ W) :
    Traces k e (e.step k ev) (e.commit? k ev) (e.handled? ev) := by
  by_cases hchange : ev = .handleChange
  · subst hchange
    cases hchanges : e.changes with
    | nil =>
        have hsame : e.step k .handleChange = e := by
          simp [step, LifecycleEngine.handleChange, hchanges]
        have hnone : e.handled? .handleChange = none := by
          simp [handled?, hchanges]
        rw [hsame, hnone]
        exact Yields.traces (Yields.of_eq rfl rfl rfl)
    | cons change rest =>
        obtain ⟨n, reached⟩ := change
        obtain ⟨r, hr, -⟩ := he.reached n reached (by simp [hchanges])
        obtain ⟨e₁, hreact, hhandled⟩ := Yields.handleChange he hchanges hr
        have hhead : e.handled? .handleChange = some (n, reached) := by
          simp [handled?, hchanges]
        have hevent : e.event? k (n, reached) =
            some (k.event r.id r.name r.version reached.state) := by
          simp [event?, hr]
        have hsilent : e.commit? k .handleChange = none := rfl
        rw [hhead, hsilent]
        constructor
        · have hwaiting : (e.handleChange k).changes = rest := by
            rw [hhandled.changes, publish, hreact.changes]
            simp
          simp [hchanges, step, hwaiting]
        · have hpublished : (e.handleChange k).published =
              e.published ++ [k.event r.id r.name r.version reached.state] := by
            rw [hhandled.published, publish, hreact.published]
          simp [step, hpublished, hevent]
        · intro c event h
          exact hhandled.named c event (hreact.named c event h)
        · intro m next h
          cases h
        · intro m _
          exact (hhandled.stayed m (by simp)).trans (hreact.stayed m (by simp))
  · have hnone : e.handled? ev = none := by
      cases ev <;> first | rfl | exact absurd rfl hchange
    rw [hnone]
    exact (Yields.step he hchange).traces

end Step

/-! ## Whole runs -/

section Run

variable {k : LifecycleKind σ ω δ κ W} {e : LifecycleEngine σ ω δ κ W}

/-- What was waiting and what a run commits is what the run handles and what waits in the end. -/
theorem conservation (hk : k.Lawful) (he : Sound k e) (events : List (EngineEvent σ ω δ W)) :
    e.changes ++ commits k e events = handled k e events ++ (e.run k events).changes := by
  induction events generalizing e with
  | nil => simp [commits, handled, run]
  | cons ev rest ih =>
      calc e.changes ++ commits k e (ev :: rest)
          = (e.changes ++ (e.commit? k ev).toList) ++ commits k (e.step k ev) rest := by
            rw [commits, List.append_assoc]
        _ = ((e.handled? ev).toList ++ (e.step k ev).changes) ++ commits k (e.step k ev) rest := by
            rw [(traces_step he ev).conserved]
        _ = (e.handled? ev).toList ++
              (handled k (e.step k ev) rest ++ ((e.step k ev).run k rest).changes) := by
            rw [List.append_assoc, ih (he.step hk ev)]
        _ = handled k e (ev :: rest) ++ (e.run k (ev :: rest)).changes := by
            rw [handled, List.append_assoc]
            rfl

/-- Nobody is renamed. -/
theorem named_run (hk : k.Lawful) (he : Sound k e) (events : List (EngineEvent σ ω δ W))
    {c : Nat × Snapshot σ δ} {event : LifecycleEvent} (h : e.event? k c = some event) :
    (e.run k events).event? k c = some event := by
  induction events generalizing e with
  | nil => exact h
  | cons ev rest ih => exact ih (he.step hk ev) ((traces_step he ev).named c event h)

/-- A run publishes the events of what it handles. -/
theorem published_run (hk : k.Lawful) (he : Sound k e) (events : List (EngineEvent σ ω δ W)) :
    (e.run k events).published.map some =
      e.published.map some ++ (handled k e events).map ((e.run k events).event? k) := by
  induction events generalizing e with
  | nil => simp [handled, run]
  | cons ev rest ih =>
      have hstep := he.step hk ev
      -- What is handled now goes by the same name in the end.
      have hevent : (e.handled? ev).toList.map (e.event? k) =
          (e.handled? ev).toList.map ((e.run k (ev :: rest)).event? k) := by
        apply List.map_congr_left
        intro c hc
        have hwaits : c ∈ e.changes := by
          cases ev with
          | handleChange => exact List.mem_of_mem_head? (Option.mem_toList.1 hc)
          | _ => cases hc
        obtain ⟨r, hr, -⟩ := he.reached c.1 c.2 hwaits
        have hnow : e.event? k c = some (k.event r.id r.name r.version c.2.state) := by
          simp [event?, hr]
        rw [hnow, named_run hk he (ev :: rest) hnow]
      calc (e.run k (ev :: rest)).published.map some
          = (e.step k ev).published.map some ++
              (handled k (e.step k ev) rest).map ((e.run k (ev :: rest)).event? k) := ih hstep
        _ = (e.published.map some ++
              (e.handled? ev).toList.map ((e.run k (ev :: rest)).event? k)) ++
              (handled k (e.step k ev) rest).map ((e.run k (ev :: rest)).event? k) := by
            rw [(traces_step he ev).published, hevent]
        _ = e.published.map some ++ (handled k e (ev :: rest)).map
              ((e.run k (ev :: rest)).event? k) := by
            rw [handled, List.map_append, List.append_assoc]

/-- What is committed leads on from where the machine is. -/
theorem leads_of_commit (hk : k.Lawful) (he : Sound k e) {ev : EngineEvent σ ω δ W} {n : Nat}
    {next : Snapshot σ δ} (h : e.commit? k ev = some (n, next)) :
    ∃ t, k.blueprint.isTerminal (e.machineState k n) = false ∧
      k.blueprint.transition? (e.machineState k n) = some t ∧ next.state ∈ t.targets := by
  obtain ⟨⟨m, result⟩, -, hcommit⟩ := Option.bind_eq_some_iff.1 h
  obtain ⟨r, hr, hmoved⟩ := Option.bind_eq_some_iff.1 hcommit
  obtain ⟨next', hnext, heq⟩ := Option.map_eq_some_iff.1 hmoved
  cases heq
  obtain ⟨t, hacting, htarget⟩ := Actor.acting_of_moved hnext
  have htransition := (he.reachable n r hr).faithful.acting t hacting
  rw [← machineState_of_resident (k := k) hr] at htransition
  refine ⟨t, ?_, htransition, htarget⟩
  cases hterminal : k.blueprint.isTerminal (e.machineState k n) with
  | false => rfl
  | true =>
      exact absurd (Blueprint.transition?_source htransition)
        (hk.source_ne_of_isTerminal _ hterminal t (Blueprint.transition?_mem htransition))

/-- What an actor commits in a run is a path from where its machine was to where it is. -/
theorem path_commits (hk : k.Lawful) (he : Sound k e) (n : Nat)
    (events : List (EngineEvent σ ω δ W)) :
    k.blueprint.Path (e.machineState k n) (statesOf n (commits k e events))
      ((e.run k events).machineState k n) := by
  induction events generalizing e with
  | nil => exact .done _
  | cons ev rest ih =>
      have hrest := ih (he.step hk ev)
      have htraces := traces_step he ev
      by_cases hn : ∃ next, e.commit? k ev = some (n, next)
      · obtain ⟨next, hcommit⟩ := hn
        obtain ⟨t, hlive, hleads, htarget⟩ := leads_of_commit hk he hcommit
        have hstates : statesOf n (commits k e (ev :: rest)) =
            next.state :: statesOf n (commits k (e.step k ev) rest) := by
          simp [statesOf, commits, hcommit]
        rw [htraces.moved n next hcommit] at hrest
        rw [hstates]
        exact .move hlive hleads htarget hrest
      · have hnot : ∀ next, e.commit? k ev ≠ some (n, next) := fun next h => hn ⟨next, h⟩
        have hstates : statesOf n (commits k e (ev :: rest)) =
            statesOf n (commits k (e.step k ev) rest) := by
          cases hcommit : e.commit? k ev with
          | none => simp [commits, hcommit]
          | some c =>
              have hc : c.1 ≠ n := by
                rintro rfl
                exact hnot c.2 hcommit
              simp [statesOf, commits, hcommit, hc]
        rw [htraces.stayed n hnot] at hrest
        rw [hstates]
        exact hrest

end Run

/-! ## Published events -/

/-- What an engine publishes in a run is the trace of its machines.  `persisted` is what becomes of
the stores when a state is reached, unless the deployable is gone. -/
structure PublishesTrace (k : LifecycleKind σ ω δ κ W)
    (persisted : W → DeployableId → σ → Option ω → W) (first e : LifecycleEngine σ ω δ κ W)
    (events : List (EngineEvent σ ω δ W)) : Prop where
  /-- Every committed snapshot is handled once and in its order, or still waits. -/
  in_order : commits k first events = handled k first events ++ e.changes
  /-- At most one snapshot of every actor waits. -/
  at_most_one_waits : (e.changes.map Prod.fst).Nodup
  /-- What was published are the events of the snapshots that were handled. -/
  published : e.published.map some = (handled k first events).map (e.event? k)
  /-- The states of an actor are a path through its table, from the initial state to where it is. -/
  path : ∀ n, k.blueprint.Path k.initial (statesOf n (commits k first events))
    (e.machineState k n)
  /-- An event publishes nothing, unless it handles a state, and queues what it commits. -/
  silent : ∀ ev, ev ≠ .handleChange → (e.step k ev).published = e.published ∧
    (e.step k ev).changes = e.changes ++ (e.commit? k ev).toList
  /-- The state that waits longest is where its actor is.  Its consequences come first: the count is
  persisted, or the records are deleted and the registration ends.  Nothing has been published by
  then.  The event comes second, and then the actor goes on. -/
  consequences_first : ∀ n reached rest, e.changes = (n, reached) :: rest →
    ∃ (r : Resident σ ω δ κ) (e₁ : LifecycleEngine σ ω δ κ W),
      e.resident? n = some r ∧ r.actor.machine.current = reached ∧
      e₁.published = e.published ∧
      (k.isGone reached.state = true → e₁.registered? r.id = none ∧
        e₁.world = if (e.registered? r.id).isSome then k.forget e.world r.id else e.world) ∧
      (k.isGone reached.state = false →
        e₁.world = persisted e.world r.id reached.state r.actor.machine.slot.pending) ∧
      e.step k .handleChange =
        (e₁.publish (k.event r.id r.name r.version reached.state)).update n
          (·.step k.blueprint .handled)
  /-- No action of an actor begins or is in flight while a state of it waits. -/
  handled_first : ∀ n, ((e.step k (.begin n)).action? n).isSome = true ∨
    (e.action? n).isSome = true → ∀ reached, (n, reached) ∉ e.changes

omit [DecidableEq σ] [DecidableEq κ] in
/-- The registration of a deployable that is gone has ended. -/
theorem registered?_react_of_gone {k : LifecycleKind σ ω δ κ W} {e : LifecycleEngine σ ω δ κ W}
    {id : DeployableId} {state : σ} (hgone : k.isGone state = true) (pending : Option ω) :
    (e.react k id state pending).registered? id = none := by
  cases hregistered : e.registered? id with
  | none => simp [react, hgone, deregisterWith, hregistered]
  | some n =>
      rw [react_of_gone hgone hregistered]
      exact SortedMap.find?_erase_self _ _

/-- Every run publishes the trace of its machines, if no more is written when a state is reached
than what is persisted. -/
theorem publishesTrace_run {k : LifecycleKind σ ω δ κ W} (hk : k.Lawful)
    {persisted : W → DeployableId → σ → Option ω → W}
    (hpersisted : ∀ settings w id state pending,
      (k.react settings w id state pending).1 = persisted w id state pending)
    (settings : EngineSettings) (world : W) (events : List (EngineEvent σ ω δ W)) :
    PublishesTrace k persisted (start settings world) ((start settings world).run k events)
      events := by
  have hstart : Sound k (start settings world) := sound_start k settings world
  have hsound := hstart.run hk events
  constructor
  · exact conservation hk hstart events
  · exact hsound.once
  · exact published_run hk hstart events
  · exact fun n => path_commits hk hstart n events
  · intro ev hev
    have hyields := Yields.step hsound hev
    exact ⟨hyields.published, hyields.changes⟩
  · intro n reached rest hchanges
    obtain ⟨r, hr, hreached⟩ := hsound.reached n reached (by simp [hchanges])
    have hrest := (hsound.dequeue hchanges).1
    have hreact := Yields.react hrest r.id reached.state r.actor.machine.slot.pending
    refine ⟨r, _, hr, hreached.1, hreact.published, fun hgone => ?_, fun hgone => ?_,
      handleChange_eq k hchanges hr⟩
    · refine ⟨registered?_react_of_gone hgone _, ?_⟩
      rw [world_react, if_pos hgone]
      rfl
    · rw [world_react, if_neg (by simp [hgone])]
      exact hpersisted ..
  · rintro n (hbegins | hacting)
    · intro reached hmem
      have hstep := hsound.step hk (.begin n)
      refine hstep.not_mem_changes hbegins reached ?_
      rw [(Yields.step hsound (by simp)).changes]
      exact List.mem_append_left _ hmem
    · exact hsound.not_mem_changes hacting

/-- The engines of both kinds publish the trace of their machines in every run. -/
theorem publishes_trace :
    (∀ settings (world : ApplicationStores) events,
      PublishesTrace Application.kind Application.persisted (start settings world)
        ((start settings world).run Application.kind events) events) ∧
    (∀ settings (world : LocalServiceStores) events,
      PublishesTrace LocalService.kind LocalService.persisted (start settings world)
        ((start settings world).run LocalService.kind events) events) := by
  constructor
  · intro settings world events
    exact publishesTrace_run Application.lawful_kind Application.react_fst settings world events
  · intro settings world events
    exact publishesTrace_run LocalService.lawful_kind (fun _ => LocalService.react_fst) settings
      world events

end LifecycleEngine
end Orchestration
