import Orchestration.Store.Leadership

/-!
# Histories of a cached store

A caching proxy is not alone.  Requests come in through it, the gate in front of the durable store
opens and shuts, somebody else writes to the durable store behind its back, and the cache is purged
by hand or because leadership flips.  A history is any list of such events, in any order.

Between a purge and the next write behind its back a cache is *fresh*.  A relation between cache and
store that a purge establishes and that everything but such a write preserves therefore holds
whenever the cache is fresh; that induction is done here once for all proxies.

Main results:

- `Observed.run_sound_coherent`: after every history the durable store is sound, and a cache that is
  fresh is coherent with it.
- `Observed.start_sound_coherent`: the same from a new proxy on.
-/

namespace Orchestration

/-- A proxy with a cache, in front of a durable store of type `R` that it reaches through a gate.
`ω` are the requests that it takes. -/
class CachingProxy (P : Type) (ω R : outParam Type) where
  root : P → R
  request : P → ω → P
  /-- The durable store as somebody else leaves it. -/
  withRoot : P → R → P
  withGate : P → Bool → P
  purge : P → P

/-- What happens to a cached store. -/
inductive StoreEvent (ω R : Type) where
  /-- A request through the proxy. -/
  | request (op : ω)
  /-- A write to the durable store behind the back of the proxy. -/
  | outside (root : R)
  /-- The gate begins or ceases to accept writes. -/
  | gate (accepting : Bool)
  /-- The leadership flag is set. -/
  | lead (leader : Bool)
  /-- The cache is purged by hand. -/
  | invalidate

/-- Whether the requests and the stores of an event pass a test each. -/
def StoreEvent.Meets {ω R : Type} (allowed : ω → Prop) (sound : R → Prop) :
    StoreEvent ω R → Prop
  | .request op => allowed op
  | .outside root => sound root
  | _ => True

/-- A proxy together with the leadership that its cache listens to. -/
structure Observed (P : Type) where
  leadership : Leadership
  proxy : P

namespace Observed

variable {P ω R : Type} [CachingProxy P ω R]

open CachingProxy

/-- A new proxy, the only one to listen to its leadership. -/
def start (leader : Bool) (p : P) : Observed P :=
  ⟨Leadership.register { isLeader := leader } "cache", p⟩

/-- One event. -/
def step (s : Observed P) : StoreEvent ω R → Observed P
  | .request op => { s with proxy := request s.proxy op }
  | .outside root => { s with proxy := withRoot s.proxy root }
  | .gate accepting => { s with proxy := withGate s.proxy accepting }
  | .lead leader =>
    let (leadership, proxy) := s.leadership.tell leader purge s.proxy
    { leadership := leadership, proxy := proxy }
  | .invalidate => { s with proxy := purge s.proxy }

/-- A whole history. -/
def run (s : Observed P) (history : List (StoreEvent ω R)) : Observed P :=
  history.foldl step s

/-- Whether the cache is fresh after an event, given whether it was before.  A purge makes it
fresh: one by hand, or one by a leadership flag that actually flips. -/
def freshens (s : Observed P) (fresh : Bool) : StoreEvent ω R → Bool
  | .outside _ => false
  | .invalidate => true
  | .lead leader => if s.leadership.isLeader = leader then fresh else true
  | _ => fresh

/-- Whether the cache is fresh after a history, given whether it was before: no write behind its
back came after the last purge. -/
def isFresh (s : Observed P) (fresh : Bool) : List (StoreEvent ω R) → Bool
  | [] => fresh
  | e :: rest => (s.step e).isFresh (s.freshens fresh e) rest

/-! ## What a history preserves -/

/-- What makes a relation between a cache and its store one that holds as long as the cache is
fresh.  `sound` is what the relation needs to know of the store, and `allowed` of the requests. -/
structure Laws (allowed : ω → Prop) (sound : R → Prop) (coherent : P → Prop) : Prop where
  sound_request : ∀ (p : P) op, allowed op → sound (root p) → sound (root (request p op))
  coherent_request : ∀ (p : P) op, allowed op → sound (root p) → coherent p →
    coherent (request p op)
  root_withRoot : ∀ (p : P) r, root (withRoot p r) = r
  root_withGate : ∀ (p : P) b, root (withGate p b) = root p
  coherent_withGate : ∀ (p : P) b, coherent p → coherent (withGate p b)
  root_purge : ∀ p : P, root (purge p) = root p
  coherent_purge : ∀ p : P, coherent (purge p)

variable {allowed : ω → Prop} {sound : R → Prop} {coherent : P → Prop}

/-- Nobody stops listening. -/
theorem listeners_step {s : Observed P} (h : s.leadership.listeners ≠ []) (e : StoreEvent ω R) :
    (s.step e).leadership.listeners ≠ [] := by
  cases e with
  | lead leader => simpa [step, Leadership.tell] using h
  | _ => exact h

/-- The cache of a new proxy listens. -/
theorem listeners_start (leader : Bool) (p : P) : (start leader p).leadership.listeners ≠ [] := by
  simp [start, Leadership.register]

/-- Nobody stops listening in a whole history. -/
theorem listeners_run {s : Observed P} (h : s.leadership.listeners ≠ [])
    (history : List (StoreEvent ω R)) : (s.run history).leadership.listeners ≠ [] := by
  induction history generalizing s with
  | nil => exact h
  | cons e rest ih => exact ih (listeners_step h e)

/-- Setting the flag leaves the proxy alone or purges it, and purges it when the flag flips. -/
theorem proxy_step_lead {s : Observed P} (h : s.leadership.listeners ≠ []) (leader : Bool) :
    (s.step (.lead leader : StoreEvent ω R)).proxy =
      if s.leadership.isLeader = leader then s.proxy else purge s.proxy := by
  by_cases hflag : s.leadership.isLeader = leader
  · simp [step, Leadership.tell_of_eq hflag, hflag]
  · simp [step, Leadership.tell_of_ne hflag h, hflag]

/-- One event keeps the store sound. -/
theorem sound_step (laws : Laws allowed sound coherent) {s : Observed P} {e : StoreEvent ω R}
    (hl : s.leadership.listeners ≠ []) (he : e.Meets allowed sound)
    (hs : sound (root s.proxy)) : sound (root (s.step e).proxy) := by
  cases e with
  | request op => exact laws.sound_request _ _ he hs
  | outside r =>
      show sound (root (withRoot s.proxy r))
      rw [laws.root_withRoot]
      exact he
  | gate b =>
      show sound (root (withGate s.proxy b))
      rw [laws.root_withGate]
      exact hs
  | lead leader =>
      rw [proxy_step_lead hl]
      split
      · exact hs
      · rw [laws.root_purge]
        exact hs
  | invalidate =>
      show sound (root (purge s.proxy))
      rw [laws.root_purge]
      exact hs

/-- After one event a fresh cache is coherent with its store. -/
theorem coherent_step (laws : Laws allowed sound coherent) {s : Observed P} {e : StoreEvent ω R}
    {fresh : Bool} (hl : s.leadership.listeners ≠ []) (he : e.Meets allowed sound)
    (hs : sound (root s.proxy)) (hc : fresh = true → coherent s.proxy)
    (hfresh : s.freshens fresh e = true) : coherent (s.step e).proxy := by
  cases e with
  | request op => exact laws.coherent_request _ _ he hs (hc hfresh)
  | outside r => cases hfresh
  | gate b => exact laws.coherent_withGate _ _ (hc hfresh)
  | lead leader =>
      rw [proxy_step_lead hl]
      simp only [freshens] at hfresh
      split at hfresh <;> rename_i hflag
      · rw [if_pos hflag]
        exact hc hfresh
      · rw [if_neg hflag]
        exact laws.coherent_purge _
  | invalidate => exact laws.coherent_purge _

/-- After every history the durable store is sound, and a fresh cache is coherent with it. -/
theorem run_sound_coherent (laws : Laws allowed sound coherent) {s : Observed P} {fresh : Bool}
    (hl : s.leadership.listeners ≠ []) (hs : sound (root s.proxy))
    (hc : fresh = true → coherent s.proxy) {history : List (StoreEvent ω R)}
    (hh : ∀ e ∈ history, e.Meets allowed sound) :
    sound (root (s.run history).proxy) ∧
      (s.isFresh fresh history = true → coherent (s.run history).proxy) := by
  induction history generalizing s fresh with
  | nil => exact ⟨hs, hc⟩
  | cons e rest ih =>
      have he : e.Meets allowed sound := hh e List.mem_cons_self
      exact ih (listeners_step hl e) (sound_step laws hl he hs) (coherent_step laws hl he hs hc)
        fun e' he' => hh e' (List.mem_cons_of_mem e he')

/-- A new proxy over a sound store, with a cache that is coherent with it, stays so. -/
theorem start_sound_coherent (laws : Laws allowed sound coherent) (leader : Bool) {p : P}
    (hs : sound (root p)) (hc : coherent p) {history : List (StoreEvent ω R)}
    (hh : ∀ e ∈ history, e.Meets allowed sound) :
    sound (root ((start leader p).run history).proxy) ∧
      ((start leader p).isFresh true history = true →
        coherent ((start leader p).run history).proxy) :=
  run_sound_coherent laws (listeners_start leader p) hs (fun _ => hc) hh

end Observed
end Orchestration
