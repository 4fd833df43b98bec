import Orchestration.Proofs.Store.InstanceCoherence
import Orchestration.Proofs.Store.RecordCoherence
import Orchestration.Proofs.Store.TaskCoherence

/-!
# How often a cache reads its store

A cache is there to spare its store.  A request reads the store on behalf of a key when what is
asked for is not loaded: an identifier, the whole listing, or the group of an owner.  Once a key is
loaded it stays loaded until the next purge, and nothing that is known to be missing or empty is
asked for again.  Writes load what they write, except that the instances of an owner are read again
after a write to one of them.

What is to be counted depends on the state in which each request is made.  Weights are therefore
added up along a history, and all three caches are one instance each of the same argument: being
loaded is kept by every event but a purge, and what is loaded is not read.

Main results:

- `Loading.Laws.readsFor_of_loaded`: nobody reads on behalf of a key that is loaded.
- `Loading.Laws.loadsOnce`: between two purges every key is read for at most once.
- `RecordProxy.loading_laws`, `InstanceProxy.loading_laws`, `TaskProxy.loading_laws`: what each
  request reads.
- `store_read_once_per_key`: the count for all three caches.
-/

namespace Orchestration

/-! ## Keys that stay in a cache -/

namespace SortedMap

variable {α β : Type} [Ord α] [Std.TransOrd α] [Std.LawfulEqOrd α]

/-- A key is there once a value was put there. -/
@[simp]
theorem contains_insert_self (m : SortedMap α β) (k : α) (v : β) :
    (m.insert k v).contains k = true := by
  simp [contains]

/-- A key that was there is there after anything was put in. -/
theorem contains_insert_of_contains {m : SortedMap α β} {k : α} (h : m.contains k = true)
    (k₁ : α) (v : β) : (m.insert k₁ v).contains k = true := by
  by_cases hk : k = k₁
  · rw [hk, contains_insert_self]
  · rw [contains, find?_insert_of_ne m v hk]
    exact h

end SortedMap

namespace Groups

variable {γ κ ρ : Type} [Ord γ] [Ord κ] [Std.TransOrd γ] [Std.LawfulEqOrd γ]
variable [Std.TransOrd κ] [Std.LawfulEqOrd κ] {g : Groups γ κ ρ} {owner : γ}

omit [Std.TransOrd κ] [Std.LawfulEqOrd κ] in
/-- The removal of a record leaves its group there. -/
theorem contains_remove (h : g.contains owner = true) (owner₁ : γ) (key : κ) :
    (g.remove owner₁ key).contains owner = true := by
  unfold remove
  split
  · exact SortedMap.contains_insert_of_contains h _ _
  · exact h

/-- A write leaves every group there. -/
theorem contains_putKnown (h : g.contains owner = true) (owner₁ : γ) (key : κ) (r : ρ) :
    (g.putKnown owner₁ key r).contains owner = true := by
  unfold putKnown
  split
  · exact SortedMap.contains_insert_of_contains h _ _
  · exact h

omit [Std.TransOrd γ] [Std.TransOrd κ] [Std.LawfulEqOrd κ] in
/-- A group that is thinned out is there, even an empty one. -/
theorem contains_retain (keep : ρ → Bool) (owner : γ) :
    SortedMap.contains (g.retain keep) owner = SortedMap.contains g owner := by
  rw [SortedMap.contains, retain, SortedMap.find?_mapValues, Option.isSome_map, SortedMap.contains]

end Groups

/-! ## Sums along a history -/

namespace Observed

variable {P ω R : Type} [CachingProxy P ω R]

open CachingProxy

/-- Whether an event purges the cache: by hand, or because the leadership flag flips. -/
def purges (s : Observed P) : StoreEvent ω R → Bool
  | .invalidate => true
  | .lead leader => s.leadership.isLeader != leader
  | _ => false

/-- A history in which the cache is never purged. -/
def Unpurged (s : Observed P) : List (StoreEvent ω R) → Prop
  | [] => True
  | e :: rest => s.purges e = false ∧ (s.step e).Unpurged rest

/-- What an event weighs: a request what it weighs in the state in which it is made, and everything
else nothing. -/
def weigh (weight : P → ω → Nat) (s : Observed P) : StoreEvent ω R → Nat
  | .request op => weight s.proxy op
  | _ => 0

/-- What the events of a history weigh together. -/
def total (weight : P → ω → Nat) (s : Observed P) : List (StoreEvent ω R) → Nat
  | [] => 0
  | e :: rest => s.weigh weight e + (s.step e).total weight rest

theorem run_append (s : Observed P) (before after : List (StoreEvent ω R)) :
    s.run (before ++ after) = (s.run before).run after :=
  List.foldl_append

/-- What weighs two things together weighs the sum of both. -/
theorem total_add (f g : P → ω → Nat) (s : Observed P) (history : List (StoreEvent ω R)) :
    s.total (fun p op => f p op + g p op) history = s.total f history + s.total g history := by
  induction history generalizing s with
  | nil => rfl
  | cons e rest ih =>
      have hhead : s.weigh (fun p op => f p op + g p op) e = s.weigh f e + s.weigh g e := by
        cases e <;> rfl
      simp only [total, hhead, ih]
      omega

/-- What follows a part of a history without a purge is one from there on. -/
theorem Unpurged.of_append {s : Observed P} {before after : List (StoreEvent ω R)}
    (h : s.Unpurged (before ++ after)) : (s.run before).Unpurged after := by
  induction before generalizing s with
  | nil => exact h
  | cons e rest ih => exact ih h.2

/-- A history weighs nothing where no request does as long as something holds that lasts until the
next purge. -/
theorem total_eq_zero {weight : P → ω → Nat} (lasting : P → Prop)
    (hstep : ∀ (s : Observed P) e, s.purges e = false → lasting s.proxy → lasting (s.step e).proxy)
    (hweight : ∀ p op, lasting p → weight p op = 0) {s : Observed P}
    {history : List (StoreEvent ω R)} (hh : s.Unpurged history) (hs : lasting s.proxy) :
    s.total weight history = 0 := by
  induction history generalizing s with
  | nil => rfl
  | cons e rest ih =>
      have hhead : s.weigh weight e = 0 := by
        cases e with
        | request op => exact hweight _ op hs
        | _ => rfl
      rw [total, hhead, Nat.zero_add]
      exact ih hh.2 (hstep s e hh.1 hs)

end Observed

/-! ## Loading -/

/-- How the requests to a caching proxy have to do with the keys under which it loads. -/
structure Loading (P ω κ : Type) where
  /-- The reads that have reached the durable store. -/
  reads : P → Nat
  loaded : P → κ → Bool
  /-- The key on behalf of which a request reads the store if the key is not loaded. -/
  asks : ω → Option κ
  /-- After which requests a key is loaded, whatever was before. -/
  settles : P → ω → κ → Prop
  /-- Whether a request that asks for nothing reads what it has just changed. -/
  rereads : P → ω → Bool

namespace Loading

variable {P ω R κ : Type} [CachingProxy P ω R]

open CachingProxy

section Counts

variable (l : Loading P ω κ)

/-- The reads that a request makes. -/
def cost (p : P) (op : ω) : Nat :=
  l.reads (request p op) - l.reads p

/-- The reads that a history makes on behalf of a key. -/
def readsFor [DecidableEq κ] (k : κ) (s : Observed P) (history : List (StoreEvent ω R)) : Nat :=
  s.total (fun p op => if l.asks op = some k then l.cost p op else 0) history

/-- The reads that a history makes on behalf of any key. -/
def readsForAny (s : Observed P) (history : List (StoreEvent ω R)) : Nat :=
  s.total (fun p op => if (l.asks op).isSome then l.cost p op else 0) history

/-- The number of requests of a history that read what they have just changed. -/
def rereadings (s : Observed P) (history : List (StoreEvent ω R)) : Nat :=
  s.total (fun p op => if l.rereads p op then 1 else 0) history

end Counts

/-- What a proxy has to do for its cache to spare the store. -/
structure Laws (l : Loading P ω κ) : Prop where
  reads_withRoot : ∀ (p : P) r, l.reads (withRoot p r) = l.reads p
  reads_withGate : ∀ (p : P) b, l.reads (withGate p b) = l.reads p
  loaded_withRoot : ∀ (p : P) r k, l.loaded (withRoot p r) k = l.loaded p k
  loaded_withGate : ∀ (p : P) b k, l.loaded (withGate p b) k = l.loaded p k
  loaded_request : ∀ (p : P) op k, l.loaded p k = true → l.loaded (request p op) k = true
  loaded_of_settles : ∀ (p : P) op k, l.settles p op k → l.loaded (request p op) k = true
  settles_of_asks : ∀ (p : P) op k, l.asks op = some k → l.settles p op k
  reads_of_asks : ∀ (p : P) op k, l.asks op = some k →
    l.reads (request p op) = l.reads p + if l.loaded p k then 0 else 1
  rereads_of_asks : ∀ (p : P) op k, l.asks op = some k → l.rereads p op = false
  reads_of_asks_none : ∀ (p : P) op, l.asks op = none →
    l.reads (request p op) = l.reads p + if l.rereads p op then 1 else 0

/-- In a history the store is read for every key at most once.  It is not read for a key again once
a request has settled the key.  What is read besides is read by requests that have just changed
it, once by each of them. -/
structure LoadsOnce [DecidableEq κ] (l : Loading P ω κ) (s : Observed P)
    (history : List (StoreEvent ω R)) : Prop where
  once : ∀ k, l.readsFor k s history ≤ 1
  settled : ∀ before op after, history = before ++ .request op :: after →
    ∀ k, l.settles (s.run before).proxy op k →
      l.readsFor k (s.run (before ++ [.request op])) after = 0
  reads_run : l.reads (s.run history).proxy =
    l.reads s.proxy + l.readsForAny s history + l.rereadings s history

section Laws

variable {l : Loading P ω κ} {s : Observed P} {history : List (StoreEvent ω R)}

/-- An event that purges nothing keeps loaded what is loaded. -/
theorem Laws.loaded_step (h : l.Laws) {e : StoreEvent ω R} (he : s.purges e = false) {k : κ}
    (hk : l.loaded s.proxy k = true) : l.loaded (s.step e).proxy k = true := by
  cases e with
  | request op => exact h.loaded_request _ op k hk
  | outside r => exact (h.loaded_withRoot _ r k).trans hk
  | gate b => exact (h.loaded_withGate _ b k).trans hk
  | lead leader =>
      have hflag : s.leadership.isLeader = leader := by simpa [Observed.purges] using he
      simpa [Observed.step, Leadership.tell_of_eq hflag] using hk
  | invalidate => cases he

/-- Only requests read, and each of them reads what it is charged with. -/
theorem Laws.reads_step (h : l.Laws) {e : StoreEvent ω R} (he : s.purges e = false) :
    l.reads (s.step e).proxy = l.reads s.proxy + s.weigh l.cost e := by
  cases e with
  | request op =>
      have hle : l.reads s.proxy ≤ l.reads (request s.proxy op) := by
        cases hasks : l.asks op with
        | some k => exact (h.reads_of_asks _ op k hasks).symm ▸ Nat.le_add_right _ _
        | none => exact (h.reads_of_asks_none _ op hasks).symm ▸ Nat.le_add_right _ _
      exact (Nat.add_sub_cancel' hle).symm
  | outside r => exact h.reads_withRoot _ r
  | gate b => exact h.reads_withGate _ b
  | lead leader =>
      have hflag : s.leadership.isLeader = leader := by simpa [Observed.purges] using he
      simp [Observed.step, Observed.weigh, Leadership.tell_of_eq hflag]
  | invalidate => cases he

/-- A request that asks for a key reads the store exactly when the key is not loaded. -/
theorem Laws.cost_of_asks (h : l.Laws) {p : P} {op : ω} {k : κ} (hasks : l.asks op = some k) :
    l.cost p op = if l.loaded p k then 0 else 1 := by
  rw [cost, h.reads_of_asks p op k hasks, Nat.add_sub_cancel_left]

/-- A history reads what its requests read. -/
theorem Laws.reads_run_eq_total (h : l.Laws) (hh : s.Unpurged history) :
    l.reads (s.run history).proxy = l.reads s.proxy + s.total l.cost history := by
  induction history generalizing s with
  | nil => rfl
  | cons e rest ih =>
      calc
        l.reads ((s.step e).run rest).proxy
          = l.reads (s.step e).proxy + (s.step e).total l.cost rest := ih hh.2
        _ = l.reads s.proxy + s.weigh l.cost e + (s.step e).total l.cost rest := by
            rw [h.reads_step hh.1]
        _ = l.reads s.proxy + s.total l.cost (e :: rest) := Nat.add_assoc _ _ _

/-- All reads of a history are on behalf of some key, or come after a change. -/
theorem Laws.reads_run (h : l.Laws) (hh : s.Unpurged history) :
    l.reads (s.run history).proxy =
      l.reads s.proxy + l.readsForAny s history + l.rereadings s history := by
  have hcost : l.cost = fun p op =>
      (if (l.asks op).isSome then l.cost p op else 0) + if l.rereads p op then 1 else 0 := by
    funext p op
    cases hasks : l.asks op with
    | some k => simp [h.rereads_of_asks p op k hasks]
    | none => simp [cost, h.reads_of_asks_none p op hasks]
  have htotal : s.total l.cost history = l.readsForAny s history + l.rereadings s history := by
    rw [hcost]
    exact Observed.total_add _ _ s history
  rw [h.reads_run_eq_total hh, htotal, Nat.add_assoc]

/-- Where everything is loaded, nothing is read any more but what was just changed. -/
theorem Laws.readsForAny_of_loaded (h : l.Laws) (hh : s.Unpurged history)
    (hall : ∀ k, l.loaded s.proxy k = true) : l.readsForAny s history = 0 := by
  refine Observed.total_eq_zero (fun p => ∀ k, l.loaded p k = true)
    (fun s e he hs k => h.loaded_step he (hs k)) ?_ hh hall
  intro p op hp
  cases hasks : l.asks op with
  | some k => simp [h.cost_of_asks hasks, hp k]
  | none => rfl

/-- Where no request reads what it has changed, no history contains one. -/
theorem rereadings_eq_zero (hnone : ∀ p op, l.rereads p op = false) (hh : s.Unpurged history) :
    l.rereadings s history = 0 :=
  Observed.total_eq_zero (fun _ => True) (fun _ _ _ _ => trivial)
    (fun p op _ => by simp [hnone p op]) hh trivial

variable [DecidableEq κ]

/-- Nobody reads on behalf of a key that is loaded. -/
theorem Laws.readsFor_of_loaded (h : l.Laws) {k : κ} (hh : s.Unpurged history)
    (hk : l.loaded s.proxy k = true) : l.readsFor k s history = 0 := by
  refine Observed.total_eq_zero (fun p => l.loaded p k = true)
    (fun s e he => h.loaded_step he) ?_ hh hk
  intro p op hp
  split <;> rename_i hasks
  · rw [h.cost_of_asks hasks, if_pos hp]
  · rfl

/-- On behalf of any key the store is read at most once. -/
theorem Laws.readsFor_le_one (h : l.Laws) (k : κ) (hh : s.Unpurged history) :
    l.readsFor k s history ≤ 1 := by
  induction history generalizing s with
  | nil => exact Nat.zero_le 1
  | cons e rest ih =>
      rw [readsFor, Observed.total]
      by_cases hasks : ∃ op, e = .request op ∧ l.asks op = some k
      · -- The first request for the key is the one that may read: it leaves the key loaded.
        obtain ⟨op, rfl, hop⟩ := hasks
        have hloaded : l.loaded (request s.proxy op) k = true :=
          h.loaded_of_settles _ op k (h.settles_of_asks _ op k hop)
        have htail : l.readsFor k (s.step (.request op)) rest = 0 :=
          h.readsFor_of_loaded hh.2 hloaded
        rw [readsFor] at htail
        rw [htail, Observed.weigh, if_pos hop, h.cost_of_asks hop]
        split <;> omega
      · have hhead : s.weigh (fun p op => if l.asks op = some k then l.cost p op else 0) e = 0 := by
          cases e with
          | request op => exact if_neg fun hop => hasks ⟨op, rfl, hop⟩
          | _ => rfl
        rw [hhead, Nat.zero_add]
        exact ih hh.2

/-- Between two purges every key is read for at most once. -/
theorem Laws.loadsOnce (h : l.Laws) (hh : s.Unpurged history) : l.LoadsOnce s history where
  once k := h.readsFor_le_one k hh
  settled before op after hsplit k hsettles := by
    rw [hsplit] at hh
    have hafter : (s.run (before ++ [.request op])).Unpurged after := by
      apply Observed.Unpurged.of_append
      rwa [List.append_assoc, List.singleton_append]
    refine h.readsFor_of_loaded hafter ?_
    rw [Observed.run_append]
    exact h.loaded_of_settles _ op k hsettles
  reads_run := h.reads_run hh

end Laws

end Loading

/-! ## Records -/

namespace RecordProxy

variable {ρ : Type} [Identified ρ]

/-- A look-up asks for its identifier and a listing for all of them.  Whatever was looked up, or was
written or deleted with success, is settled, and everything is once it was listed. -/
def loading : Loading (RecordProxy ρ) (RecordRequest ρ) (Option DeployableId) where
  reads p := p.store.reads
  loaded p
    | some id => p.cache.knows id
    | none => p.cache.complete
  asks
    | .get id => some (some id)
    | .list => some none
    | .update .. => none
    | .delete _ => none
  settles p op k :=
    match op with
    | .get id => k = some id
    | .list => True
    | .update id a => k = some id ∧ (p.update id a).2 = true
    | .delete id => k = some id ∧ (p.delete id).2 = true
  rereads _ _ := false

omit [Identified ρ] in
/-- The answer for an identifier is known once it was put down. -/
theorem knows_set_self (c : RecordCache ρ) (id : DeployableId) (answer : Option ρ) :
    (c.set id answer).knows id = true := by
  simp [RecordCache.knows, RecordCache.set]

omit [Identified ρ] in
/-- No answer that was known is forgotten then. -/
theorem knows_set {c : RecordCache ρ} {id : DeployableId} (h : c.knows id = true)
    (id₁ : DeployableId) (answer : Option ρ) : (c.set id₁ answer).knows id = true := by
  rw [RecordCache.knows, Bool.or_eq_true] at h
  rw [RecordCache.knows, Bool.or_eq_true]
  exact h.imp_right fun hthere => SortedMap.contains_insert_of_contains hthere id₁ answer

omit [Identified ρ] in
/-- A cache in which an answer was put down has loaded what it had loaded, and that answer. -/
theorem loaded_set {p : RecordProxy ρ} {store : Gated (Records ρ)} {id : DeployableId}
    {answer : Option ρ} {k : Option DeployableId}
    (h : loading.loaded p k = true ∨ k = some id) :
    loading.loaded ({ store := store, cache := p.cache.set id answer } : RecordProxy ρ) k =
      true := by
  rcases h with h | rfl
  · cases k with
    | none => exact h
    | some id' => exact knows_set h id answer
  · exact knows_set_self p.cache id answer

/-- What a write or a deletion does: it reads nothing, and puts the answer down if the store has
taken it. -/
structure PutsDown (p p' : RecordProxy ρ) (id : DeployableId) (answer : Option ρ)
    (accepted : Bool) : Prop where
  reads_eq : p'.store.reads = p.store.reads
  cache_eq : p'.cache = if accepted then p.cache.set id answer else p.cache

section PutsDown

variable {p p' : RecordProxy ρ} {id : DeployableId} {answer : Option ρ} {accepted : Bool}

omit [Identified ρ] in
theorem putsDown_update (p : RecordProxy ρ) (id : DeployableId) (a : ρ) :
    p.PutsDown (p.update id a).1 id (some a) (p.update id a).2 := by
  cases hgate : p.store.accepting with
  | true =>
      rw [update_of_accepting hgate]
      exact ⟨rfl, rfl⟩
  | false =>
      rw [update_of_refusing hgate]
      exact ⟨rfl, rfl⟩

omit [Identified ρ] in
theorem putsDown_delete (p : RecordProxy ρ) (id : DeployableId) :
    p.PutsDown (p.delete id).1 id none (p.delete id).2 := by
  cases hgate : p.store.accepting with
  | true =>
      rw [delete_of_accepting hgate]
      exact ⟨rfl, rfl⟩
  | false =>
      rw [delete_of_refusing hgate]
      exact ⟨rfl, rfl⟩

omit [Identified ρ] in
/-- Nothing that was loaded is forgotten then, and what was taken is loaded. -/
theorem PutsDown.loaded (h : p.PutsDown p' id answer accepted) {k : Option DeployableId}
    (hk : loading.loaded p k = true ∨ k = some id ∧ accepted = true) :
    loading.loaded p' k = true := by
  obtain ⟨store, cache⟩ := p'
  obtain rfl : cache = _ := h.cache_eq
  cases accepted with
  | true => exact loaded_set (hk.imp_right And.left)
  | false =>
      have hthere : loading.loaded p k = true := hk.resolve_right fun h => Bool.false_ne_true h.2
      cases k <;> exact hthere

end PutsDown

/-- What each request reads and loads. -/
theorem loading_laws : (loading (ρ := ρ)).Laws where
  reads_withRoot _ _ := rfl
  reads_withGate _ _ := rfl
  loaded_withRoot _ _ _ := rfl
  loaded_withGate _ _ _ := rfl
  loaded_request p op k h := by
    cases op with
    | get id =>
        show loading.loaded (p.get id).2 k = true
        unfold get
        split
        · exact h
        · exact loaded_set (.inl h)
    | list =>
        show loading.loaded p.list.2 k = true
        unfold list
        split
        · exact h
        · cases k <;> rfl
    | update id a => exact (p.putsDown_update id a).loaded (.inl h)
    | delete id => exact (p.putsDown_delete id).loaded (.inl h)
  loaded_of_settles p op k h := by
    cases op with
    | get id =>
        obtain rfl : k = some id := h
        show loading.loaded (p.get id).2 (some id) = true
        unfold get
        split
        · assumption
        · exact loaded_set (.inr rfl)
    | list =>
        show loading.loaded p.list.2 k = true
        unfold list
        split <;> rename_i hcomplete
        · cases k with
          | none => exact hcomplete
          | some id => simp [loading, RecordCache.knows, hcomplete]
        · cases k <;> rfl
    | update id a => exact (p.putsDown_update id a).loaded (.inr h)
    | delete id => exact (p.putsDown_delete id).loaded (.inr h)
  settles_of_asks p op k h := by
    cases op with
    | get id => exact (Option.some.inj h).symm
    | list => exact trivial
    | update id a => cases h
    | delete id => cases h
  reads_of_asks p op k h := by
    cases op with
    | get id =>
        obtain rfl : some id = k := Option.some.inj h
        show (p.get id).2.store.reads = p.store.reads + if p.cache.knows id then 0 else 1
        unfold get
        split <;> rfl
    | list =>
        obtain rfl : none = k := Option.some.inj h
        show p.list.2.store.reads = p.store.reads + if p.cache.complete then 0 else 1
        unfold list
        split <;> rfl
    | update id a => cases h
    | delete id => cases h
  rereads_of_asks _ _ _ _ := rfl
  reads_of_asks_none p op h := by
    cases op with
    | get id => cases h
    | list => cases h
    | update id a => exact (p.putsDown_update id a).reads_eq
    | delete id => exact (p.putsDown_delete id).reads_eq

/-- After a listing the store is not read any more. -/
theorem reads_after_list (s : Observed (RecordProxy ρ))
    (before after : List (StoreEvent (RecordRequest ρ) (Records ρ)))
    (hh : s.Unpurged (before ++ .request .list :: after)) :
    (s.run (before ++ .request .list :: after)).proxy.store.reads =
      (s.run (before ++ [.request .list])).proxy.store.reads := by
  rw [← List.singleton_append, ← List.append_assoc] at hh ⊢
  have hafter : (s.run (before ++ [.request .list])).Unpurged after := hh.of_append
  have hall : ∀ k, loading.loaded (s.run (before ++ [.request .list])).proxy k = true := by
    intro k
    rw [Observed.run_append]
    exact loading_laws.loaded_of_settles _ RecordRequest.list k trivial
  have hreads := loading_laws.reads_run hafter
  rw [loading_laws.readsForAny_of_loaded hafter hall,
    Loading.rereadings_eq_zero (fun _ _ => rfl) hafter] at hreads
  rw [Observed.run_append]
  exact hreads

end RecordProxy

/-! ## Instances -/

namespace InstanceProxy

/-- A listing and a look-up ask for the group of their owner.  A write that was accepted reads the
group that it has changed, and so does a request that has given up instances. -/
def loading : Loading InstanceProxy InstanceRequest DeployableId where
  reads p := p.store.reads
  loaded p owner := p.cache.contains owner
  asks
    | .select _ owner _ _ => some owner
    | .get _ owner _ => some owner
    | .update .. => none
    | .delete .. => none
    | .deleteAll _ => none
    | .markStale .. => none
  settles p op k :=
    match op with
    | .select _ owner _ _ => k = owner
    | .get _ owner _ => k = owner
    | .update now owner id r => k = owner ∧ (p.update now owner id r).2 = true
    | .delete .. => False
    | .deleteAll owner => k = owner ∧ (p.deleteAll owner).2 = true
    | .markStale now owner => k = owner ∧ 0 < (p.markStale now owner).2
  rereads p
    | .update now owner id r => (p.update now owner id r).2
    | .markStale now owner => decide (0 < (p.markStale now owner).2)
    | _ => false

/-- The group of an owner is there once it was read. -/
theorem contains_reload_self (p : InstanceProxy) (now : Timestamp) (owner : DeployableId) :
    (p.reload now owner).cache.contains owner = true :=
  SortedMap.contains_insert_self p.cache owner _

/-- Reading a group leaves every group there. -/
theorem contains_reload {p : InstanceProxy} {k : DeployableId} (h : p.cache.contains k = true)
    (now : Timestamp) (owner : DeployableId) : (p.reload now owner).cache.contains k = true :=
  SortedMap.contains_insert_of_contains h owner _

/-- So does loading one. -/
theorem contains_load_of_contains {p : InstanceProxy} {k : DeployableId}
    (h : p.cache.contains k = true) (now : Timestamp) (owner : DeployableId) :
    (p.load now owner).cache.contains k = true := by
  unfold load
  split
  · exact h
  · exact contains_reload h now owner

/-- Loading a group reads the store when the group is not there. -/
theorem reads_load (p : InstanceProxy) (now : Timestamp) (owner : DeployableId) :
    (p.load now owner).store.reads =
      p.store.reads + if p.cache.contains owner then 0 else 1 := by
  unfold load
  split <;> rfl

section Writes

variable {p : InstanceProxy} {k : DeployableId}

/-- A write leaves every group there, and the one that it has changed. -/
theorem contains_update {now : Timestamp} {owner : DeployableId} {id : InstanceId}
    {r : InstanceRecord}
    (h : p.cache.contains k = true ∨ k = owner ∧ (p.update now owner id r).2 = true) :
    (p.update now owner id r).1.cache.contains k = true := by
  cases hgate : p.store.accepting with
  | true =>
      rw [update_of_accepting hgate] at h ⊢
      rcases h with hthere | ⟨rfl, -⟩
      · apply contains_reload
        exact hthere
      · exact contains_reload_self _ now k
  | false =>
      rw [update_of_refusing hgate] at h ⊢
      simpa using h

/-- A write reads the group that it has changed. -/
theorem reads_update (p : InstanceProxy) (now : Timestamp) (owner : DeployableId)
    (id : InstanceId) (r : InstanceRecord) :
    (p.update now owner id r).1.store.reads =
      p.store.reads + if (p.update now owner id r).2 then 1 else 0 := by
  cases hgate : p.store.accepting with
  | true =>
      rw [update_of_accepting hgate]
      rfl
  | false =>
      rw [update_of_refusing hgate]
      rfl

/-- A deletion leaves every group there. -/
theorem contains_delete (h : p.cache.contains k = true) (owner : DeployableId)
    (id : InstanceId) : (p.delete owner id).1.cache.contains k = true := by
  cases hgate : p.store.accepting with
  | true =>
      rw [delete_of_accepting hgate]
      exact Groups.contains_remove h owner id
  | false =>
      rw [delete_of_refusing hgate]
      exact h

/-- A deletion reads nothing. -/
theorem reads_delete (p : InstanceProxy) (owner : DeployableId) (id : InstanceId) :
    (p.delete owner id).1.store.reads = p.store.reads := by
  cases hgate : p.store.accepting with
  | true => rw [delete_of_accepting hgate]
  | false => rw [delete_of_refusing hgate]

/-- The deletion of a group leaves every group there, and the one that it has emptied. -/
theorem contains_deleteAll {owner : DeployableId}
    (h : p.cache.contains k = true ∨ k = owner ∧ (p.deleteAll owner).2 = true) :
    (p.deleteAll owner).1.cache.contains k = true := by
  cases hgate : p.store.accepting with
  | true =>
      rw [deleteAll_of_accepting hgate] at h ⊢
      rcases h with hthere | ⟨rfl, -⟩
      · exact SortedMap.contains_insert_of_contains hthere owner ∅
      · exact SortedMap.contains_insert_self p.cache k ∅
  | false =>
      rw [deleteAll_of_refusing hgate] at h ⊢
      simpa using h

/-- The deletion of a group reads nothing. -/
theorem reads_deleteAll (p : InstanceProxy) (owner : DeployableId) :
    (p.deleteAll owner).1.store.reads = p.store.reads := by
  cases hgate : p.store.accepting with
  | true => rw [deleteAll_of_accepting hgate]
  | false => rw [deleteAll_of_refusing hgate]

/-- Giving up instances leaves every group there, and the one of which any was given up. -/
theorem contains_markStale {now : Timestamp} {owner : DeployableId}
    (h : p.cache.contains k = true ∨ k = owner ∧ 0 < (p.markStale now owner).2) :
    (p.markStale now owner).1.cache.contains k = true := by
  rw [markStale_fst]
  dsimp only
  split <;> rename_i hmarked
  · rcases h with hthere | ⟨rfl, -⟩
    · apply contains_reload
      exact hthere
    · exact contains_reload_self _ now k
  · exact h.resolve_right fun hself => hmarked hself.2

/-- Giving up instances reads their group if there were any. -/
theorem reads_markStale (p : InstanceProxy) (now : Timestamp) (owner : DeployableId) :
    (p.markStale now owner).1.store.reads =
      p.store.reads + if decide (0 < (p.markStale now owner).2) then 1 else 0 := by
  show _ = p.store.reads + if decide (0 < (p.store.root.markStale now owner).2) then 1 else 0
  rw [markStale_fst]
  dsimp only
  split <;> rename_i hmarked
  · rw [decide_eq_true hmarked]
    rfl
  · rw [decide_eq_false hmarked]
    rfl

end Writes

/-- What each request reads and loads. -/
theorem loading_laws : loading.Laws where
  reads_withRoot _ _ := rfl
  reads_withGate _ _ := rfl
  loaded_withRoot _ _ _ := rfl
  loaded_withGate _ _ _ := rfl
  loaded_request p op k h := by
    cases op with
    | select now owner states includeStale => exact contains_load_of_contains h now owner
    | get now owner id => exact contains_load_of_contains h now owner
    | update now owner id r => exact contains_update (.inl h)
    | delete owner id => exact contains_delete h owner id
    | deleteAll owner => exact contains_deleteAll (.inl h)
    | markStale now owner => exact contains_markStale (.inl h)
  loaded_of_settles p op k h := by
    cases op with
    | select now owner states includeStale =>
        obtain rfl : k = owner := h
        exact p.contains_load now k
    | get now owner id =>
        obtain rfl : k = owner := h
        exact p.contains_load now k
    | update now owner id r => exact contains_update (.inr h)
    | delete owner id => exact h.elim
    | deleteAll owner => exact contains_deleteAll (.inr h)
    | markStale now owner => exact contains_markStale (.inr h)
  settles_of_asks p op k h := by
    cases op with
    | select now owner states includeStale => exact (Option.some.inj h).symm
    | get now owner id => exact (Option.some.inj h).symm
    | _ => cases h
  reads_of_asks p op k h := by
    cases op with
    | select now owner states includeStale =>
        obtain rfl : owner = k := Option.some.inj h
        exact p.reads_load now owner
    | get now owner id =>
        obtain rfl : owner = k := Option.some.inj h
        exact p.reads_load now owner
    | _ => cases h
  rereads_of_asks p op k h := by
    cases op with
    | select now owner states includeStale => rfl
    | get now owner id => rfl
    | _ => cases h
  reads_of_asks_none p op h := by
    cases op with
    | select now owner states includeStale => cases h
    | get now owner id => cases h
    | update now owner id r => exact p.reads_update now owner id r
    | delete owner id => exact p.reads_delete owner id
    | deleteAll owner => exact p.reads_deleteAll owner
    | markStale now owner => exact p.reads_markStale now owner

end InstanceProxy

/-! ## Tasks -/

namespace TaskProxy

/-- Listings and look-ups ask for the group of their source.  So do writes and updates, which
compare what they are given with what is known; they load the group whether they are accepted or
not. -/
def loading : Loading TaskProxy TaskRequest String where
  reads p := p.store.reads
  loaded p source := p.cache.contains source
  asks
    | .select _ source _ _ => some source
    | .get _ source _ => some source
    | .write _ source _ _ => some source
    | .update _ source _ _ => some source
    | .delete .. => none
    | .cleanup _ => none
  settles _ op k :=
    match op with
    | .select _ source _ _ => k = source
    | .get _ source _ => k = source
    | .write _ source _ _ => k = source
    | .update _ source _ _ => k = source
    | .delete .. => False
    | .cleanup _ => False
  rereads _ _ := false

/-- Loading a group leaves every group there. -/
theorem contains_load_of_contains {p : TaskProxy} {k : String} (h : p.cache.contains k = true)
    (now : Timestamp) (source : String) : (p.load now source).cache.contains k = true := by
  unfold load
  split
  · exact h
  · exact SortedMap.contains_insert_of_contains h source _

/-- Loading a group reads the store when the group is not there. -/
theorem reads_load (p : TaskProxy) (now : Timestamp) (source : String) :
    (p.load now source).store.reads =
      p.store.reads + if p.cache.contains source then 0 else 1 := by
  unfold load
  split <;> rfl

/-- What a write does to the cache leaves every group there that is there once it has loaded. -/
theorem contains_write {p : TaskProxy} {now : Timestamp} {source : String} {k : String}
    (h : (p.load now source).cache.contains k = true) (task : String) (r : TaskRecord) :
    (p.write now source task r).1.cache.contains k = true := by
  cases hknown : (p.load now source).knowsNewer source task r with
  | true =>
      rw [write_of_newer hknown]
      exact h
  | false =>
      cases hgate : p.store.accepting with
      | true =>
          rw [write_of_accepting hgate hknown]
          exact Groups.contains_putKnown h source task r
      | false =>
          rw [write_of_refusing hgate]
          exact h

/-- A write reads the store when its group is not there. -/
theorem reads_write (p : TaskProxy) (now : Timestamp) (source task : String) (r : TaskRecord) :
    (p.write now source task r).1.store.reads =
      p.store.reads + if p.cache.contains source then 0 else 1 := by
  rw [← p.reads_load now source]
  cases hknown : (p.load now source).knowsNewer source task r with
  | true => rw [write_of_newer hknown]
  | false =>
      cases hgate : p.store.accepting with
      | true => rw [write_of_accepting hgate hknown]
      | false => rw [write_of_refusing hgate]

/-- An update leaves store and cache as a write does. -/
theorem update_fst_eq_write (p : TaskProxy) (now : Timestamp) (source task : String)
    (r : TaskRecord) :
    (p.update now source task r).1.store = (p.write now source task r).1.store ∧
      (p.update now source task r).1.cache = (p.write now source task r).1.cache := by
  rw [update_eq]
  dsimp only
  split
  · exact ⟨rfl, rfl⟩
  · exact ⟨rfl, rfl⟩

/-- A deletion leaves every group there. -/
theorem contains_delete {p : TaskProxy} {k : String} (h : p.cache.contains k = true)
    (source task : String) : (p.delete source task).1.cache.contains k = true := by
  cases hgate : p.store.accepting with
  | true =>
      rw [delete_of_accepting hgate]
      exact Groups.contains_remove h source task
  | false =>
      rw [delete_of_refusing hgate]
      exact h

/-- A deletion reads nothing. -/
theorem reads_delete (p : TaskProxy) (source task : String) :
    (p.delete source task).1.store.reads = p.store.reads := by
  cases hgate : p.store.accepting with
  | true => rw [delete_of_accepting hgate]
  | false => rw [delete_of_refusing hgate]

/-- What each request reads and loads. -/
theorem loading_laws : loading.Laws where
  reads_withRoot _ _ := rfl
  reads_withGate _ _ := rfl
  loaded_withRoot _ _ _ := rfl
  loaded_withGate _ _ _ := rfl
  loaded_request p op k h := by
    cases op with
    | select now source states includeStale => exact contains_load_of_contains h now source
    | get now source task => exact contains_load_of_contains h now source
    | write now source task r =>
        exact contains_write (contains_load_of_contains h now source) task r
    | update now source task r =>
        show (p.update now source task r).1.cache.contains k = true
        rw [(p.update_fst_eq_write now source task r).2]
        exact contains_write (contains_load_of_contains h now source) task r
    | delete source task => exact contains_delete h source task
    | cleanup drop => exact (Groups.contains_retain _ k).trans h
  loaded_of_settles p op k h := by
    cases op with
    | select now source states includeStale =>
        obtain rfl : k = source := h
        exact p.contains_load now k
    | get now source task =>
        obtain rfl : k = source := h
        exact p.contains_load now k
    | write now source task r =>
        obtain rfl : k = source := h
        exact contains_write (p.contains_load now k) task r
    | update now source task r =>
        obtain rfl : k = source := h
        show (p.update now k task r).1.cache.contains k = true
        rw [(p.update_fst_eq_write now k task r).2]
        exact contains_write (p.contains_load now k) task r
    | delete source task => exact h.elim
    | cleanup drop => exact h.elim
  settles_of_asks p op k h := by
    cases op with
    | delete source task => cases h
    | cleanup drop => cases h
    | _ => exact (Option.some.inj h).symm
  reads_of_asks p op k h := by
    cases op with
    | select now source states includeStale =>
        obtain rfl : source = k := Option.some.inj h
        exact p.reads_load now source
    | get now source task =>
        obtain rfl : source = k := Option.some.inj h
        exact p.reads_load now source
    | write now source task r =>
        obtain rfl : source = k := Option.some.inj h
        exact p.reads_write now source task r
    | update now source task r =>
        obtain rfl : source = k := Option.some.inj h
        show (p.update now source task r).1.store.reads = _
        rw [(p.update_fst_eq_write now source task r).1]
        exact p.reads_write now source task r
    | delete source task => cases h
    | cleanup drop => cases h
  rereads_of_asks _ _ _ _ := rfl
  reads_of_asks_none p op h := by
    cases op with
    | delete source task => exact p.reads_delete source task
    | cleanup drop => rfl
    | _ => cases h

end TaskProxy

/-! ## Between two purges -/

/-- Take any of the three caches in any state, and any history in which it is not purged; the gate
may open and shut meanwhile, and somebody else may write to the store.  For each key the store is
read at most once on behalf of requests that ask for it: for an identifier, for the listing of all
records, or for the group of an owner.  Nobody reads for a key again once a request has settled it,
be it that the answer was a missing record or an empty group.  Nothing else is read, but that each
accepted write of an instance and each request that has given up instances read the store once.
After a listing of all records the store is not read any more. -/
theorem store_read_once_per_key {ρ : Type} [Identified ρ] :
    (∀ (s : Observed (RecordProxy ρ)) (history : List (StoreEvent (RecordRequest ρ) (Records ρ))),
      s.Unpurged history →
        RecordProxy.loading.LoadsOnce s history ∧
        ∀ before after, history = before ++ .request .list :: after →
          (s.run history).proxy.store.reads =
            (s.run (before ++ [.request .list])).proxy.store.reads) ∧
    (∀ (s : Observed InstanceProxy) (history : List (StoreEvent InstanceRequest Instances)),
      s.Unpurged history → InstanceProxy.loading.LoadsOnce s history) ∧
    ∀ (s : Observed TaskProxy) (history : List (StoreEvent TaskRequest TaskStore)),
      s.Unpurged history → TaskProxy.loading.LoadsOnce s history := by
  refine ⟨fun s history hh => ⟨RecordProxy.loading_laws.loadsOnce hh, ?_⟩,
    fun s history hh => InstanceProxy.loading_laws.loadsOnce hh,
    fun s history hh => TaskProxy.loading_laws.loadsOnce hh⟩
  rintro before after rfl
  exact RecordProxy.reads_after_list s before after hh

/-- Two owners are read for once each and a write reads its group again, a refused write reads
nothing; a missing application is looked up once, and not any more after the listing; and a report
on a task that nobody has asked for loads its group although the gate is shut. -/
theorem store_read_once_per_key_of_few :
    let shop : DeployableId := ⟨"SHOP-1"⟩
    let r : InstanceRecord :=
      { owner := shop, ownerName := "SHOP", instanceId := ⟨"a"⟩, executorId := ⟨"node"⟩
        hostname := "node", state := .healthy, created := .epoch, updated := .epoch }
    let run : TaskRecord :=
      { sourceAppName := "SHOP", taskId := "run-1", instanceId := ⟨"a"⟩, executorId := ⟨"node"⟩
        hostname := "node", state := .running, created := .epoch, updated := .epoch }
    let records : Observed (RecordProxy ApplicationRecord) :=
      .start false { store := { root := ∅ } }
    let instances : Observed InstanceProxy := .start false { store := { root := ∅ } }
    let tasks : Observed TaskProxy := .start false { store := { root := {} } }
    let looks : List (StoreEvent (RecordRequest ApplicationRecord) (Records ApplicationRecord)) :=
      [.request (.get shop), .request (.get shop), .request .list, .request (.get ⟨"MILL-1"⟩)]
    let writes : List (StoreEvent InstanceRequest Instances) :=
      [.request (.get .epoch shop ⟨"a"⟩), .request (.update .epoch shop ⟨"a"⟩ r), .gate false,
        .request (.update .epoch shop ⟨"a"⟩ r), .request (.select .epoch ⟨"MILL-1"⟩ [] true),
        .request (.select .epoch ⟨"MILL-1"⟩ [] true)]
    let reports : List (StoreEvent TaskRequest TaskStore) :=
      [.gate false, .lead false, .request (.update .epoch "SHOP" "run-1" run),
        .request (.get .epoch "SHOP" "run-1")]
    (RecordProxy.loading.LoadsOnce records looks ∧ (records.run looks).proxy.store.reads = 2) ∧
      (InstanceProxy.loading.LoadsOnce instances writes ∧
        (instances.run writes).proxy.store.reads = 3) ∧
      (TaskProxy.loading.LoadsOnce tasks reports ∧ (tasks.run reports).proxy.store.reads = 1) := by
  intro shop r run records instances tasks looks writes reports
  obtain ⟨hrecords, hinstances, htasks⟩ := store_read_once_per_key (ρ := ApplicationRecord)
  have hlooks : records.Unpurged looks := ⟨rfl, rfl, rfl, rfl, trivial⟩
  have hwrites : instances.Unpurged writes := ⟨rfl, rfl, rfl, rfl, rfl, rfl, trivial⟩
  have hreports : tasks.Unpurged reports := ⟨rfl, rfl, rfl, rfl, trivial⟩
  exact ⟨⟨(hrecords records looks hlooks).1, by decide⟩,
    ⟨hinstances instances writes hwrites, by decide⟩, ⟨htasks tasks reports hreports, by decide⟩⟩

end Orchestration
