import Mathlib.Data.ENat.Lattice
import Orchestration.Proofs.Machine.Wait

/-!
# How often a wait polls

How often a wait polls, whether it succeeds and how long it lasts follow from four numbers: the
attempts, the length of a pause, the time limit, and the poll at which the condition holds for the
first time.  The attempts and the number of pauses that reach the time limit bound the polls; which
of the two bounds is the smaller one does not matter.

Numbers that may be infinite stand for what never happens: a condition that never holds, and a time
limit that pauses of no length never reach.

Main results:

- `RetrySpec.lt_pausesUntil_iff`, `RetrySpec.pausesUntil_eq_top_iff`: the pauses before a time
  limit.
- `RetrySpec.maxPolls_eq`: the polls of a wait in vain.
- `RetrySpec.polls_wait_eq`, `RetrySpec.held_wait_iff_le`: the polls of any wait, and its success.
- `RetrySpec.wait_closed_form`: all that is known about a wait in one statement.
-/

namespace Orchestration
namespace RetrySpec

/-! ## Pauses before a time limit -/

/-- The least number of pauses that together reach a time limit.  No number does if the pauses take
no time and the limit is not zero. -/
noncomputable def pausesUntil (limitMs pauseMs : ℕ) : ℕ∞ :=
  ⨅ (k : ℕ) (_ : limitMs ≤ k * pauseMs), (k : ℕ∞)

/-- A number of pauses is too small exactly if they do not reach the limit. -/
theorem lt_pausesUntil_iff {limitMs pauseMs k : ℕ} :
    (k : ℕ∞) < pausesUntil limitMs pauseMs ↔ k * pauseMs < limitMs := by
  constructor
  · intro hlt
    by_contra hreached
    have hle : pausesUntil limitMs pauseMs ≤ k := by
      apply iInf₂_le
      exact Nat.le_of_not_lt hreached
    exact absurd hlt (not_lt_of_ge hle)
  · intro hshort
    have hall : ∀ m : ℕ, limitMs ≤ m * pauseMs → ((k + 1 : ℕ) : ℕ∞) ≤ m := by
      intro m hreached
      apply Nat.cast_le.2
      by_contra hfew
      have hmono : m * pauseMs ≤ k * pauseMs := Nat.mul_le_mul_right pauseMs (by omega)
      omega
    calc (k : ℕ∞) < ((k + 1 : ℕ) : ℕ∞) := Nat.cast_lt.2 (Nat.lt_succ_self k)
      _ ≤ pausesUntil limitMs pauseMs := le_iInf₂ hall

/-- Pauses never reach a limit exactly if they take no time and the limit is not zero. -/
theorem pausesUntil_eq_top_iff {limitMs pauseMs : ℕ} :
    pausesUntil limitMs pauseMs = ⊤ ↔ pauseMs = 0 ∧ 0 < limitMs := by
  constructor
  · intro htop
    have hnever : ∀ k : ℕ, k * pauseMs < limitMs := by
      intro k
      rw [← lt_pausesUntil_iff, htop]
      exact ENat.natCast_lt_top k
    have hpositive : 0 < limitMs := by simpa using hnever 0
    refine ⟨?_, hpositive⟩
    by_contra hpause
    have hreached : limitMs ≤ limitMs * pauseMs :=
      Nat.le_mul_of_pos_right limitMs (Nat.pos_of_ne_zero hpause)
    have hshort := hnever limitMs
    omega
  · rintro ⟨rfl, hpositive⟩
    rw [ENat.eq_top_iff_forall_gt]
    intro k
    rw [lt_pausesUntil_iff]
    simpa using hpositive

/-! ## Conditions -/

/-- A condition that is polled holds for the first time at a poll, or never.  The first poll has the
number one; what holds from the outset holds at the first poll. -/
structure FirstHolds (holds : ℕ → Bool) (t : ℕ∞) : Prop where
  before : ∀ p : ℕ, 0 < p → (p : ℕ∞) < t → holds p = false
  first : ∀ p : ℕ, (p : ℕ∞) = max t 1 → holds p = true

/-- Every condition holds for the first time at some poll, or never. -/
theorem exists_firstHolds (holds : ℕ → Bool) : ∃ t, FirstHolds holds t := by
  by_cases hever : ∃ p, 0 < p ∧ holds p = true
  · refine ⟨Nat.find hever, ?_, ?_⟩
    · intro p hpositive hbefore
      have hnot := Nat.find_min hever (Nat.cast_lt.1 hbefore)
      simpa [hpositive] using hnot
    · intro p hp
      obtain ⟨hpositive, hholds⟩ := Nat.find_spec hever
      have hone : (1 : ℕ∞) ≤ (Nat.find hever : ℕ∞) := by
        exact_mod_cast hpositive
      rw [max_eq_left hone] at hp
      rwa [Nat.cast_inj.1 hp]
  · refine ⟨⊤, ?_, ?_⟩
    · intro p hpositive _
      by_contra hholds
      exact hever ⟨p, hpositive, by simpa using hholds⟩
    · intro p hp
      rw [max_eq_left le_top] at hp
      exact absurd hp (ENat.natCast_ne_top p)

/-! ## Polls -/

variable (s : RetrySpec) (holds : ℕ → Bool)

/-- The number of pauses that a wait begins at most: it has that many attempts, and no pause begins
once the time limit is reached. -/
noncomputable def maxPauses : ℕ∞ :=
  min s.maxAttempts.toNat (pausesUntil s.maxDurationMs.toNat s.pauseMs)

/-- The polls of a wait in vain that has begun with some pauses, of which none was too late. -/
theorem polls_waitFrom_vain (left polls : ℕ)
    (hintime : (polls : ℕ∞) ≤ pausesUntil s.maxDurationMs.toNat s.pauseMs) :
    ((s.waitFrom (fun _ => false) left polls (polls * s.pauseMs)).polls : ℕ∞) =
      min ((polls + left : ℕ) : ℕ∞) (pausesUntil s.maxDurationMs.toNat s.pauseMs) + 1 := by
  induction left generalizing polls with
  | zero => simp [waitFrom, min_eq_left hintime]
  | succ left ih =>
      rw [waitFrom_succ_of_not_holds s (fun _ => false) rfl]
      split
      · rename_i hlate
        -- The time is over just now, so the pauses so far are those that reach the limit.
        have hreached : pausesUntil s.maxDurationMs.toNat s.pauseMs ≤ polls := by
          rw [← not_lt, lt_pausesUntil_iff]
          omega
        have hmany : (polls : ℕ∞) ≤ ((polls + (left + 1) : ℕ) : ℕ∞) :=
          Nat.cast_le.2 (Nat.le_add_right _ _)
        rw [le_antisymm hreached hintime, min_eq_right hmany]
        simp
      · rename_i hearly
        have hnext : ((polls + 1 : ℕ) : ℕ∞) ≤ pausesUntil s.maxDurationMs.toNat s.pauseMs := by
          rw [Nat.cast_add, Nat.cast_one]
          apply Order.add_one_le_of_lt
          rw [lt_pausesUntil_iff]
          omega
        have helapsed : polls * s.pauseMs + s.pauseMs = (polls + 1) * s.pauseMs := by
          rw [Nat.succ_mul]
        rw [helapsed, ih (polls + 1) hnext, Nat.add_right_comm polls 1 left, Nat.add_assoc]

/-- A wait in vain polls once more than it pauses. -/
theorem maxPolls_eq : (s.maxPolls : ℕ∞) = s.maxPauses + 1 := by
  have hvain := s.polls_waitFrom_vain s.maxAttempts.toNat 0 (by simp)
  simpa [maxPolls, wait, maxPauses] using hvain

/-- A wait goes on only while its condition does not hold. -/
theorem not_holds_of_lt_polls_waitFrom (left polls elapsed : ℕ) {p : ℕ} (hafter : polls < p)
    (hbefore : p < (s.waitFrom holds left polls elapsed).polls) : holds p = false := by
  induction left generalizing polls elapsed with
  | zero =>
      rw [waitFrom] at hbefore
      dsimp only at hbefore
      omega
  | succ left ih =>
      cases hholds : holds (polls + 1) with
      | true =>
          rw [waitFrom_of_holds s holds hholds] at hbefore
          dsimp only at hbefore
          omega
      | false =>
          rw [waitFrom_succ_of_not_holds s holds hholds] at hbefore
          split at hbefore
          · dsimp only at hbefore
            omega
          · rcases Nat.eq_or_lt_of_le hafter with hfirst | hlater
            · rwa [← hfirst]
            · exact ih (polls + 1) _ hlater hbefore

section FirstHolds

variable {s holds} {t : ℕ∞}

/-- A wait succeeds exactly if its condition holds no later than at the last poll of a wait in
vain. -/
theorem held_wait_iff_le (ht : FirstHolds holds t) :
    (s.wait holds).held = true ↔ max t 1 ≤ s.maxPauses + 1 := by
  rw [held_wait_iff, ← maxPolls_eq]
  constructor
  · rintro ⟨p, hpositive, hlast, hholds⟩
    have hfirst : t ≤ p := by
      by_contra hbefore
      rw [ht.before p hpositive (lt_of_not_ge hbefore)] at hholds
      cases hholds
    have hone : (1 : ℕ∞) ≤ p := by exact_mod_cast hpositive
    exact (max_le hfirst hone).trans (Nat.cast_le.2 hlast)
  · intro hle
    obtain ⟨p, hp⟩ := ENat.ne_top_iff_exists.1 (ne_top_of_le_ne_top (ENat.natCast_ne_top _) hle)
    have hone : (1 : ℕ∞) ≤ p := hp ▸ le_max_right t 1
    refine ⟨p, ?_, ?_, ht.first p hp⟩
    · exact_mod_cast hone
    · rw [← hp] at hle
      exact_mod_cast hle

/-- A wait polls until its condition holds, and no more often than a wait in vain. -/
theorem polls_wait_eq (ht : FirstHolds holds t) :
    ((s.wait holds).polls : ℕ∞) = min (max t 1) (s.maxPauses + 1) := by
  cases hheld : (s.wait holds).held with
  | false =>
      have hlate : ¬ max t 1 ≤ s.maxPauses + 1 := by
        rw [← held_wait_iff_le ht, hheld]
        exact Bool.false_ne_true
      rw [polls_of_not_held s holds hheld, min_eq_right (le_of_not_ge hlate), maxPolls_eq]
  | true =>
      have hle := (held_wait_iff_le ht).1 hheld
      have hholds := holds_of_held s holds hheld
      have hpositive := s.polls_wait_pos holds
      rw [min_eq_left hle]
      apply le_antisymm
      · -- A later poll than the first one at which the condition holds is not made.
        by_contra hlater
        obtain ⟨p, hp⟩ := ENat.ne_top_iff_exists.1 (ne_top_of_lt (lt_of_not_ge hlater))
        have hone : 0 < p := by
          have : (1 : ℕ∞) ≤ p := hp ▸ le_max_right t 1
          exact_mod_cast this
        have hbefore : p < (s.wait holds).polls := by
          rw [← hp] at hlater
          exact_mod_cast lt_of_not_ge hlater
        have hnot := not_holds_of_lt_polls_waitFrom s holds s.maxAttempts.toNat 0 0 hone hbefore
        rw [ht.first p hp] at hnot
        cases hnot
      · apply max_le
        · by_contra hearlier
          rw [ht.before _ hpositive (lt_of_not_ge hearlier)] at hholds
          cases hholds
        · exact_mod_cast hpositive

end FirstHolds

/-! ## Pauses -/

/-- The times at which the pauses of a wait begin, with the attempts that are left, the polls that
were made and the time that has passed. -/
def pauseStartsFrom : ℕ → ℕ → ℕ → List ℕ
  | 0, _, _ => []
  | left + 1, polls, elapsedMs =>
    match s.judge (left + 1) elapsedMs (holds (polls + 1)) with
    | .pause => elapsedMs :: pauseStartsFrom left (polls + 1) (elapsedMs + s.pauseMs)
    | .held => []
    | .gaveUp => []

/-- The times at which the pauses of a wait begin. -/
def pauseStarts : List ℕ :=
  s.pauseStartsFrom holds s.maxAttempts.toNat 0 0

/-- Pauses follow each other without a gap. -/
theorem pauseStartsFrom_eq (left polls elapsed : ℕ) :
    s.pauseStartsFrom holds left polls elapsed =
      (List.range ((s.waitFrom holds left polls elapsed).polls - (polls + 1))).map
        (fun k => elapsed + k * s.pauseMs) := by
  induction left generalizing polls elapsed with
  | zero => simp [pauseStartsFrom, waitFrom]
  | succ left ih =>
      cases hverdict : s.judge (left + 1) elapsed (holds (polls + 1)) with
      | held => simp [pauseStartsFrom, waitFrom, hverdict]
      | gaveUp => simp [pauseStartsFrom, waitFrom, hverdict]
      | pause =>
          have hpolls := (polls_waitFrom s holds left (polls + 1) (elapsed + s.pauseMs)).1
          have hone : ∀ n, polls + 1 < n → n - (polls + 1) = n - (polls + 1 + 1) + 1 := by
            intro n hn
            omega
          simp only [pauseStartsFrom, waitFrom, hverdict]
          rw [ih, hone _ hpolls, List.range_succ_eq_map, List.map_cons, List.map_map]
          simp only [Nat.zero_mul, Nat.add_zero, List.cons.injEq, true_and]
          apply List.map_congr_left
          intro k _
          simp only [Function.comp_apply, Nat.succ_mul]
          omega

/-- No pause begins once the time limit is reached. -/
theorem lt_of_mem_pauseStartsFrom (left polls elapsed : ℕ) {start : ℕ}
    (h : start ∈ s.pauseStartsFrom holds left polls elapsed) :
    start < s.maxDurationMs.toNat := by
  induction left generalizing polls elapsed with
  | zero => simp [pauseStartsFrom] at h
  | succ left ih =>
      cases hverdict : s.judge (left + 1) elapsed (holds (polls + 1)) with
      | held => simp [pauseStartsFrom, hverdict] at h
      | gaveUp => simp [pauseStartsFrom, hverdict] at h
      | pause =>
          simp only [pauseStartsFrom, hverdict, List.mem_cons] at h
          rcases h with rfl | hlater
          · by_contra hlate
            cases hholds : holds (polls + 1) <;>
              simp [judge, hholds, Nat.le_of_not_lt hlate] at hverdict
          · exact ih _ _ hlater

/-! ## The whole wait -/

/-- What a wait does, by its attempts, its time limit, the length of its pauses and the poll at
which its condition holds for the first time. -/
structure ClosedForm (t : ℕ∞) : Prop where
  polls : ((s.wait holds).polls : ℕ∞) = min (max t 1) (s.maxPauses + 1)
  held : (s.wait holds).held = true ↔ max t 1 ≤ s.maxPauses + 1
  elapsed : (s.wait holds).elapsedMs = ((s.wait holds).polls - 1) * s.pauseMs
  bounded : (s.wait holds).elapsedMs ≤ s.maxAttempts.toNat * s.pauseMs
  starts : s.pauseStarts holds =
    (List.range ((s.wait holds).polls - 1)).map (fun k => k * s.pauseMs)
  intime : ∀ start ∈ s.pauseStarts holds, start < s.maxDurationMs.toNat

/-- Every wait for every condition: how often it polls, whether it succeeds, how long it lasts, and
when its pauses begin.  A pause is as long as the interval, and no longer than thirty years; no
number of pauses reaches the time limit exactly if they take no time and the limit is not zero. -/
theorem wait_closed_form (s : RetrySpec) (holds : ℕ → Bool) :
    (∃ t, FirstHolds holds t) ∧ (∀ t, FirstHolds holds t → s.ClosedForm holds t) ∧
      s.pauseMs = min s.intervalMs.toNat longestPauseMs ∧
      (pausesUntil s.maxDurationMs.toNat s.pauseMs = ⊤ ↔
        s.pauseMs = 0 ∧ 0 < s.maxDurationMs.toNat) := by
  refine ⟨exists_firstHolds holds, ?_, rfl, pausesUntil_eq_top_iff⟩
  intro t ht
  exact
    { polls := polls_wait_eq ht
      held := held_wait_iff_le ht
      elapsed := s.elapsedMs_wait holds
      bounded := s.elapsedMs_wait_le holds
      starts := by simpa [pauseStarts, wait] using s.pauseStartsFrom_eq holds _ 0 0
      intime := fun _ h => s.lt_of_mem_pauseStartsFrom holds _ _ _ h }

/-- A condition never holds.  Two pauses reach the time limit exactly, so that the third poll is the
last one although there are attempts left. -/
theorem wait_ends_at_limit :
    let s : RetrySpec := { intervalMs := 10, maxAttempts := 5, maxDurationMs := 20 }
    FirstHolds (fun _ => false) ⊤ ∧ s.ClosedForm (fun _ => false) ⊤ ∧
      s.wait (fun _ => false) = ⟨false, 3, 20⟩ ∧ s.pauseStarts (fun _ => false) = [0, 10] := by
  intro s
  have hnever : FirstHolds (fun _ => false) ⊤ := by
    constructor
    · intro p _ _
      rfl
    · intro p hp
      rw [max_eq_left le_top] at hp
      exact absurd hp (ENat.natCast_ne_top p)
  have hclosed := (wait_closed_form s fun _ => false).2.1 ⊤ hnever
  exact ⟨hnever, hclosed, by decide +kernel, by decide +kernel⟩

/-- A condition holds at the third poll.  The interval is thirty years and a millisecond, and so is
the time limit: the first pause ends before the limit, so that there is a second pause and a third
poll.  With a pause as long as the interval the second poll would have been the last one. -/
theorem wait_outlasts_interval :
    let s : RetrySpec :=
      { intervalMs := 946080000001, maxAttempts := 2, maxDurationMs := 946080000001 }
    let holds : ℕ → Bool := fun p => decide (3 ≤ p)
    let last : ℕ∞ :=
      min (s.maxAttempts.toNat : ℕ∞) (pausesUntil s.maxDurationMs.toNat s.intervalMs.toNat) + 1
    FirstHolds holds 3 ∧ s.wait holds = ⟨true, 3, 1892160000000⟩ ∧ last = 2 ∧
      ((s.wait holds).polls : ℕ∞) ≠ min (max 3 1) last ∧
      ¬ ((s.wait holds).held = true ↔ max 3 1 ≤ last) ∧
      (s.wait holds).elapsedMs ≠ ((s.wait holds).polls - 1) * s.intervalMs.toNat := by
  intro s holds last
  have hwait : s.wait holds = ⟨true, 3, 1892160000000⟩ := by decide +kernel
  have hfirst : FirstHolds holds 3 := by
    constructor
    · intro p _ hp
      have hsmall : p < 3 := by exact_mod_cast hp
      simp [holds, hsmall]
    · intro p hp
      rw [max_eq_left (by decide)] at hp
      have hthree : p = 3 := by exact_mod_cast hp
      simp [holds, hthree]
  have hone : pausesUntil s.maxDurationMs.toNat s.intervalMs.toNat = 1 := by
    apply le_antisymm
    · rw [← not_lt]
      exact fun h => absurd ((lt_pausesUntil_iff (k := 1)).1 h) (by decide)
    · apply Order.one_le_iff_pos.2
      exact (lt_pausesUntil_iff (k := 0)).2 (by decide)
  have hlast : last = 2 := by
    have hattempts : s.maxAttempts.toNat = 2 := by decide
    simp only [last, hone, hattempts]
    decide
  refine ⟨hfirst, hwait, hlast, ?_, ?_, ?_⟩ <;> rw [hwait]
  · rw [hlast]
    decide
  · rw [hlast]
    decide
  · decide

end RetrySpec
end Orchestration
