import Mathlib.Logic.Function.Iterate
import Orchestration.Rehearsal.Agenda

/-!
# Bounded waits

A wait polls its condition a number of times that is known beforehand, unless the condition holds
earlier.  Every pause but the last is over before the time limit, so a wait lasts one pause longer
than the limit at most.

Main results:

- `RetrySpec.held_wait_iff`: a wait succeeds exactly when its condition holds at one of its polls.
- `RetrySpec.polls_wait_le`, `RetrySpec.elapsedMs_wait_le`, `RetrySpec.elapsedMs_wait_lt`: how often
  a wait polls, and how long it lasts.
- `Stage.poll_eq`: a wait among background work polls what the background work makes of it.
- `Stage.now_pause`: a pause lets as much time pass as it is long.
-/

namespace Orchestration
namespace RetrySpec

variable (s : RetrySpec) (holds : Nat → Bool)

/-- The polls of a wait in vain. -/
def maxPolls : Nat :=
  (s.wait fun _ => false).polls

/-- A poll at which the condition holds is the last one. -/
theorem waitFrom_of_holds {polls : Nat} (h : holds (polls + 1) = true) (left elapsed : Nat) :
    s.waitFrom holds left polls elapsed = ⟨true, polls + 1, elapsed⟩ := by
  cases left with
  | zero => simp [waitFrom, h]
  | succ left => simp [waitFrom, judge, h]

/-- At any other poll the wait goes on as if it were in vain. -/
theorem waitFrom_succ_of_not_holds {polls : Nat} (h : holds (polls + 1) = false)
    (left elapsed : Nat) :
    s.waitFrom holds (left + 1) polls elapsed =
      if s.maxDurationMs.toNat ≤ elapsed then ⟨false, polls + 1, elapsed⟩
      else s.waitFrom holds left (polls + 1) (elapsed + s.pauseMs) := by
  by_cases hlate : s.maxDurationMs.toNat ≤ elapsed <;> simp [waitFrom, judge, h, hlate]

/-- Every wait polls at least once, and never after its attempts are used up. -/
theorem polls_waitFrom (left polls elapsed : Nat) :
    polls < (s.waitFrom holds left polls elapsed).polls ∧
      (s.waitFrom holds left polls elapsed).polls ≤ polls + left + 1 := by
  induction left generalizing polls elapsed with
  | zero => simp [waitFrom]
  | succ left ih =>
      cases hholds : holds (polls + 1) with
      | true =>
          rw [waitFrom_of_holds s holds hholds]
          exact ⟨Nat.lt_succ_self _, by simp⟩
      | false =>
          rw [waitFrom_succ_of_not_holds s holds hholds]
          split
          · exact ⟨Nat.lt_succ_self _, by simp⟩
          · have hrest := ih (polls + 1) (elapsed + s.pauseMs)
            omega

/-- Between two polls lies one pause. -/
theorem elapsedMs_waitFrom (left polls elapsed : Nat) :
    (s.waitFrom holds left polls elapsed).elapsedMs =
      elapsed + ((s.waitFrom holds left polls elapsed).polls - (polls + 1)) * s.pauseMs := by
  induction left generalizing polls elapsed with
  | zero => simp [waitFrom]
  | succ left ih =>
      cases hholds : holds (polls + 1) with
      | true => simp [waitFrom_of_holds s holds hholds]
      | false =>
          rw [waitFrom_succ_of_not_holds s holds hholds]
          split
          · simp
          · have hpolls := (polls_waitFrom s holds left (polls + 1) (elapsed + s.pauseMs)).1
            have hone : ∀ p, polls + 1 < p → p - (polls + 1) = p - (polls + 1 + 1) + 1 := fun p _ =>
              by omega
            rw [ih, hone _ hpolls, Nat.succ_mul]
            omega

/-- No pause begins once the time limit has passed. -/
theorem elapsedMs_waitFrom_lt (left polls elapsed : Nat) :
    (s.waitFrom holds left polls elapsed).elapsedMs = elapsed ∨
      (s.waitFrom holds left polls elapsed).elapsedMs < s.maxDurationMs.toNat + s.pauseMs := by
  induction left generalizing polls elapsed with
  | zero => exact .inl rfl
  | succ left ih =>
      cases hholds : holds (polls + 1) with
      | true => simp [waitFrom_of_holds s holds hholds]
      | false =>
          rw [waitFrom_succ_of_not_holds s holds hholds]
          split
          · exact .inl rfl
          · rename_i hearly
            rcases ih (polls + 1) (elapsed + s.pauseMs) with hrest | hrest
            · right
              omega
            · exact .inr hrest

/-- A wait succeeds exactly when its condition holds at one of its polls; otherwise it polls to the
end. -/
theorem held_waitFrom (left polls elapsed : Nat) :
    let waited := s.waitFrom holds left polls elapsed
    let last := (s.waitFrom (fun _ => false) left polls elapsed).polls
    (waited.held = true ↔ ∃ p, polls < p ∧ p ≤ last ∧ holds p = true) ∧
      (waited.held = true → holds waited.polls = true) ∧
      (waited.held = false → waited.polls = last) := by
  induction left generalizing polls elapsed with
  | zero =>
      have honly : ∀ p, polls < p → p ≤ polls + 1 → p = polls + 1 := fun p _ _ => by omega
      refine ⟨⟨fun h => ⟨polls + 1, by simp, by simp [waitFrom], h⟩, ?_⟩, id, fun _ => rfl⟩
      rintro ⟨p, hpolls, hlast, hholds⟩
      rwa [honly p hpolls hlast] at hholds
  | succ left ih =>
      have hvain := polls_waitFrom s (fun _ => false) (left + 1) polls elapsed
      cases hholds : holds (polls + 1) with
      | true =>
          rw [waitFrom_of_holds s holds hholds]
          exact ⟨⟨fun _ => ⟨polls + 1, Nat.lt_succ_self _, hvain.1, hholds⟩, fun _ => rfl⟩,
            fun _ => hholds, nofun⟩
      | false =>
          rw [waitFrom_succ_of_not_holds s holds hholds,
            waitFrom_succ_of_not_holds s (fun _ => false) rfl]
          split
          · refine ⟨⟨nofun, ?_⟩, nofun, fun _ => rfl⟩
            rintro ⟨p, hpolls, hlast, hp⟩
            rw [show p = polls + 1 from Nat.le_antisymm hlast hpolls, hholds] at hp
            cases hp
          · -- The poll that was made in vain is none of those that count.
            obtain ⟨hiff, hrest⟩ := ih (polls + 1) (elapsed + s.pauseMs)
            refine ⟨hiff.trans ⟨?_, ?_⟩, hrest⟩
            · rintro ⟨p, hpolls, hlast, hp⟩
              exact ⟨p, Nat.lt_of_succ_lt hpolls, hlast, hp⟩
            · rintro ⟨p, hpolls, hlast, hp⟩
              refine ⟨p, Nat.lt_of_le_of_ne hpolls ?_, hlast, hp⟩
              rintro rfl
              rw [hholds] at hp
              cases hp

/-- A wait succeeds exactly when its condition holds at one of the polls that it can make. -/
theorem held_wait_iff :
    (s.wait holds).held = true ↔ ∃ p, 0 < p ∧ p ≤ s.maxPolls ∧ holds p = true :=
  (held_waitFrom s holds _ 0 0).1

/-- When a wait succeeds, its condition holds at the last poll. -/
theorem holds_of_held (h : (s.wait holds).held = true) : holds (s.wait holds).polls = true :=
  (held_waitFrom s holds _ 0 0).2.1 h

/-- A wait that is in vain makes every poll that it can make. -/
theorem polls_of_not_held (h : (s.wait holds).held = false) :
    (s.wait holds).polls = s.maxPolls :=
  (held_waitFrom s holds _ 0 0).2.2 h

/-- There is one poll more than there are attempts at most. -/
theorem polls_wait_le : (s.wait holds).polls ≤ s.maxAttempts.toNat + 1 := by
  simpa [wait] using (polls_waitFrom s holds s.maxAttempts.toNat 0 0).2

/-- Every wait polls at least once. -/
theorem polls_wait_pos : 0 < (s.wait holds).polls :=
  (polls_waitFrom s holds s.maxAttempts.toNat 0 0).1

/-- So there is at least one poll that it can make. -/
theorem maxPolls_pos : 0 < s.maxPolls :=
  s.polls_wait_pos fun _ => false

/-- A wait lasts as long as the pauses between its polls. -/
theorem elapsedMs_wait :
    (s.wait holds).elapsedMs = ((s.wait holds).polls - 1) * s.pauseMs := by
  rw [wait, elapsedMs_waitFrom, Nat.zero_add]

/-- A wait lasts no longer than all its pauses together. -/
theorem elapsedMs_wait_le :
    (s.wait holds).elapsedMs ≤ s.maxAttempts.toNat * s.pauseMs := by
  have hpolls : (s.wait holds).polls - 1 ≤ s.maxAttempts.toNat := by
    have := s.polls_wait_le holds
    omega
  rw [elapsedMs_wait]
  exact Nat.mul_le_mul_right _ hpolls

/-- A wait ends less than one pause after its time limit. -/
theorem elapsedMs_wait_lt : (s.wait holds).elapsedMs = 0 ∨
    (s.wait holds).elapsedMs < s.maxDurationMs.toNat + s.pauseMs :=
  elapsedMs_waitFrom_lt s holds s.maxAttempts.toNat 0 0

end RetrySpec

namespace Stage

variable {S τ : Type} [DecidableEq τ] [Stage S τ]

/-- Background work that is polled from some pause on: what the polls find is what the pauses made
of it. -/
theorem pollFrom_eq (spec : RetrySpec) (holds : S → Bool) (first : S) (left polls elapsed : Nat) :
    let after (n : Nat) := (fun s => pause s spec.pauseMs)^[n] first
    let waited := spec.waitFrom (fun p => holds (after (p - 1))) left polls elapsed
    pollFrom spec holds left elapsed (after polls) = (after (waited.polls - 1), waited.held) := by
  intro after
  induction left generalizing polls elapsed with
  | zero => simp [pollFrom, RetrySpec.waitFrom]
  | succ left ih =>
      have hnext : pause (after polls) spec.pauseMs = after (polls + 1) :=
        (Function.iterate_succ_apply' (fun s => pause s spec.pauseMs) polls first).symm
      simp only [pollFrom, RetrySpec.waitFrom, Nat.add_sub_cancel]
      cases spec.judge (left + 1) elapsed (holds (after polls)) with
      | held => rfl
      | gaveUp => rfl
      | pause =>
          rw [hnext]
          exact ih (polls + 1) (elapsed + spec.pauseMs)

/-- A wait among background work: the first poll finds it as it is, and each pause lets it go on. -/
theorem poll_eq (spec : RetrySpec) (holds : S → Bool) (s : S) :
    let after (n : Nat) := (fun s => pause s spec.pauseMs)^[n] s
    let waited := spec.wait fun p => holds (after (p - 1))
    poll spec holds s = (after (waited.polls - 1), waited.held) :=
  pollFrom_eq spec holds s spec.maxAttempts.toNat 0 0

/-! ## The clock -/

/-- To wake everybody who is due takes no time. -/
theorem now_foldl_wake (fired : List (Nat × τ)) (a : Agenda τ) :
    (fired.foldl (fun a t => a.wake t.2) a).now = a.now := by
  induction fired generalizing a with
  | nil => rfl
  | cons t rest ih =>
      rw [List.foldl_cons, ih, Agenda.wake]
      split <;> rfl

omit [DecidableEq τ] in
/-- Whoever is next is taken at once. -/
theorem now_of_next? {a a' : Agenda τ} {t : τ} (h : a.next? = some (t, a')) : a'.now = a.now := by
  unfold Agenda.next? at h
  split at h
  · cases h
  · cases h
    rfl

/-- The clock moves to a deadline that is due, and never back. -/
theorem now_of_advance? {a a' : Agenda τ} {due : Nat → Bool} (h : a.advance? due = some a') :
    ∃ d, due d = true ∧ a'.now = max a.now d := by
  unfold Agenda.advance? at h
  split at h
  · cases h
  · split at h
    · rename_i d t rest htimers hdue
      rw [← Option.some.inj h, now_foldl_wake]
      exact ⟨d, hdue, rfl⟩
    · cases h

section Clock

variable (hwith : ∀ (s : S) (a : Agenda τ), agenda (withAgenda s a) = a)
variable (hturn : ∀ (s : S) (t : τ), (agenda (turn s t)).now = (agenda s).now)

include hwith hturn

/-- A play keeps the clock between where it was and the last deadline that is due. -/
theorem now_play {due : Nat → Bool} {limit : Nat} (hdue : ∀ d, due d = true → d ≤ limit)
    (turns : Nat) {s : S} (hs : (agenda s).now ≤ limit) :
    (agenda s).now ≤ (agenda (play due turns s)).now ∧ (agenda (play due turns s)).now ≤ limit := by
  induction turns generalizing s with
  | zero => exact ⟨Nat.le_refl _, hs⟩
  | succ turns ih =>
      rw [play]
      split
      · rename_i t a hnext
        have hnow : (agenda (turn (withAgenda s a) t)).now = (agenda s).now := by
          rw [hturn, hwith, now_of_next? hnext]
        rw [← hnow]
        exact ih (hnow ▸ hs)
      · split
        · rename_i a hadvance
          obtain ⟨d, hd, hnow⟩ := now_of_advance? hadvance
          have hlimit := hdue d hd
          have hrest := ih (s := withAgenda s a) (by rw [hwith]; omega)
          rw [hwith] at hrest
          omega
        · exact ⟨Nat.le_refl _, hs⟩

/-- A pause lets as much time pass as it is long. -/
theorem now_pause (s : S) (ms : Nat) : (agenda (pause s ms)).now = (agenda s).now + ms := by
  simp only [pause]
  split
  · rename_i hfree
    rw [hwith, hfree.1]
    rfl
  · rw [hwith]
    split
    · rename_i hnone
      have hdue (d : Nat) (hd : decide (d ≤ (agenda s).now) = true) : d ≤ (agenda s).now :=
        of_decide_eq_true hd
      have hplay := now_play hwith hturn hdue maxTurns (Nat.le_refl _)
      dsimp only
      omega
    · rename_i hsome
      have hdue (d : Nat) (hd : decide (d < (agenda s).now + ms) = true) :
          d ≤ (agenda s).now + ms := Nat.le_of_lt (of_decide_eq_true hd)
      have hplay := now_play hwith hturn hdue maxTurns (Nat.le_add_right _ ms)
      simp only [runBefore, hsome, if_false, hwith, Agenda.skipTo]
      omega

/-- After some pauses, the clock has moved on by their lengths. -/
theorem now_iterate_pause (s : S) (ms n : Nat) :
    (agenda ((fun s => pause s ms)^[n] s)).now = (agenda s).now + n * ms := by
  induction n with
  | zero => simp
  | succ n ih =>
      rw [Function.iterate_succ_apply', now_pause hwith hturn, ih, Nat.succ_mul, Nat.add_assoc]

end Clock

end Stage
end Orchestration
