import Mathlib.Algebra.Group.Nat.Defs
import Orchestration.Text.Numeral

/-!
# Numerals read back

Both kinds of numerals are lists of digits: `places` on a fixed width, `digits` without a leading
zero.  What a reader takes from the front of a text is then said once, for any list of digits.

Main results:

- `Numeral.spanDigits_append`: the digits in front of a text are taken as they were written.
- `Numeral.value_places`, `Numeral.value_digits`: the digits of a number denote it.
- `Numeral.ofCanonical?_canonical`: a canonical numeral reads back.
-/

namespace Orchestration
namespace Numeral

/-! ## Digits in front of a text -/

/-- The digits in front of a text are taken as they were written, up to the first character that is
none. -/
theorem spanDigits_append {ds : List Nat} (hds : ∀ d ∈ ds, d < 10) (rest : List Char)
    (hrest : ∀ c ∈ rest.head?, digit? c = none) :
    spanDigits (ds.map Nat.digitChar ++ rest) = (ds, rest) := by
  induction ds with
  | nil =>
      cases rest with
      | nil => rfl
      | cons c cs => simp [spanDigits, hrest c rfl]
  | cons d ds ih =>
      rw [List.forall_mem_cons] at hds
      simp [spanDigits, digit?_digitChar d hds.1, ih hds.2]

/-- Digits that are written one by one are read one by one. -/
theorem filterMap_digit? {ds : List Nat} (hds : ∀ d ∈ ds, d < 10) :
    (ds.map Nat.digitChar).filterMap digit? = ds := by
  induction ds with
  | nil => rfl
  | cons d ds ih =>
      rw [List.forall_mem_cons] at hds
      rw [List.map_cons, List.filterMap_cons_some (digit?_digitChar d hds.1), ih hds.2]

/-! ## What digits denote -/

/-- Zeros in front do not count. -/
theorem value_replicate_append (k : Nat) (ds : List Nat) :
    value (List.replicate k 0 ++ ds) = value ds := by
  induction k with
  | zero => rfl
  | succ k ih => simpa [List.replicate_succ, value] using ih

/-- Zeros behind shift by as many places. -/
theorem value_append_replicate (ds : List Nat) (k : Nat) :
    value (ds ++ List.replicate k 0) = value ds * 10 ^ k := by
  induction k with
  | zero => simp
  | succ k ih =>
      rw [List.replicate_succ', ← List.append_assoc, value_append, ih, Nat.pow_succ, Nat.add_zero,
        Nat.mul_comm 10, Nat.mul_assoc]

/-! ## Numerals of a fixed width -/

/-- The digits of a number on exactly `width` places. -/
def places : Nat → Nat → List Nat
  | 0, _ => []
  | width + 1, n => places width (n / 10) ++ [n % 10]

/-- A numeral of a fixed width shows the lowest places of its number. -/
theorem padded_eq_map (width n : Nat) : padded width n = (places width n).map Nat.digitChar := by
  induction width generalizing n with
  | zero => rfl
  | succ width ih => simp [padded, places, ih]

/-- There are as many places as the width says. -/
@[simp]
theorem length_places (width n : Nat) : (places width n).length = width := by
  induction width generalizing n with
  | zero => rfl
  | succ width ih => simp [places, ih]

/-- Every place is a digit. -/
theorem places_lt (width n : Nat) : ∀ d ∈ places width n, d < 10 := by
  induction width generalizing n with
  | zero => simp [places]
  | succ width ih =>
      intro d hd
      rcases List.mem_append.1 hd with hd | hd
      · exact ih (n / 10) d hd
      · rw [List.mem_singleton.1 hd]
        exact Nat.mod_lt _ (by decide)

/-- The places of a number denote it, if it fits. -/
theorem value_places {width n : Nat} (h : n < 10 ^ width) : value (places width n) = n := by
  induction width generalizing n with
  | zero =>
      rw [Nat.pow_zero, Nat.lt_one_iff] at h
      rw [h]
      rfl
  | succ width ih =>
      have hdiv : n / 10 < 10 ^ width := by
        rw [Nat.pow_succ] at h
        omega
      rw [places, value_append, ih hdiv]
      omega

/-! ## Canonical numerals -/

/-- The digits of a number, with no zero in front of another digit. -/
def digits (n : Nat) : List Nat :=
  if n < 10 then [n] else digits (n / 10) ++ [n % 10]

/-- A numeral shows the digits of its number. -/
theorem toDigits_eq_map (n : Nat) : Nat.toDigits 10 n = (digits n).map Nat.digitChar := by
  fun_induction digits n with
  | case1 n h => exact Nat.toDigits_of_lt_base h
  | case2 n h ih => simp [Nat.toDigits_of_base_le (by decide) (Nat.not_lt.1 h), ih]

/-- Every digit is below ten. -/
theorem digits_lt (n : Nat) : ∀ d ∈ digits n, d < 10 := by
  fun_induction digits n with
  | case1 n h => simpa using h
  | case2 n h ih =>
      intro d hd
      rcases List.mem_append.1 hd with hd | hd
      · exact ih d hd
      · rw [List.mem_singleton.1 hd]
        exact Nat.mod_lt _ (by decide)

/-- A number is the value of its digits. -/
theorem value_digits (n : Nat) : value (digits n) = n := by
  fun_induction digits n with
  | case1 n h => simp [value]
  | case2 n h ih =>
      rw [value_append, ih]
      omega

/-- Only zero has a zero in front. -/
theorem digits_eq_cons (n : Nat) : ∃ d ds, digits n = d :: ds ∧ (d = 0 → ds = []) := by
  suffices h : ∃ d ds, digits n = d :: ds ∧ (d = 0 → ds = [] ∧ n = 0) by
    obtain ⟨d, ds, heq, hzero⟩ := h
    exact ⟨d, ds, heq, fun hd => (hzero hd).1⟩
  fun_induction digits n with
  | case1 n h => exact ⟨n, [], rfl, fun hn => ⟨rfl, hn⟩⟩
  | case2 n h ih =>
      obtain ⟨d, ds, heq, hzero⟩ := ih
      refine ⟨d, ds ++ [n % 10], by rw [heq, List.cons_append], fun hd => ?_⟩
      -- a number of two digits has more than zero in front of the last
      have hsmall := (hzero hd).2
      omega

/-- A canonical numeral reads back. -/
theorem ofCanonical?_canonical (n : Nat) : ofCanonical? (canonical n) = some n := by
  have hspan : spanDigits (canonical n).toList = (digits n, []) := by
    have h := spanDigits_append (digits_lt n) [] (by simp)
    rwa [List.append_nil, ← toDigits_eq_map, ← String.toList_ofList (l := Nat.toDigits 10 n)] at h
  obtain ⟨d, ds, heq, hzero⟩ := digits_eq_cons n
  have hfront : ¬ (d = 0 ∧ ds ≠ []) := fun h => h.2 (hzero h.1)
  unfold ofCanonical?
  rw [hspan, heq]
  simp only [if_neg hfront]
  rw [← heq, value_digits]

end Numeral
end Orchestration
