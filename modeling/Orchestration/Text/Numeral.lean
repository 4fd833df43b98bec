/-!
# Decimal numerals

Numbers that stand in text: the canonical numeral of a natural number (no sign, no leading zero),
which is how integer keys of a JSON object are written, and numerals of a fixed width, which is
how the parts of a date are written.

Main results:

- `Numeral.value_append`: reading a numeral digit by digit from the left.
- `Numeral.digit?_digitChar`: a written digit reads back.
-/

namespace Orchestration
namespace Numeral

/-- The value of a decimal digit. -/
def digit? (c : Char) : Option Nat :=
  if '0' ≤ c ∧ c ≤ '9' then some (c.toNat - '0'.toNat) else none

/-- The digits in front of a text, and what follows them. -/
def spanDigits : List Char → List Nat × List Char
  | [] => ([], [])
  | c :: cs =>
    match digit? c with
    | some d => let (ds, rest) := spanDigits cs; (d :: ds, rest)
    | none => ([], c :: cs)

/-- The number that a list of decimal digits denotes, most significant digit first. -/
def value (ds : List Nat) : Nat :=
  ds.foldl (fun n d => 10 * n + d) 0

/-- The digits of a number on exactly `width` places; higher places are cut off. -/
def padded : Nat → Nat → List Char
  | 0, _ => []
  | width + 1, n => padded width (n / 10) ++ [Nat.digitChar (n % 10)]

/-- The canonical numeral of a number. -/
def canonical (n : Nat) : String :=
  String.ofList (Nat.toDigits 10 n)

/-- Reads a canonical numeral: digits only, and no zero in front of another digit. -/
def ofCanonical? (s : String) : Option Nat :=
  match spanDigits s.toList with
  | ([], _) => none
  | (d :: ds, []) => if d = 0 ∧ ds ≠ [] then none else some (value (d :: ds))
  | (_, _ :: _) => none

/-- A digit appended on the right is the new units digit. -/
theorem value_append (ds : List Nat) (d : Nat) : value (ds ++ [d]) = 10 * value ds + d := by
  simp [value]

/-- A written digit reads back. -/
theorem digit?_digitChar (d : Nat) (h : d < 10) : digit? (Nat.digitChar d) = some d := by
  match d, h with
  | 0, _ | 1, _ | 2, _ | 3, _ | 4, _ | 5, _ | 6, _ | 7, _ | 8, _ | 9, _ => decide

end Numeral
end Orchestration
