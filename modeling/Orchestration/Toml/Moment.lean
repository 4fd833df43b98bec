import Orchestration.Text.Numeral
import Orchestration.Time.Date

/-!
# Dates and times of TOML

A moment is a day, a time of the day, or both; with both it may have an offset from Coordinated
Universal Time.  Settings know moments only as texts, so a moment is read and written again in one
form: with `T` between day and time, and without zeros at the end of a fraction.  A fraction is cut
off behind nine places.

Main definitions: `Toml.moment?`.
-/

namespace Orchestration
namespace Toml

/-- The number of exactly so many digits that starts a text. -/
def fixed? (width : Nat) (cs : List Char) : Option (Nat × List Char) := do
  let ds ← (cs.take width).mapM Numeral.digit?
  if ds.length = width then some (Numeral.value ds, cs.drop width) else none

/-- A time of the day. -/
structure TimeOfDay where
  hour : Nat
  minute : Nat
  second : Nat
  nanos : Nat := 0
  deriving DecidableEq

/-- The nanoseconds of a fraction, if a point follows. -/
def nanos? : List Char → Option (Nat × List Char)
  | '.' :: cs =>
    match Numeral.spanDigits cs with
    | ([], _) => none
    | (ds, rest) =>
      let kept := ds.take 9
      some (Numeral.value kept * Nat.pow 10 (9 - kept.length), rest)
  | cs => some (0, cs)

/-- The time of the day that starts a text.  A minute may have a leap second. -/
def timeOfDay? (cs : List Char) : Option (TimeOfDay × List Char) := do
  let (hour, rest) ← fixed? 2 cs
  let ':' :: rest := rest | none
  let (minute, rest) ← fixed? 2 rest
  let ':' :: rest := rest | none
  let (second, rest) ← fixed? 2 rest
  let (nanos, rest) ← nanos? rest
  if hour < 24 ∧ minute < 60 ∧ second ≤ 60 then some (⟨hour, minute, second, nanos⟩, rest) else none

/-- The day that starts a text. -/
def date? (cs : List Char) : Option (Date × List Char) := do
  let (year, rest) ← fixed? 4 cs
  let '-' :: rest := rest | none
  let (month, rest) ← fixed? 2 rest
  let '-' :: rest := rest | none
  let (day, rest) ← fixed? 2 rest
  if 1 ≤ month ∧ month ≤ 12 ∧ 1 ≤ day ∧ day ≤ daysInMonth year month then
    some (⟨year, month, day⟩, rest)
  else none

/-- A number on exactly so many places. -/
def places (width n : Nat) : String :=
  String.ofList (Numeral.padded width n)

/-- The text of a time of the day. -/
def TimeOfDay.render (t : TimeOfDay) : String :=
  let fraction := ((Numeral.padded 9 t.nanos).reverse.dropWhile (· = '0')).reverse
  places 2 t.hour ++ ":" ++ places 2 t.minute ++ ":" ++ places 2 t.second ++
    (if t.nanos = 0 then "" else String.ofList ('.' :: fraction))

/-- The text of a day. -/
def renderDate (d : Date) : String :=
  places 4 d.year.toNat ++ "-" ++ places 2 d.month ++ "-" ++ places 2 d.day

/-- The text of an offset in minutes. -/
def renderOffset (minutes : Int) : String :=
  let n := minutes.natAbs
  (if minutes < 0 then "-" else "+") ++ places 2 (n / 60) ++ ":" ++ places 2 (n % 60)

/-- The offset that starts a text, written in its one form; there need not be any. -/
def offset? : List Char → Option (String × List Char)
  | 'Z' :: rest => some ("Z", rest)
  | 'z' :: rest => some ("Z", rest)
  | '+' :: rest => signed? 1 rest
  | '-' :: rest => signed? (-1) rest
  | rest => some ("", rest)
where
  /-- An offset behind its sign. -/
  signed? (sign : Int) (cs : List Char) : Option (String × List Char) := do
    let (hour, rest) ← fixed? 2 cs
    let ':' :: rest := rest | none
    let (minute, rest) ← fixed? 2 rest
    if hour < 24 ∧ minute < 60 then
      some (renderOffset (sign * (hour * 60 + minute : Nat)), rest)
    else none

/-- Whether a character may stand between a day and a time. -/
def isTimeMark (c : Char) : Bool :=
  c = 'T' || c = 't' || c = ' '

/-- What follows a day: the text of its time and offset, if it has a time. -/
def restOfMoment? : List Char → Option (String × List Char)
  | [] => some ("", [])
  | c :: cs =>
    if !isTimeMark c then some ("", c :: cs)
    else
      match timeOfDay? cs with
      | some (t, rest) => (offset? rest).map (fun o => ("T" ++ t.render ++ o.1, o.2))
      | none => some ("", c :: cs)

/-- The text of the moment that starts a text. -/
def moment? (cs : List Char) : Option (String × List Char) :=
  match date? cs with
  | some (d, rest) => (restOfMoment? rest).map (fun r => (renderDate d ++ r.1, r.2))
  | none => (timeOfDay? cs).map (fun r => (r.1.render, r.2))

end Toml
end Orchestration
