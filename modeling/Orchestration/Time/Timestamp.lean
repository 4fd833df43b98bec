import Orchestration.Json.Codec
import Orchestration.Text.Blank
import Orchestration.Text.Numeral
import Orchestration.Time.Date

/-!
# Timestamps

A moment in Coordinated Universal Time, kept as its calendar fields.  It is read from the text
form of RFC 3339 with any offset and written in UTC with the fewest of 0, 3, 6 or 9 decimal
places that are exact.  A leap second is the second 59 with a fraction of one second or more.

Main definitions:

- `Timestamp.parse?`, `Timestamp.render`: the text form.
- `Timestamp.unixNanos`: the nanoseconds since the first day of 1970.
- `Timestamp.ofUnixSeconds`: the moment a number of seconds after that day began.

Timestamps are in the order of the calendar, by whole seconds first: a leap second comes before the
minute that follows it, even where its fraction reaches into that minute.

Main results:

- `Timestamp.le_trans`, `Timestamp.not_lt`: that order is total.
-/

namespace Orchestration

/-- The fields of a moment, before they are checked. -/
structure Moment where
  date : Date
  hour : Nat
  minute : Nat
  second : Nat
  nanos : Nat
  deriving DecidableEq

namespace Moment

/-- Every field in its range; only the last second of a minute may be a leap second. -/
def isValid (m : Moment) : Bool :=
  m.date.isValid && m.hour < 24 && m.minute < 60 && m.second < 60 && m.nanos < 2000000000 &&
    (m.nanos < 1000000000 || m.second == 59)

/-- The same moment on a clock that runs a number of minutes behind. -/
def minutesEarlier (m : Moment) (offset : Int) : Moment :=
  let total : Int := m.hour * 60 + m.minute - offset
  let date := if total < 0 then m.date.previous else if total < 1440 then m.date else m.date.next
  let ofDay := (if total < 0 then total + 1440 else if total < 1440 then total else total - 1440)
  { m with date := date, hour := ofDay.toNat / 60, minute := ofDay.toNat % 60 }

end Moment

/-- A moment in UTC. -/
structure Timestamp extends Moment where
  valid : toMoment.isValid = true
  deriving DecidableEq

namespace Timestamp

/-- The timestamp with the given fields, if they are in their ranges. -/
def ofMoment? (m : Moment) : Option Timestamp :=
  if h : m.isValid = true then some ⟨m, h⟩ else none

/-- The whole seconds since the beginning of 1970. -/
def unixSeconds (t : Timestamp) : Int :=
  ((t.date.dayNumber * 24 + t.hour) * 60 + t.minute) * 60 + t.second

/-- The nanoseconds since the beginning of 1970. -/
def unixNanos (t : Timestamp) : Int :=
  t.unixSeconds * 1000000000 + t.nanos

/-- Earlier by whole seconds, or by the fraction of the same second. -/
instance : LT Timestamp where
  lt a b := a.unixSeconds < b.unixSeconds ∨ a.unixSeconds = b.unixSeconds ∧ a.nanos < b.nanos

/-- Not later. -/
instance : LE Timestamp where
  le a b := ¬ b < a

instance (a b : Timestamp) : Decidable (a < b) :=
  inferInstanceAs (Decidable (_ ∨ _))

instance (a b : Timestamp) : Decidable (a ≤ b) :=
  inferInstanceAs (Decidable (¬ _))

/-- Earlier means in an earlier second, or earlier in the same one. -/
theorem lt_iff {a b : Timestamp} :
    a < b ↔ a.unixSeconds < b.unixSeconds ∨ a.unixSeconds = b.unixSeconds ∧ a.nanos < b.nanos :=
  Iff.rfl

/-- Of two timestamps one is not later than the other. -/
theorem not_lt {a b : Timestamp} : ¬ a < b ↔ b ≤ a :=
  Iff.rfl

/-- A timestamp is not later than itself. -/
theorem le_refl (a : Timestamp) : a ≤ a := by
  rw [← not_lt, lt_iff]
  omega

/-- What is not later than something not later is not later. -/
theorem le_trans {a b c : Timestamp} (hab : a ≤ b) (hbc : b ≤ c) : a ≤ c := by
  rw [← not_lt, lt_iff] at hab hbc ⊢
  omega

/-- The beginning of 1970. -/
def epoch : Timestamp :=
  ⟨⟨⟨1970, 1, 1⟩, 0, 0, 0, 0⟩, by decide⟩

instance : Inhabited Timestamp :=
  ⟨epoch⟩

/-- The moment a number of seconds after the beginning of 1970; that beginning itself for a
moment outside the range of years. -/
def ofUnixSeconds (s : Int) : Timestamp :=
  let ofDay := s % 86400
  (ofMoment? ⟨Date.ofDayNumber (s.fdiv 86400), (ofDay / 3600).toNat, (ofDay / 60 % 60).toNat,
    (ofDay % 60).toNat, 0⟩).getD epoch

section Reading

/-- A number of one to `width` digits, behind blanks. -/
def number? (width : Nat) (cs : List Char) : Option (Nat × List Char) :=
  let cs := Blank.dropLeft cs
  match (cs.take width).takeWhile (fun c => (Numeral.digit? c).isSome) with
  | [] => none
  | ds => some (Numeral.value (ds.filterMap Numeral.digit?), cs.drop ds.length)

/-- A year: up to four digits, or any number of digits behind a sign. -/
def year? (cs : List Char) : Option (Int × List Char) :=
  let signed (sign : Int) (cs : List Char) : Option (Int × List Char) :=
    match Numeral.spanDigits cs with
    | ([], _) => none
    | (ds, rest) => some (sign * Numeral.value ds, rest)
  match Blank.dropLeft cs with
  | '-' :: rest => signed (-1) rest
  | '+' :: rest => signed 1 rest
  | rest => (number? 4 rest).map (fun r => (r.1, r.2))

/-- A mark between two numbers, behind blanks. -/
def mark? (c : Char) (cs : List Char) : Option (List Char) :=
  match Blank.dropLeft cs with
  | d :: rest => if d = c then some rest else none
  | [] => none

/-- A day, year first. -/
def date? (cs : List Char) : Option (Date × List Char) := do
  let (year, cs) ← year? cs
  let cs ← mark? '-' cs
  let (month, cs) ← number? 2 cs
  let cs ← mark? '-' cs
  let (day, cs) ← number? 2 cs
  return (⟨year, month, day⟩, cs)

/-- The fraction of a second in nanoseconds; digits behind the ninth are dropped. -/
def fraction? : List Char → Option (Nat × List Char)
  | '.' :: cs =>
    match Numeral.spanDigits cs with
    | ([], _) => none
    | (ds, rest) => some (Numeral.value ((ds ++ List.replicate 9 0).take 9), rest)
  | cs => some (0, cs)

/-- An offset in minutes: `Z`, `UTC`, or a sign with hours and minutes. -/
def offset? (cs : List Char) : Option (Int × List Char) :=
  let signed (sign : Int) : List Char → Option (Int × List Char)
    | h₁ :: h₂ :: rest => do
      let h₁ ← Numeral.digit? h₁
      let h₂ ← Numeral.digit? h₂
      match rest.dropWhile (fun c => c == ':' || Blank.isBlank c) with
      | m₁ :: m₂ :: rest =>
        let m₁ ← Numeral.digit? m₁
        let m₂ ← Numeral.digit? m₂
        if m₁ < 6 then
          return (sign * (((10 * h₁ + h₂) * 60 + (10 * m₁ + m₂) : Nat) : Int), rest)
        else none
      | _ => none
    | _ => none
  match Blank.dropLeft cs with
  | 'Z' :: rest | 'z' :: rest => some (0, rest)
  | '+' :: rest => signed 1 rest
  | '-' :: rest | '−' :: rest => signed (-1) rest
  | u :: t :: c :: rest =>
    if u.toUpper = 'U' ∧ t.toUpper = 'T' ∧ c.toUpper = 'C' then some (0, rest) else none
  | _ => none

/-- Reads a date and a time with an offset and moves them to UTC. -/
def parse? (text : String) : Option Timestamp := do
  let (date, cs) ← date? text.toList
  let cs ← match cs with
    | c :: rest => if c = 'T' ∨ c = 't' ∨ c = ' ' then some rest else none
    | [] => none
  let (hour, cs) ← number? 2 cs
  let cs ← mark? ':' cs
  let (minute, cs) ← number? 2 cs
  let cs ← mark? ':' cs
  let (second, cs) ← number? 2 cs
  let (nanos, cs) ← fraction? cs
  let (offset, cs) ← offset? cs
  if Blank.dropLeft cs ≠ [] ∨ 1440 ≤ offset.natAbs then none
  else
    let clock : Moment :=
      if second = 60 then ⟨date, hour, minute, 59, nanos + 1000000000⟩
      else ⟨date, hour, minute, second, nanos⟩
    let _ ← ofMoment? clock
    ofMoment? (clock.minutesEarlier offset)

end Reading

section Writing

/-- A year: four digits from 0 to 9999, a sign and at least four digits otherwise. -/
def writeYear (y : Int) : List Char :=
  if 0 ≤ y ∧ y ≤ 9999 then Numeral.padded 4 y.toNat
  else
    let ds := Nat.toDigits 10 y.natAbs
    (if y < 0 then '-' else '+') :: (List.replicate (4 - ds.length) '0' ++ ds)

/-- A fraction of a second on the fewest of 0, 3, 6 or 9 places that are exact. -/
def writeFraction (nanos : Nat) : List Char :=
  if nanos = 0 then []
  else if nanos % 1000000 = 0 then '.' :: Numeral.padded 3 (nanos / 1000000)
  else if nanos % 1000 = 0 then '.' :: Numeral.padded 6 (nanos / 1000)
  else '.' :: Numeral.padded 9 nanos

/-- The text form in UTC. -/
def render (t : Timestamp) : String :=
  let (second, nanos) :=
    if 1000000000 ≤ t.nanos then (t.second + 1, t.nanos - 1000000000) else (t.second, t.nanos)
  String.ofList
    (writeYear t.date.year ++ '-' :: Numeral.padded 2 t.date.month ++ '-' ::
      Numeral.padded 2 t.date.day ++ 'T' :: Numeral.padded 2 t.hour ++ ':' ::
      Numeral.padded 2 t.minute ++ ':' :: Numeral.padded 2 second ++ writeFraction nanos ++ ['Z'])

end Writing

instance : Wire Timestamp where
  encode t := .str t.render
  decodeIn
    | _, .str s => parse? s
    | _, _ => none

end Timestamp
end Orchestration
