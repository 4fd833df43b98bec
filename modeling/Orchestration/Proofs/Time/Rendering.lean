import Mathlib.Data.List.TakeWhile
import Orchestration.Proofs.Text.Numeral
import Orchestration.Time.Timestamp

/-!
# Timestamps read back

A timestamp is written as its fields in UTC, with marks between them, so it reads back when every
part does: the parts are numerals of a fixed width, except a year of more than four digits, which
stands behind its sign.  The last second of a minute with a fraction of a second or more is written
as the leap second 60 and taken apart again.

Main results:

- `Timestamp.number?_padded`, `Timestamp.year?_writeYear`, `Timestamp.fraction?_writeFraction`:
  every part is taken from the front of a text as it was written.
- `Timestamp.parse?_render`: a timestamp reads back.
-/

namespace Orchestration

/-- A digit is no blank. -/
theorem Blank.isBlank_digitChar {d : Nat} (h : d < 10) :
    Blank.isBlank (Nat.digitChar d) = false := by
  match d, h with
  | 0, _ | 1, _ | 2, _ | 3, _ | 4, _ | 5, _ | 6, _ | 7, _ | 8, _ | 9, _ => decide

/-- No blanks are dropped in front of digits. -/
theorem Blank.dropLeft_digits {ds : List Nat} (hne : ds ≠ []) (hds : ∀ d ∈ ds, d < 10)
    (rest : List Char) :
    Blank.dropLeft (ds.map Nat.digitChar ++ rest) = ds.map Nat.digitChar ++ rest := by
  cases ds with
  | nil => contradiction
  | cons d ds =>
      exact Blank.dropLeft_of_not_blank _ _ (Blank.isBlank_digitChar (hds d List.mem_cons_self))

/-- The month and the day of a day have two digits at most. -/
theorem Date.month_day_lt {d : Date} (h : d.isValid = true) : d.month < 100 ∧ d.day < 100 := by
  simp only [Date.isValid, Bool.and_eq_true, decide_eq_true_eq] at h
  obtain ⟨⟨⟨-, hmonth⟩, -⟩, hday⟩ := h
  have hlen : daysInMonth d.year d.month ≤ 31 := by
    unfold daysInMonth
    split_ifs <;> omega
  omega

/-- A clock that runs no minutes behind shows the same. -/
theorem Moment.minutesEarlier_zero {m : Moment} (hhour : m.hour < 24) (hminute : m.minute < 60) :
    m.minutesEarlier 0 = m := by
  have htotal : (m.hour : Int) * 60 + m.minute - 0 = ((m.hour * 60 + m.minute : Nat) : Int) := by
    omega
  obtain ⟨date, hour, minute, second, nanos⟩ := m
  simp only at hhour hminute htotal
  simp only [Moment.minutesEarlier, htotal]
  rw [if_neg (by omega), if_pos (by omega), if_neg (by omega), if_pos (by omega)]
  simp only [Int.toNat_natCast, Moment.mk.injEq, true_and, and_true]
  omega

namespace Timestamp

/-! ## The parts of a timestamp -/

/-- As many digits as a number may have are taken from the front of a text. -/
theorem number?_digits {ds : List Nat} (hne : ds ≠ []) (hds : ∀ d ∈ ds, d < 10)
    (rest : List Char) :
    number? ds.length (ds.map Nat.digitChar ++ rest) = some (Numeral.value ds, rest) := by
  have hdigit : ∀ c ∈ ds.map Nat.digitChar, (Numeral.digit? c).isSome = true := by
    intro c hc
    obtain ⟨d, hd, rfl⟩ := List.mem_map.1 hc
    rw [Numeral.digit?_digitChar d (hds d hd)]
    rfl
  have htake : ((ds.map Nat.digitChar ++ rest).take ds.length).takeWhile
      (fun c => (Numeral.digit? c).isSome) = ds.map Nat.digitChar := by
    rw [List.take_left' (List.length_map _), List.takeWhile_eq_self_iff.2 hdigit]
  rw [number?, Blank.dropLeft_digits hne hds, htake]
  split
  · rename_i hnil
    exact absurd (List.map_eq_nil_iff.1 hnil) hne
  · rw [Numeral.filterMap_digit? hds, List.drop_left]

/-- A number on a fixed width is taken from the front of a text. -/
theorem number?_padded {width n : Nat} (hwidth : 0 < width) (h : n < 10 ^ width)
    (rest : List Char) : number? width (Numeral.padded width n ++ rest) = some (n, rest) := by
  have hne : Numeral.places width n ≠ [] :=
    List.ne_nil_of_length_pos (by rw [Numeral.length_places]; exact hwidth)
  have hread := number?_digits hne (Numeral.places_lt width n) rest
  rwa [Numeral.length_places, ← Numeral.padded_eq_map, Numeral.value_places h] at hread

/-- A number of two digits is taken from the front of a text. -/
theorem number?_two {n : Nat} (h : n < 100) (rest : List Char) :
    number? 2 (Numeral.padded 2 n ++ rest) = some (n, rest) :=
  number?_padded (by decide) h rest

/-- A mark is taken from the front of a text. -/
theorem mark?_cons {c : Char} (h : Blank.isBlank c = false) (rest : List Char) :
    mark? c (c :: rest) = some rest := by
  simp [mark?, Blank.dropLeft_of_not_blank c rest h]

/-- Without a sign a year is a number of four digits. -/
theorem year?_digits {ds : List Nat} (hne : ds ≠ []) (hds : ∀ d ∈ ds, d < 10) (rest : List Char) :
    year? (ds.map Nat.digitChar ++ rest) =
      (number? 4 (ds.map Nat.digitChar ++ rest)).map (fun r => ((r.1 : Int), r.2)) := by
  have hdrop := Blank.dropLeft_digits hne hds rest
  unfold year?
  rw [hdrop]
  cases ds with
  | nil => contradiction
  | cons d ds =>
      have hd := Numeral.digit?_digitChar d (hds d List.mem_cons_self)
      -- the first character is a digit, so it is neither of the two signs
      simp only [List.map_cons, List.cons_append]
      split
      · rename_i heq
        rw [(List.cons.inj heq).1] at hd
        simp [Numeral.digit?] at hd
      · rename_i heq
        rw [(List.cons.inj heq).1] at hd
        simp [Numeral.digit?] at hd
      · rfl

/-- The digits of a long year: four of them or more. -/
def longYear (n : Nat) : List Nat :=
  List.replicate (4 - (Nat.toDigits 10 n).length) 0 ++ Numeral.digits n

/-- The places of a long year are digits. -/
theorem longYear_lt (n : Nat) : ∀ d ∈ longYear n, d < 10 := by
  intro d hd
  rcases List.mem_append.1 hd with hd | hd
  · rw [List.eq_of_mem_replicate hd]
    decide
  · exact Numeral.digits_lt n d hd

/-- There is at least one of them. -/
theorem longYear_ne_nil (n : Nat) : longYear n ≠ [] := by
  obtain ⟨d, ds, heq, -⟩ := Numeral.digits_eq_cons n
  simp [longYear, heq]

/-- Behind a sign all the digits of a year are taken. -/
theorem spanDigits_longYear (n : Nat) (rest : List Char) :
    Numeral.spanDigits (List.replicate (4 - (Nat.toDigits 10 n).length) '0' ++ Nat.toDigits 10 n ++
      '-' :: rest) = (longYear n, '-' :: rest) := by
  have h := Numeral.spanDigits_append (longYear_lt n) ('-' :: rest) (by simp [Numeral.digit?])
  rwa [longYear, List.map_append, List.map_replicate, ← Numeral.toDigits_eq_map] at h

/-- A year is taken from the front of a text, up to the hyphen behind it. -/
theorem year?_writeYear (y : Int) (rest : List Char) :
    year? (writeYear y ++ '-' :: rest) = some (y, '-' :: rest) := by
  unfold writeYear
  split
  · rename_i hy
    have hne : Numeral.places 4 y.toNat ≠ [] := List.ne_nil_of_length_pos (by simp)
    have hread : number? 4 (Numeral.padded 4 y.toNat ++ '-' :: rest) =
        some (y.toNat, '-' :: rest) :=
      number?_padded (by decide) (by omega) _
    rw [Numeral.padded_eq_map] at hread ⊢
    rw [year?_digits hne (Numeral.places_lt 4 _), hread, Option.map_some, Int.toNat_of_nonneg hy.1]
  · have hspan := spanDigits_longYear y.natAbs rest
    have hvalue : Numeral.value (longYear y.natAbs) = y.natAbs := by
      rw [longYear, Numeral.value_replicate_append, Numeral.value_digits]
    obtain ⟨d, ds, hds⟩ := List.exists_cons_of_ne_nil (longYear_ne_nil y.natAbs)
    rw [hds] at hspan hvalue
    by_cases hneg : y < 0
    · have hsign : -1 * (y.natAbs : Int) = y := by omega
      simp only [if_pos hneg, List.cons_append, year?,
        Blank.dropLeft_of_not_blank '-' _ (by decide), hspan, hvalue, hsign]
    · have hsign : 1 * (y.natAbs : Int) = y := by omega
      simp only [if_neg hneg, List.cons_append, year?,
        Blank.dropLeft_of_not_blank '+' _ (by decide), hspan, hvalue, hsign]

/-- A fraction on a fixed width of at most nine digits is taken from the front of a text. -/
theorem fraction?_padded {width n : Nat} (hwidth : 0 < width) (hle : width ≤ 9)
    (h : n < 10 ^ width) : fraction? ('.' :: Numeral.padded width n ++ ['Z']) =
      some (n * 10 ^ (9 - width), ['Z']) := by
  have hspan := Numeral.spanDigits_append (Numeral.places_lt width n) ['Z']
    (by simp [Numeral.digit?])
  have hnine : (Numeral.places width n ++ List.replicate 9 0).take 9 =
      Numeral.places width n ++ List.replicate (9 - width) 0 := by
    rw [List.take_append, List.take_of_length_le (by simpa using hle), Numeral.length_places,
      List.take_replicate, Nat.min_eq_left (by omega)]
  rw [Numeral.padded_eq_map, List.cons_append, fraction?, hspan]
  split
  · rename_i heq
    have hlen := Numeral.length_places width n
    rw [(Prod.mk.inj heq).1, List.length_nil] at hlen
    omega
  · rename_i heq
    obtain ⟨rfl, rfl⟩ := Prod.mk.inj heq
    rw [hnine, Numeral.value_append_replicate, Numeral.value_places h]

/-- A fraction of a second is taken from the front of a text, up to the `Z` behind it. -/
theorem fraction?_writeFraction {nanos : Nat} (h : nanos < 1000000000) :
    fraction? (writeFraction nanos ++ ['Z']) = some (nanos, ['Z']) := by
  unfold writeFraction
  split
  · rename_i hzero
    rw [hzero]
    rfl
  split
  · rw [fraction?_padded (by decide) (by decide) (by omega)]
    congr 2
    omega
  split
  · rw [fraction?_padded (by decide) (by decide) (by omega)]
    congr 2
    omega
  · rw [fraction?_padded (by decide) (by decide) (by omega)]
    congr 2
    omega

/-! ## The whole text -/

/-- A day is taken from the front of a text. -/
theorem date?_written {d : Date} (hmonth : d.month < 100) (hday : d.day < 100)
    (rest : List Char) :
    date? (writeYear d.year ++ '-' :: (Numeral.padded 2 d.month ++ '-' ::
      (Numeral.padded 2 d.day ++ rest))) = some (d, rest) := by
  simp only [date?, year?_writeYear, mark?_cons (c := '-') (by decide),
    number?_two hmonth, number?_two hday,
    Option.bind_eq_bind, Option.bind_some, Option.pure_def]

/-- Whether a moment is a timestamp need not be asked twice. -/
theorem ofMoment?_bind_self (m : Moment) :
    ((ofMoment? m).bind fun _ => ofMoment? m) = ofMoment? m := by
  cases ofMoment? m <;> rfl

/-- A timestamp is that of its own moment. -/
@[simp]
theorem ofMoment?_toMoment (t : Timestamp) : ofMoment? t.toMoment = some t := by
  rw [ofMoment?, dif_pos t.valid]

/-- The text of a day and a clock that may show a leap second. -/
def written (d : Date) (hour minute second nanos : Nat) : List Char :=
  writeYear d.year ++ '-' :: Numeral.padded 2 d.month ++ '-' :: Numeral.padded 2 d.day ++
    'T' :: Numeral.padded 2 hour ++ ':' :: Numeral.padded 2 minute ++ ':' ::
    Numeral.padded 2 second ++ writeFraction nanos ++ ['Z']

/-- What is written of a day and a clock reads as that clock, if it shows a moment. -/
theorem parse?_written {d : Date} {hour minute second nanos : Nat} (hd : d.isValid = true)
    (hhour : hour < 24) (hminute : minute < 60) (hsecond : second < 61)
    (hnanos : nanos < 1000000000) :
    parse? (String.ofList (written d hour minute second nanos)) =
      ofMoment? (if second = 60 then ⟨d, hour, minute, 59, nanos + 1000000000⟩
        else ⟨d, hour, minute, second, nanos⟩) := by
  obtain ⟨hmonth, hday⟩ := Date.month_day_lt hd
  have hoffset : offset? ['Z'] = some (0, []) := rfl
  simp only [parse?, written, String.toList_ofList, List.append_assoc, List.cons_append,
    date?_written hmonth hday, number?_two (Nat.lt_trans hhour (by decide)),
    number?_two (Nat.lt_trans hminute (by decide)), number?_two (Nat.lt_trans hsecond (by decide)),
    mark?_cons (c := ':') (by decide),
    fraction?_writeFraction hnanos, hoffset, Option.bind_eq_bind, Option.bind_some]
  rw [if_pos (Or.inl trivial), if_neg (by simp [Blank.dropLeft])]
  split_ifs
  · rw [Moment.minutesEarlier_zero hhour hminute, ofMoment?_bind_self]
  · rw [Moment.minutesEarlier_zero hhour hminute, ofMoment?_bind_self]

/-- A timestamp reads back. -/
theorem parse?_render (t : Timestamp) : parse? t.render = some t := by
  have hvalid := t.valid
  simp only [Moment.isValid, Bool.and_eq_true, Bool.or_eq_true, decide_eq_true_eq,
    beq_iff_eq] at hvalid
  obtain ⟨⟨⟨⟨⟨hd, hhour⟩, hminute⟩, hsecond⟩, hnanos⟩, hleap⟩ := hvalid
  rcases Nat.lt_or_ge t.nanos 1000000000 with hlt | hge
  · have hrender : t.render =
        String.ofList (written t.date t.hour t.minute t.second t.nanos) := by
      simp [render, written, Nat.not_le.2 hlt]
    rw [hrender, parse?_written hd hhour hminute (by omega) hlt, if_neg (by omega)]
    exact ofMoment?_toMoment t
  · have hlast : t.second = 59 := hleap.resolve_left (Nat.not_lt.2 hge)
    have hrender : t.render =
        String.ofList (written t.date t.hour t.minute 60 (t.nanos - 1000000000)) := by
      simp [render, written, hge, hlast]
    rw [hrender, parse?_written hd hhour hminute (by omega) (by omega), if_pos rfl,
      Nat.sub_add_cancel hge, ← hlast]
    exact ofMoment?_toMoment t

end Timestamp
end Orchestration
