/-
`datetime.isoformat` and `datetime.fromisoformat`.

A moment is its date and time of day and, when it is aware, what they are ahead of UTC.  The
texts that are read are those that `isoformat` writes; other forms have no reading here.
-/

import Mathlib.Algebra.Order.Ring.Nat
import Mathlib.Data.List.Basic

namespace Python

open List Option

/-! ### Numbers of a fixed width -/

def padded : Nat → Nat → List Char
  | 0, _ => []
  | width + 1, number => padded width (number / 10) ++ [Nat.digitChar (number % 10)]

/-- The number a text starts with, in exactly so many digits, and the text behind it. -/
def readPadded (width : Nat) (text : List Char) : Option (Nat × List Char) :=
  let digits := text.take width
  if digits.length = width ∧ digits.all Char.isDigit then
    some (Nat.ofDigitChars 10 digits 0, text.drop width)
  else none

def readMark (mark : Char) : List Char → Option (List Char)
  | [] => none
  | c :: rest => if c = mark then some rest else none

theorem padded_length (width number : Nat) : (padded width number).length = width := by
  induction width generalizing number with
  | zero => rfl
  | succ width ih =>
      rw [padded, length_append, ih]
      rfl

theorem padded_digits (width number : Nat) : (padded width number).all Char.isDigit = true := by
  induction width generalizing number with
  | zero => rfl
  | succ width ih =>
      have last : (Nat.digitChar (number % 10)).isDigit = true := by
        rw [Nat.isDigit_digitChar]
        exact decide_eq_true (Nat.mod_lt number (by omega))
      rw [padded, all_append, ih, all_cons, last]
      rfl

theorem padded_value {width number : Nat} (fits : number < 10 ^ width) :
    Nat.ofDigitChars 10 (padded width number) 0 = number := by
  induction width generalizing number with
  | zero =>
      have zero : number = 0 := by omega
      rw [zero]
      rfl
  | succ width ih =>
      have shorter : number / 10 < 10 ^ width := by
        rw [Nat.pow_succ] at fits
        omega
      rw [padded, Nat.ofDigitChars_append, ih shorter,
        Nat.ofDigitChars_cons_digitChar_of_lt_ten (Nat.mod_lt number (by omega)),
        Nat.ofDigitChars_nil]
      omega

theorem readPadded_padded {width number : Nat} (fits : number < 10 ^ width) (rest : List Char) :
    readPadded width (padded width number ++ rest) = some (number, rest) := by
  have front : (padded width number ++ rest).take width = padded width number :=
    take_left' (padded_length width number)
  have behind : (padded width number ++ rest).drop width = rest :=
    drop_left' (padded_length width number)
  unfold readPadded
  rw [front, behind, if_pos ⟨padded_length width number, padded_digits width number⟩,
    padded_value fits]

theorem readMark_cons (mark : Char) (rest : List Char) : readMark mark (mark :: rest) = some rest :=
  if_pos rfl

theorem readMark_none {mark : Char} {rest : List Char} (other : rest.head? ≠ some mark) :
    readMark mark rest = none := by
  cases rest with
  | nil => rfl
  | cons c rest =>
      apply if_neg
      intro same
      exact other (congrArg some same)

/-! ### Times of day -/

structure Clock where
  hour : Nat
  minute : Nat
  second : Nat
  microsecond : Nat
  hours : hour < 24
  minutes : minute < 60
  seconds : second < 60
  microseconds : microsecond < 1000000
  deriving DecidableEq

namespace Clock

def midnight : Clock := ⟨0, 0, 0, 0, by decide, by decide, by decide, by decide⟩

def of? (hour minute second microsecond : Nat) : Option Clock :=
  if valid : hour < 24 ∧ minute < 60 ∧ second < 60 ∧ microsecond < 1000000 then
    some ⟨hour, minute, second, microsecond, valid.1, valid.2.1, valid.2.2.1, valid.2.2.2⟩
  else none

variable (clock : Clock)

/-- `HH:MM` -/
def minutesText : List Char := padded 2 clock.hour ++ ':' :: padded 2 clock.minute

/-- `:SS`, with the microseconds if there are any -/
def secondsText : List Char :=
  ':' :: padded 2 clock.second ++
    if clock.microsecond = 0 then [] else '.' :: padded 6 clock.microsecond

def text : List Char := clock.minutesText ++ clock.secondsText

def shortText : List Char :=
  if clock.second = 0 ∧ clock.microsecond = 0 then clock.minutesText else clock.text

def readSeconds (text : List Char) : Option (Nat × Nat × List Char) :=
  match readMark ':' text with
  | none => some (0, 0, text)
  | some rest =>
      (readPadded 2 rest).bind fun (second, rest) =>
        match readMark '.' rest with
        | none => some (second, 0, rest)
        | some fraction => (readPadded 6 fraction).map fun (digits, rest) => (second, digits, rest)

def read (text : List Char) : Option (Clock × List Char) :=
  (readPadded 2 text).bind fun (hour, rest) =>
    (readMark ':' rest).bind fun rest =>
      (readPadded 2 rest).bind fun (minute, rest) =>
        (readSeconds rest).bind fun (second, microsecond, rest) =>
          (of? hour minute second microsecond).map fun clock => (clock, rest)

def Ended (rest : List Char) : Prop := rest.head? ≠ some ':' ∧ rest.head? ≠ some '.'

theorem of?_self :
    of? clock.hour clock.minute clock.second clock.microsecond = some clock :=
  dif_pos ⟨clock.hours, clock.minutes, clock.seconds, clock.microseconds⟩

theorem readSeconds_secondsText {rest : List Char} (ended : Ended rest) :
    readSeconds (clock.secondsText ++ rest) = some (clock.second, clock.microsecond, rest) := by
  have fits : clock.second < 10 ^ 2 := by
    have seconds := clock.seconds
    omega
  unfold readSeconds secondsText
  rw [cons_append, cons_append, readMark_cons]
  dsimp only
  rw [append_assoc, readPadded_padded fits, bind_some]
  by_cases none : clock.microsecond = 0
  · rw [if_pos none, nil_append, readMark_none ended.2, none]
  · rw [if_neg none, cons_append, readMark_cons]
    dsimp only
    rw [readPadded_padded clock.microseconds, map_some]

theorem read_minutesText (rest : List Char) :
    read (clock.minutesText ++ rest) = (readSeconds rest).bind fun seconds =>
      (of? clock.hour clock.minute seconds.1 seconds.2.1).map fun read => (read, seconds.2.2) := by
  have hourFits : clock.hour < 10 ^ 2 := by
    have hours := clock.hours
    omega
  have minuteFits : clock.minute < 10 ^ 2 := by
    have minutes := clock.minutes
    omega
  unfold read minutesText
  rw [append_assoc, readPadded_padded hourFits, bind_some]
  dsimp only
  rw [cons_append, readMark_cons, bind_some, readPadded_padded minuteFits, bind_some]

theorem read_text {rest : List Char} (ended : Ended rest) :
    read (clock.text ++ rest) = some (clock, rest) := by
  unfold text
  rw [append_assoc, read_minutesText, readSeconds_secondsText clock ended, bind_some, of?_self,
    map_some]

theorem read_shortText {rest : List Char} (ended : Ended rest) :
    read (clock.shortText ++ rest) = some (clock, rest) := by
  unfold shortText
  split
  · rename_i whole
    have seconds : readSeconds rest = some (clock.second, clock.microsecond, rest) := by
      unfold readSeconds
      rw [readMark_none ended.1, whole.1, whole.2]
    rw [read_minutesText, seconds, bind_some, of?_self, map_some]
  · exact read_text clock ended

end Clock

/-! ### Moments -/

/-- What an aware moment is ahead of UTC; there is one offset of nothing. -/
structure UtcOffset where
  negative : Bool
  amount : Clock
  signed : negative = true → amount ≠ Clock.midnight
  deriving DecidableEq

namespace UtcOffset

def of (negative : Bool) (amount : Clock) : UtcOffset :=
  if nothing : amount = Clock.midnight then ⟨false, amount, fun behind => absurd behind (by decide)⟩
  else ⟨negative, amount, fun _ => nothing⟩

variable (offset : UtcOffset)

/-- `_format_offset` -/
def text : List Char :=
  (if offset.negative then '-' else '+') :: offset.amount.shortText

theorem of_self : of offset.negative offset.amount = offset := by
  unfold of
  split
  · rename_i nothing
    cases offset with
    | mk negative amount signed =>
        cases negative with
        | false => rfl
        | true => exact absurd nothing (signed rfl)
  · rfl

def read : List Char → Option (Option UtcOffset)
  | [] => some none
  | sign :: rest =>
      if sign = '+' ∨ sign = '-' then
        (Clock.read rest).bind fun (amount, behind) =>
          if behind = [] then some (some (of (sign = '-') amount)) else none
      else none

theorem read_text : read offset.text = some (some offset) := by
  have ended : Clock.Ended [] := ⟨nofun, nofun⟩
  have amount := Clock.read_shortText offset.amount ended
  rw [append_nil] at amount
  have same := of_self offset
  unfold text read
  cases sign : offset.negative with
  | false =>
      rw [sign] at same
      rw [if_neg Bool.false_ne_true]
      dsimp only
      rw [if_pos (.inl rfl), amount, bind_some]
      exact congrArg (fun read => some (some read)) same
  | true =>
      rw [sign] at same
      rw [if_pos rfl]
      dsimp only
      rw [if_pos (.inr rfl), amount, bind_some]
      exact congrArg (fun read => some (some read)) same

theorem text_ended : Clock.Ended offset.text := by
  unfold text Clock.Ended
  rw [List.head?_cons]
  cases offset.negative with
  | false => decide
  | true => decide

end UtcOffset

def isLeap (year : Nat) : Bool := year % 4 = 0 ∧ (year % 100 ≠ 0 ∨ year % 400 = 0)

def daysInMonth (year month : Nat) : Nat :=
  if month = 2 then if isLeap year then 29 else 28
  else if month = 4 ∨ month = 6 ∨ month = 9 ∨ month = 11 then 30
  else 31

structure DateTime where
  year : Nat
  month : Nat
  day : Nat
  clock : Clock
  offset : Option UtcOffset
  years : 1 ≤ year ∧ year ≤ 9999
  months : 1 ≤ month ∧ month ≤ 12
  days : 1 ≤ day ∧ day ≤ daysInMonth year month
  deriving DecidableEq

namespace DateTime

def of? (year month day : Nat) (clock : Clock) (offset : Option UtcOffset) : Option DateTime :=
  if valid : (1 ≤ year ∧ year ≤ 9999) ∧ (1 ≤ month ∧ month ≤ 12) ∧
      1 ≤ day ∧ day ≤ daysInMonth year month then
    some ⟨year, month, day, clock, offset, valid.1, valid.2.1, valid.2.2⟩
  else none

variable (moment : DateTime)

def isoformat : String :=
  String.ofList (padded 4 moment.year ++ '-' :: (padded 2 moment.month ++ '-' ::
    (padded 2 moment.day ++ 'T' :: (moment.clock.text ++
      match moment.offset with
      | none => []
      | some offset => offset.text))))

/-- `datetime.fromisoformat(text)`; `none` is a `ValueError`. -/
def fromisoformat (text : String) : Option DateTime :=
  (readPadded 4 text.toList).bind fun (year, rest) =>
    (readMark '-' rest).bind fun rest =>
      (readPadded 2 rest).bind fun (month, rest) =>
        (readMark '-' rest).bind fun rest =>
          (readPadded 2 rest).bind fun (day, rest) =>
            (readMark 'T' rest).bind fun rest =>
              (Clock.read rest).bind fun (clock, rest) =>
                (UtcOffset.read rest).bind fun offset => of? year month day clock offset

theorem of?_self :
    of? moment.year moment.month moment.day moment.clock moment.offset = some moment :=
  dif_pos ⟨moment.years, moment.months, moment.days⟩

theorem day_le : moment.day ≤ 31 := by
  have days := moment.days.2
  unfold daysInMonth at days
  split at days
  · split at days <;> omega
  · split at days <;> omega

theorem fromisoformat_isoformat :
    fromisoformat moment.isoformat = some moment := by
  have yearFits : moment.year < 10 ^ 4 := by
    have years := moment.years
    omega
  have monthFits : moment.month < 10 ^ 2 := by
    have months := moment.months
    omega
  have dayFits : moment.day < 10 ^ 2 := by
    have days := moment.day_le
    omega
  have behind : ∃ rest, (match moment.offset with
      | none => []
      | some offset => offset.text) = rest ∧ Clock.Ended rest ∧
        UtcOffset.read rest = some moment.offset := by
    cases moment.offset with
    | none => exact ⟨_, rfl, ⟨nofun, nofun⟩, rfl⟩
    | some offset => exact ⟨_, rfl, offset.text_ended, offset.read_text⟩
  obtain ⟨rest, shape, ended, offset⟩ := behind
  unfold fromisoformat isoformat
  rw [shape, String.toList_ofList, readPadded_padded yearFits, bind_some]
  dsimp only
  rw [readMark_cons, bind_some, readPadded_padded monthFits, bind_some]
  dsimp only
  rw [readMark_cons, bind_some, readPadded_padded dayFits, bind_some]
  dsimp only
  rw [readMark_cons, bind_some, Clock.read_text _ ended, bind_some]
  dsimp only
  rw [offset, bind_some, of?_self]

end DateTime

end Python
