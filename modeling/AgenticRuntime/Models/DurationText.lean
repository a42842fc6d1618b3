/-
What the duration parser makes of a text with minutes, seconds or milliseconds.

A text in two of the units is read from the left, and a marker ends the number in front
of it; the seconds of a text that also has milliseconds are not found.
-/

import AgenticRuntime.Models.RateLimits
import AgenticRuntime.Engine.ToolLoop
import Mathlib.Data.List.TakeWhile
import Mathlib.Tactic.IntervalCases

namespace Python

/-! ### Reading a float -/

/-- The digits in front of a text, where one underscore may stand between two of them, and what
is left of the text. -/
def takeDigits : List Char → List Char × List Char
  | [] => ([], [])
  | c :: '_' :: more =>
      if c.isDigit then
        if more.head?.any Char.isDigit then (c :: (takeDigits more).1, (takeDigits more).2)
        else ([c], '_' :: more)
      else ([], c :: '_' :: more)
  | c :: rest => if c.isDigit then (c :: (takeDigits rest).1, (takeDigits rest).2) else ([], c :: rest)

def digitsValue (digits : List Char) : Nat :=
  digits.foldl (fun number digit => 10 * number + (digit.toNat - '0'.toNat)) 0

def decimalValue (whole fraction : List Char) : ℚ :=
  digitsValue (whole ++ fraction) / 10 ^ fraction.length

def takeSign : List Char → Bool × List Char
  | '-' :: rest => (true, rest)
  | '+' :: rest => (false, rest)
  | rest => (false, rest)

/-- The exponent behind an `e`. -/
def exponent? (text : List Char) : Option Int :=
  let (negative, unsigned) := takeSign text
  match takeDigits unsigned with
  | (digit :: digits, []) =>
      let magnitude : Int := digitsValue (digit :: digits)
      some (if negative then -magnitude else magnitude)
  | _ => none

def takeNumber (text : List Char) : List Char × List Char × List Char :=
  let (whole, rest) := takeDigits text
  match rest with
  | '.' :: more => (whole, takeDigits more)
  | _ => (whole, [], rest)

def unsignedFloat (text : List Char) : Option ℚ :=
  let (whole, fraction, left) := takeNumber text
  if whole.isEmpty && fraction.isEmpty then none
  else
    match left with
    | [] => some (decimalValue whole fraction)
    | mark :: more =>
        if mark = 'e' ∨ mark = 'E' then
          (exponent? more).map fun exponent => decimalValue whole fraction * 10 ^ exponent
        else none

/-- `float(text)` on ASCII text; `none` is a `ValueError`. -/
def readFloat (text : String) : Option PyFloat :=
  let signed := takeSign (AgenticRuntime.strip text).toList
  let word := signed.2.map Char.toLower
  if word = "inf".toList ∨ word = "infinity".toList then
    some (if signed.1 then .negInf else .inf)
  else if word = "nan".toList then some .nan
  else
    (unsignedFloat signed.2).map fun value => .finite (if signed.1 then -value else value)

/-! ### Decimal amounts -/

structure Amount where
  whole : List Char
  point : Bool
  fraction : List Char
  whole_digits : ∀ c, c ∈ whole → c.isDigit = true
  fraction_digits : ∀ c, c ∈ fraction → c.isDigit = true
  some_digit : whole ++ fraction ≠ []
  pointed : point = false → fraction = []

namespace Amount

def text (amount : Amount) : List Char :=
  amount.whole ++ if amount.point then '.' :: amount.fraction else []

def value (amount : Amount) : ℚ := decimalValue amount.whole amount.fraction

/-- There is a digit in front of the point, and one behind it if it is written. -/
def Full (amount : Amount) : Prop :=
  amount.whole ≠ [] ∧ (amount.point = true → amount.fraction ≠ [])

end Amount

theorem takeDigits_other {c : Char} (other : c.isDigit = false) (rest : List Char) :
    takeDigits (c :: rest) = ([], c :: rest) := by
  cases rest with
  | nil => simp [takeDigits, other]
  | cons d more =>
      by_cases under : d = '_'
      · subst under
        simp [takeDigits, other]
      · rw [takeDigits]
        · rw [other]
          rfl
        · intro rest same
          exact under (List.cons.inj same).1

theorem takeDigits_append {digits rest : List Char} (all : ∀ c, c ∈ digits → c.isDigit = true)
    (ends : ∀ c, rest.head? = some c → c.isDigit = false ∧ c ≠ '_') :
    takeDigits (digits ++ rest) = (digits, rest) := by
  induction digits with
  | nil =>
      cases rest with
      | nil => rfl
      | cons c more => exact takeDigits_other (ends c rfl).1 more
  | cons d others ih =>
      have digit := all d List.mem_cons_self
      have later := ih fun c listed => all c (List.mem_cons_of_mem d listed)
      have apart : ∀ more, others ++ rest ≠ '_' :: more := by
        intro more same
        cases others with
        | nil =>
            have head : rest.head? = some '_' := by
              rw [List.nil_append] at same
              rw [same]
              rfl
            exact (ends '_' head).2 rfl
        | cons e tail =>
            have under := all e (List.mem_cons_of_mem d List.mem_cons_self)
            rw [List.cons_append] at same
            rw [(List.cons.inj same).1] at under
            exact absurd under (by decide)
      rw [List.cons_append, takeDigits]
      · rw [digit, later]
        rfl
      · exact apart

namespace Amount

variable (amount : Amount)

def Ends (c : Char) : Prop := c.isDigit = false ∧ c ≠ '_' ∧ c ≠ '.'

theorem takeNumber_text {tail : List Char} (ends : ∀ c, tail.head? = some c → Ends c) :
    takeNumber (amount.text ++ tail) = (amount.whole, amount.fraction, tail) := by
  have over_ : ∀ c, tail.head? = some c → c.isDigit = false ∧ c ≠ '_' :=
    fun c first => ⟨(ends c first).1, (ends c first).2.1⟩
  cases point : amount.point with
  | false =>
      have shape : amount.text ++ tail = amount.whole ++ tail := by
        rw [text, point, if_neg Bool.false_ne_true, List.append_nil]
      rw [shape, takeNumber, takeDigits_append amount.whole_digits over_, amount.pointed point]
      cases tail with
      | nil => rfl
      | cons c more =>
          have apart := (ends c rfl).2.2
          dsimp only
          split
          · rename_i same
            cases same
            exact absurd rfl apart
          · rfl
  | true =>
      have shape : amount.text ++ tail = amount.whole ++ '.' :: (amount.fraction ++ tail) := by
        rw [text, point, if_pos rfl, List.append_assoc, List.cons_append]
      have dot : ∀ c, ('.' :: (amount.fraction ++ tail)).head? = some c →
          c.isDigit = false ∧ c ≠ '_' := by
        intro c first
        cases first
        decide
      have behind := takeDigits_append amount.fraction_digits over_
      rw [shape, takeNumber, takeDigits_append amount.whole_digits dot]
      exact congrArg (Prod.mk amount.whole) behind

theorem some_part : (amount.whole.isEmpty && amount.fraction.isEmpty) = false := by
  cases whole : amount.whole with
  | nil =>
      cases fraction : amount.fraction with
      | nil =>
          have some_ := amount.some_digit
          rw [whole, fraction] at some_
          exact absurd rfl some_
      | cons c rest => rfl
  | cons c rest => rfl

theorem unsignedFloat_text : unsignedFloat amount.text = some amount.value := by
  have taken : takeNumber amount.text = (amount.whole, amount.fraction, []) := by
    have whole : takeNumber (amount.text ++ []) = (amount.whole, amount.fraction, []) :=
      amount.takeNumber_text nofun
    rwa [List.append_nil] at whole
  rw [unsignedFloat, taken]
  dsimp only
  rw [amount.some_part]
  rfl

theorem unsignedFloat_unit {unit : Char} (ends : Ends unit) (mark : ¬ (unit = 'e' ∨ unit = 'E'))
    (more : List Char) : unsignedFloat (amount.text ++ unit :: more) = none := by
  have taken : takeNumber (amount.text ++ unit :: more) =
      (amount.whole, amount.fraction, unit :: more) := by
    apply amount.takeNumber_text
    intro c first
    cases first
    exact ends
  rw [unsignedFloat, taken]
  dsimp only
  rw [amount.some_part, if_neg mark]
  rfl

theorem text_cons : ∃ first rest, amount.text = first :: rest ∧ (first.isDigit = true ∨ first = '.') := by
  cases whole : amount.whole with
  | cons c rest =>
      refine ⟨c, _, by rw [text, whole, List.cons_append], .inl ?_⟩
      exact amount.whole_digits c (whole ▸ List.mem_cons_self)
  | nil =>
      cases point : amount.point with
      | true => exact ⟨'.', _, by rw [text, whole, point]; rfl, .inr rfl⟩
      | false =>
          have some_ := amount.some_digit
          rw [whole, amount.pointed point] at some_
          exact absurd rfl some_

theorem mem_text {c : Char} (listed : c ∈ amount.text) : c.isDigit = true ∨ c = '.' := by
  rcases List.mem_append.mp listed with whole | behind
  · exact .inl (amount.whole_digits c whole)
  · split at behind
    · rcases List.mem_cons.mp behind with same | fraction
      · exact .inr same
      · exact .inl (amount.fraction_digits c fraction)
    · cases behind

end Amount

theorem mem_digits {c : Char} (digit : c.isDigit = true) : c ∈ "0123456789".toList := by
  have bounds : 48 ≤ c.toNat ∧ c.toNat ≤ 57 := by
    simpa [Char.isDigit, UInt32.le_iff_toNat_le] using digit
  have same : c = Char.ofNat c.toNat := (Char.ofNat_toNat c).symm
  obtain ⟨low, high⟩ := bounds
  generalize c.toNat = code at same low high
  interval_cases code <;> rw [same] <;> decide

theorem numeral_plain {c : Char} (numeral : c.isDigit = true ∨ c = '.') :
    isSpace c = false ∧ c ≠ '-' ∧ c ≠ '+' ∧ c.toLower ≠ 'i' ∧ c.toLower ≠ 'n' := by
  have all : ("0123456789.".toList.all fun c => !isSpace c && c ≠ '-' && c ≠ '+' &&
      c.toLower ≠ 'i' && c.toLower ≠ 'n') = true := by decide
  have listed : c ∈ "0123456789.".toList := by
    have shape : "0123456789.".toList = "0123456789".toList ++ ['.'] := rfl
    rw [shape]
    rcases numeral with digit | dot
    · exact List.mem_append_left _ (mem_digits digit)
    · exact List.mem_append_right _ (List.mem_singleton.mpr dot)
  have plain := List.all_eq_true.mp all c listed
  simpa [and_assoc] using plain

theorem takeSign_unsigned {first : Char} {rest : List Char} (minus : first ≠ '-')
    (plus : first ≠ '+') : takeSign (first :: rest) = (false, first :: rest) := by
  unfold takeSign
  split
  · rename_i same
    exact absurd (List.cons.inj same).1 minus
  · rename_i same
    exact absurd (List.cons.inj same).1 plus
  · rfl

theorem readFloat_unsigned {first : Char} {rest : List Char}
    (numeral : first.isDigit = true ∨ first = '.')
    (solid : ∀ c, c ∈ first :: rest → isSpace c = false) :
    readFloat (String.ofList (first :: rest)) =
      (unsignedFloat (first :: rest)).map PyFloat.finite := by
  have stripped : AgenticRuntime.strip (String.ofList (first :: rest)) =
      String.ofList (first :: rest) :=
    AgenticRuntime.ToolLoop.strip_of_plain (by rwa [String.toList_ofList])
  obtain ⟨-, minus, plus, notI, notN⟩ := numeral_plain numeral
  have worded : ∀ c more, first.toLower ≠ c → (first :: rest).map Char.toLower ≠ c :: more :=
    fun c more other same => other (List.cons.inj same).1
  unfold readFloat
  rw [stripped, String.toList_ofList, takeSign_unsigned minus plus]
  dsimp only
  rw [if_neg, if_neg]
  · rfl
  · exact worded 'n' _ notN
  · intro word
    rcases word with inf | last
    · exact worded 'i' _ notI inf
    · exact worded 'i' _ notI last

end Python

namespace AgenticRuntime.RateLimits

open Python List

/-! ### Texts of durations -/

def component (unit : List Char) : Option Amount → List Char
  | none => []
  | some amount => amount.text ++ unit

def amountValue : Option Amount → ℚ
  | none => 0
  | some amount => amount.value

def lowerUnits (seconds milliseconds : Option Amount) : List Char :=
  component ['s'] seconds ++ component ['m', 's'] milliseconds

def durationText (minutes seconds milliseconds : Option Amount) : String :=
  String.ofList (component ['m'] minutes ++ lowerUnits seconds milliseconds)

def totalSeconds (minutes seconds milliseconds : Option Amount) : ℚ :=
  amountValue minutes * 60 + amountValue seconds + amountValue milliseconds * (1 / 1000)

theorem readFloat_number (amount : Amount) :
    readFloat (String.ofList amount.text) = some (.finite amount.value) := by
  obtain ⟨first, rest, shape, numeral⟩ := amount.text_cons
  have solid : ∀ c, c ∈ first :: rest → isSpace c = false := by
    intro c listed
    rw [← shape] at listed
    exact (numeral_plain (amount.mem_text listed)).1
  have number := amount.unsignedFloat_text
  rw [shape] at number ⊢
  rw [readFloat_unsigned numeral solid, number]
  rfl

theorem readFloat_unit (amount : Amount) {unit : Char} (marker : unit = 'm' ∨ unit = 's')
    {more : List Char} (solid : ∀ c, c ∈ more → isSpace c = false) :
    readFloat (String.ofList (amount.text ++ unit :: more)) = none := by
  have apart : Amount.Ends unit ∧ ¬ (unit = 'e' ∨ unit = 'E') ∧ isSpace unit = false := by
    rcases marker with rfl | rfl
    · exact ⟨⟨by decide, by decide, by decide⟩, by decide, by decide⟩
    · exact ⟨⟨by decide, by decide, by decide⟩, by decide, by decide⟩
  have nothing := amount.unsignedFloat_unit apart.1 apart.2.1 more
  have whole : ∀ c, c ∈ amount.text ++ unit :: more → isSpace c = false := by
    intro c listed
    rcases mem_append.mp listed with own | later
    · exact (numeral_plain (amount.mem_text own)).1
    · rcases List.mem_cons.mp later with same | later
      · exact same ▸ apart.2.2
      · exact solid c later
  obtain ⟨first, rest, shape, numeral⟩ := amount.text_cons
  rw [shape, cons_append] at nothing whole ⊢
  rw [readFloat_unsigned numeral whole, nothing]
  rfl

/-! ### Minutes -/

theorem takeWhile_digits {digits rest : List Char} (all : ∀ c, c ∈ digits → c.isDigit = true)
    (ends : ∀ c, rest.head? = some c → c.isDigit = false) :
    (digits ++ rest).takeWhile Char.isDigit = digits ∧
      (digits ++ rest).dropWhile Char.isDigit = rest := by
  rw [takeWhile_append_of_pos all, dropWhile_append_of_pos all]
  cases rest with
  | nil => exact ⟨append_nil digits, rfl⟩
  | cons c more =>
      have stays : ¬ c.isDigit = true := Bool.eq_false_iff.mp (ends c rfl)
      rw [takeWhile_cons_of_neg stays, dropWhile_cons_of_neg stays]
      exact ⟨append_nil digits, rfl⟩

variable {behind : List Char} {seconds milliseconds : Option Amount}

theorem minutesAt_text {amount : Amount} (full : amount.Full) (apart : behind.head? ≠ some 's') :
    minutesAt (amount.text ++ 'm' :: behind) = some (amount.text, behind) := by
  have filled : amount.whole.isEmpty = false := by
    rw [Bool.eq_false_iff, ne_eq, List.isEmpty_iff]
    exact full.1
  have marker : ∀ c, ('m' :: behind).head? = some c → c.isDigit = false := by
    intro c first
    cases first
    decide
  cases point : amount.point with
  | false =>
      have shape : amount.text = amount.whole := by
        rw [Amount.text, point, if_neg Bool.false_ne_true, append_nil]
      obtain ⟨taken, dropped⟩ := takeWhile_digits amount.whole_digits marker
      rw [shape, minutesAt, taken, dropped]
      dsimp only
      rw [filled, if_neg Bool.false_ne_true]
      exact if_neg apart
  | true =>
      have shape : amount.text ++ 'm' :: behind =
          amount.whole ++ '.' :: (amount.fraction ++ 'm' :: behind) := by
        rw [Amount.text, point, if_pos rfl, append_assoc, cons_append]
      have own : amount.text = amount.whole ++ '.' :: amount.fraction := by
        rw [Amount.text, point, if_pos rfl]
      have dot : ∀ c, ('.' :: (amount.fraction ++ 'm' :: behind)).head? = some c →
          c.isDigit = false := by
        intro c first
        cases first
        decide
      have fraction : amount.fraction.isEmpty = false := by
        rw [Bool.eq_false_iff, ne_eq, List.isEmpty_iff]
        exact full.2 point
      obtain ⟨taken, dropped⟩ := takeWhile_digits amount.whole_digits dot
      obtain ⟨digits, left⟩ := takeWhile_digits amount.fraction_digits marker
      rw [shape, minutesAt, taken, dropped]
      dsimp only
      rw [filled, if_neg Bool.false_ne_true]
      simp only [digits, left, fraction, if_neg Bool.false_ne_true, if_neg apart, own]

theorem searchMinutes_text {amount : Amount} (full : amount.Full)
    (apart : behind.head? ≠ some 's') :
    searchMinutes (amount.text ++ 'm' :: behind) = some ([], amount.text, behind) := by
  have found := minutesAt_text full apart
  obtain ⟨first, rest, shape, _⟩ := amount.text_cons
  rw [shape, cons_append] at found ⊢
  rw [searchMinutes, found]

/-- A match has a marker that no `s` follows. -/
theorem minutesAt_marker {text number : List Char}
    (found : minutesAt text = some (number, behind)) :
    ∃ before, text = before ++ 'm' :: behind ∧ behind.head? ≠ some 's' := by
  unfold minutesAt at found
  dsimp only at found
  split at found
  · cases found
  · split at found
    · rename_i more point
      split at found
      · cases found
      · split at found
        · rename_i after marked
          split at found
          · cases found
          · rename_i apart
            cases found
            refine ⟨text.takeWhile Char.isDigit ++ '.' :: more.takeWhile Char.isDigit, ?_, apart⟩
            rw [append_assoc, cons_append, ← marked, takeWhile_append_dropWhile, ← point,
              takeWhile_append_dropWhile]
        · cases found
    · rename_i rest point
      split at found
      · rename_i after marked
        split at found
        · cases found
        · rename_i apart
          cases found
          refine ⟨text.takeWhile Char.isDigit, ?_, apart⟩
          rw [← marked, takeWhile_append_dropWhile]
      · cases found

/-- No marker of minutes in a text where an `s` follows every `m`. -/
theorem searchMinutes_eq_none {text : List Char}
    (followed : ∀ before behind, text = before ++ 'm' :: behind → behind.head? = some 's') :
    searchMinutes text = none := by
  induction text with
  | nil => rfl
  | cons c rest ih =>
      have later : searchMinutes rest = none := by
        apply ih
        intro before behind split
        exact followed (c :: before) behind (by rw [split]; rfl)
      have here : minutesAt (c :: rest) = none := by
        cases found : minutesAt (c :: rest) with
        | none => rfl
        | some parts =>
            obtain ⟨before, split, apart⟩ := minutesAt_marker found
            exact absurd (followed before parts.2 split) apart
      rw [searchMinutes, here, later]
      rfl

/-! ### Milliseconds -/

theorem splitMilliseconds_eq_none {text : List Char} (unmarked : ∀ c, c ∈ text → c ≠ 'm') :
    splitMilliseconds text = none := by
  induction text with
  | nil => rfl
  | cons c rest ih =>
      have later := ih fun d listed => unmarked d (mem_cons_of_mem c listed)
      have apart := unmarked c mem_cons_self
      rw [splitMilliseconds, later]
      · rfl
      · intro behind same
        exact absurd same apart

theorem splitMilliseconds_append {before : List Char} (unmarked : ∀ c, c ∈ before → c ≠ 'm')
    (behind : List Char) :
    splitMilliseconds (before ++ 'm' :: 's' :: behind) = some (before, behind) := by
  induction before with
  | nil => rfl
  | cons c rest ih =>
      have later := ih fun d listed => unmarked d (mem_cons_of_mem c listed)
      have apart := unmarked c mem_cons_self
      rw [cons_append, splitMilliseconds, later]
      · rfl
      · intro behind same
        exact absurd same apart

/-! ### A text in several units -/

theorem unit_notMem (amount : Amount) {unit : Char} (marker : unit = 'm' ∨ unit = 's') :
    ∀ c, c ∈ amount.text → c ≠ unit := by
  intro c listed same
  subst same
  rcases marker with rfl | rfl
  · exact absurd (amount.mem_text listed) (by decide)
  · exact absurd (amount.mem_text listed) (by decide)

theorem component_solid {unit : List Char} (plain : ∀ c, c ∈ unit → isSpace c = false)
    (amount : Option Amount) : ∀ c, c ∈ component unit amount → isSpace c = false := by
  intro c listed
  cases amount with
  | none => cases listed
  | some amount =>
      rcases mem_append.mp listed with own | later
      · exact (numeral_plain (amount.mem_text own)).1
      · exact plain c later

theorem milliseconds_solid : ∀ c, c ∈ ['m', 's'] → isSpace c = false := by
  intro c listed
  rcases List.mem_cons.mp listed with rfl | later
  · rfl
  · rw [mem_singleton.mp later]
    rfl

theorem single_solid {unit : Char} (marker : unit = 'm' ∨ unit = 's') :
    ∀ c, c ∈ [unit] → isSpace c = false := by
  intro c listed
  rw [mem_singleton.mp listed]
  rcases marker with rfl | rfl
  · rfl
  · rfl

theorem lowerUnits_solid (seconds milliseconds : Option Amount) :
    ∀ c, c ∈ lowerUnits seconds milliseconds → isSpace c = false := by
  intro c listed
  rcases mem_append.mp listed with first | second
  · exact component_solid (single_solid (.inr rfl)) seconds c first
  · exact component_solid milliseconds_solid milliseconds c second

theorem readFloat_durationText {minutes : Option Amount}
    (some_ : minutes.isSome ∨ seconds.isSome ∨ milliseconds.isSome) :
    readFloat (durationText minutes seconds milliseconds) = none := by
  unfold durationText
  cases minutes with
  | some amount =>
      rw [component, append_assoc]
      exact readFloat_unit amount (.inl rfl) (lowerUnits_solid seconds milliseconds)
  | none =>
      rw [component, nil_append, lowerUnits]
      cases seconds with
      | some amount =>
          rw [component, append_assoc]
          exact readFloat_unit amount (.inr rfl)
            (component_solid milliseconds_solid milliseconds)
      | none =>
          rw [component, nil_append]
          cases milliseconds with
          | some amount =>
              exact readFloat_unit amount (.inl rfl) (single_solid (.inr rfl))
          | none => simp at some_

theorem strip_durationText (minutes seconds milliseconds : Option Amount) :
    strip (durationText minutes seconds milliseconds) =
      durationText minutes seconds milliseconds := by
  apply ToolLoop.strip_of_plain
  rw [durationText, String.toList_ofList]
  intro c listed
  rcases mem_append.mp listed with first | later
  · exact component_solid (single_solid (.inl rfl)) minutes c first
  · exact lowerUnits_solid seconds milliseconds c later

theorem marker_behind {first rest before : List Char} (unmarked : ∀ c, c ∈ first → c ≠ 'm')
    (split : first ++ rest = before ++ 'm' :: behind) :
    ∃ between, rest = between ++ 'm' :: behind := by
  induction first generalizing before with
  | nil => exact ⟨before, split⟩
  | cons c more ih =>
      cases before with
      | nil => exact absurd (List.cons.inj split).1 (unmarked c mem_cons_self)
      | cons d others =>
          have later := fun e listed => unmarked e (mem_cons_of_mem c listed)
          exact ih later (List.cons.inj split).2

/-- Behind every `m` of the lower units stands an `s`. -/
theorem lowerUnits_marker {before : List Char}
    (split : lowerUnits seconds milliseconds = before ++ 'm' :: behind) :
    behind.head? = some 's' := by
  have unmarked : ∀ c, c ∈ component ['s'] seconds → c ≠ 'm' := by
    intro c listed
    cases seconds with
    | none => cases listed
    | some amount =>
        rcases mem_append.mp listed with own | unit
        · exact unit_notMem amount (.inl rfl) c own
        · rw [mem_singleton.mp unit]
          decide
  obtain ⟨between, split⟩ := marker_behind unmarked split
  cases milliseconds with
  | none =>
      rw [component] at split
      exact absurd split (by simp)
  | some amount =>
      obtain ⟨between, split⟩ := marker_behind (unit_notMem amount (.inl rfl)) split
      cases between with
      | nil =>
          rw [← (List.cons.inj split).2]
          rfl
      | cons c more =>
          have last := (List.cons.inj split).2
          cases more with
          | nil => exact absurd (List.cons.inj last).1 (by decide)
          | cons d others => exact absurd (List.cons.inj last).2 (by simp)

theorem component_head (amount : Amount) (unit more : List Char) :
    (component unit (some amount) ++ more).head? ≠ some 's' := by
  obtain ⟨first, rest, shape, numeral⟩ := amount.text_cons
  intro head
  rw [component, shape] at head
  rw [Option.some.inj head] at numeral
  exact absurd numeral (by decide)

theorem lowerUnits_head (seconds milliseconds : Option Amount) :
    (lowerUnits seconds milliseconds).head? ≠ some 's' := by
  cases seconds with
  | some amount => exact component_head amount ['s'] _
  | none =>
      cases milliseconds with
      | some amount =>
          have head := component_head amount ['m', 's'] []
          rwa [append_nil] at head
      | none => nofun

theorem consumeDurationMinutes_text {minutes : Option Amount}
    (full : ∀ amount, minutes = some amount → amount.Full)
    (seconds milliseconds : Option Amount) :
    consumeDurationMinutes readFloat
        (component ['m'] minutes ++ lowerUnits seconds milliseconds) =
      some (.finite (amountValue minutes * 60), lowerUnits seconds milliseconds) := by
  cases minutes with
  | none =>
      have nothing : searchMinutes (lowerUnits seconds milliseconds) = none :=
        searchMinutes_eq_none fun before behind split => lowerUnits_marker split
      rw [component, nil_append, consumeDurationMinutes, nothing, amountValue, zero_mul]
  | some amount =>
      have found := searchMinutes_text (full amount rfl) (lowerUnits_head seconds milliseconds)
      rw [component, append_assoc, singleton_append, consumeDurationMinutes, found]
      dsimp only
      rw [readFloat_number]
      rfl

theorem consumeDurationSeconds_text (apart : seconds = none ∨ milliseconds = none) :
    consumeDurationSeconds readFloat (lowerUnits seconds milliseconds) =
      (.finite (amountValue seconds), component ['m', 's'] milliseconds) := by
  unfold consumeDurationSeconds lowerUnits
  cases seconds with
  | none =>
      rw [component, nil_append]
      apply if_neg
      rintro ⟨listed, unsplit⟩
      cases milliseconds with
      | none => cases listed
      | some amount =>
          have parts := splitMilliseconds_append (unit_notMem amount (.inl rfl)) []
          rw [component, parts] at unsplit
          cases unsplit
  | some amount =>
      have alone : milliseconds = none := apart.resolve_left nofun
      have whole : component ['s'] (some amount) ++ component ['m', 's'] milliseconds =
          amount.text ++ ['s'] := by
        rw [alone, component, component, append_nil]
      have unmarked : ∀ c, c ∈ amount.text ++ ['s'] → c ≠ 'm' := by
        intro c listed
        rcases mem_append.mp listed with own | unit
        · exact unit_notMem amount (.inl rfl) c own
        · rw [mem_singleton.mp unit]
          decide
      have marker : 's' ∈ amount.text ++ ['s'] := mem_append_right amount.text mem_cons_self
      have numeral : ∀ c, c ∈ amount.text → decide (c ≠ 's') = true :=
        fun c listed => decide_eq_true (unit_notMem amount (.inr rfl) c listed)
      rw [whole, if_pos ⟨marker, splitMilliseconds_eq_none unmarked⟩,
        takeWhile_append_of_pos numeral, dropWhile_append_of_pos numeral, alone]
      have value : amountOf readFloat (amount.text ++ []) = .finite amount.value := by
        rw [append_nil, amountOf, readFloat_number]
        rfl
      exact congrArg (fun seconds => (seconds, [])) value

theorem consumeDurationMilliseconds_text (milliseconds : Option Amount) :
    consumeDurationMilliseconds readFloat (component ['m', 's'] milliseconds) =
      .finite (amountValue milliseconds * (1 / 1000)) := by
  cases milliseconds with
  | none => exact congrArg PyFloat.finite (zero_mul _).symm
  | some amount =>
      have parts := splitMilliseconds_append (unit_notMem amount (.inl rfl)) []
      rw [component, consumeDurationMilliseconds, parts]
      dsimp only
      rw [amountOf, readFloat_number]
      rfl

/-- A text with minutes, seconds or milliseconds is read as its total, unless it has both of the
last two; a total of zero counts as no duration. -/
theorem parseDuration_exact {minutes seconds milliseconds : Option Amount}
    (some_ : minutes.isSome ∨ seconds.isSome ∨ milliseconds.isSome)
    (full : ∀ amount, minutes = some amount → amount.Full)
    (apart : seconds = none ∨ milliseconds = none) :
    parseDuration readFloat (durationText minutes seconds milliseconds) =
      if 0 < totalSeconds minutes seconds milliseconds then
        some (.finite (totalSeconds minutes seconds milliseconds))
      else none := by
  rw [parseDuration, readFloat_durationText some_, strip_durationText, durationText,
    String.toList_ofList]
  dsimp only
  rw [consumeDurationMinutes_text full]
  dsimp only
  rw [consumeDurationSeconds_text apart]
  dsimp only
  rw [consumeDurationMilliseconds_text]
  have total : ((PyFloat.finite (amountValue minutes * 60)).add
      (.finite (amountValue seconds))).add (.finite (amountValue milliseconds * (1 / 1000))) =
        .finite (totalSeconds minutes seconds milliseconds) := rfl
  rw [total]
  by_cases positive : 0 < totalSeconds minutes seconds milliseconds
  · rw [if_pos positive]
    exact if_pos (decide_eq_true positive)
  · rw [if_neg positive]
    exact if_neg fun exceeds => positive (of_decide_eq_true exceeds)

def sixMinutes : Amount where
  whole := ['6']
  point := false
  fraction := []
  whole_digits := by simp
  fraction_digits := by simp
  some_digit := by simp
  pointed := by simp

def halfSecond : Amount where
  whole := []
  point := true
  fraction := ['5']
  whole_digits := by simp
  fraction_digits := by simp
  some_digit := by simp
  pointed := by simp

theorem sixMinutes_half :
    parseDuration readFloat "6m.5s" = some (.finite (721 / 2)) := by
  have six : '6'.toNat - '0'.toNat = 6 := rfl
  have five : '5'.toNat - '0'.toNat = 5 := rfl
  have total : totalSeconds (some sixMinutes) (some halfSecond) none = 721 / 2 := by
    norm_num [totalSeconds, amountValue, Amount.value, decimalValue, digitsValue, sixMinutes,
      halfSecond, six, five]
  have full : ∀ amount, some sixMinutes = some amount → amount.Full := by
    intro amount same
    cases same
    exact ⟨nofun, nofun⟩
  have read := @parseDuration_exact (some sixMinutes) (some halfSecond) none (.inl rfl) full (.inr rfl)
  have positive : (0 : ℚ) < 721 / 2 := by norm_num
  rw [total, if_pos positive] at read
  exact read

/-- The hours and what stands behind them are dropped, the seconds of a text that also has
milliseconds make it unreadable, and no duration is zero. -/
theorem hours_dropped :
    parseDuration readFloat "1h2m3s" ≠ some (.finite (3600 + 2 * 60 + 3)) ∧
      parseDuration readFloat "1h2m3s" = some (.finite 120) ∧
      parseDuration readFloat "1s500ms" = none ∧ parseDuration readFloat "0s" = none := by
  decide +kernel

end AgenticRuntime.RateLimits
