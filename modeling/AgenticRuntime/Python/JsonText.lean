/-
The compact text of a JSON syntax tree, and that the text determines the tree.

A scalar is written as a token, which ends before the first of `"[]{},:`. A value is
followed by a separator, a closing bracket or nothing, so a text is read in one way.
-/

import AgenticRuntime.Python.Json
import Mathlib.Data.List.TakeWhile
import Mathlib.Tactic.IntervalCases
import Std.Data.String.ToInt

namespace Python

open List

/-! ### Strings -/

def escapes : List (Char × Char) :=
  [('\x22', '\x22'), ('\x5c', '\x5c'), ('\n', 'n'), ('\r', 'r'), ('\t', 't'), ('\x0c', 'f'),
    ('\x08', 'b')]

/-- A character of a string; other control characters are written by their code. -/
def escapeChar (c : Char) : List Char :=
  match escapes.find? fun escape => escape.1 = c with
  | some escape => ['\x5c', escape.2]
  | none =>
      if c.toNat < 32 then
        ['\x5c', 'u', '0', '0', Nat.digitChar (c.toNat / 16), Nat.digitChar (c.toNat % 16)]
      else [c]

def quoted (text : String) : List Char :=
  '\x22' :: (text.toList.flatMap escapeChar ++ ['\x22'])

def readChar : List Char → Option (Char × List Char)
  | '\x5c' :: 'u' :: '0' :: '0' :: high :: low :: rest =>
      (List.range 32).findSome? fun code =>
        if Nat.digitChar (code / 16) = high ∧ Nat.digitChar (code % 16) = low then
          some (Char.ofNat code, rest)
        else none
  | '\x5c' :: letter :: rest =>
      (escapes.find? fun escape => escape.2 = letter).map fun escape => (escape.1, rest)
  | c :: rest => if c = '\x22' ∨ c = '\x5c' then none else some (c, rest)
  | [] => none

theorem readChar_control : ∀ code < 32, ∀ rest, readChar ('\x5c' :: 'u' :: '0' :: '0' ::
    Nat.digitChar (code / 16) :: Nat.digitChar (code % 16) :: rest) =
      some (Char.ofNat code, rest) := by
  intro code small rest
  interval_cases code <;> rfl

theorem readChar_letter : ∀ escape ∈ escapes, ∀ rest,
    readChar ('\x5c' :: escape.2 :: rest) = some (escape.1, rest) := by
  intro escape listed rest
  simp only [escapes, mem_cons, not_mem_nil, or_false] at listed
  rcases listed with rfl | rfl | rfl | rfl | rfl | rfl | rfl <;> rfl

theorem readChar_plain {c : Char} (notQuote : c ≠ '\x22') (notBackslash : c ≠ '\x5c')
    (rest : List Char) : readChar (c :: rest) = some (c, rest) := by
  unfold readChar
  split
  · rename_i same
    exact absurd (List.cons.inj same).1 notBackslash
  · rename_i same
    exact absurd (List.cons.inj same).1 notBackslash
  · rename_i same
    cases same
    rw [if_neg (not_or.mpr ⟨notQuote, notBackslash⟩)]
  · rename_i impossible
    cases impossible

theorem readChar_escapeChar (c : Char) (rest : List Char) :
    readChar (escapeChar c ++ rest) = some (c, rest) := by
  unfold escapeChar
  cases found : escapes.find? fun escape => escape.1 = c with
  | some escape =>
      have holds := List.find?_some found
      have same : escape.1 = c := of_decide_eq_true holds
      rw [← same]
      exact readChar_letter escape (mem_of_find?_eq_some found) rest
  | none =>
      have plain : ∀ escape ∈ escapes, c ≠ escape.1 := by
        intro escape listed same
        exact List.find?_eq_none.mp found escape listed (decide_eq_true same.symm)
      by_cases control : c.toNat < 32
      · simp only [if_pos control]
        have read := readChar_control c.toNat control rest
        rw [Char.ofNat_toNat] at read
        exact read
      · simp only [if_neg control]
        have notQuote : c ≠ '\x22' := plain _ mem_cons_self
        have notBackslash : c ≠ '\x5c' := plain _ (mem_cons_of_mem _ mem_cons_self)
        exact readChar_plain notQuote notBackslash rest

variable {behind other : List Char} {text : String} {left : Json}

theorem flatMap_escapeChar_inj {left right : List Char}
    (same : left.flatMap escapeChar ++ '\x22' :: behind =
      right.flatMap escapeChar ++ '\x22' :: other) : left = right ∧ behind = other := by
  induction left generalizing right with
  | nil =>
      cases right with
      | nil => exact ⟨rfl, (List.cons.inj same).2⟩
      | cons c rest =>
          have read := congrArg readChar same
          rw [flatMap_cons, append_assoc, readChar_escapeChar] at read
          cases read
  | cons c rest ih =>
      rw [flatMap_cons, append_assoc] at same
      cases right with
      | nil =>
          have read := congrArg readChar same
          rw [readChar_escapeChar] at read
          cases read
      | cons d others =>
          rw [flatMap_cons, append_assoc] at same
          have read := congrArg readChar same
          rw [readChar_escapeChar, readChar_escapeChar] at read
          have parts := Prod.mk.inj (Option.some.inj read)
          obtain ⟨head, tail⟩ := parts
          obtain ⟨sameRest, sameBehind⟩ := ih tail
          exact ⟨congrArg₂ List.cons head sameRest, sameBehind⟩

theorem quoted_append (text : String) (behind : List Char) :
    quoted text ++ behind = '\x22' :: (text.toList.flatMap escapeChar ++ '\x22' :: behind) := by
  rw [quoted, cons_append, append_assoc, singleton_append]

theorem quoted_inj {left right : String} (same : quoted left ++ behind = quoted right ++ other) :
    left = right ∧ behind = other := by
  rw [quoted_append, quoted_append] at same
  obtain ⟨sameText, sameBehind⟩ := flatMap_escapeChar_inj (List.cons.inj same).2
  exact ⟨String.toList_inj.mp sameText, sameBehind⟩

/-! ### Tokens -/

def isTokenChar (c : Char) : Bool :=
  c ∉ ['\x22', '[', ']', '\x7b', '\x7d', ',', ':']

structure Token (text : List Char) : Prop where
  nonempty : text ≠ []
  chars : ∀ c ∈ text, isTokenChar c = true

theorem token_of_all (chars : (!text.toList.isEmpty && text.toList.all isTokenChar) = true) :
    Token text.toList := by
  rw [Bool.and_eq_true, Bool.not_eq_true', isEmpty_eq_false_iff] at chars
  exact ⟨chars.1, all_eq_true.mp chars.2⟩

/-- How floats are spelled: `float.__repr__`, and `NaN` and the infinities. -/
structure FloatFormat where
  text : PyFloat → String
  injective : ∀ left right, text left = text right → left = right
  token : ∀ value, Token (text value).toList
  notInt : ∀ value number, text value ≠ Int.repr number
  notWord : ∀ value, text value ∉ ["null", "true", "false"]

def Ended (behind : List Char) : Prop := ∀ c ∈ behind.head?, isTokenChar c = false

theorem token_inj {left right : List Char} (leftToken : Token left) (rightToken : Token right)
    (ended : Ended behind) (otherEnded : Ended other) (same : left ++ behind = right ++ other) :
    left = right ∧ behind = other := by
  have taken : ∀ {text rest : List Char}, Token text → Ended rest →
      (text ++ rest).takeWhile isTokenChar = text := by
    intro text rest token restEnded
    rw [takeWhile_append_of_pos token.chars]
    cases rest with
    | nil => rw [takeWhile_nil, append_nil]
    | cons c rest =>
        have stops := restEnded c rfl
        rw [takeWhile_cons_of_neg (by rw [stops]; exact Bool.false_ne_true), append_nil]
  have sameText := congrArg (List.takeWhile isTokenChar) same
  rw [taken leftToken ended, taken rightToken otherEnded] at sameText
  subst sameText
  exact ⟨rfl, append_cancel_left same⟩

def isNumeral (c : Char) : Bool := c.isDigit || c = '-'

theorem isTokenChar_of_isNumeral {c : Char} (numeral : isNumeral c = true) :
    isTokenChar c = true := by
  have apart : ∀ c ∈ ['\x22', '[', ']', '\x7b', '\x7d', ',', ':'], isNumeral c = false := by
    intro c listed
    simp only [mem_cons, not_mem_nil, or_false] at listed
    rcases listed with rfl | rfl | rfl | rfl | rfl | rfl | rfl <;> rfl
  apply decide_eq_true
  intro member
  rw [apart c member] at numeral
  cases numeral

theorem isNumeral_of_mem_nat {number : Nat} {c : Char} (member : c ∈ number.repr.toList) :
    isNumeral c = true := by
  rw [Nat.toList_repr] at member
  have digit : c.isDigit = true := Nat.isDigit_of_mem_toDigits (by decide) (by decide) member
  rw [isNumeral, digit, Bool.true_or]

theorem isNumeral_of_mem_repr {value : Int} {c : Char} (member : c ∈ (Int.repr value).toList) :
    isNumeral c = true := by
  cases value with
  | ofNat number => exact isNumeral_of_mem_nat member
  | negSucc number =>
      change c ∈ ("-" ++ (number + 1).repr).toList at member
      rw [String.toList_append] at member
      rcases mem_cons.mp member with sign | later
      · subst sign
        rfl
      · exact isNumeral_of_mem_nat later

theorem token_int (value : Int) : Token (Int.repr value).toList := by
  constructor
  · intro empty
    cases value with
    | ofNat number =>
        change number.repr.toList = [] at empty
        rw [Nat.toList_repr] at empty
        exact Nat.toDigits_ne_nil empty
    | negSucc number =>
        change ("-" ++ (number + 1).repr).toList = [] at empty
        rw [String.toList_append] at empty
        cases empty
  · intro c member
    exact isTokenChar_of_isNumeral (isNumeral_of_mem_repr member)

theorem int_notWord (value : Int) : Int.repr value ∉ ["null", "true", "false"] := by
  intro member
  have letters : ∀ word ∈ ["null", "true", "false"], ∃ c ∈ word.toList, isNumeral c = false := by
    intro word listed
    simp only [mem_cons, not_mem_nil, or_false] at listed
    rcases listed with rfl | rfl | rfl
    · exact ⟨'n', by decide, by decide⟩
    · exact ⟨'t', by decide, by decide⟩
    · exact ⟨'f', by decide, by decide⟩
  obtain ⟨c, there, letter⟩ := letters _ member
  rw [isNumeral_of_mem_repr there] at letter
  cases letter

/-! ### A spelling of floats -/

/-- The numerator and one less than the denominator: `3.0` for three. -/
def ratioText (value : PyFloat) : String :=
  match value with
  | .finite value =>
      String.ofList ((Int.repr value.num).toList ++ '.' :: (value.den - 1).repr.toList)
  | .inf => "Infinity"
  | .negInf => "-Infinity"
  | .nan => "NaN"

theorem ratioText_finite_inj {left right : ℚ}
    (same : ratioText (.finite left) = ratioText (.finite right)) : left = right := by
  have chars := String.ofList_injective same
  have taken : ∀ value : ℚ, ((Int.repr value.num).toList ++
      '.' :: (value.den - 1).repr.toList).takeWhile isNumeral = (Int.repr value.num).toList := by
    intro value
    rw [takeWhile_append_of_pos fun c member => isNumeral_of_mem_repr member]
    change _ ++ [] = _
    rw [append_nil]
  have sameHead := congrArg (List.takeWhile isNumeral) chars
  rw [taken, taken] at sameHead
  rw [sameHead] at chars
  have sameTail := (List.cons.inj (append_cancel_left chars)).2
  have sameNum := Int.repr_injective (String.toList_inj.mp sameHead)
  have sameDen := Nat.repr_injective (String.toList_inj.mp sameTail)
  have leftPos := left.den_pos
  have rightPos := right.den_pos
  apply Rat.ext sameNum
  omega

theorem numeral_of_finite (value : ℚ) : ∀ c ∈ (ratioText (.finite value)).toList,
    isNumeral c = true ∨ c = '.' := by
  intro c member
  rw [ratioText, String.toList_ofList] at member
  rcases mem_append.mp member with head | tail
  · exact .inl (isNumeral_of_mem_repr head)
  · rcases mem_cons.mp tail with point | digits
    · exact .inr point
    · exact .inl (isNumeral_of_mem_nat digits)

theorem point_mem_finite (value : ℚ) : '.' ∈ (ratioText (.finite value)).toList := by
  rw [ratioText, String.toList_ofList]
  exact mem_append_right _ mem_cons_self

theorem finite_ne_word (value : ℚ) {word : String}
    (listed : word ∈ ["Infinity", "-Infinity", "NaN", "null", "true", "false"]) :
    ratioText (.finite value) ≠ word := by
  intro same
  have letters : ∃ c ∈ word.toList, ¬ (isNumeral c = true ∨ c = '.') := by
    simp only [mem_cons, not_mem_nil, or_false] at listed
    rcases listed with rfl | rfl | rfl | rfl | rfl | rfl
    · exact ⟨'I', by decide, by decide⟩
    · exact ⟨'I', by decide, by decide⟩
    · exact ⟨'N', by decide, by decide⟩
    · exact ⟨'n', by decide, by decide⟩
    · exact ⟨'t', by decide, by decide⟩
    · exact ⟨'f', by decide, by decide⟩
  obtain ⟨c, there, letter⟩ := letters
  rw [← same] at there
  exact letter (numeral_of_finite value c there)

theorem int_ne_letter {value : Int} {word : String} {c : Char} (there : c ∈ word.toList)
    (letter : isNumeral c = false) : word ≠ Int.repr value := by
  intro same
  rw [same] at there
  rw [isNumeral_of_mem_repr there] at letter
  cases letter

def ratioFormat : FloatFormat where
  text := ratioText
  injective := by
    intro left right same
    cases left with
    | finite value =>
        cases right with
        | finite other => exact congrArg PyFloat.finite (ratioText_finite_inj same)
        | inf | negInf | nan => exact absurd same (finite_ne_word value (by decide))
    | inf =>
        cases right with
        | finite other => exact absurd same.symm (finite_ne_word other (by decide))
        | inf => rfl
        | negInf | nan => exact absurd same (by decide)
    | negInf =>
        cases right with
        | finite other => exact absurd same.symm (finite_ne_word other (by decide))
        | inf | nan => exact absurd same (by decide)
        | negInf => rfl
    | nan =>
        cases right with
        | finite other => exact absurd same.symm (finite_ne_word other (by decide))
        | inf | negInf => exact absurd same (by decide)
        | nan => rfl
  token := by
    intro value
    cases value with
    | finite value =>
        constructor
        · exact ne_nil_of_mem (point_mem_finite value)
        · intro c member
          rcases numeral_of_finite value c member with numeral | point
          · exact isTokenChar_of_isNumeral numeral
          · subst point
            rfl
    | inf | negInf | nan => exact token_of_all rfl
  notInt := by
    intro value number
    cases value with
    | finite value => exact int_ne_letter (point_mem_finite value) rfl
    | inf | negInf => exact int_ne_letter (c := 'I') (by decide) rfl
    | nan => exact int_ne_letter (c := 'N') (by decide) rfl
  notWord := by
    intro value listed
    cases value with
    | finite value =>
        have among : ∀ word ∈ ["null", "true", "false"],
            word ∈ ["Infinity", "-Infinity", "NaN", "null", "true", "false"] := by decide
        exact finite_ne_word value (among _ listed) rfl
    | inf | negInf | nan => exact absurd listed (by decide)

/-! ### Values -/

section

variable (format : FloatFormat)

def Json.token? : Json → Option String
  | .null => some "null"
  | .bool true => some "true"
  | .bool false => some "false"
  | .int value => some (Int.repr value)
  | .float value => some (format.text value)
  | .str _ => none
  | .array _ => none
  | .object _ => none

mutual

/-- `json.dumps` with separators `,` and `:` and with characters outside ASCII left as
they are. -/
def Json.render : Json → List Char
  | .null => "null".toList
  | .bool true => "true".toList
  | .bool false => "false".toList
  | .int value => (Int.repr value).toList
  | .float value => (format.text value).toList
  | .str text => quoted text
  | .array elements => '[' :: renderElements elements
  | .object members => '\x7b' :: renderMembers members

def renderElements : List Json → List Char
  | [] => [']']
  | element :: rest => element.render ++ moreElements rest

def moreElements : List Json → List Char
  | [] => [']']
  | element :: rest => ',' :: (element.render ++ moreElements rest)

def renderMembers : List (String × Json) → List Char
  | [] => ['\x7d']
  | (name, value) :: rest => quoted name ++ ':' :: (value.render ++ moreMembers rest)

def moreMembers : List (String × Json) → List Char
  | [] => ['\x7d']
  | (name, value) :: rest => ',' :: (quoted name ++ ':' :: (value.render ++ moreMembers rest))

end

variable {format}

theorem render_of_token {value : Json} (isToken : value.token? format = some text) :
    value.render format = text.toList := by
  cases value with
  | null | int number | float number =>
      cases isToken
      rfl
  | bool flag =>
      cases flag
      · cases isToken
        rfl
      · cases isToken
        rfl
  | str text | array elements | object members => cases isToken

theorem token_of_token? {value : Json} (isToken : value.token? format = some text) :
    Token text.toList := by
  cases value with
  | null =>
      cases isToken
      exact token_of_all rfl
  | bool flag =>
      cases flag
      · cases isToken
        exact token_of_all rfl
      · cases isToken
        exact token_of_all rfl
  | int number =>
      cases isToken
      exact token_int number
  | float number =>
      cases isToken
      exact format.token number
  | str text | array elements | object members => cases isToken

theorem token?_eq_some {value : Json} (isToken : value.token? format = some text) :
    (text, value) ∈ [("null", Json.null), ("true", .bool true), ("false", .bool false)] ∨
      (∃ number, value = .int number ∧ text = Int.repr number) ∨
      ∃ number, value = .float number ∧ text = format.text number := by
  cases value with
  | null =>
      cases isToken
      exact .inl mem_cons_self
  | bool flag =>
      cases flag
      · cases isToken
        exact .inl (mem_cons_of_mem _ (mem_cons_of_mem _ mem_cons_self))
      · cases isToken
        exact .inl (mem_cons_of_mem _ mem_cons_self)
  | int number =>
      cases isToken
      exact .inr (.inl ⟨number, rfl, rfl⟩)
  | float number =>
      cases isToken
      exact .inr (.inr ⟨number, rfl, rfl⟩)
  | str text | array elements | object members => cases isToken

theorem token?_inj {right : Json} (leftToken : left.token? format = some text)
    (rightToken : right.token? format = some text) : left = right := by
  have word : ∀ {value : Json},
      (text, value) ∈ [("null", Json.null), ("true", .bool true), ("false", .bool false)] →
        text ∈ ["null", "true", "false"] := fun listed => mem_map_of_mem (f := Prod.fst) listed
  rcases token?_eq_some leftToken with leftWord | ⟨number, isInt, leftText⟩ |
    ⟨number, isFloat, leftText⟩
  · rcases token?_eq_some rightToken with rightWord | ⟨other, _, rightText⟩ |
      ⟨other, _, rightText⟩
    · simp only [mem_cons, Prod.mk.injEq, not_mem_nil, or_false] at leftWord rightWord
      grind
    · exact absurd (rightText ▸ word leftWord) (int_notWord other)
    · exact absurd (rightText ▸ word leftWord) (format.notWord other)
  · rcases token?_eq_some rightToken with rightWord | ⟨other, isOther, rightText⟩ |
      ⟨other, _, rightText⟩
    · exact absurd (leftText ▸ word rightWord) (int_notWord number)
    · rw [isInt, isOther, Int.repr_injective (leftText.symm.trans rightText)]
    · exact absurd (rightText.symm.trans leftText) (format.notInt other number)
  · rcases token?_eq_some rightToken with rightWord | ⟨other, _, rightText⟩ |
      ⟨other, isOther, rightText⟩
    · exact absurd (leftText ▸ word rightWord) (format.notWord number)
    · exact absurd (leftText.symm.trans rightText) (format.notInt number other)
    · rw [isFloat, isOther, format.injective number other (leftText.symm.trans rightText)]

theorem render_head {value : Json} (notToken : value.token? format = none) :
    ∃ c rest, value.render format = c :: rest ∧ c ∈ ['\x22', '[', '\x7b'] := by
  cases value with
  | null | int number | float number => cases notToken
  | bool flag =>
      cases flag
      · cases notToken
      · cases notToken
  | str text | array elements | object members => exact ⟨_, _, rfl, by decide⟩

theorem render_ne_bracket (value : Json) (behind other : List Char) :
    value.render format ++ behind ≠ ']' :: other := by
  intro same
  cases isToken : value.token? format with
  | some text =>
      rw [render_of_token isToken] at same
      have token := token_of_token? isToken
      cases shape : text.toList with
      | nil => exact token.nonempty shape
      | cons c rest =>
          rw [shape] at same
          have first : c = ']' := (List.cons.inj same).1
          have isChar := token.chars c (shape ▸ mem_cons_self)
          rw [first] at isChar
          exact absurd isChar (by decide)
  | none =>
      obtain ⟨c, rest, shape, opening⟩ := render_head isToken
      rw [shape] at same
      have first : c = ']' := (List.cons.inj same).1
      rw [first] at opening
      exact absurd opening (by decide)

theorem ended_moreElements (elements : List Json) (behind : List Char) :
    Ended (moreElements format elements ++ behind) := by
  intro c first
  cases elements with
  | nil | cons element rest =>
      cases first
      rfl

theorem ended_moreMembers (members : List (String × Json)) (behind : List Char) :
    Ended (moreMembers format members ++ behind) := by
  intro c first
  cases members with
  | nil | cons member rest =>
      cases first
      rfl

theorem render_token_inj {right : Json} (isToken : left.token? format = some text)
    (ended : Ended behind) (otherEnded : Ended other)
    (same : left.render format ++ behind = right.render format ++ other) :
    left = right ∧ behind = other := by
  rw [render_of_token isToken] at same
  have token := token_of_token? isToken
  cases rightToken : right.token? format with
  | some rightText =>
      rw [render_of_token rightToken] at same
      obtain ⟨sameText, sameBehind⟩ :=
        token_inj token (token_of_token? rightToken) ended otherEnded same
      rw [← String.toList_inj.mp sameText] at rightToken
      exact ⟨token?_inj isToken rightToken, sameBehind⟩
  | none =>
      obtain ⟨c, rest, shape, opening⟩ := render_head rightToken
      rw [shape] at same
      cases parts : text.toList with
      | nil => exact absurd parts token.nonempty
      | cons d chars =>
          rw [parts] at same
          have first : d = c := (List.cons.inj same).1
          have isChar := token.chars d (parts ▸ mem_cons_self)
          have apart : ∀ c ∈ ['\x22', '[', '\x7b'], isTokenChar c = false := by
            intro c listed
            simp only [mem_cons, not_mem_nil, or_false] at listed
            rcases listed with rfl | rfl | rfl <;> rfl
          rw [first, apart c opening] at isChar
          cases isChar

def Readable (format : FloatFormat) (left : Json) : Prop :=
  ∀ (right : Json) (behind other : List Char), Ended behind → Ended other →
    left.render format ++ behind = right.render format ++ other → left = right ∧ behind = other

theorem moreElements_inj {lefts rights : List Json} (each : ∀ left ∈ lefts, Readable format left)
    (same : moreElements format lefts ++ behind = moreElements format rights ++ other) :
    lefts = rights ∧ behind = other := by
  induction lefts generalizing rights with
  | nil =>
      cases rights with
      | nil => exact ⟨rfl, (List.cons.inj same).2⟩
      | cons right others => cases same
  | cons left rest ih =>
      cases rights with
      | nil => cases same
      | cons right others =>
          rw [moreElements, moreElements, cons_append, cons_append, append_assoc,
            append_assoc] at same
          obtain ⟨sameHead, tail⟩ := each left mem_cons_self right _ _
            (ended_moreElements _ _) (ended_moreElements _ _) (List.cons.inj same).2
          obtain ⟨sameRest, sameBehind⟩ :=
            ih (fun later member => each later (mem_cons_of_mem _ member)) tail
          exact ⟨congrArg₂ List.cons sameHead sameRest, sameBehind⟩

theorem renderElements_inj {lefts rights : List Json} (each : ∀ left ∈ lefts, Readable format left)
    (same : renderElements format lefts ++ behind = renderElements format rights ++ other) :
    lefts = rights ∧ behind = other := by
  cases lefts with
  | nil =>
      cases rights with
      | nil => exact ⟨rfl, (List.cons.inj same).2⟩
      | cons right others =>
          rw [renderElements, renderElements, append_assoc] at same
          exact absurd same.symm (render_ne_bracket right _ _)
  | cons left rest =>
      cases rights with
      | nil =>
          rw [renderElements, renderElements, append_assoc] at same
          exact absurd same (render_ne_bracket left _ _)
      | cons right others =>
          -- With a comma before them, both are the text of later elements.
          exact moreElements_inj each (congrArg (List.cons ',') same)

theorem memberText_inj {name other : String} {right : Json} {after : List Char}
    (readable : Readable format left) (ended : Ended behind) (otherEnded : Ended after)
    (same : quoted name ++ ':' :: (left.render format ++ behind) =
      quoted other ++ ':' :: (right.render format ++ after)) :
    (name, left) = (other, right) ∧ behind = after := by
  obtain ⟨sameName, valueSame⟩ := quoted_inj same
  obtain ⟨sameValue, sameBehind⟩ := readable right _ _ ended otherEnded (List.cons.inj valueSame).2
  exact ⟨Prod.ext sameName sameValue, sameBehind⟩

theorem moreMembers_cons_append (name : String) (value : Json) (rest : List (String × Json))
    (behind : List Char) : moreMembers format ((name, value) :: rest) ++ behind =
      ',' :: (quoted name ++ ':' :: (value.render format ++
        (moreMembers format rest ++ behind))) := by
  simp only [moreMembers, cons_append, append_assoc]

theorem moreMembers_inj {lefts rights : List (String × Json)}
    (each : ∀ left ∈ lefts, Readable format left.2)
    (same : moreMembers format lefts ++ behind = moreMembers format rights ++ other) :
    lefts = rights ∧ behind = other := by
  induction lefts generalizing rights with
  | nil =>
      cases rights with
      | nil => exact ⟨rfl, (List.cons.inj same).2⟩
      | cons right others => cases same
  | cons left rest ih =>
      cases rights with
      | nil => cases same
      | cons right others =>
          rw [moreMembers_cons_append, moreMembers_cons_append] at same
          obtain ⟨sameHead, tail⟩ := memberText_inj (each left mem_cons_self)
            (ended_moreMembers _ _) (ended_moreMembers _ _) (List.cons.inj same).2
          obtain ⟨sameRest, sameBehind⟩ :=
            ih (fun later member => each later (mem_cons_of_mem _ member)) tail
          exact ⟨congrArg₂ List.cons sameHead sameRest, sameBehind⟩

theorem renderMembers_inj {lefts rights : List (String × Json)}
    (each : ∀ left ∈ lefts, Readable format left.2)
    (same : renderMembers format lefts ++ behind = renderMembers format rights ++ other) :
    lefts = rights ∧ behind = other := by
  cases lefts with
  | nil =>
      cases rights with
      | nil => exact ⟨rfl, (List.cons.inj same).2⟩
      | cons right others => cases same
  | cons left rest =>
      cases rights with
      | nil => cases same
      | cons right others =>
          exact moreMembers_inj each (congrArg (List.cons ',') same)

theorem readable_of_token (isToken : left.token? format = some text) : Readable format left := by
  intro right behind other ended otherEnded same
  exact render_token_inj isToken ended otherEnded same

theorem readable_of_structured
    (structured : ∀ (right : Json) (behind other : List Char), right.token? format = none →
      left.render format ++ behind = right.render format ++ other →
        left = right ∧ behind = other) : Readable format left := by
  intro right behind other ended otherEnded same
  cases rightToken : right.token? format with
  | none => exact structured right behind other rightToken same
  | some text =>
      obtain ⟨sameValue, sameBehind⟩ := render_token_inj rightToken otherEnded ended same.symm
      exact ⟨sameValue.symm, sameBehind.symm⟩

theorem readable_str (text : String) : Readable format (.str text) := by
  apply readable_of_structured
  intro right behind other notToken same
  obtain ⟨c, rest, shape, opening⟩ := render_head notToken
  cases right with
  | str rightText =>
      obtain ⟨sameText, sameBehind⟩ := quoted_inj same
      exact ⟨congrArg Json.str sameText, sameBehind⟩
  | array elements => cases same
  | object members => cases same
  | null | int number | float number => cases notToken
  | bool flag => cases flag <;> cases notToken

theorem readable_array {elements : List Json}
    (each : ∀ element ∈ elements, Readable format element) :
    Readable format (.array elements) := by
  apply readable_of_structured
  intro right behind other notToken same
  cases right with
  | array others =>
      obtain ⟨sameElements, sameBehind⟩ := renderElements_inj each (List.cons.inj same).2
      exact ⟨congrArg Json.array sameElements, sameBehind⟩
  | str rightText => cases same
  | object members => cases same
  | null | int number | float number => cases notToken
  | bool flag => cases flag <;> cases notToken

theorem readable_object {members : List (String × Json)}
    (each : ∀ member ∈ members, Readable format member.2) :
    Readable format (.object members) := by
  apply readable_of_structured
  intro right behind other notToken same
  cases right with
  | object others =>
      obtain ⟨sameMembers, sameBehind⟩ := renderMembers_inj each (List.cons.inj same).2
      exact ⟨congrArg Json.object sameMembers, sameBehind⟩
  | str rightText => cases same
  | array elements => cases same
  | null | int number | float number => cases notToken
  | bool flag => cases flag <;> cases notToken

theorem readable (value : Json) : Readable format value := by
  induction value using Json.induction with
  | null | int number | float number => exact readable_of_token rfl
  | bool flag =>
      cases flag
      · exact readable_of_token rfl
      · exact readable_of_token rfl
  | str text => exact readable_str text
  | array elements each => exact readable_array each
  | object members each => exact readable_object each

theorem render_injective {right : Json} (same : left.render format = right.render format) :
    left = right := by
  have ended : Ended [] := by
    intro c first
    cases first
  have padded := congrArg (fun text => text ++ []) same
  exact (readable left right [] [] ended ended padded).1

end

end Python
