/-
Plain paths: a name with dotted segments, integer brackets and quoted keys behind it.

A path is a text, the tokens `_parse_path` cuts the text into, and the expression that
Python reads it as.
-/

import AgenticRuntime.Engine.Evaluator

namespace AgenticRuntime

open List hiding repr
open String (toList_ofList toList_eq_nil_iff)
open ConditionEvaluator

open Python (isSpace)

/-! ### Segments -/

inductive Segment where
  | field (name : String)
  | index (negative : Bool) (digits : List Char)
  | key (double : Bool) (name : String)

def quoteOf (double : Bool) : Char := if double then '\x22' else '\''

/-- A character of a quoted key that ends neither the key nor its bracket nor the reference. -/
def isKeyChar (c : Char) : Bool :=
  c ∉ ['\'', '\x22', '\x5c', '(', ')', '[', ']', '\x7b', '\x7d']

def isSegmentChar (c : Char) : Bool := isKeyChar c && c ≠ '.' && !isSpace c

def PlainName (name : String) : Prop := name ≠ "" ∧ ∀ c, c ∈ name.toList → isSegmentChar c = true

namespace Segment

def Plain : Segment → Prop
  | .field name => PlainName name
  | .index _ digits => digits ≠ [] ∧ digits.all Char.isDigit = true
  | .key _ name => ∀ c, c ∈ name.toList → isKeyChar c = true

def inside : Segment → List Char
  | .field name => name.toList
  | .index true digits => '-' :: digits
  | .index false digits => digits
  | .key double name => quoteOf double :: (name.toList ++ [quoteOf double])

def text : Segment → List Char
  | .field name => '.' :: name.toList
  | segment => '[' :: (segment.inside ++ [']'])

def magnitude (digits : List Char) : Nat := (digits? digits).getD 0

def position (negative : Bool) (digits : List Char) : Int :=
  if negative then -(magnitude digits : Int) else magnitude digits

def token : Segment → PathToken
  | .field name => .name name
  | .index negative digits => .index (position negative digits)
  | .key _ name => .name name

def node (base : AstNode) : Segment → AstNode
  | .field name => .attr base name
  | .index true digits =>
      .subscript base (.unaryOp .negative (.constant (.int (magnitude digits))))
  | .index false digits => .subscript base (.constant (.int (magnitude digits)))
  | .key _ name => .subscript base (.constant (.str name))

end Segment

structure PlainPath where
  root : String
  segments : List Segment
  root_plain : PlainName root
  segments_plain : ∀ segment, segment ∈ segments → segment.Plain

namespace PlainPath

def chars (path : PlainPath) : List Char :=
  path.root.toList ++ path.segments.flatMap Segment.text

def text (path : PlainPath) : String := String.ofList path.chars

def tokens (path : PlainPath) : List PathToken :=
  .name path.root :: path.segments.map Segment.token

def chain (path : PlainPath) : AstNode :=
  path.segments.foldl Segment.node (.name path.root)

end PlainPath

/-! ### The text without blanks around it -/

theorem strip_of_ends {text : String} {first last : Char}
    (head : text.toList.head? = some first) (tail : text.toList.getLast? = some last)
    (solid : isSpace first = false) (closed : isSpace last = false) : strip text = text := by
  apply String.toList_inj.mp
  obtain ⟨rest, starts⟩ := List.head?_eq_some_iff.mp head
  obtain ⟨front, ends⟩ := List.getLast?_eq_some_iff.mp tail
  have kept : text.toList.dropWhile isSpace = text.toList := by
    rw [starts]
    exact dropWhile_cons_of_neg (Bool.eq_false_iff.mp solid)
  have back : (text.toList.reverse.dropWhile isSpace).reverse = text.toList := by
    rw [ends, reverse_append, reverse_singleton, singleton_append,
      dropWhile_cons_of_neg (Bool.eq_false_iff.mp closed), reverse_cons,
      reverse_reverse]
  rw [strip, toList_ofList, kept, back]

/-- `${inside}` is one reference. -/
theorem ConditionEvaluator.matchReference_enclosed {inside : List Char} (filled : inside ≠ [])
    (closed : '\x7d' ∉ inside) :
    matchReference ('$' :: '\x7b' :: (inside ++ ['\x7d'])) = some (String.ofList inside, []) := by
  have inner : ∀ c, c ∈ inside → decide (c ≠ '\x7d') = true := fun c member =>
    decide_eq_true fun same => closed (same ▸ member)
  have taken : (inside ++ ['\x7d']).takeWhile (fun c => c ≠ '\x7d') = inside := by
    rw [takeWhile_append_of_pos inner, takeWhile_cons_of_neg (by decide), append_nil]
  have left : (inside ++ ['\x7d']).dropWhile (fun c => c ≠ '\x7d') = ['\x7d'] := by
    rw [dropWhile_append_of_pos inner, dropWhile_cons_of_neg (by decide)]
  rw [matchReference, left, taken]
  dsimp only
  rw [if_neg]
  rw [List.isEmpty_iff]
  exact filled

theorem strip_enclosed (inside : List Char) :
    strip (String.ofList ('$' :: '\x7b' :: (inside ++ ['\x7d']))) =
      String.ofList ('$' :: '\x7b' :: (inside ++ ['\x7d'])) := by
  have solid : isSpace '$' = false := by decide
  have closed : isSpace '\x7d' = false := by decide
  apply strip_of_ends _ _ solid closed
  · rw [toList_ofList]
    rfl
  · rw [toList_ofList, ← cons_append, ← cons_append, List.getLast?_concat]

theorem isSegmentChar_solid {c : Char} (plain : isSegmentChar c = true) : isSpace c = false := by
  have parts := (Bool.and_eq_true _ _).mp plain
  exact Bool.not_eq_true' _ ▸ parts.2

theorem isSegmentChar_key {c : Char} (plain : isSegmentChar c = true) : isKeyChar c = true :=
  ((Bool.and_eq_true _ _).mp ((Bool.and_eq_true _ _).mp plain).1).1

theorem isSegmentChar_dot {c : Char} (plain : isSegmentChar c = true) : c ≠ '.' :=
  of_decide_eq_true ((Bool.and_eq_true _ _).mp ((Bool.and_eq_true _ _).mp plain).1).2

theorem isKeyChar_apart {c special : Char} (plain : isKeyChar c = true)
    (excluded : special ∈ ['\'', '\x22', '\x5c', '(', ')', '[', ']', '\x7b', '\x7d']) :
    c ≠ special := by
  intro same
  subst same
  exact of_decide_eq_true plain excluded

theorem isDigit_key {c : Char} (digit : c.isDigit = true) : isKeyChar c = true := by
  apply decide_eq_true
  intro special
  simp only [List.mem_cons, not_mem_nil, or_false] at special
  rcases special with same | same | same | same | same | same | same | same | same
  all_goals
    rw [same] at digit
    exact absurd digit (by decide)

theorem isDigit_solid {c : Char} (digit : c.isDigit = true) : isSpace c = false := by
  have range := (Bool.and_eq_true _ _).mp digit
  have least : 48 ≤ c.toNat := of_decide_eq_true range.1
  have most : c.toNat ≤ 57 := of_decide_eq_true range.2
  apply decide_eq_false
  omega

/-! ### Cutting the text -/

theorem parsePathFrom_name {tokens : List PathToken} {buffer name rest : List Char}
    (plain : ∀ c, c ∈ name → c ≠ '.' ∧ c ≠ '[') :
    parsePathFrom tokens buffer none (name ++ rest) =
      parsePathFrom tokens (buffer ++ name) none rest := by
  induction name generalizing buffer with
  | nil => rw [nil_append, append_nil]
  | cons c more ih =>
      obtain ⟨dot, bracket⟩ := plain c mem_cons_self
      rw [cons_append, parsePathFrom, if_neg dot, if_neg bracket,
        ih fun other member => plain other (mem_cons_of_mem _ member), append_assoc,
        singleton_append]

theorem parsePathFrom_inside {tokens : List PathToken} {buffer before inside rest : List Char}
    (plain : ∀ c, c ∈ inside → c ≠ ']') :
    parsePathFrom tokens buffer (some before) (inside ++ ']' :: rest) =
      parsePathFrom
        (tokens ++ [coerceIndexToken (strip (String.ofList (before ++ inside))).toList]) [] none
        rest := by
  induction inside generalizing before with
  | nil => rw [nil_append, append_nil, parsePathFrom, if_pos rfl]
  | cons c more ih =>
      rw [cons_append, parsePathFrom, if_neg (plain c mem_cons_self),
        ih fun other member => plain other (mem_cons_of_mem _ member), append_assoc,
        singleton_append]

theorem digits?_of_plain {digits : List Char} (some_ : digits ≠ [])
    (all : digits.all Char.isDigit = true) :
    digits? digits = some (Segment.magnitude digits) := by
  cases digits with
  | nil => exact absurd rfl some_
  | cons d more =>
      have read : digits? (d :: more) =
          some ((d :: more).foldl (fun number digit =>
            10 * number + (digit.toNat - '0'.toNat)) 0) := if_pos all
      rw [Segment.magnitude, read, Option.getD_some]

theorem indexText?_of_plain {negative : Bool} {digits : List Char} (some_ : digits ≠ [])
    (all : digits.all Char.isDigit = true) :
    indexText? (Segment.index negative digits).inside =
      some (Segment.position negative digits) := by
  have read := digits?_of_plain some_ all
  cases negative with
  | true =>
      change (digits? digits).map (fun number => -(number : Int)) = _
      rw [read]
      rfl
  | false =>
      cases digits with
      | nil => exact absurd rfl some_
      | cons d more =>
          have digit : d.isDigit = true := ((Bool.and_eq_true _ _).mp all).1
          change indexText? (d :: more) = _
          unfold indexText?
          split
          · rename_i rest same
            cases same
            exact absurd digit (by decide)
          · rename_i rest same
            cases same
            exact absurd digit (by decide)
          · rw [read]
            rfl

theorem coerceIndexToken_plain {segment : Segment} (plain : segment.Plain)
    (bracket : ∀ name, segment ≠ .field name) :
    coerceIndexToken (strip (String.ofList segment.inside)).toList = segment.token := by
  cases segment with
  | field name => exact absurd rfl (bracket name)
  | key double name =>
      have quote : isSpace (quoteOf double) = false := by
        cases double with
        | true | false => decide
      have kept : strip (String.ofList (Segment.key double name).inside) =
          String.ofList (Segment.key double name).inside := by
        apply strip_of_ends _ _ quote quote
        · rw [toList_ofList]
          rfl
        · rw [toList_ofList, Segment.inside, ← cons_append, List.getLast?_concat]
      have marked : (quoteOf double = '\'' ∨ quoteOf double = '\x22') := by
        cases double with
        | true => exact .inr rfl
        | false => exact .inl rfl
      rw [kept, toList_ofList, Segment.inside, coerceIndexToken]
      have last : (quoteOf double :: (name.toList ++ [quoteOf double])).getLast? =
          some (quoteOf double) := by
        rw [← cons_append, List.getLast?_concat]
      rw [List.head?_cons, last]
      simp [marked, Segment.token]
  | index negative digits =>
      obtain ⟨some_, all⟩ := plain
      have solid : ∀ c, c ∈ (Segment.index negative digits).inside →
          isSpace c = false ∧ c ≠ '\'' ∧ c ≠ '\x22' := by
        intro c member
        have digit : c = '-' ∨ c.isDigit = true := by
          cases negative with
          | true =>
              rcases List.mem_cons.mp member with same | later
              · exact .inl same
              · exact .inr (all_eq_true.mp all c later)
          | false => exact .inr (all_eq_true.mp all c member)
        rcases digit with same | digit
        · rw [same]
          decide
        · have key := isDigit_key digit
          refine ⟨isDigit_solid digit, isKeyChar_apart key ?_, isKeyChar_apart key ?_⟩
          · decide
          · decide
      have filled : (Segment.index negative digits).inside ≠ [] := by
        cases negative with
        | true => exact cons_ne_nil _ _
        | false => exact some_
      obtain ⟨first, rest, starts⟩ := exists_cons_of_ne_nil filled
      have head : first ∈ (Segment.index negative digits).inside := by
        rw [starts]
        exact mem_cons_self
      have kept : strip (String.ofList (Segment.index negative digits).inside) =
          String.ofList (Segment.index negative digits).inside := by
        apply strip_of_ends _ _ (solid first head).1
          (solid _ (getLast_mem filled)).1
        · rw [toList_ofList, starts]
          rfl
        · rw [toList_ofList]
          exact List.getLast?_eq_some_getLast filled
      have unquoted : ∀ quote, quote = '\'' ∨ quote = '\x22' →
          (Segment.index negative digits).inside.head? ≠ some quote := by
        intro quote either
        rw [starts, List.head?_cons, ne_eq, Option.some.injEq]
        rcases either with same | same
        · rw [same]
          exact (solid first head).2.1
        · rw [same]
          exact (solid first head).2.2
      rw [kept, toList_ofList]
      unfold coerceIndexToken
      dsimp only
      split
      · rename_i marked
        have quoted := (Bool.or_eq_true _ _).mp ((Bool.and_eq_true _ _).mp marked).1
        rcases quoted with single | double
        · exact absurd (of_decide_eq_true single) (unquoted _ (.inl rfl))
        · exact absurd (of_decide_eq_true double) (unquoted _ (.inr rfl))
      · rw [indexText?_of_plain some_ all]
        rfl

theorem inside_apart {segment : Segment} (plain : segment.Plain) {special c : Char}
    (excluded : special ∈ ['(', ')', '[', ']', '\x7b', '\x7d']) (member : c ∈ segment.inside) :
    c ≠ special := by
  have listed : special ∈ ['\'', '\x22', '\x5c', '(', ')', '[', ']', '\x7b', '\x7d'] :=
    mem_append_right ['\'', '\x22', '\x5c'] excluded
  have ends : c = '-' ∨ c = '\'' ∨ c = '\x22' → c ≠ special := by
    intro mark same
    subst same
    rcases mark with same | same | same
    all_goals
      rw [same] at excluded
      exact absurd excluded (by decide)
  cases segment with
  | field name => exact isKeyChar_apart (isSegmentChar_key (plain.2 c member)) listed
  | index negative digits =>
      have digit : c = '-' ∨ c.isDigit = true := by
        cases negative with
        | true =>
            rcases List.mem_cons.mp member with same | later
            · exact .inl same
            · exact .inr (all_eq_true.mp plain.2 c later)
        | false => exact .inr (all_eq_true.mp plain.2 c member)
      rcases digit with same | digit
      · exact ends (.inl same)
      · exact isKeyChar_apart (isDigit_key digit) listed
  | key double name =>
      have quote : quoteOf double = '\'' ∨ quoteOf double = '\x22' := by
        cases double with
        | true => exact .inr rfl
        | false => exact .inl rfl
      rcases List.mem_cons.mp member with same | later
      · exact ends (.inr (same ▸ quote))
      · rcases mem_append.mp later with inner | last
        · exact isKeyChar_apart (plain c inner) listed
        · exact ends (.inr (mem_singleton.mp last ▸ quote))

theorem parsePathFrom_segments {segments : List Segment}
    (plain : ∀ segment, segment ∈ segments → segment.Plain) (tokens : List PathToken)
    (buffer : List Char) :
    parsePathFrom tokens buffer none (segments.flatMap Segment.text) =
      tokens ++ flush buffer ++ segments.map Segment.token := by
  induction segments generalizing tokens buffer with
  | nil => rw [flatMap_nil, parsePathFrom, map_nil, append_nil]
  | cons segment rest ih =>
      have own := plain segment mem_cons_self
      have later := ih fun other member => plain other (mem_cons_of_mem _ member)
      rw [flatMap_cons, map_cons]
      by_cases dotted : ∃ name, segment = .field name
      · obtain ⟨name, rfl⟩ := dotted
        obtain ⟨some_, chars⟩ := own
        have open_ : ∀ c, c ∈ name.toList → c ≠ '.' ∧ c ≠ '[' := by
          intro c member
          have named := chars c member
          exact ⟨isSegmentChar_dot named, isKeyChar_apart (isSegmentChar_key named) (by decide)⟩
        have filled : flush name.toList = [.name name] := by
          rw [flush, if_neg, String.ofList_toList]
          intro empty
          exact some_ (toList_eq_nil_iff.mp (List.isEmpty_iff.mp empty))
        rw [Segment.text, cons_append, parsePathFrom, if_pos rfl, parsePathFrom_name open_,
          nil_append, later, filled, Segment.token,
          append_assoc, singleton_append]
      · have bracket : ∀ name, segment ≠ .field name := fun name same => dotted ⟨name, same⟩
        have shape : segment.text = '[' :: (segment.inside ++ [']']) := by
          cases segment with
          | field name => exact absurd rfl (bracket name)
          | index negative digits | key double name => rfl
        have closed : ∀ c, c ∈ segment.inside → c ≠ ']' :=
          fun c member => inside_apart own (by decide) member
        rw [shape, cons_append, append_assoc, singleton_append, parsePathFrom,
          if_neg (by decide), if_pos rfl, parsePathFrom_inside closed, nil_append,
          coerceIndexToken_plain own bracket, later]
        simp [flush]

namespace PlainPath

variable (path : PlainPath)

theorem parsePath_text : parsePath path.text = path.tokens := by
  have named : ∀ c, c ∈ path.root.toList → c ≠ '.' ∧ c ≠ '[' := by
    intro c member
    have plain := path.root_plain.2 c member
    exact ⟨isSegmentChar_dot plain, isKeyChar_apart (isSegmentChar_key plain) (by decide)⟩
  have filled : flush path.root.toList = [.name path.root] := by
    rw [flush, if_neg, String.ofList_toList]
    intro empty
    exact path.root_plain.1 (toList_eq_nil_iff.mp (List.isEmpty_iff.mp empty))
  rw [parsePath, text, toList_ofList, chars, parsePathFrom_name named, nil_append,
    parsePathFrom_segments path.segments_plain, filled]
  rfl

theorem chars_apart {special c : Char} (excluded : special ∈ ['(', ')', '\x7b', '\x7d'])
    (member : c ∈ path.chars) : c ≠ special := by
  have listed : special ∈ ['(', ')', '[', ']', '\x7b', '\x7d'] := by
    simp only [List.mem_cons, not_mem_nil, or_false] at excluded ⊢
    rcases excluded with same | same | same | same
    · exact .inl same
    · exact .inr (.inl same)
    · exact .inr (.inr (.inr (.inr (.inl same))))
    · exact .inr (.inr (.inr (.inr (.inr same))))
  have marks : c = '.' ∨ c = '[' ∨ c = ']' → c ≠ special := by
    intro mark same
    subst same
    rcases mark with same | same | same
    all_goals
      rw [same] at excluded
      exact absurd excluded (by decide)
  rcases mem_append.mp member with root | behind
  · have plain := isSegmentChar_key (path.root_plain.2 c root)
    exact isKeyChar_apart plain (mem_append_right ['\'', '\x22', '\x5c'] listed)
  · obtain ⟨segment, inPath, inside⟩ := mem_flatMap.mp behind
    have plain := path.segments_plain segment inPath
    have bracketed : c ∈ '[' :: (segment.inside ++ [']']) → c ≠ special := by
      intro own
      rcases List.mem_cons.mp own with same | later
      · exact marks (.inr (.inl same))
      · rcases mem_append.mp later with inner | last
        · exact inside_apart plain listed inner
        · exact marks (.inr (.inr (mem_singleton.mp last)))
    cases segment with
    | field name =>
        rcases List.mem_cons.mp inside with same | inner
        · exact marks (.inl same)
        · have key := isSegmentChar_key (plain.2 c inner)
          exact isKeyChar_apart key (mem_append_right ['\'', '\x22', '\x5c'] listed)
    | index negative digits | key double name => exact bracketed inside

theorem getLast?_name {name : String} (plain : PlainName name) (front : List Char) :
    ∃ last, (front ++ name.toList).getLast? = some last ∧ isSpace last = false := by
  have filled : name.toList ≠ [] := fun empty => plain.1 (toList_eq_nil_iff.mp empty)
  refine ⟨name.toList.getLast filled, ?_, ?_⟩
  · rw [List.getLast?_append_of_ne_nil _ filled, List.getLast?_eq_some_getLast filled]
  · exact isSegmentChar_solid (plain.2 _ (getLast_mem filled))

theorem getLast?_chars : ∃ last, path.chars.getLast? = some last ∧ isSpace last = false := by
  rw [chars]
  rcases eq_nil_or_concat path.segments with none_ | ⟨front, segment, split⟩
  · have ends := getLast?_name path.root_plain []
    rw [none_, flatMap_nil, append_nil]
    exact ends
  · have plain : segment.Plain := by
      apply path.segments_plain
      rw [split, concat_eq_append]
      exact mem_concat_self
    rw [split, concat_eq_append, flatMap_append, flatMap_singleton, ← append_assoc]
    cases segment with
    | field name =>
        have shape : (Segment.field name).text = ['.'] ++ name.toList := rfl
        rw [shape, ← append_assoc]
        exact getLast?_name plain _
    | index negative digits | key double name =>
        refine ⟨']', ?_, by decide⟩
        rw [Segment.text, ← cons_append, ← append_assoc, List.getLast?_concat]
        intro name impossible
        cases impossible

theorem strip_text : strip path.text = path.text := by
  obtain ⟨last, ends, closed⟩ := path.getLast?_chars
  cases start : path.root.toList with
  | nil => exact absurd (toList_eq_nil_iff.mp start) path.root_plain.1
  | cons first rest =>
      have plain := path.root_plain.2 first (start ▸ mem_cons_self)
      apply strip_of_ends _ _ (isSegmentChar_solid plain) closed
      · rw [text, toList_ofList, chars, start]
        rfl
      · rw [text, toList_ofList]
        exact ends

/-- `${path}` -/
def reference : String := String.ofList ('$' :: '\x7b' :: (path.chars ++ ['\x7d']))

theorem chars_ne_nil : path.chars ≠ [] := by
  intro empty
  have root := (append_eq_nil_iff.mp empty).1
  exact path.root_plain.1 (toList_eq_nil_iff.mp root)

theorem matchReference_reference :
    matchReference path.reference.toList = some (path.text, []) := by
  rw [reference, toList_ofList]
  exact matchReference_enclosed path.chars_ne_nil fun member =>
    path.chars_apart (by decide) member rfl

theorem strip_reference : strip path.reference = path.reference := strip_enclosed path.chars

theorem prepare_reference {identical : Operand → Operand → Bool}
    {methods : Operand → String → Option Nat} {format : Operand → Operand → Except Fault Operand}
    {parse : String → Option AstNode} {repr : Operand → String}
    {results : List (String × StepResultView)} {allVariables : List (String × Operand)} :
    prepare identical methods format parse repr results allVariables
      path.reference = .ok path.text := by
  unfold prepare
  dsimp only
  rw [path.strip_reference, path.matchReference_reference]
  dsimp only
  rw [path.strip_text]

theorem not_called : '(' ∉ path.text.toList := by
  rw [text, toList_ofList]
  intro member
  exact path.chars_apart mem_cons_self member rfl

end PlainPath

end AgenticRuntime
