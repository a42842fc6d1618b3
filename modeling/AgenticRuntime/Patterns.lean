/-
Regular expressions as a backtracking matcher reads them.

A pattern maps a place in a text to the places where it may end, the preferred one first.
Lines end in a newline.
-/

import Mathlib.Data.List.Basic

namespace Patterns

/-- A place in a text: the character in front of it, what is left, and what the groups took,
the last one first. -/
structure Cursor where
  before : Option Char
  rest : List Char
  groups : List (Nat × List Char)
  deriving DecidableEq, Repr

def Cursor.start (before : Option Char) (text : List Char) : Cursor := ⟨before, text, []⟩

def Cursor.group (cursor : Cursor) (index : Nat) : List Char :=
  ((cursor.groups.find? fun taken => taken.1 = index).map Prod.snd).getD []

inductive Pattern where
  | empty
  | char (accepts : Char → Bool)
  | lineStart
  | lineEnd
  | boundary (isWord : Char → Bool)
  | seq (first second : Pattern)
  | alt (first second : Pattern)
  | star (lazy : Bool) (inner : Pattern)
  | group (index : Nat) (inner : Pattern)

def again (run : Cursor → List Cursor) (lazy : Bool) : Nat → Cursor → List Cursor
  | 0, cursor => [cursor]
  | bound + 1, cursor =>
      let more := (run cursor).flatMap fun next =>
        if next.rest.length < cursor.rest.length then again run lazy bound next else []
      if lazy then cursor :: more else more ++ [cursor]

def Pattern.run : Pattern → Cursor → List Cursor
  | .empty, cursor => [cursor]
  | .char accepts, cursor =>
      match cursor.rest with
      | [] => []
      | c :: rest => if accepts c then [⟨some c, rest, cursor.groups⟩] else []
  | .lineStart, cursor => if cursor.before.all fun c => c = '\n' then [cursor] else []
  | .lineEnd, cursor => if cursor.rest.head?.all fun c => c = '\n' then [cursor] else []
  | .boundary isWord, cursor =>
      if cursor.before.any isWord ≠ cursor.rest.head?.any isWord then [cursor] else []
  | .seq first second, cursor => (first.run cursor).flatMap second.run
  | .alt first second, cursor => first.run cursor ++ second.run cursor
  | .star lazy inner, cursor => again inner.run lazy cursor.rest.length cursor
  | .group index inner, cursor => (inner.run cursor).map fun next =>
      { next with
        groups := (index, cursor.rest.take (cursor.rest.length - next.rest.length)) :: next.groups }

namespace Pattern

def any : Pattern := .char fun _ => true

def literal (same : Char → Char → Bool) (text : String) : Pattern :=
  text.toList.foldr (fun letter later => .seq (.char (same letter)) later) .empty

def sequence (patterns : List Pattern) : Pattern := patterns.foldr .seq .empty

def choice (first : Pattern) (others : List Pattern) : Pattern := others.foldl .alt first

def plus (lazy : Bool) (inner : Pattern) : Pattern := .seq inner (.star lazy inner)

def optional (inner : Pattern) : Pattern := .alt inner .empty

def find (pattern : Pattern) : Option Char → List Char → Option (List Char × Cursor)
  | before, [] => (pattern.run (.start before [])).head?.map fun cursor => ([], cursor)
  | before, c :: rest =>
      match (pattern.run (.start before (c :: rest))).head? with
      | some cursor => some ([], cursor)
      | none => (pattern.find (some c) rest).map fun found => (c :: found.1, found.2)

/-- The matches of a pattern that takes something, and what is left behind them. -/
def findAll (pattern : Pattern) :
    Nat → Option Char → List Char → List (List Char × Cursor) × List Char
  | 0, _, text => ([], text)
  | bound + 1, before, text =>
      match pattern.find before text with
      | none => ([], text)
      | some (skipped, cursor) =>
          let later := pattern.findAll bound cursor.before cursor.rest
          ((skipped, cursor) :: later.1, later.2)

/-- `re.finditer`, and what is left. -/
def finditer (pattern : Pattern) (text : List Char) : List (List Char × Cursor) × List Char :=
  pattern.findAll (text.length + 1) none text

/-- `re.search` -/
def occurs (pattern : Pattern) (text : List Char) : Bool := (pattern.find none text).isSome

end Pattern

end Patterns
