/-
Paths as texts, joined and normalised without a file system.

Both flavours split a text at their separator and collapse the segments; they differ in
what stands in front of the segments.
-/

import Mathlib.Data.List.DropRight
import Mathlib.Data.List.TakeWhile

namespace LexicalPaths

open List

/-! ### Segments -/

section

abbrev Segment := List Char

def Plain (segment : Segment) : Prop := segment ≠ [] ∧ segment ≠ ['.'] ∧ segment ≠ ['.', '.']

variable (rooted : Bool)

def read (kept : List Segment) (segment : Segment) : List Segment :=
  if segment = [] ∨ segment = ['.'] then kept
  else if segment = ['.', '.'] then
    match kept.getLast? with
    | none => if rooted then [] else [segment]
    | some last => if last = ['.', '.'] then kept ++ [segment] else kept.dropLast
  else kept ++ [segment]

def collapse (segments : List Segment) : List Segment := segments.foldl (read rooted) []

theorem read_plain {segment : Segment} (plain : Plain segment) (kept : List Segment) :
    read rooted kept segment = kept ++ [segment] := by
  obtain ⟨filled, here, parent⟩ := plain
  rw [read, if_neg (not_or.mpr ⟨filled, here⟩), if_neg parent]

theorem foldl_plain {below : List Segment} (plain : ∀ segment ∈ below, Plain segment)
    (kept : List Segment) : below.foldl (read rooted) kept = kept ++ below := by
  induction below generalizing kept with
  | nil => exact (append_nil kept).symm
  | cons segment rest ih =>
      have first := plain segment mem_cons_self
      have later := fun other listed => plain other (mem_cons_of_mem segment listed)
      rw [foldl_cons, read_plain rooted first, ih later, append_assoc]
      rfl

theorem collapse_append {below : List Segment} (plain : ∀ segment ∈ below, Plain segment)
    (segments : List Segment) :
    collapse rooted (segments ++ below) = collapse rooted segments ++ below := by
  rw [collapse, foldl_append, foldl_plain rooted plain]
  rfl

theorem collapse_blank (segments : List Segment) :
    collapse rooted (segments ++ [[]]) = collapse rooted segments := by
  rw [collapse, foldl_append]
  rfl

end

/-! ### Locations -/

structure Location where
  anchor : List Char
  segments : List Segment
  deriving DecidableEq, Repr

def Location.Inside (directory path : Location) : Prop :=
  path.anchor = directory.anchor ∧
    ∃ below, below ≠ [] ∧ (∀ segment ∈ below, Plain segment) ∧
      path.segments = directory.segments ++ below

section

variable (separator : Char)

def Names (path : List Char) : Prop := ∀ segment ∈ path.splitOn separator, Plain segment

def glue (directory path : List Char) : List Char :=
  if directory = [] ∨ directory.getLast? = some separator then directory ++ path
  else directory ++ separator :: path

variable {separator}

theorem mem_segment {text : List Char} {segment : Segment} {c : Char}
    (listed : segment ∈ text.splitOn separator) (inside : c ∈ segment) :
    c ∈ text ∧ c ≠ separator := by
  induction text generalizing segment with
  | nil =>
      rw [splitOn_nil] at listed
      rw [mem_singleton.mp listed] at inside
      cases inside
  | cons first rest ih =>
      rw [splitOn_cons_eq_if_modifyHead] at listed
      split at listed
      · rcases List.mem_cons.mp listed with empty | later
        · rw [empty] at inside
          cases inside
        · exact ⟨mem_cons_of_mem first (ih later inside).1, (ih later inside).2⟩
      · rename_i apart
        cases segments : rest.splitOn separator with
        | nil => exact absurd segments (splitOn_ne_nil separator rest)
        | cons head others =>
            rw [segments] at listed ih
            rcases List.mem_cons.mp listed with whole | later
            · rw [whole] at inside
              rcases List.mem_cons.mp inside with same | inner
              · subst same
                exact ⟨mem_cons_self, fun same => apart (beq_iff_eq.mpr same)⟩
              · have found := ih mem_cons_self inner
                exact ⟨mem_cons_of_mem first found.1, found.2⟩
            · have found := ih (mem_cons_of_mem head later) inside
              exact ⟨mem_cons_of_mem first found.1, found.2⟩

theorem splitOn_map (separator : Char) (make : Char → Char) {made : Char}
    (makes : make separator = made) (path : List Char) :
    (path.map make).splitOn made =
      (path.splitOn separator).flatMap fun segment => (segment.map make).splitOn made := by
  have joined : ∀ segments : List Segment, segments ≠ [] →
      (([separator].intercalate segments).map make).splitOn made =
        segments.flatMap fun segment => (segment.map make).splitOn made := by
    intro segments filled
    induction segments with
    | nil => exact absurd rfl filled
    | cons segment rest ih =>
        cases rest with
        | nil => rw [intercalate_singleton, flatMap_singleton]
        | cons next others =>
            have later := ih (cons_ne_nil next others)
            rw [intercalate_cons_cons, append_assoc, singleton_append, map_append, map_cons, makes,
              splitOn_append_cons_self, later]
            rfl
  have whole := joined (path.splitOn separator) (splitOn_ne_nil separator path)
  rwa [intercalate_splitOn] at whole

theorem Names.ne_nil {path : List Char} (names : Names separator path) : path ≠ [] := by
  intro empty
  subst empty
  exact (names [] mem_cons_self).1 rfl

theorem Names.head {path : List Char} (names : Names separator path) :
    path.head? ≠ some separator := by
  intro head
  obtain ⟨rest, rfl⟩ := List.head?_eq_some_iff.mp head
  have split := splitOn_append_cons_self (a := separator) [] rest
  have blank : [] ∈ (separator :: rest).splitOn separator := by
    rw [← nil_append (separator :: rest), split]
    exact mem_append_left _ mem_cons_self
  exact (names [] blank).1 rfl

theorem glue_head {directory : List Char} (filled : directory ≠ []) (path : List Char) :
    (glue separator directory path).head? = directory.head? := by
  obtain ⟨first, rest, rfl⟩ := exists_cons_of_ne_nil filled
  unfold glue
  split
  · rfl
  · rfl

theorem glue_nil (path : List Char) : glue separator [] path = path := by
  rw [glue, if_pos (.inl rfl), nil_append]

theorem glue_head_ne {directory path : List Char} (apart : directory.head? ≠ some separator)
    (names : Names separator path) : (glue separator directory path).head? ≠ some separator := by
  by_cases empty : directory = []
  · rw [empty, glue_nil]
    exact names.head
  · rw [glue_head empty]
    exact apart

theorem glue_closed (front path : List Char) :
    glue separator (front ++ [separator]) path = front ++ separator :: path := by
  rw [glue, if_pos (.inr (List.getLast?_concat)), append_assoc, singleton_append]

theorem glue_eq_append (directory path : List Char) :
    ∃ more, glue separator directory path = directory ++ more := by
  unfold glue
  split
  · exact ⟨path, rfl⟩
  · exact ⟨separator :: path, rfl⟩

theorem collapse_glue (tidy : Segment → Segment) (blank : tidy [] = []) {path : List Char}
    (names : Names separator path)
    (tidied : ∀ segment ∈ path.splitOn separator, tidy segment = segment) (rooted : Bool)
    (directory : List Char) :
    collapse rooted (((glue separator directory path).splitOn separator).map tidy) =
      collapse rooted ((directory.splitOn separator).map tidy) ++ path.splitOn separator := by
  have below : (path.splitOn separator).map tidy = path.splitOn separator :=
    (map_congr_left tidied).trans (map_id _)
  unfold glue
  split
  · rename_i closed
    rcases closed with rfl | closed
    · rw [nil_append, below, splitOn_nil, map_singleton, blank]
      exact foldl_plain rooted names []
    · obtain ⟨front, rfl⟩ := List.getLast?_eq_some_iff.mp closed
      rw [append_assoc, singleton_append, splitOn_append_cons_self, splitOn_append_cons_self,
        splitOn_nil, map_append, map_append, below,
        map_singleton, blank, collapse_blank, collapse_append rooted names]
  · rw [splitOn_append_cons_self, map_append, below, collapse_append rooted names]

end

/-! ### POSIX -/

namespace Posix

def join (directory path : List Char) : List Char :=
  if path.head? = some '/' then path else glue '/' directory path

def slashes (path : List Char) : Nat :=
  if path.head? ≠ some '/' then 0
  else if path.tail.head? = some '/' ∧ path.tail.tail.head? ≠ some '/' then 2
  else 1

def normalize (path : List Char) : Location where
  anchor := List.replicate (slashes path) '/'
  segments := collapse (slashes path ≠ 0) (path.splitOn '/')

theorem slashes_relative {path : List Char} (relative : path.head? ≠ some '/') :
    slashes path = 0 := if_pos relative

theorem slashes_glue {path : List Char} (names : Names '/' path) (directory : List Char) :
    slashes (glue '/' directory path) = slashes directory := by
  have apart := names.head
  match directory with
  | [] =>
      rw [glue_nil]
      exact slashes_relative apart
  | [first] =>
      by_cases slash : first = '/'
      · subst slash
        have closed : glue '/' ['/'] path = '/' :: path := glue_closed [] path
        rw [closed]
        exact (if_neg (not_not.mpr rfl)).trans (if_neg fun both => apart both.1)
      · have stays : some first ≠ some '/' := fun same => slash (Option.some.inj same)
        have glued : (glue '/' [first] path).head? = some first := glue_head (by simp) path
        have own : slashes [first] = 0 := if_pos stays
        rw [slashes_relative (glued ▸ stays), own]
  | [first, second] =>
      by_cases slash : second = '/'
      · subst slash
        have closed : glue '/' [first, '/'] path = first :: '/' :: path := glue_closed [first] path
        rw [closed]
        by_cases absolute : first = '/'
        · subst absolute
          exact (if_neg (not_not.mpr rfl)).trans (if_pos ⟨rfl, apart⟩)
        · have stays : some first ≠ some '/' := fun same => absolute (Option.some.inj same)
          exact (if_pos stays).trans (if_pos stays).symm
      · have stays : some second ≠ some '/' := fun same => slash (Option.some.inj same)
        unfold glue slashes
        split
        · simp [stays]
        · simp [stays]
  | first :: second :: third :: rest =>
      unfold glue
      split
      · rfl
      · rfl

theorem join_inside {path : List Char} (names : Names '/' path) (directory : List Char) :
    (normalize directory).Inside (normalize (join directory path)) := by
  have split := collapse_glue id rfl names (fun _ _ => rfl)
    (slashes directory ≠ 0) directory
  rw [map_id, map_id] at split
  rw [join, if_neg names.head]
  constructor
  · exact congrArg (List.replicate · '/') (slashes_glue names directory)
  · refine ⟨path.splitOn '/', splitOn_ne_nil _ _, names, ?_⟩
    unfold normalize
    rw [slashes_glue names]
    exact split

end Posix

/-! ### Windows -/

namespace Windows

def toBackslash (c : Char) : Char := if c = '/' then '\\' else c

def unify (text : List Char) : List Char := text.map toBackslash

structure Anchored where
  drive : List Char
  root : List Char
  rest : List Char
  deriving DecidableEq, Repr

def opening : List Char := "\\\\?\\UNC\\".toList

def uncLength (path : List Char) : Nat :=
  if (path.take 8).map Char.toUpper = opening then 8 else 2

def splitShare (start body : List Char) : Anchored :=
  match body.dropWhile (· ≠ '\\') with
  | [] => ⟨start ++ body, [], []⟩
  | mark :: named =>
      match named.dropWhile (· ≠ '\\') with
      | [] => ⟨start ++ body, [], []⟩
      | second :: rest =>
          ⟨start ++ (body.takeWhile (· ≠ '\\') ++ mark :: named.takeWhile (· ≠ '\\')), [second],
            rest⟩

def splitRoot (path : List Char) : Anchored :=
  if path.head? = some '\\' then
    if path.tail.head? = some '\\' then
      splitShare (path.take (uncLength path)) (path.drop (uncLength path))
    else ⟨[], ['\\'], path.tail⟩
  else if path.tail.head? = some ':' then
    if (path.drop 2).head? = some '\\' then ⟨path.take 2, ['\\'], path.drop 3⟩
    else ⟨path.take 2, [], path.drop 2⟩
  else ⟨[], [], path⟩

def attach (drive root rest : List Char) : List Char :=
  if rest ≠ [] ∧ root = [] ∧ drive ≠ [] ∧ drive.getLast? ≠ some ':' ∧
      drive.getLast? ≠ some '\\' then
    drive ++ '\\' :: rest
  else drive ++ root ++ rest

def join (directory path : List Char) : List Char :=
  let first := splitRoot directory
  let second := splitRoot path
  if second.root ≠ [] then
    attach (if second.drive ≠ [] ∨ first.drive = [] then second.drive else first.drive)
      second.root second.rest
  else if second.drive ≠ [] ∧ second.drive.map Char.toLower ≠ first.drive.map Char.toLower then
    attach second.drive second.root second.rest
  else
    attach (if second.drive ≠ [] then second.drive else first.drive) first.root
      (glue '\\' first.rest second.rest)

def trim (segment : Segment) : Segment :=
  if segment = ['.'] ∨ segment = ['.', '.'] then segment
  else segment.rdropWhile fun c => c = '.' ∨ c = ' '

def normalize (tidy : Segment → Segment) (path : List Char) : Location :=
  let parts := splitRoot path
  let root := if parts.drive.head? = some '\\' then ['\\'] else parts.root
  ⟨parts.drive ++ root, collapse (root ≠ []) ((parts.rest.splitOn '\\').map tidy)⟩

def Shares (body : List Char) : Prop :=
  ∃ server share last, body = server ++ '\\' :: share ∧ '\\' ∉ server ∧ '\\' ∉ share ∧
    share.getLast? = some last ∧ last ≠ ':'

/-- The text of a directory; one that starts as a UNC path names a share. -/
structure Directory where
  text : List Char
  whole : text.head? = some '\\' → text.tail.head? = some '\\' →
    ¬ text.map Char.toUpper <+: opening ∧
      ((splitRoot text).root ≠ [] ∨ Shares (text.drop (uncLength text)))

theorem trim_of_closed {segment : Segment} {last : Char} (ends : segment.getLast? = some last)
    (closed : ¬ (last = '.' ∨ last = ' ')) : trim segment = segment := by
  obtain ⟨front, rfl⟩ := List.getLast?_eq_some_iff.mp ends
  unfold trim
  split
  · rfl
  · exact rdropWhile_concat_neg _ _ _ fun trimmed => closed (of_decide_eq_true trimmed)

theorem mark_behind {name : List Char} (unmarked : '\\' ∉ name) (rest : List Char) :
    (name ++ '\\' :: rest).takeWhile (· ≠ '\\') = name ∧
      (name ++ '\\' :: rest).dropWhile (· ≠ '\\') = '\\' :: rest := by
  have all : ∀ c, c ∈ name → decide (c ≠ '\\') = true :=
    fun c listed => decide_eq_true fun same => unmarked (same ▸ listed)
  rw [takeWhile_append_of_pos all, dropWhile_append_of_pos all]
  exact ⟨append_nil name, rfl⟩

variable {text path : List Char}

theorem exists_mark {rest : List Char} {mark : Char}
    (left : text.dropWhile (· ≠ '\\') = mark :: rest) :
    ∃ name, '\\' ∉ name ∧ text = name ++ '\\' :: rest := by
  induction text with
  | nil => cases left
  | cons c more ih =>
      by_cases same : c = '\\'
      · subst same
        cases left
        exact ⟨[], not_mem_nil, rfl⟩
      · have dropped : (c :: more).dropWhile (· ≠ '\\') = more.dropWhile (· ≠ '\\') :=
          dropWhile_cons_of_pos (decide_eq_true same)
        rw [dropped] at left
        obtain ⟨name, unmarked, shape⟩ := ih left
        refine ⟨c :: name, ?_, by rw [shape]; rfl⟩
        intro listed
        rcases List.mem_cons.mp listed with first | later
        · exact same first.symm
        · exact unmarked later

theorem splitShare_named {server share : List Char} (first : '\\' ∉ server)
    (second : '\\' ∉ share) (start rest : List Char) :
    splitShare start (server ++ '\\' :: (share ++ '\\' :: rest)) =
      ⟨start ++ (server ++ '\\' :: share), ['\\'], rest⟩ := by
  obtain ⟨taken, left⟩ := mark_behind first (share ++ '\\' :: rest)
  obtain ⟨named, behind⟩ := mark_behind second rest
  rw [splitShare, left]
  dsimp only
  rw [behind, taken]
  dsimp only
  rw [named]

theorem splitShare_rooted {start body : List Char} (rooted : (splitShare start body).root ≠ []) :
    ∃ server share rest, '\\' ∉ server ∧ '\\' ∉ share ∧
      body = server ++ '\\' :: (share ++ '\\' :: rest) := by
  unfold splitShare at rooted
  split at rooted
  · exact absurd rfl rooted
  · rename_i mark named left
    split at rooted
    · exact absurd rfl rooted
    · rename_i second rest behind
      obtain ⟨server, first, shape⟩ := exists_mark left
      obtain ⟨share, second, inner⟩ := exists_mark behind
      exact ⟨server, share, rest, first, second, by rw [shape, inner]⟩

theorem uncLength_append (apart : ¬ text.map Char.toUpper <+: opening) (more : List Char) :
    uncLength (text ++ more) = uncLength text := by
  have same : (((text ++ more).take 8).map Char.toUpper = opening) =
      ((text.take 8).map Char.toUpper = opening) := by
    by_cases long : 8 ≤ text.length
    · rw [take_append_of_le_length long]
    · have short : text.take 8 = text := take_of_length_le (by omega)
      apply propext
      constructor
      · intro opens
        rw [take_append, short, map_append] at opens
        exact absurd ⟨_, opens⟩ apart
      · intro opens
        rw [short] at opens
        exact absurd (opens ▸ prefix_rfl) apart
  rw [uncLength, uncLength]
  exact if_congr (iff_of_eq same) rfl rfl

theorem uncLength_le (first : text.head? = some '\\') (second : text.tail.head? = some '\\') :
    uncLength text ≤ text.length := by
  unfold uncLength
  split
  · rename_i opens
    have lengths := congrArg List.length opens
    rw [length_map, length_take] at lengths
    have eight : opening.length = 8 := rfl
    omega
  · match text with
    | [] => cases first
    | [c] => cases second
    | c :: d :: rest => simp

theorem splitRoot_share (first : text.head? = some '\\') (second : text.tail.head? = some '\\') :
    splitRoot text =
      splitShare (text.take (uncLength text)) (text.drop (uncLength text)) := by
  rw [splitRoot, if_pos first, if_pos second]

theorem splitRoot_share_append (first : text.head? = some '\\')
    (second : text.tail.head? = some '\\') (apart : ¬ text.map Char.toUpper <+: opening)
    (more : List Char) :
    splitRoot (text ++ more) =
      splitShare (text.take (uncLength text)) (text.drop (uncLength text) ++ more) := by
  have bound := uncLength_le first second
  have heads : (text ++ more).head? = some '\\' ∧ (text ++ more).tail.head? = some '\\' := by
    match text with
    | [] => cases first
    | [c] => cases second
    | c :: d :: rest => exact ⟨first, second⟩
  rw [splitRoot_share heads.1 heads.2, uncLength_append apart, take_append_of_le_length bound,
    drop_append_of_le_length bound]

theorem splitShare_open {server share : List Char} (first : '\\' ∉ server)
    (second : '\\' ∉ share) (start : List Char) :
    splitShare start (server ++ '\\' :: share) =
      ⟨start ++ (server ++ '\\' :: share), [], []⟩ := by
  have nothing : share.dropWhile (· ≠ '\\') = [] :=
    dropWhile_eq_nil_iff.mpr fun c listed =>
      decide_eq_true fun same => second (same ▸ listed)
  rw [splitShare, (mark_behind first share).2]
  dsimp only
  rw [nothing]

theorem attach_rooted {root : List Char} (rooted : root ≠ []) (drive rest : List Char) :
    attach drive root rest = drive ++ root ++ rest :=
  if_neg fun both => rooted both.2.1

theorem splitRoot_names (names : Names '\\' path) (unmarked : ':' ∉ path) :
    splitRoot path = ⟨[], [], path⟩ := by
  have apart : path.tail.head? ≠ some ':' := by
    intro head
    exact unmarked (mem_of_mem_tail (mem_of_mem_head? head))
  rw [splitRoot, if_neg names.head, if_neg apart]

theorem join_names (names : Names '\\' path) (unmarked : ':' ∉ path) (directory : List Char) :
    join directory path =
      attach (splitRoot directory).drive (splitRoot directory).root
        (glue '\\' (splitRoot directory).rest path) := by
  rw [join, splitRoot_names names unmarked]
  rfl

theorem splitRoot_join_share (names : Names '\\' path) (unmarked : ':' ∉ path)
    (directory : Directory) (first : directory.text.head? = some '\\')
    (second : directory.text.tail.head? = some '\\') :
    ∃ root, splitRoot (join directory.text path) =
        ⟨(splitRoot directory.text).drive, root, glue '\\' (splitRoot directory.text).rest path⟩ ∧
      (splitRoot directory.text).drive.head? = some '\\' := by
  obtain ⟨apart, whole⟩ := directory.whole first second
  have parts := splitRoot_share first second
  have joined := splitRoot_share_append first second apart
  have shape := take_append_drop (uncLength directory.text) directory.text
  have opened : (directory.text.take (uncLength directory.text)).head? = some '\\' := by
    rw [List.head?_take, first]
    exact if_neg (by unfold uncLength; split <;> decide)
  rw [join_names names unmarked]
  rw [parts] at whole
  generalize directory.text.take (uncLength directory.text) = start at *
  generalize directory.text.drop (uncLength directory.text) = body at *
  have headed : ∀ more, (start ++ more).head? = some '\\' := by
    intro more
    rw [List.head?_append, opened]
    rfl
  rcases whole with rooted | ⟨server, share, last, rfl, unserved, unshared, ends, apart⟩
  · obtain ⟨server, share, rest, unserved, unshared, rfl⟩ := splitShare_rooted rooted
    rw [splitShare_named unserved unshared] at parts
    obtain ⟨more, glued⟩ : ∃ more, glue '\\' rest path = rest ++ more := glue_eq_append rest path
    have text : start ++ (server ++ '\\' :: share) ++ ['\\'] ++ (rest ++ more) =
        directory.text ++ more := by
      rw [← shape]
      simp
    have named : server ++ '\\' :: (share ++ '\\' :: rest) ++ more =
        server ++ '\\' :: (share ++ '\\' :: (rest ++ more)) := by
      simp
    rw [parts]
    dsimp only
    rw [attach_rooted (cons_ne_nil _ _), glued, text, joined, named,
      splitShare_named unserved unshared]
    exact ⟨_, rfl, headed _⟩
  · rw [splitShare_open unserved unshared, shape] at parts
    have closing : directory.text.getLast? = some last := by
      obtain ⟨front, rfl⟩ := List.getLast?_eq_some_iff.mp ends
      rw [← shape, ← cons_append, ← append_assoc, ← append_assoc]
      exact List.getLast?_concat
    have filled : directory.text ≠ [] := by
      intro empty
      rw [empty] at first
      cases first
    have marked : directory.text.getLast? ≠ some ':' ∧ directory.text.getLast? ≠ some '\\' := by
      rw [closing]
      constructor
      · exact fun same => apart (Option.some.inj same)
      · exact fun same => unshared (Option.some.inj same ▸ mem_of_getLast? ends)
    have separated : attach directory.text [] path = directory.text ++ '\\' :: path :=
      if_pos ⟨names.ne_nil, rfl, filled, marked⟩
    rw [parts]
    dsimp only
    rw [glue_nil, separated, joined, append_assoc, cons_append, splitShare_named unserved unshared,
      shape]
    exact ⟨_, rfl, first⟩

theorem splitRoot_rooted {rest : List Char} (apart : rest.head? ≠ some '\\') :
    splitRoot ('\\' :: rest) = ⟨[], ['\\'], rest⟩ :=
  (if_pos rfl).trans (if_neg apart)

theorem splitRoot_drive {letter : Char} (other : letter ≠ '\\') (rest : List Char) :
    splitRoot (letter :: ':' :: '\\' :: rest) = ⟨[letter, ':'], ['\\'], rest⟩ :=
  (if_neg fun same => other (Option.some.inj same)).trans ((if_pos rfl).trans (if_pos rfl))

theorem splitRoot_drive_relative {letter : Char} (other : letter ≠ '\\') {rest : List Char}
    (apart : rest.head? ≠ some '\\') :
    splitRoot (letter :: ':' :: rest) = ⟨[letter, ':'], [], rest⟩ :=
  (if_neg fun same => other (Option.some.inj same)).trans ((if_pos rfl).trans (if_neg apart))

theorem splitRoot_relative (first : path.head? ≠ some '\\') (second : path.tail.head? ≠ some ':') :
    splitRoot path = ⟨[], [], path⟩ :=
  (if_neg first).trans (if_neg second)

theorem splitRoot_join_plain (names : Names '\\' path) (unmarked : ':' ∉ path)
    {directory : List Char}
    (plain : directory.head? = some '\\' → directory.tail.head? ≠ some '\\') :
    splitRoot (join directory path) =
      ⟨(splitRoot directory).drive, (splitRoot directory).root,
        glue '\\' (splitRoot directory).rest path⟩ := by
  rw [join_names names unmarked]
  by_cases first : directory.head? = some '\\'
  · obtain ⟨rest, rfl⟩ := List.head?_eq_some_iff.mp first
    have apart : rest.head? ≠ some '\\' := plain rfl
    rw [splitRoot_rooted apart, attach_rooted (cons_ne_nil _ _)]
    exact splitRoot_rooted (glue_head_ne apart names)
  · by_cases drive : directory.tail.head? = some ':'
    · match directory with
      | [] => cases drive
      | [letter] => cases drive
      | letter :: colon :: rest =>
          have other : letter ≠ '\\' := fun same => first (congrArg some same)
          cases drive
          by_cases rooted : rest.head? = some '\\'
          · obtain ⟨more, rfl⟩ := List.head?_eq_some_iff.mp rooted
            rw [splitRoot_drive other, attach_rooted (cons_ne_nil _ _)]
            exact splitRoot_drive other _
          · have attached : attach [letter, ':'] [] (glue '\\' rest path) =
                letter :: ':' :: glue '\\' rest path :=
              if_neg fun both => both.2.2.2.1 rfl
            rw [splitRoot_drive_relative other rooted, attached]
            exact splitRoot_drive_relative other (glue_head_ne rooted names)
    · have attached : attach [] [] (glue '\\' directory path) = glue '\\' directory path :=
        if_neg fun both => both.2.2.1 rfl
      have second : (glue '\\' directory path).tail.head? ≠ some ':' := by
        match directory with
        | [] =>
            rw [glue_nil]
            intro head
            exact unmarked (mem_of_mem_tail (mem_of_mem_head? head))
        | [letter] =>
            have other : ¬ ([letter] = [] ∨ [letter].getLast? = some '\\') :=
              not_or.mpr ⟨cons_ne_nil _ _, first⟩
            rw [glue, if_neg other]
            exact fun same => absurd (Option.some.inj same) (by decide)
        | letter :: next :: rest =>
            obtain ⟨more, glued⟩ : ∃ more, glue '\\' (letter :: next :: rest) path =
                letter :: next :: rest ++ more := glue_eq_append _ path
            rw [glued]
            exact drive
      rw [splitRoot_relative first drive, attached]
      exact splitRoot_relative (glue_head_ne first names) second

theorem join_inside (tidy : Segment → Segment) (blank : tidy [] = []) (names : Names '\\' path)
    (unmarked : ':' ∉ path) (tidied : ∀ segment ∈ path.splitOn '\\', tidy segment = segment)
    (directory : Directory) :
    (normalize tidy directory.text).Inside (normalize tidy (join directory.text path)) := by
  have joined : ∃ root, splitRoot (join directory.text path) =
        ⟨(splitRoot directory.text).drive, root, glue '\\' (splitRoot directory.text).rest path⟩ ∧
      ((splitRoot directory.text).drive.head? ≠ some '\\' →
        root = (splitRoot directory.text).root) := by
    by_cases share : directory.text.head? = some '\\' ∧ directory.text.tail.head? = some '\\'
    · obtain ⟨root, same, head⟩ := splitRoot_join_share names unmarked directory share.1 share.2
      exact ⟨root, same, fun apart => absurd head apart⟩
    · have plain := fun first second => share ⟨first, second⟩
      exact ⟨_, splitRoot_join_plain names unmarked plain, fun _ => rfl⟩
  obtain ⟨root, joined, same⟩ := joined
  have anchored : (if (splitRoot directory.text).drive.head? = some '\\' then ['\\'] else root) =
      if (splitRoot directory.text).drive.head? = some '\\' then ['\\']
      else (splitRoot directory.text).root := by
    split
    · rfl
    · rename_i apart
      exact same apart
  unfold normalize
  rw [joined]
  dsimp only
  rw [anchored]
  refine ⟨rfl, path.splitOn '\\', splitOn_ne_nil _ _, names, ?_⟩
  exact collapse_glue tidy blank names tidied _ _

end Windows

end LexicalPaths
