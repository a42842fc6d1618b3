/-
The paths of generated files: which are accepted, and where those lead.

Lower case is that of ASCII; no other character becomes a letter of a device name.
-/

import AgenticRuntime.ArtifactContracts
import AgenticRuntime.LexicalPaths

namespace AgenticRuntime.ArtifactPaths

open Python LexicalPaths List Windows

/-- The names in `_WINDOWS_DEVICE_RE`. -/
def deviceNames : List (List Char) :=
  ["con", "prn", "aux", "nul"].map String.toList ++
    ["com", "lpt"].flatMap fun port => "123456789".toList.map fun digit => port.toList ++ [digit]

def isDevice (part : List Char) : Bool :=
  (part.takeWhile fun c => c ≠ '.').map Char.toLower ∈ deviceNames

def unsafePart (part : List Char) : Bool :=
  part = [] || part = ['.'] || part = ['.', '.'] ||
    (part.getLast? = some '.' || part.getLast? = some ' ') || isDevice part

/-- `path_value.replace("\\", "/")` -/
def toSlash (c : Char) : Char := if c = '\\' then '/' else c

def normalized (pathValue : List Char) : List Char := pathValue.map toSlash

def safeRelativePath (pathValue : String) : Bool :=
  if pathValue = "" ∨ pathValue ≠ strip pathValue then false
  else if pathValue.toList.any fun c => c.toNat < 32 || c.toNat = 127 then false
  else
    let normalized := normalized pathValue.toList
    if normalized.head? = some '/' ∨ ':' ∈ normalized then false
    else if (normalized.splitOn '/').any unsafePart then false
    else normalized.head? ≠ some '/'

structure SafePart (part : List Char) : Prop where
  plain : Plain part
  closed : ∃ last, part.getLast? = some last ∧ ¬ (last = '.' ∨ last = ' ')

theorem safePart_of_not_unsafe {part : List Char} (safe : unsafePart part = false) :
    SafePart part := by
  simp only [unsafePart, Bool.or_eq_false_iff, decide_eq_false_iff_not] at safe
  obtain ⟨⟨⟨⟨filled, here⟩, parent⟩, dot, blank⟩, -⟩ := safe
  refine ⟨⟨filled, here, parent⟩, part.getLast filled, List.getLast?_eq_some_getLast filled, ?_⟩
  rw [List.getLast?_eq_some_getLast filled] at dot blank
  rintro (same | same)
  · exact dot (congrArg some same)
  · exact blank (congrArg some same)

theorem safeRelativePath_parts {pathValue : String} (accepted : safeRelativePath pathValue = true) :
    ':' ∉ normalized pathValue.toList ∧
      ∀ part ∈ (normalized pathValue.toList).splitOn '/', SafePart part := by
  unfold safeRelativePath at accepted
  split at accepted
  · cases accepted
  · split at accepted
    · cases accepted
    · dsimp only at accepted
      split at accepted
      · cases accepted
      · rename_i unmarked
        split at accepted
        · cases accepted
        · rename_i safe
          refine ⟨(not_or.mp unmarked).2, fun part listed => safePart_of_not_unsafe ?_⟩
          exact Bool.eq_false_iff.mpr fun found => safe (any_eq_true.mpr ⟨part, listed, found⟩)

theorem not_mem_normalized {c : Char} {pathValue : List Char} (listed : c ∈ normalized pathValue) :
    c ≠ '\\' := by
  obtain ⟨own, -, rfl⟩ := mem_map.mp listed
  unfold toSlash
  split
  · decide
  · rename_i apart
    exact apart

theorem mem_parts {pathValue segment : List Char} (listed : segment ∈ pathValue.splitOn '/')
    (unmarked : ∀ c, c ∈ segment → c ≠ '\\') :
    segment ∈ (normalized pathValue).splitOn '/' := by
  have same : normalized segment = segment := by
    refine (map_congr_left fun c inside => ?_).trans (map_id segment)
    exact if_neg (unmarked c inside)
  have apart : '/' ∉ segment := fun inside => (mem_segment listed inside).2 rfl
  have alone : (normalized segment).splitOn '/' = [segment] := by
    rw [same, splitOn_eq_singleton apart]
  have split : (normalized pathValue).splitOn '/' =
      (pathValue.splitOn '/').flatMap fun segment => (normalized segment).splitOn '/' :=
    splitOn_map '/' toSlash rfl pathValue
  rw [split]
  exact mem_flatMap.mpr ⟨segment, listed, alone ▸ mem_cons_self⟩

theorem names_posix {pathValue : List Char}
    (safe : ∀ part ∈ (normalized pathValue).splitOn '/', SafePart part) :
    Names '/' pathValue := by
  intro segment listed
  refine ⟨?_, ?_, ?_⟩
  · intro empty
    subst empty
    exact (safe [] (mem_parts listed (by simp))).plain.1 rfl
  · intro here
    subst here
    exact (safe ['.'] (mem_parts listed (by simp))).plain.2.1 rfl
  · intro parent
    subst parent
    exact (safe ['.', '.'] (mem_parts listed (by simp))).plain.2.2 rfl

theorem splitOn_unify (pathValue : List Char) :
    (unify pathValue).splitOn '\\' = (normalized pathValue).splitOn '/' := by
  have unified : unify pathValue = unify (normalized pathValue) := by
    rw [unify, unify, normalized, map_map]
    refine map_congr_left fun c _ => ?_
    by_cases back : c = '\\'
    · subst back
      rfl
    · rw [Function.comp_apply, toSlash, if_neg back]
  have alone : ∀ part ∈ (normalized pathValue).splitOn '/',
      (unify part).splitOn '\\' = [part] := by
    intro part listed
    have same : unify part = part := by
      refine (map_congr_left fun c inside => ?_).trans (map_id part)
      exact if_neg (mem_segment listed inside).2
    rw [same]
    exact splitOn_eq_singleton fun inside =>
      not_mem_normalized (mem_segment listed inside).1 rfl
  have each : ((normalized pathValue).splitOn '/').flatMap (fun part =>
      (unify part).splitOn '\\') = (normalized pathValue).splitOn '/' := by
    rw [flatMap_congr alone]
    exact flatMap_singleton' _
  rw [unified, ← each]
  exact splitOn_map '/' toBackslash rfl _

/-- An accepted path leads below every directory, under POSIX rules and under Windows rules,
whether or not these trim the segments, and it has no drive and no root of its own. -/
theorem safeRelativePath_inside (pathValue : String)
    (accepted : safeRelativePath pathValue = true) :
    (∀ directory, (Posix.normalize directory).Inside
      (Posix.normalize (Posix.join directory pathValue.toList))) ∧
    (∀ (tidy : Segment → Segment) (directory : Windows.Directory), tidy = id ∨ tidy = trim →
      (normalize tidy directory.text).Inside
        (normalize tidy (join directory.text (unify pathValue.toList)))) ∧
    splitRoot (unify pathValue.toList) =
      ⟨[], [], unify pathValue.toList⟩ := by
  obtain ⟨uncoloned, safe⟩ := safeRelativePath_parts accepted
  have names : Names '\\' (unify pathValue.toList) := by
    intro segment listed
    rw [splitOn_unify] at listed
    exact (safe segment listed).plain
  have unmarked : ':' ∉ unify pathValue.toList := by
    intro marked
    obtain ⟨c, listed, colon⟩ := mem_map.mp marked
    unfold toBackslash at colon
    split at colon
    · exact absurd colon (by decide)
    · subst colon
      exact uncoloned (mem_map.mpr ⟨':', listed, rfl⟩)
  refine ⟨Posix.join_inside (names_posix safe), ?_, splitRoot_names names unmarked⟩
  intro tidy directory rules
  have tidied : ∀ segment ∈ (unify pathValue.toList).splitOn '\\',
      tidy segment = segment := by
    intro segment listed
    rw [splitOn_unify] at listed
    rcases rules with rfl | rfl
    · rfl
    · obtain ⟨last, ends, closed⟩ := (safe segment listed).closed
      exact trim_of_closed ends closed
  have blank : tidy [] = [] := by
    rcases rules with rfl | rfl
    · rfl
    · rfl
  exact join_inside tidy blank names unmarked tidied directory

theorem component_inside :
    (Posix.normalize "/srv".toList).Inside
        (Posix.normalize (Posix.join "/srv".toList "src\\App.tsx".toList)) ∧
      splitRoot (unify "src\\App.tsx".toList) =
        ⟨[], [], unify "src\\App.tsx".toList⟩ := by
  have inside := safeRelativePath_inside "src\\App.tsx" (by decide)
  exact ⟨inside.1 _, inside.2.2⟩

end AgenticRuntime.ArtifactPaths
