/-
A condition and an input mapping on one path.

`evaluate` takes the truth that is seen at the path, `resolve_variable` gives what is
held there. A namespace is true even if it is empty, a quoted key is lost on it, and
the two start apart below `steps` and for `coalesce`.
-/

import AgenticRuntime.Engine.PathExpression
import AgenticRuntime.Engine.ReachedOperations

namespace AgenticRuntime

open List hiding repr
open Place

/-! ### One place, seen and held -/

/-- Over one place: with a lost key nothing true may stand at the path, and otherwise no empty
dict that has become a namespace, nor an empty object. -/
def Place.alike (methods : Operand → String → Option Nat) (place : Place)
    (segments : List Segment) : Bool :=
  if place.lost methods segments then !place.held methods segments
  else
    match (place.reach methods segments).value with
    | .dict [] => !(place.reach methods segments).wrapped
    | .object [] => false
    | _ => true

theorem Place.seen_eq_held_iff {methods : Operand → String → Option Nat} {place : Place}
    {segments : List Segment} :
    place.seen methods segments = place.held methods segments ↔
      place.alike methods segments = true := by
  unfold seen held alike
  cases place.lost methods segments with
  | true =>
      rw [if_pos rfl, Bool.not_true, Bool.false_and, eq_comm, Bool.not_eq_true']
      rfl
  | false =>
      rw [if_neg Bool.false_ne_true, Bool.not_false, Bool.true_and]
      obtain ⟨wrapped, value⟩ := place.reach methods segments
      cases value with
      | dict items =>
          cases items with
          | nil =>
              cases wrapped with
              | true | false => decide
          | cons item rest => exact iff_of_true rfl rfl
      | object fields =>
          cases fields with
          | nil =>
              cases wrapped with
              | true | false => decide
          | cons field rest =>
              apply iff_of_true _ rfl
              cases wrapped with
              | true | false => rfl
      | list items =>
          apply iff_of_true _ rfl
          cases items with
          | nil | cons item rest =>
              cases wrapped with
              | true | false => rfl
      | missing =>
          cases wrapped with
          | true | false => exact iff_of_true rfl rfl
      | _ =>
          apply iff_of_true _ rfl
          dsimp only [Operand.isDict, Operand.fromNamespace]
          rw [Bool.and_false, Bool.or_false]

namespace ConditionEvaluator

/-! ### Where the walks start -/

section

variable (results : List (String × StepResultView)) (allVariables : List (String × Operand))

def topLevel (name : String) : Place := ⟨true, (lookupField allVariables name).getD .none⟩

def evaluateStart (root : String) : Place :=
  if root = "ctx" then ⟨true, .dict (variablesDict allVariables)⟩
  else if root = "steps" then ⟨true, .dict (evaluateSteps results allVariables)⟩
  else if root = "coalesce" then ⟨false, .coalesce⟩
  else topLevel allVariables root

/-- `resolve_variable` takes the name of a step together with `steps`. -/
def resolveStart (root : String) (segments : List Segment) : Place × List Segment :=
  if root = "ctx" then (⟨true, .dict (variablesDict allVariables)⟩, segments)
  else if root = "steps" then
    match segments with
    | .field step :: rest => (⟨true, getStepView results allVariables step⟩, rest)
    | .key _ step :: rest => (⟨true, getStepView results allVariables step⟩, rest)
    | _ => (⟨true, .none⟩, [])
  else (topLevel allVariables root, segments)

end

section

variable {results : List (String × StepResultView)} {allVariables : List (String × Operand)}

theorem lookupField_filter {keep : String × Operand → Bool} {fields : List (String × Operand)}
    {name : String} (kept : ∀ value, keep (name, value) = true) :
    lookupField (fields.filter keep) name = lookupField fields name := by
  induction fields with
  | nil => rfl
  | cons field rest ih =>
      obtain ⟨own, value⟩ := field
      by_cases same : own = name
      · subst same
        rw [filter_cons_of_pos (kept value), lookupField, lookupField, if_pos rfl, if_pos rfl]
      · by_cases stays : keep (own, value) = true
        · rw [filter_cons_of_pos stays, lookupField, lookupField, if_neg same, if_neg same, ih]
        · rw [filter_cons_of_neg stays, lookupField, if_neg same, ih]

theorem lookupField_mapM {fields converted : List (String × Operand)}
    (mapped : (fields.mapM fun item => do
      return (item.1, ← item.2.toNamespace) : Except Fault (List (String × Operand))) =
        .ok converted) {name : String} {value : Operand}
    (found : lookupField fields name = some value) :
    ∃ copy, lookupField converted name = some copy ∧ value.toNamespace = .ok copy := by
  induction fields generalizing converted with
  | nil => cases found
  | cons field rest ih =>
      rw [mapM_cons] at mapped
      obtain ⟨own, first, after⟩ := Python.bind_ok mapped
      obtain ⟨copy, copied, same⟩ := Python.bind_ok first
      obtain ⟨others, later, built⟩ := Python.bind_ok after
      cases same
      cases built
      by_cases here : field.1 = name
      · rw [lookupField, if_pos here] at found
        cases found
        refine ⟨copy, ?_, copied⟩
        rw [lookupField, if_pos here]
      · rw [lookupField, if_neg here] at found
        obtain ⟨inner, known, converts⟩ := ih later found
        refine ⟨inner, ?_, converts⟩
        rw [lookupField, if_neg here]
        exact known

theorem environment_start {env : List (String × Operand)}
    (converted : environment results allVariables = .ok env) {root : String}
    (known : root = "ctx" ∨ root = "steps" ∨ root = "coalesce" ∨
      lookupField allVariables root ≠ none) :
    ∃ value, lookupField env root = some value ∧
      Shown (evaluateStart results allVariables root) value := by
  unfold environment at converted
  obtain ⟨ctx, ctxConverted, afterCtx⟩ := Python.bind_ok converted
  obtain ⟨steps, stepsConverted, afterSteps⟩ := Python.bind_ok afterCtx
  obtain ⟨others, named, built⟩ := Python.bind_ok afterSteps
  cases built
  unfold evaluateStart
  by_cases isCtx : root = "ctx"
  · subst isCtx
    exact ⟨ctx, rfl, .copied ctxConverted⟩
  · by_cases isSteps : root = "steps"
    · subst isSteps
      exact ⟨.object steps, rfl, .copied (toNamespace_evaluateSteps stepsConverted)⟩
    · by_cases isCoalesce : root = "coalesce"
      · subst isCoalesce
        exact ⟨.coalesce, rfl, .plain _⟩
      · have present : lookupField allVariables root ≠ none := by
          rcases known with same | same | same | present
          · exact absurd same isCtx
          · exact absurd same isSteps
          · exact absurd same isCoalesce
          · exact present
        obtain ⟨value, found⟩ := Option.ne_none_iff_exists'.mp present
        have kept : lookupField (allVariables.filter fun item =>
            item.1 ≠ "ctx" ∧ item.1 ≠ "steps" ∧ item.1 ≠ "coalesce") root = some value := by
          rw [lookupField_filter, found]
          intro other
          exact decide_eq_true ⟨isCtx, isSteps, isCoalesce⟩
        obtain ⟨copy, copied, converts⟩ := lookupField_mapM named kept
        refine ⟨copy, ?_, ?_⟩
        · rw [lookupField, if_neg (Ne.symm isCtx), lookupField, if_neg (Ne.symm isSteps),
            lookupField, if_neg (Ne.symm isCoalesce)]
          exact copied
        · rw [if_neg isCtx, if_neg isSteps, if_neg isCoalesce, topLevel, found]
          exact .copied converts

theorem valueAt?_variables (name : String) :
    Operand.valueAt? (.str name) (variablesDict allVariables) = lookupField allVariables name := by
  induction allVariables with
  | nil => rfl
  | cons item rest ih =>
      rw [variablesDict, map_cons, lookupField]
      by_cases same : item.1 = name
      · rw [if_pos same, same, Operand.valueAt?_cons_self]
      · have other : Operand.str item.1 ≠ .str name := by
          intro equal
          injection equal with text
          exact same text
        rw [if_neg same, Operand.valueAt?_cons_ne other]
        exact ih

/-- `resolve_variable` walks over the data from its start. -/
theorem resolvePath_start {methods : Operand → String → Option Nat} (path : PlainPath) :
    resolvePath methods results allVariables path.text =
      navigate methods (resolveStart results allVariables path.root path.segments).1.value
        ((resolveStart results allVariables path.root path.segments).2.map Segment.token) := by
  unfold resolvePath resolveStart
  rw [path.parsePath_text, PlainPath.tokens]
  by_cases isCtx : path.root = "ctx"
  · rw [isCtx, if_pos rfl]
    rfl
  · by_cases isSteps : path.root = "steps"
    · rw [if_neg isCtx, if_pos isSteps, isSteps]
      cases path.segments with
      | nil => rfl
      | cons segment rest =>
          cases segment with
          | _ => rfl
    · rw [if_neg isCtx, if_neg isSteps]
      split
      · rename_i impossible
        cases impossible
      · rename_i step rest same
        injection same with token later
        injection token with equal
        exact absurd equal isSteps
      · rename_i step other same
        injection same with token later
        injection token with equal
        exact absurd equal isSteps
      · rename_i rest same
        injection same with token later
        injection token with equal
        exact absurd equal isCtx
      · rw [navigate, valueAt?_variables]
        rfl

theorem seen_views {methods : Operand → String → Option Nat} {step : String}
    {rest : List Segment}
    (same : ∀ field more, rest = .field field :: more →
      divided results allVariables step field = false) :
    (mk true (ownView results allVariables step)).seen methods rest =
      (mk true (getStepView results allVariables step)).seen methods rest := by
  rcases views_cases results allVariables step with ⟨own, merged⟩ | ⟨items, others, own, merged⟩
  · rw [own, merged]
  · cases rest with
    | nil =>
        rw [own, merged]
        change (true && (_ || true)) = (true && (_ || true))
        rw [Bool.or_true, Bool.or_true]
    | cons segment more =>
        cases segment with
        | field field =>
            rw [seen_cons rfl, seen_cons rfl]
            exact congrArg (fun place => seen methods place more)
              (named_undivided (same field more rfl))
        | index negative digits =>
            rw [own, merged]
            rfl
        | key double name =>
            rw [own, merged, seen_lost rfl, seen_lost rfl]

end

/-! ### Agreement -/

section

variable (methods : Operand → String → Option Nat) (results : List (String × StepResultView))
  (allVariables : List (String × Operand))

/-- What `resolve_variable` gives is true. -/
def heldAt (path : PlainPath) : Bool :=
  let start := resolveStart results allVariables path.root path.segments
  start.1.held methods start.2

/-- Below `steps`: a quoted name of a step is lost, and a field on which the two views are divided
has to be as true in the one as in the other. -/
def stepsAlike (segments : List Segment) : Prop :=
  match segments with
  | .field step :: rest =>
      match rest with
      | .field field :: _ =>
          if divided results allVariables step field then
            (mk true (ownView results allVariables step)).seen methods rest =
              (mk true (getStepView results allVariables step)).held methods rest
          else
            (mk true (getStepView results allVariables step)).alike methods rest = true
      | _ => (mk true (getStepView results allVariables step)).alike methods rest = true
  | .key _ step :: rest =>
      (mk true (getStepView results allVariables step)).held methods rest = false
  | _ => True

def ReadsAlike (path : PlainPath) : Prop :=
  if isTruthWord path.text then
    heldAt methods results allVariables path =
      decide (path.text.toList.map Char.toLower = "true".toList)
  else
    Keyed results allVariables ∧ isDunder path.root = false ∧
      (∀ segment, segment ∈ path.segments → segment.Public) ∧
      if path.root = "ctx" then
        (mk true (.dict (variablesDict allVariables))).alike methods path.segments = true
      else if path.root = "steps" then stepsAlike methods results allVariables path.segments
      else if path.root = "coalesce" then
        (mk false .coalesce).seen methods path.segments =
          (topLevel allVariables "coalesce").held methods path.segments
      else (topLevel allVariables path.root).alike methods path.segments = true

end

section

variable {identical : Operand → Operand → Bool} {methods : Operand → String → Option Nat}
  {format : Operand → Operand → Except Fault Operand} {parse : String → Option AstNode}
  {repr : Operand → String} {results : List (String × StepResultView)}
  {allVariables : List (String × Operand)} {path : PlainPath} {value : Operand}

theorem resolved_held
    (resolved : resolveVariable identical methods format parse results allVariables path.text =
      .ok value) (found : value ≠ .none) :
    value.truthy = heldAt methods results allVariables path ∧
      resolvePath methods results allVariables path.text ≠ .none := by
  unfold resolveVariable at resolved
  rw [if_neg path.not_called] at resolved
  cases resolved
  have present : resolvePath methods results allVariables path.text ≠ .none := by
    intro nothing
    rw [nothing] at found
    exact found rfl
  refine ⟨?_, present⟩
  rw [resolvePath_start] at present ⊢
  rw [navigate_reach present]
  rfl

theorem root_known (present : resolvePath methods results allVariables path.text ≠ .none) :
    path.root = "ctx" ∨ path.root = "steps" ∨ path.root = "coalesce" ∨
      lookupField allVariables path.root ≠ none := by
  by_cases isCtx : path.root = "ctx"
  · exact .inl isCtx
  · by_cases isSteps : path.root = "steps"
    · exact .inr (.inl isSteps)
    · right
      right
      right
      intro unknown
      have start : resolveStart results allVariables path.root path.segments =
          (⟨true, .none⟩, path.segments) := by
        unfold resolveStart
        rw [if_neg isCtx, if_neg isSteps, topLevel, unknown]
        rfl
      rw [resolvePath_start, start] at present
      exact present (navigate_none _)

/-- The answer to the value of an expression, with the fallback for a syntax error. -/
def answered (fallback : Bool) : Except Fault Operand → Except Fault Bool
  | .ok value => .ok value.truthy
  | .error .syntaxError => .ok fallback
  | .error fault => .error fault

theorem answered_error {fallback answer : Bool} {fault : Fault} (real : fault ≠ .syntaxError) :
    answered fallback (.error fault) ≠ .ok answer := by
  intro same
  cases fault with
  | syntaxError => exact real rfl
  | _ => cases same

/-- `evaluate` answers with what is seen at the path, if the context and the names allow it. -/
theorem evaluate_reference_iff (bare : ∀ name, isDunder name = false → methods .none name = none)
    (typed : ∀ items others name, methods (.list items) name = methods (.list others) name)
    (parsed : parse path.text = some path.chain) (plain : isTruthWord path.text = false)
    (known : path.root = "ctx" ∨ path.root = "steps" ∨ path.root = "coalesce" ∨
      lookupField allVariables path.root ≠ none) {answer : Bool} :
    evaluate identical methods format parse repr results allVariables (.str path.reference) =
        .ok answer ↔
      Keyed results allVariables ∧ isDunder path.root = false ∧
        (∀ segment, segment ∈ path.segments → segment.Public) ∧
        (evaluateStart results allVariables path.root).seen methods path.segments = answer := by
  have words := decide_eq_false_iff_not.mp plain
  rw [not_or] at words
  have evaluated : evaluate identical methods format parse repr results allVariables
      (.str path.reference) = answered (decide (" not in ".toList <:+: path.text.toList) ||
        decide (" != ".toList <:+: path.text.toList))
        (safeEval identical methods format parse results allVariables path.text) := by
    unfold evaluate
    dsimp only
    rw [path.prepare_reference]
    change evaluateExpression identical methods format parse results allVariables path.text = _
    unfold evaluateExpression
    dsimp only
    rw [if_neg words.1, if_neg words.2]
    cases safeEval identical methods format parse results allVariables path.text with
    | ok value => rfl
    | error fault =>
        cases fault with
        | _ => rfl
  have run : safeEval identical methods format parse results allVariables path.text =
      (validateAst path.chain >>= fun _ => environment results allVariables >>= fun env =>
        path.chain.eval identical methods format env) := by
    unfold safeEval
    rw [parsed]
  rw [evaluated, run]
  cases validated : validateAst path.chain with
  | error fault =>
      apply iff_of_false
      · apply answered_error
        intro equal
        subst equal
        exact validateAst_parsed path.chain validated
      · intro all
        rw [validateAst_path.mpr ⟨all.2.1, all.2.2.1⟩] at validated
        cases validated
  | ok checked =>
      obtain ⟨root, public_⟩ := validateAst_path.mp validated
      cases converted : environment results allVariables with
      | error fault =>
          apply iff_of_false
          · apply answered_error
            intro equal
            subst equal
            exact environment_parsed converted
          · intro all
            obtain ⟨env, built⟩ := all.1.environment
            rw [built] at converted
            cases converted
      | ok env =>
          obtain ⟨start, bound, shown⟩ := environment_start converted known
          obtain ⟨last, asked, truth⟩ := ask_seen bare typed shown public_
          have walked : path.chain.eval identical methods format env = .ok last := by
            rw [PlainPath.chain, chain_eval public_, AstNode.eval, root, if_neg Bool.false_ne_true,
              bound]
            exact asked
          have keyed := environment_keyed ⟨env, converted⟩
          change answered _ (path.chain.eval identical methods format env) = .ok answer ↔ _
          rw [walked, ← truth]
          constructor
          · intro same
            injection same with equal
            exact ⟨keyed, root, public_, equal⟩
          · intro all
            exact congrArg Except.ok all.2.2.2

theorem evaluate_truthWord (word : isTruthWord path.text = true) :
    evaluate identical methods format parse repr results allVariables (.str path.reference) =
      .ok (decide (path.text.toList.map Char.toLower = "true".toList)) := by
  unfold evaluate
  dsimp only
  rw [path.prepare_reference]
  change evaluateExpression identical methods format parse results allVariables path.text = _
  unfold evaluateExpression
  dsimp only
  by_cases yes : path.text.toList.map Char.toLower = "true".toList
  · rw [if_pos yes, decide_eq_true yes]
  · have no : path.text.toList.map Char.toLower = "false".toList :=
      (of_decide_eq_true word).resolve_left yes
    rw [if_neg yes, if_pos no, decide_eq_false yes]

/-- Below `steps`, what is seen is what is held where the views are alike. -/
theorem steps_alike_iff (distinct : Operand.DistinctKeys (ctxSteps allVariables))
    {segments : List Segment}
    (present : navigate methods (resolveStart results allVariables "steps" segments).1.value
      ((resolveStart results allVariables "steps" segments).2.map Segment.token) ≠ .none) :
    (mk true (.dict (evaluateSteps results allVariables))).seen methods segments =
      (resolveStart results allVariables "steps" segments).1.held methods
        (resolveStart results allVariables "steps" segments).2 ↔
      stepsAlike methods results allVariables segments := by
  cases segments with
  | nil => exact absurd rfl present
  | cons segment rest =>
      cases segment with
      | index negative digits => exact absurd rfl present
      | key double step =>
          rw [seen_lost rfl, eq_comm]
          rfl
      | field step =>
          have own : (mk true (.dict (evaluateSteps results allVariables))).below methods
              (.field step) = ⟨true, ownView results allVariables step⟩ :=
            congrArg (mk true) (valueAt?_evaluateSteps distinct step)
          have start : resolveStart results allVariables "steps" (.field step :: rest) =
              (⟨true, getStepView results allVariables step⟩, rest) := rfl
          rw [seen_cons rfl, own, start]
          cases rest with
          | nil =>
              rw [seen_views]
              · exact seen_eq_held_iff
              · intro field more same
                cases same
          | cons next more =>
              cases next with
              | index negative digits | key double name =>
                  rw [seen_views]
                  · exact seen_eq_held_iff
                  · intro field later same
                    cases same
              | field field =>
                  unfold stepsAlike
                  dsimp only
                  cases apart : divided results allVariables step field with
                  | true => rw [if_pos rfl]
                  | false =>
                      rw [if_neg Bool.false_ne_true, seen_views]
                      · exact seen_eq_held_iff
                      · intro other later same
                        cases same
                        exact apart

end

/-- A condition `${P}` and the variable that P resolves to have the same truth exactly where P
reads alike. -/
theorem path_reads_alike_iff (identical : Operand → Operand → Bool)
    (methods : Operand → String → Option Nat) (format : Operand → Operand → Except Fault Operand)
    (parse : String → Option AstNode) (repr : Operand → String)
    (results : List (String × StepResultView)) (allVariables : List (String × Operand))
    (bare : ∀ name, isDunder name = false → methods .none name = none)
    (typed : ∀ items others name, methods (.list items) name = methods (.list others) name)
    (distinct : Operand.DistinctKeys (ctxSteps allVariables)) (path : PlainPath)
    (parsed : parse path.text = some path.chain) (value : Operand)
    (resolved : resolveVariable identical methods format parse results allVariables path.text =
      .ok value) (found : value ≠ .none) :
    evaluate identical methods format parse repr results allVariables (.str path.reference) =
        .ok value.truthy ↔ ReadsAlike methods results allVariables path := by
  obtain ⟨held, present⟩ := resolved_held resolved found
  rw [held]
  unfold ReadsAlike
  cases word : isTruthWord path.text with
  | true =>
      rw [if_pos rfl, evaluate_truthWord word, Except.ok.injEq, eq_comm]
  | false =>
      rw [if_neg Bool.false_ne_true, evaluate_reference_iff bare typed parsed word
        (root_known present)]
      apply and_congr_right
      intro keyed
      apply and_congr_right
      intro root
      apply and_congr_right
      intro public_
      rw [resolvePath_start] at present
      unfold heldAt evaluateStart
      by_cases isCtx : path.root = "ctx"
      · rw [if_pos isCtx, if_pos isCtx, isCtx]
        exact seen_eq_held_iff
      · by_cases isSteps : path.root = "steps"
        · rw [isSteps] at present
          rw [if_neg isCtx, if_pos isSteps, if_neg isCtx, if_pos isSteps, isSteps]
          exact steps_alike_iff distinct present
        · have start : resolveStart results allVariables path.root path.segments =
              (topLevel allVariables path.root, path.segments) := by
            unfold resolveStart
            rw [if_neg isCtx, if_neg isSteps]
          rw [if_neg isCtx, if_neg isSteps, if_neg isCtx, if_neg isSteps, start]
          by_cases isCoalesce : path.root = "coalesce"
          · rw [if_pos isCoalesce, if_pos isCoalesce, isCoalesce]
          · rw [if_neg isCoalesce, if_neg isCoalesce]
            exact seen_eq_held_iff

theorem plainName_of_all {name : String} (filled : name ≠ "")
    (all : name.toList.all isSegmentChar = true) : PlainName name :=
  ⟨filled, all_eq_true.mp all⟩

/-- `inputs.name` -/
def dottedName : PlainPath where
  root := "inputs"
  segments := [.field "name"]
  root_plain := plainName_of_all (by decide) (by decide)
  segments_plain := by
    intro segment member
    rw [mem_singleton.mp member]
    exact plainName_of_all (by decide) (by decide)

/-- `inputs['name']` -/
def quotedName : PlainPath where
  root := "inputs"
  segments := [.key false "name"]
  root_plain := plainName_of_all (by decide) (by decide)
  segments_plain := by
    intro segment member
    rw [mem_singleton.mp member]
    exact all_eq_true.mp (by decide : "name".toList.all isKeyChar = true)

def parsePaths (text : String) : Option AstNode :=
  if text = "inputs.name" then some (.attr (.name "inputs") "name")
  else if text = "inputs['name']" then
    some (.subscript (.name "inputs") (.constant (.str "name")))
  else none

/-- A context whose inputs are `{'name': 'draft'}`. -/
def draftInputs : List (String × Operand) :=
  [("inputs", .dict [(.str "name", .str "draft")])]

theorem draftInputs_keyed : Keyed [] draftInputs := by
  constructor
  · intro item member
    rw [mem_singleton.mp member]
    rfl
  · intro step member
    cases member

theorem dottedName_text : dottedName.text = "inputs.name" := by decide +kernel

theorem quotedName_text : quotedName.text = "inputs['name']" := by decide +kernel

theorem dottedName_parsed : parsePaths dottedName.text = some dottedName.chain := by
  rw [dottedName_text, parsePaths, if_pos rfl]
  rfl

theorem quotedName_parsed : parsePaths quotedName.text = some quotedName.chain := by
  rw [quotedName_text, parsePaths, if_neg (by decide +kernel), if_pos rfl]
  rfl

theorem resolveVariable_plain {path : PlainPath} {identical : Operand → Operand → Bool}
    {methods : Operand → String → Option Nat} {format : Operand → Operand → Except Fault Operand}
    {parse : String → Option AstNode} {results : List (String × StepResultView)}
    {allVariables : List (String × Operand)} :
    resolveVariable identical methods format parse results allVariables path.text =
      .ok (navigate methods
        (resolveStart results allVariables path.root path.segments).1.value
        ((resolveStart results allVariables path.root path.segments).2.map
          Segment.token)).fromNamespace := by
  unfold resolveVariable
  rw [if_neg path.not_called, resolvePath_start]
  rfl

/-- A dotted path is read alike. -/
theorem dotted_name_reads_alike :
    evaluate noObject noMethods noFormat parsePaths noRepr [] draftInputs
      (.str dottedName.reference) = .ok true := by
  have plain : isTruthWord dottedName.text = false := by
    rw [dottedName_text]
    decide +kernel
  have alike : ReadsAlike noMethods [] draftInputs dottedName := by
    rw [ReadsAlike, if_neg (Bool.eq_false_iff.mp plain)]
    refine ⟨draftInputs_keyed, by decide, ?_, ?_⟩
    · intro segment member
      rw [mem_singleton.mp member]
      rfl
    · rw [if_neg (by decide), if_neg (by decide), if_neg (by decide)]
      rfl
  have distinct : Operand.DistinctKeys (ctxSteps draftInputs) := List.Pairwise.nil
  have resolved : resolveVariable noObject noMethods noFormat parsePaths [] draftInputs
      dottedName.text = .ok (.str "draft") := by
    rw [resolveVariable_plain]
    rfl
  exact (path_reads_alike_iff noObject noMethods noFormat parsePaths noRepr [] draftInputs
    (fun _ _ => rfl) (fun _ _ _ => rfl) distinct dottedName dottedName_parsed (.str "draft")
    resolved nofun).mpr alike

/-- A quoted key is found in the inputs, but not by the condition. -/
theorem quoted_name_lost :
    parsePaths quotedName.text = some quotedName.chain ∧
      resolveVariable noObject noMethods noFormat parsePaths [] draftInputs quotedName.text =
        .ok (.str "draft") ∧
      evaluate noObject noMethods noFormat parsePaths noRepr [] draftInputs
        (.str quotedName.reference) = .ok false ∧
      (Operand.str "draft").truthy = true := by
  have plain : isTruthWord quotedName.text = false := by
    rw [quotedName_text]
    decide +kernel
  have known : lookupField draftInputs quotedName.root ≠ none := nofun
  refine ⟨quotedName_parsed, ?_, ?_, by decide⟩
  · rw [resolveVariable_plain]
    rfl
  · apply (evaluate_reference_iff (fun _ _ => rfl) (fun _ _ _ => rfl) quotedName_parsed plain
      (.inr (.inr (.inr known)))).mpr
    refine ⟨draftInputs_keyed, by decide, ?_, rfl⟩
    intro segment member
    rw [mem_singleton.mp member]
    exact trivial

end ConditionEvaluator

end AgenticRuntime
