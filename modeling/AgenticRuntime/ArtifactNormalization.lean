/-
What normalising the artifacts of a step leaves of a payload, and when it raises.

Contracts that were parsed together share no name, so each of them decides about its own
names alone.
-/

import AgenticRuntime.CodeArtifacts
import Mathlib.Data.List.Pairwise
import Mathlib.Data.List.Perm.Basic

namespace Python

theorem Items.insert_present {α : Type} {items : List (String × α)} {key : String} {value : α}
    (held : Items.get? items key = some value) : Items.insert items key value = items := by
  induction items with
  | nil => cases held
  | cons item rest ih =>
      obtain ⟨present, old⟩ := item
      unfold Items.get? at held
      unfold Items.insert
      split at held
      · rename_i same
        cases held
        rw [if_pos same]
      · rename_i apart
        rw [if_neg apart, ih held]

theorem Items.erase_absent {α : Type} {items : List (String × α)} {key : String}
    (absent : Items.get? items key = none) : Items.erase items key = items := by
  induction items with
  | nil => rfl
  | cons item rest ih =>
      obtain ⟨present, old⟩ := item
      unfold Items.get? at absent
      unfold Items.erase
      split at absent
      · cases absent
      · rename_i apart
        rw [if_neg apart, ih absent]

end Python

namespace AgenticRuntime

open Python Dict Option
open List hiding repr

/-! ### The names of parsed contracts -/

/-- `(field_name, *contract.aliases)` -/
def contractNames (contract : String × ArtifactContract) : List String :=
  contract.1 :: contract.2.aliases

theorem claimNames_ok {builtins : Builtins} {location fieldName : String} {names : List String}
    {owners claimed : List (String × String)} (distinct : (Items.keys owners).Nodup)
    (accepted : claimNames builtins location fieldName owners names = .ok claimed) :
    Items.keys claimed = Items.keys owners ++ names ∧ (Items.keys claimed).Nodup := by
  induction names generalizing owners with
  | nil =>
      cases accepted
      exact ⟨(append_nil _).symm, distinct⟩
  | cons name rest ih =>
      unfold claimNames at accepted
      split at accepted
      · cases accepted
      · rename_i free
        have fresh := Items.get?_eq_none_iff.mp free
        have keys : Items.keys (owners ++ [(name, fieldName)]) = Items.keys owners ++ [name] :=
          map_append
        have grown : (Items.keys (owners ++ [(name, fieldName)])).Nodup := by
          rw [keys, nodup_append]
          refine ⟨distinct, nodup_singleton name, ?_⟩
          intro key listed other single same
          exact fresh (mem_singleton.mp single ▸ same ▸ listed)
        obtain ⟨same, nodup⟩ := ih grown accepted
        rw [keys, append_assoc] at same
        exact ⟨same, nodup⟩

theorem parseDeclarations_names {builtins : Builtins} {location : String} {raw : Mapping}
    {contracts parsed : List (String × ArtifactContract)} {owners : List (String × String)}
    (owned : Items.keys owners = contracts.flatMap contractNames)
    (distinct : (Items.keys owners).Nodup)
    (accepted : parseDeclarations builtins location contracts owners raw = .ok parsed) :
    (parsed.flatMap contractNames).Nodup := by
  induction raw generalizing contracts owners with
  | nil =>
      cases accepted
      exact owned ▸ distinct
  | cons declaration rest ih =>
      obtain ⟨key, declaration⟩ := declaration
      unfold parseDeclarations at accepted
      cases key with
      | str fieldName =>
          obtain ⟨-, accepted⟩ := guard_ok accepted
          obtain ⟨contract, -, accepted⟩ := bind_ok accepted
          obtain ⟨claimed, claims, accepted⟩ := bind_ok accepted
          obtain ⟨names, nodup⟩ := claimNames_ok distinct claims
          have fresh : fieldName ∉ Items.keys contracts := by
            intro listed
            obtain ⟨held, there, same⟩ := mem_map.mp listed
            have owner : fieldName ∈ Items.keys owners := by
              rw [owned]
              exact mem_flatMap.mpr ⟨held, there, same ▸ mem_cons_self⟩
            rw [names] at nodup
            exact (nodup_append.mp nodup).2.2 fieldName owner fieldName
              mem_cons_self rfl
          apply ih _ nodup accepted
          rw [names, owned, Items.insert_of_fresh fresh, flatMap_append, flatMap_singleton]
          rfl
      | _ => cases accepted

theorem parseArtifactContracts_names {builtins : Builtins} {location : String} {raw : PyValue}
    {contracts : List (String × ArtifactContract)}
    (parsed : parseArtifactContracts builtins location raw = .ok contracts) :
    (contracts.flatMap contractNames).Nodup := by
  cases raw with
  | none =>
      cases parsed
      exact nodup_nil
  | dict items =>
      have owned : Items.keys ([] : List (String × String)) =
        ([] : List (String × ArtifactContract)).flatMap contractNames := rfl
      exact parseDeclarations_names owned nodup_nil parsed
  | _ => cases parsed

/-! ### One contract -/

section

variable (scanner : Scanner) (values : Dict Data)

open CodeArtifacts

def validValue? (name : String) : Option Data :=
  (values.get? name).filter fun value => Valid scanner value

/-- What a contract puts under its field: the first of its names that holds a valid artifact. -/
def promoted? (contract : String × ArtifactContract) : Option Data :=
  (contractNames contract).findSome? (validValue? scanner values)

def report (contract : String × ArtifactContract) : List ContractDiagnostic :=
  (checkContract (validateCodeArtifact scanner) values (values, []) contract).2

def promote (normalized : Dict Data) (contract : String × ArtifactContract) : Dict Data :=
  match promoted? scanner values contract with
  | some value => normalized.insert contract.1 value
  | none => normalized

def Involved (contract : String × ArtifactContract) : Prop :=
  contract.2.required = true ∨ ∃ name ∈ contractNames contract, (values.get? name).isSome

theorem selectCandidate_spec {names : List String}
    (present : ∀ name ∈ names, (values.get? name).isSome) :
    match selectCandidate (validateCodeArtifact scanner) values names with
    | (_, some selected) =>
        ∃ value, values.get? selected = some value ∧
          names.findSome? (validValue? scanner values) = some value
    | (found, none) =>
        names.findSome? (validValue? scanner values) = none ∧ (found = [] → names = []) := by
  induction names with
  | nil => exact ⟨rfl, fun _ => rfl⟩
  | cons name rest ih =>
      obtain ⟨value, held⟩ := isSome_iff_exists.mp (present name mem_cons_self)
      have later := ih fun other listed => present other (mem_cons_of_mem name listed)
      unfold selectCandidate
      rw [List.findSome?_cons, validValue?, held, getD_some]
      cases checked : validateCodeArtifact scanner name value with
      | nil =>
          have valid := (validateCodeArtifact_eq_nil_iff scanner name value).mp checked
          refine ⟨value, held, ?_⟩
          rw [filter_some, if_pos (decide_eq_true valid)]
      | cons first others =>
          have invalid : ¬ Valid scanner value := by
            rw [← validateCodeArtifact_eq_nil_iff scanner name, checked]
            exact cons_ne_nil first others
          rw [filter_some, if_neg fun valid => invalid (of_decide_eq_true valid)]
          dsimp only
          cases chosen : selectCandidate (validateCodeArtifact scanner) values rest with
          | mk found selected =>
              rw [chosen] at later
              cases selected with
              | some selected => exact later
              | none => exact ⟨later.1, fun empty => absurd empty (cons_ne_nil _ _)⟩

theorem findSome?_present (names : List String) :
    (names.filter fun name => (values.get? name).isSome).findSome? (validValue? scanner values) =
      names.findSome? (validValue? scanner values) := by
  induction names with
  | nil => rfl
  | cons name rest ih =>
      rw [List.findSome?_cons]
      cases held : values.get? name with
      | none =>
          have absent : validValue? scanner values name = none := by
            rw [validValue?, held]
            rfl
          rw [filter_cons_of_neg (by rw [held]; exact Bool.false_ne_true), ih, absent]
      | some value =>
          rw [filter_cons_of_pos (by rw [held]; rfl), List.findSome?_cons, ih]

theorem checkContract_cases (contract : String × ArtifactContract) :
    (∃ value, promoted? scanner values contract = some value ∧ ∀ normalized found,
      checkContract (validateCodeArtifact scanner) values (normalized, found) contract =
        (normalized.insert contract.1 value, found)) ∨
    promoted? scanner values contract = none ∧ ∃ missing,
      (missing ≠ [] ↔ Involved values contract) ∧ ∀ normalized found,
        checkContract (validateCodeArtifact scanner) values (normalized, found) contract =
          (normalized, found ++ missing) := by
  have present : ∀ name ∈ (contractNames contract).filter fun name => (values.get? name).isSome,
      (values.get? name).isSome := fun name listed => (mem_filter.mp listed).2
  have spec := selectCandidate_spec scanner values present
  rw [findSome?_present] at spec
  have involved : ((contractNames contract).filter fun name => (values.get? name).isSome) ≠ [] →
      Involved values contract := by
    intro some_
    obtain ⟨name, listed⟩ := exists_mem_of_ne_nil _ some_
    exact .inr ⟨name, mem_of_mem_filter listed, present name listed⟩
  unfold checkContract
  unfold contractNames at spec involved
  cases chosen : selectCandidate (validateCodeArtifact scanner) values
      ((contract.1 :: contract.2.aliases).filter fun name => (values.get? name).isSome) with
  | mk reported selected =>
      rw [chosen] at spec
      cases selected with
      | some selected =>
          obtain ⟨value, held, promoted⟩ := spec
          refine .inl ⟨value, promoted, fun normalized found => ?_⟩
          have got : (values.get? selected).getD .null = value := by
            rw [held]
            rfl
          dsimp only
          rw [chosen]
          cases reported with
          | nil => exact congrArg (fun value => (normalized.insert contract.1 value, found)) got
          | cons first others =>
              exact congrArg (fun value => (normalized.insert contract.1 value, found)) got
      | none =>
          obtain ⟨nothing, empty⟩ := spec
          refine .inr ⟨nothing, ?_⟩
          cases reported with
          | cons first others =>
              refine ⟨first :: others, iff_of_true (cons_ne_nil _ _) (involved ?_), ?_⟩
              · intro none_
                rw [none_] at chosen
                cases chosen
              · intro normalized found
                dsimp only
                rw [chosen]
          | nil =>
              have none_ := empty rfl
              have alone : Involved values contract ↔ contract.2.required = true := by
                refine ⟨fun either => either.resolve_right ?_, Or.inl⟩
                rintro ⟨name, listed, held⟩
                have kept : name ∈ (contractNames contract).filter fun name =>
                    (values.get? name).isSome := mem_filter.mpr ⟨listed, held⟩
                rw [contractNames, none_] at kept
                cases kept
              rw [alone]
              cases required : contract.2.required with
              | false =>
                  refine ⟨[], iff_of_false (fun some_ => some_ rfl) Bool.false_ne_true, ?_⟩
                  intro normalized found
                  dsimp only
                  rw [chosen, none_, append_nil]
                  rfl
              | true =>
                  refine ⟨[⟨contract.1, codeArtifact, "missing", "is required but missing"⟩],
                    iff_of_true (cons_ne_nil _ _) rfl, ?_⟩
                  intro normalized found
                  dsimp only
                  rw [chosen]
                  rfl

theorem checkContract_eq (normalized : Dict Data) (found : List ContractDiagnostic)
    (contract : String × ArtifactContract) :
    checkContract (validateCodeArtifact scanner) values (normalized, found) contract =
      (promote scanner values normalized contract, found ++ report scanner values contract) := by
  unfold promote report
  rcases checkContract_cases scanner values contract with
    ⟨value, promoted, checked⟩ | ⟨nothing, missing, -, checked⟩
  · rw [checked, checked, promoted, append_nil]
  · rw [checked, checked, nothing, nil_append]

theorem report_ne_nil_iff (contract : String × ArtifactContract) :
    report scanner values contract ≠ [] ↔
      Involved values contract ∧ promoted? scanner values contract = none := by
  unfold report
  rcases checkContract_cases scanner values contract with
    ⟨value, promoted, checked⟩ | ⟨nothing, missing, involved, checked⟩
  · rw [checked, promoted]
    exact iff_of_false (fun some_ => some_ rfl) fun both => some_ne_none value both.2
  · rw [checked, nil_append, involved]
    exact (and_iff_left nothing).symm

/-! ### All contracts -/

theorem foldl_checkContract (contracts : List (String × ArtifactContract))
    (normalized : Dict Data) (found : List ContractDiagnostic) :
    contracts.foldl (checkContract (validateCodeArtifact scanner) values) (normalized, found) =
      (contracts.foldl (promote scanner values) normalized,
        found ++ contracts.flatMap (report scanner values)) := by
  induction contracts generalizing normalized found with
  | nil => exact congrArg (Prod.mk normalized) (append_nil found).symm
  | cons contract rest ih =>
      rw [foldl_cons, checkContract_eq, ih, foldl_cons, flatMap_cons, append_assoc]

def aliasNames (contracts : List (String × ArtifactContract)) : List String :=
  contracts.flatMap fun contract => contract.2.aliases

theorem validateAndNormalizeArtifacts_eq (contracts : List (String × ArtifactContract)) :
    validateAndNormalizeArtifacts (validateCodeArtifact scanner) values contracts =
      if contracts.flatMap (report scanner values) = [] then
        .ok ((aliasNames contracts).foldl erase
          (contracts.foldl (promote scanner values) values))
      else .error (contracts.flatMap (report scanner values)) := by
  unfold validateAndNormalizeArtifacts
  rw [foldl_checkContract, nil_append]
  cases contracts.flatMap (report scanner values) with
  | nil => rfl
  | cons first others => rfl

variable {contracts : List (String × ArtifactContract)} {contract : String × ArtifactContract}

theorem foldl_promote_other {key : String} (other : key ∉ Items.keys contracts)
    (normalized : Dict Data) :
    (contracts.foldl (promote scanner values) normalized).get? key = normalized.get? key := by
  induction contracts generalizing normalized with
  | nil => rfl
  | cons contract rest ih =>
      obtain ⟨apart, later⟩ := not_or.mp (List.mem_cons.not.mp other)
      rw [foldl_cons, ih later]
      unfold promote
      split
      · rw [get?_insert, if_neg fun same => apart same.symm]
      · rfl

theorem foldl_promote_own (distinct : (Items.keys contracts).Nodup) (listed : contract ∈ contracts)
    (normalized : Dict Data) :
    (contracts.foldl (promote scanner values) normalized).get? contract.1 =
      (promoted? scanner values contract).or (normalized.get? contract.1) := by
  induction contracts generalizing normalized with
  | nil => cases listed
  | cons first rest ih =>
      obtain ⟨apart, nodup⟩ := nodup_cons.mp distinct
      rw [foldl_cons]
      rcases List.mem_cons.mp listed with rfl | later
      · rw [foldl_promote_other scanner values apart]
        unfold promote
        split
        · rename_i value promoted
          rw [get?_insert, if_pos rfl, promoted]
          rfl
        · rename_i nothing
          rw [nothing]
          rfl
      · rw [ih nodup later]
        have other : first.1 ≠ contract.1 :=
          fun same => apart (same ▸ mem_map_of_mem later)
        congr 1
        unfold promote
        split
        · rw [get?_insert, if_neg other]
        · rfl

def normalizedValue? (contracts : List (String × ArtifactContract)) (key : String) : Option Data :=
  ((aliasNames contracts).foldl erase
    (contracts.foldl (promote scanner values) values)).get? key

section

variable {contracts : List (String × ArtifactContract)}

section

omit scanner values

theorem owner_unique (distinct : (contracts.flatMap contractNames).Nodup)
    {contract other : String × ArtifactContract} (listed : contract ∈ contracts)
    (there : other ∈ contracts) {name : String} (named : name ∈ contractNames contract)
    (also : name ∈ contractNames other) : contract = other := by
  by_contra apart
  have disjoint := (nodup_flatMap.mp distinct).2
  have symmetric : Std.Symm (Function.onFun List.Disjoint contractNames) :=
    ⟨fun _ _ apart _ first second => apart second first⟩
  exact disjoint.forall listed there apart named also

theorem fields_nodup (distinct : (contracts.flatMap contractNames).Nodup) :
    (Items.keys contracts).Nodup := by
  have disjoint := (nodup_flatMap.mp distinct).2
  refine pairwise_map.mpr (disjoint.imp ?_)
  intro left right apart same
  exact apart mem_cons_self (same ▸ mem_cons_self)

theorem field_not_alias (distinct : (contracts.flatMap contractNames).Nodup)
    {contract : String × ArtifactContract} (listed : contract ∈ contracts) :
    contract.1 ∉ aliasNames contracts := by
  intro named
  obtain ⟨other, there, also⟩ := mem_flatMap.mp named
  have same := owner_unique distinct listed there mem_cons_self
    (mem_cons_of_mem _ also)
  subst same
  exact (nodup_cons.mp ((nodup_flatMap.mp distinct).1 contract listed)).1 also

end

theorem normalizedValue?_field (distinct : (contracts.flatMap contractNames).Nodup)
    {contract : String × ArtifactContract} (listed : contract ∈ contracts) :
    normalizedValue? scanner values contracts contract.1 =
      (promoted? scanner values contract).or (values.get? contract.1) := by
  rw [normalizedValue?, get?_foldl_erase, if_neg (field_not_alias distinct listed),
    foldl_promote_own scanner values (fields_nodup distinct) listed]

theorem normalizedValue?_alias {name : String} (named : name ∈ aliasNames contracts) :
    normalizedValue? scanner values contracts name = none := by
  rw [normalizedValue?, get?_foldl_erase, if_pos named]

theorem normalizedValue?_other {key : String} (other : key ∉ contracts.flatMap contractNames) :
    normalizedValue? scanner values contracts key = values.get? key := by
  have noAlias : key ∉ aliasNames contracts := by
    intro named
    obtain ⟨contract, listed, also⟩ := mem_flatMap.mp named
    exact other (mem_flatMap.mpr ⟨contract, listed, mem_cons_of_mem _ also⟩)
  have noField : key ∉ Items.keys contracts := by
    intro named
    obtain ⟨contract, listed, same⟩ := mem_map.mp named
    exact other (mem_flatMap.mpr ⟨contract, listed, same ▸ mem_cons_self⟩)
  rw [normalizedValue?, get?_foldl_erase, if_neg noAlias, foldl_promote_other scanner values noField]

theorem normalizedValue?_perm (distinct : (contracts.flatMap contractNames).Nodup)
    {reordered : List (String × ArtifactContract)} (same : reordered.Perm contracts)
    (key : String) :
    normalizedValue? scanner values reordered key =
      normalizedValue? scanner values contracts key := by
  have moved : (reordered.flatMap contractNames).Nodup :=
    (same.flatMap_right contractNames).nodup_iff.mpr distinct
  by_cases named : key ∈ contracts.flatMap contractNames
  · obtain ⟨contract, listed, own⟩ := mem_flatMap.mp named
    rcases List.mem_cons.mp own with rfl | also
    · rw [normalizedValue?_field scanner values distinct listed,
        normalizedValue?_field scanner values moved (same.mem_iff.mpr listed)]
    · rw [normalizedValue?_alias scanner values
          (mem_flatMap.mpr ⟨contract, listed, also⟩),
        normalizedValue?_alias scanner values
          (mem_flatMap.mpr ⟨contract, same.mem_iff.mpr listed, also⟩)]
  · have apart : key ∉ reordered.flatMap contractNames := by
      rwa [(same.flatMap_right contractNames).mem_iff]
    rw [normalizedValue?_other scanner values named, normalizedValue?_other scanner values apart]

end

/-! ### Values that were taken -/

theorem validValue?_eq_some {name : String} {value : Data} :
    validValue? scanner values name = some value ↔
      values.get? name = some value ∧ Valid scanner value := by
  unfold validValue?
  rw [filter_eq_some_iff, decide_eq_true_iff]

theorem promoted?_sound {value : Data} (promoted : promoted? scanner values contract = some value) :
    Valid scanner value ∧ ∃ name ∈ contractNames contract, values.get? name = some value := by
  obtain ⟨name, listed, found⟩ := exists_of_findSome?_eq_some promoted
  have both := (validValue?_eq_some scanner values).mp found
  exact ⟨both.2, name, listed, both.1⟩

theorem promoted?_canonical {value : Data} (held : values.get? contract.1 = some value)
    (valid : Valid scanner value) :
    promoted? scanner values contract = some value := by
  unfold promoted? contractNames
  rw [List.findSome?_cons, (validValue?_eq_some scanner values).mpr ⟨held, valid⟩]

theorem promoted?_eq_none_iff (contract : String × ArtifactContract) :
    promoted? scanner values contract = none ↔ ∀ name ∈ contractNames contract, ∀ value,
      values.get? name = some value → ¬ Valid scanner value := by
  unfold promoted?
  rw [List.findSome?_eq_none_iff]
  constructor
  · intro none_ name listed value held valid
    have found := (validValue?_eq_some scanner values).mpr ⟨held, valid⟩
    rw [none_ name listed] at found
    cases found
  · intro invalid name listed
    cases found : validValue? scanner values name with
    | none => rfl
    | some value =>
        obtain ⟨held, valid⟩ := (validValue?_eq_some scanner values).mp found
        exact absurd valid (invalid name listed value held)

theorem promote_again (distinct : (contracts.flatMap contractNames).Nodup)
    (complete : contracts.flatMap (report scanner values) = []) {payload : Dict Data}
    (held : ∀ key, payload.get? key = normalizedValue? scanner values contracts key)
    (listed : contract ∈ contracts) :
    promote scanner payload payload contract = payload ∧ report scanner payload contract = [] := by
  have own := (held contract.1).trans (normalizedValue?_field scanner values distinct listed)
  have settled := flatMap_eq_nil_iff.mp complete contract listed
  cases promoted : promoted? scanner values contract with
  | some value =>
      rw [promoted] at own
      have again := promoted?_canonical scanner payload own
        (promoted?_sound scanner values promoted).1
      constructor
      · unfold promote
        rw [again]
        exact ext (Items.insert_present own)
      · by_contra reported
        have nothing := ((report_ne_nil_iff scanner payload contract).mp reported).2
        rw [again] at nothing
        cases nothing
  | none =>
      have idle : ¬ Involved values contract := fun involved =>
        (report_ne_nil_iff scanner values contract).mpr ⟨involved, promoted⟩ settled
      have absent : ∀ name ∈ contractNames contract, payload.get? name = none := by
        intro name named
        rcases List.mem_cons.mp named with rfl | also
        · rw [own, promoted, none_or]
          by_contra there
          exact idle (.inr ⟨contract.1, named, isSome_iff_ne_none.mpr there⟩)
        · rw [held]
          exact normalizedValue?_alias scanner values
            (mem_flatMap.mpr ⟨contract, listed, also⟩)
      have nothing : promoted? scanner payload contract = none := by
        rw [promoted?_eq_none_iff]
        intro name named value there
        rw [absent name named] at there
        cases there
      constructor
      · unfold promote
        rw [nothing]
      · by_contra reported
        rcases ((report_ne_nil_iff scanner payload contract).mp reported).1 with
          required | ⟨name, named, there⟩
        · exact idle (.inl required)
        · rw [absent name named] at there
          cases there

/-! ### The outcome -/

structure Normalized (contracts : List (String × ArtifactContract)) (payload : Dict Data) :
    Prop where
  required : ∀ contract ∈ contracts, contract.2.required = true →
    ∃ value, payload.get? contract.1 = some value ∧ Valid scanner value
  canonical : ∀ contract ∈ contracts, ∀ value, values.get? contract.1 = some value →
    Valid scanner value → payload.get? contract.1 = some value
  taken : ∀ contract ∈ contracts, ∀ value, payload.get? contract.1 = some value →
    ∃ name ∈ contractNames contract, values.get? name = some value
  aliases : ∀ contract ∈ contracts, ∀ name ∈ contract.2.aliases, payload.get? name = none
  others : ∀ key, (∀ contract ∈ contracts, key ∉ contractNames contract) →
    payload.get? key = values.get? key

def Unprovided (contract : String × ArtifactContract) : Prop :=
  ∀ name ∈ contractNames contract, ∀ value, values.get? name = some value → ¬ Valid scanner value

def SameOutcome : Except (List ContractDiagnostic) (Dict Data) →
    Except (List ContractDiagnostic) (Dict Data) → Prop
  | .ok left, .ok right => ∀ key, left.get? key = right.get? key
  | .error left, .error right => left.Perm right
  | _, _ => False

theorem flatMap_report_eq_nil_iff (contracts : List (String × ArtifactContract)) :
    contracts.flatMap (report scanner values) = [] ↔
      ¬ ∃ contract ∈ contracts, Involved values contract ∧ Unprovided scanner values contract := by
  rw [flatMap_eq_nil_iff]
  constructor
  · rintro settled ⟨contract, listed, involved, unprovided⟩
    have nothing := (promoted?_eq_none_iff scanner values contract).mpr unprovided
    exact (report_ne_nil_iff scanner values contract).mpr ⟨involved, nothing⟩
      (settled contract listed)
  · intro none_ contract listed
    by_contra reported
    obtain ⟨involved, nothing⟩ := (report_ne_nil_iff scanner values contract).mp reported
    exact none_ ⟨contract, listed, involved,
      (promoted?_eq_none_iff scanner values contract).mp nothing⟩

theorem normalized_of_complete (distinct : (contracts.flatMap contractNames).Nodup)
    (complete : contracts.flatMap (report scanner values) = []) {payload : Dict Data}
    (held : ∀ key, payload.get? key = normalizedValue? scanner values contracts key) :
    Normalized scanner values contracts payload where
  required := by
    intro contract listed required
    cases promoted : promoted? scanner values contract with
    | none =>
        have settled := flatMap_eq_nil_iff.mp complete contract listed
        exact absurd settled
          ((report_ne_nil_iff scanner values contract).mpr ⟨.inl required, promoted⟩)
    | some value =>
        refine ⟨value, ?_, (promoted?_sound scanner values promoted).1⟩
        rw [held, normalizedValue?_field scanner values distinct listed, promoted]
        rfl
  canonical := by
    intro contract listed value there valid
    rw [held, normalizedValue?_field scanner values distinct listed,
      promoted?_canonical scanner values there valid]
    rfl
  taken := by
    intro contract listed value there
    rw [held, normalizedValue?_field scanner values distinct listed] at there
    cases promoted : promoted? scanner values contract with
    | some other =>
        rw [promoted] at there
        cases there
        exact (promoted?_sound scanner values promoted).2
    | none =>
        rw [promoted] at there
        exact ⟨contract.1, mem_cons_self, there⟩
  aliases := by
    intro contract listed name named
    rw [held]
    exact normalizedValue?_alias scanner values (mem_flatMap.mpr ⟨contract, listed, named⟩)
  others := by
    intro key other
    rw [held]
    apply normalizedValue?_other
    intro named
    obtain ⟨contract, listed, own⟩ := mem_flatMap.mp named
    exact other contract listed own

theorem normalize_again (distinct : (contracts.flatMap contractNames).Nodup)
    (complete : contracts.flatMap (report scanner values) = []) {payload : Dict Data}
    (held : ∀ key, payload.get? key = normalizedValue? scanner values contracts key) :
    validateAndNormalizeArtifacts (validateCodeArtifact scanner) payload contracts =
      .ok payload := by
  have again := fun contract (listed : contract ∈ contracts) =>
    promote_again scanner values distinct complete held listed
  have reports : contracts.flatMap (report scanner payload) = [] :=
    flatMap_eq_nil_iff.mpr fun contract listed => (again contract listed).2
  have promotes : ∀ part : List (String × ArtifactContract), (∀ contract ∈ part, contract ∈ contracts) →
      part.foldl (promote scanner payload) payload = payload := by
    intro part within
    induction part with
    | nil => rfl
    | cons contract rest ih =>
        rw [foldl_cons, (again contract (within contract mem_cons_self)).1]
        exact ih fun other listed => within other (mem_cons_of_mem contract listed)
  have erases : ∀ names : List String, (∀ name ∈ names, payload.get? name = none) →
      names.foldl erase payload = payload := by
    intro names absent
    induction names with
    | nil => rfl
    | cons name rest ih =>
        have gone : payload.erase name = payload :=
          ext (Items.erase_absent (absent name mem_cons_self))
        rw [foldl_cons, gone]
        exact ih fun other listed => absent other (mem_cons_of_mem name listed)
  rw [validateAndNormalizeArtifacts_eq, if_pos reports,
    promotes contracts fun _ listed => listed]
  refine congrArg Except.ok (erases _ fun name named => ?_)
  rw [held]
  exact normalizedValue?_alias scanner values named

end

section

open CodeArtifacts

/-- Parsed contracts make of every payload a normalized one, which they leave as it is, or raise;
they raise where one of them that is required, or that a value stands under, has no valid
artifact; and their order does not matter. -/
theorem validateAndNormalizeArtifacts_outcome (scanner : Scanner) (builtins : Builtins)
    (location : String) (raw : PyValue) (contracts : List (String × ArtifactContract))
    (parsed : parseArtifactContracts builtins location raw = .ok contracts) (values : Dict Data) :
    (∀ payload, validateAndNormalizeArtifacts (validateCodeArtifact scanner) values contracts =
          .ok payload →
        Normalized scanner values contracts payload ∧
          validateAndNormalizeArtifacts (validateCodeArtifact scanner) payload contracts =
            .ok payload) ∧
    ((∃ found, validateAndNormalizeArtifacts (validateCodeArtifact scanner) values contracts =
        .error found) ↔
      ∃ contract ∈ contracts, Involved values contract ∧ Unprovided scanner values contract) ∧
    ∀ reordered : List (String × ArtifactContract), reordered.Perm contracts →
      SameOutcome
        (validateAndNormalizeArtifacts (validateCodeArtifact scanner) values reordered)
        (validateAndNormalizeArtifacts (validateCodeArtifact scanner) values contracts) := by
  have distinct := parseArtifactContracts_names parsed
  refine ⟨?_, ?_, ?_⟩
  · intro payload normalized
    rw [validateAndNormalizeArtifacts_eq] at normalized
    split at normalized
    · rename_i complete
      have held : ∀ key, payload.get? key = normalizedValue? scanner values contracts key := by
        intro key
        rw [normalizedValue?, Except.ok.inj normalized]
      exact ⟨normalized_of_complete scanner values distinct complete held,
        normalize_again scanner values distinct complete held⟩
    · cases normalized
  · rw [validateAndNormalizeArtifacts_eq]
    have complete := flatMap_report_eq_nil_iff scanner values contracts
    by_cases settled : contracts.flatMap (report scanner values) = []
    · rw [if_pos settled]
      exact iff_of_false (fun ⟨_, raised⟩ => nomatch raised) (complete.mp settled)
    · rw [if_neg settled]
      exact iff_of_true ⟨_, rfl⟩ (not_not.mp fun none_ => settled (complete.mpr none_))
  · intro reordered same
    rw [validateAndNormalizeArtifacts_eq, validateAndNormalizeArtifacts_eq]
    have moved := same.flatMap_right (report scanner values)
    by_cases settled : contracts.flatMap (report scanner values) = []
    · have also : reordered.flatMap (report scanner values) = [] := by
        rw [settled] at moved
        exact moved.eq_nil
      rw [if_pos settled, if_pos also]
      exact normalizedValue?_perm scanner values distinct same
    · have also : reordered.flatMap (report scanner values) ≠ [] := by
        intro empty
        rw [empty] at moved
        exact settled moved.symm.eq_nil
      rw [if_neg settled, if_neg also]
      exact moved

def asciiScanner : Scanner where
  repr text := text
  casefold text := String.ofList (text.toList.map Char.toLower)
  isWord c := c.isAlphanum || c = '_'
  sameLetter letter c := c.toLower = letter

def bareBuiltins : Builtins where
  text _ := ""
  repr _ := ""
  int _ := .error .typeError
  float _ := .error .typeError
  isWord c := c.isAlphanum || c = '_'

def optionalDeclaration : PyValue :=
  .dict [(.str "backend_code", .dict [(.str "kind", .str "code_artifact"),
    (.str "required", .bool false), (.str "aliases", .list [.str "api_code"])])]

def optionalContracts : List (String × ArtifactContract) :=
  [("backend_code", ⟨"code_artifact", false, ["api_code"]⟩)]

def aliasedFile : Dict Data := .ofItems [("api_code", .dict [("a.py", .str "x = 1")])]

def promotedFile : Dict Data := .ofItems [("backend_code", .dict [("a.py", .str "x = 1")])]

theorem optionalContracts_promoted :
    Normalized asciiScanner aliasedFile optionalContracts promotedFile :=
  ((validateAndNormalizeArtifacts_outcome asciiScanner bareBuiltins "steps" optionalDeclaration
    optionalContracts rfl aliasedFile).1 promotedFile rfl).1

/-- A contract that is not required raises as well, where its value is there but blank. -/
theorem blank_optional_raises :
    parseArtifactContracts bareBuiltins "steps" optionalDeclaration = .ok optionalContracts ∧
      (∀ contract ∈ optionalContracts, contract.2.required = false) ∧
      ∃ found, validateAndNormalizeArtifacts (validateCodeArtifact asciiScanner)
        (empty.insert "backend_code" (.str "")) optionalContracts = .error found := by
  refine ⟨rfl, ?_, ⟨_, rfl⟩⟩
  intro contract listed
  rw [mem_singleton.mp listed]

end

end AgenticRuntime
