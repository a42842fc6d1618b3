/-
The hash chain of the audit log, and that its last hash commits to the whole log.

A record is a dict of Python values. SHA-256 and the spelling of floats are parameters.
-/

import AgenticRuntime.Python.CanonicalJson
import AgenticRuntime.Python.JsonText
import Mathlib.Data.List.Induction

namespace Python

def Dict.toValue (dict : Dict PyValue) : PyValue :=
  .dict (dict.items.map fun item => (.str item.1, item.2))

def Dict.text? (dict : Dict PyValue) (name : String) : Option String :=
  (dict.get? name).bind PyValue.asStr?

theorem Dict.text?_eq_some {dict : Dict PyValue} {name text : String} :
    dict.text? name = some text ↔ dict.get? name = some (.str text) := by
  rw [Dict.text?, Option.bind_eq_some_iff]
  constructor
  · intro read
    obtain ⟨value, found, isText⟩ := read
    rw [found]
    cases value with
    | str held => exact congrArg (fun text => some (PyValue.str text)) (Option.some.inj isText)
    | none | bool value | int value | float value | list items | tuple items | dict items
    | datetime iso | path text | object text => cases isText
  · intro found
    exact ⟨_, found, rfl⟩

end Python

namespace AuditLog

open Python List

abbrev AuditRecord := Dict PyValue

/-- `"0" * 64` -/
def genesisHash : String := String.ofList (List.replicate 64 '0')

section

variable (format : FloatFormat) (sha256 : String → String)

/-- `none` is a `TypeError`. -/
def canonicalJson (value : PyValue) : Option String :=
  (value.canonical format.text).map fun tree => String.ofList (tree.render format)

/-- The record without its `hash`. -/
def payload (record : AuditRecord) : AuditRecord :=
  ⟨record.items.filter fun item => item.1 ≠ "hash",
    record.distinct.sublist (filter_sublist.map Prod.fst)⟩

def computeAuditHash (record : AuditRecord) : Option String :=
  (canonicalJson format (payload record).toValue).map sha256

/-- The loop of `verify_audit_chain`; `none` when hashing raises. -/
def verifyFrom (expectedPrev : String) : List AuditRecord → Option Bool
  | [] => some true
  | record :: rest =>
      if record.text? "prev_hash" ≠ some expectedPrev then some false
      else
        match computeAuditHash format sha256 record with
        | none => none
        | some digest =>
            if record.text? "hash" ≠ some digest then some false else verifyFrom digest rest

def verifyAuditChain (records : List AuditRecord) : Option Bool :=
  verifyFrom format sha256 genesisHash records

def lastHash (records : List AuditRecord) : Option String :=
  records.getLast?.bind fun record => record.text? "hash"

/-- The `expected_prev` behind the records. -/
def chainEnd (expected : String) (records : List AuditRecord) : String :=
  records.foldl (fun expected record => (record.text? "hash").getD expected) expected

/-- The record follows one whose hash is `expected`, and its own is right. -/
def Links (expected : String) (record : AuditRecord) : Prop :=
  record.text? "prev_hash" = some expected ∧ ∃ digest,
    computeAuditHash format sha256 record = some digest ∧ record.text? "hash" = some digest

def SameRecord (left right : AuditRecord) : Prop := left.toValue.Same right.toValue

/-- No two texts hashed for the records collide, and none hashes to the genesis value. -/
structure CollisionFree (records : List AuditRecord) : Prop where
  injective : ∀ left ∈ records, ∀ right ∈ records, ∀ text other,
    canonicalJson format (payload left).toValue = some text →
      canonicalJson format (payload right).toValue = some other →
        sha256 text = sha256 other → text = other
  notGenesis : ∀ record ∈ records, ∀ text,
    canonicalJson format (payload record).toValue = some text → sha256 text ≠ genesisHash

variable {format sha256}
  {expected name : String} {record : AuditRecord} {records : List AuditRecord}

theorem verifyFrom_cons {rest : List AuditRecord} :
    verifyFrom format sha256 expected (record :: rest) = some true ↔
      Links format sha256 expected record ∧
        verifyFrom format sha256 (chainEnd expected [record]) rest = some true := by
  rw [verifyFrom]
  constructor
  · intro accepted
    split at accepted
    · cases accepted
    · rename_i linked
      split at accepted
      · cases accepted
      · rename_i digest computed
        split at accepted
        · cases accepted
        · rename_i carried
          have isDigest := not_not.mp carried
          have ends : chainEnd expected [record] = digest := by
            change (record.text? "hash").getD expected = digest
            rw [isDigest, Option.getD_some]
          exact ⟨⟨not_not.mp linked, digest, computed, isDigest⟩, ends.symm ▸ accepted⟩
  · intro accepted
    obtain ⟨⟨linked, digest, computed, carried⟩, later⟩ := accepted
    change verifyFrom format sha256 ((record.text? "hash").getD expected) rest = _ at later
    rw [carried, Option.getD_some] at later
    rw [if_neg (not_not.mpr linked), computed]
    change (if _ then _ else _) = _
    rw [if_neg (not_not.mpr carried)]
    exact later

theorem verifyFrom_split {first second : List AuditRecord} :
    verifyFrom format sha256 expected (first ++ second) = some true ↔
      verifyFrom format sha256 expected first = some true ∧
        verifyFrom format sha256 (chainEnd expected first) second = some true := by
  induction first generalizing expected with
  | nil => exact ⟨fun accepted => ⟨rfl, accepted⟩, fun accepted => accepted.2⟩
  | cons record rest ih =>
      rw [cons_append, verifyFrom_cons, verifyFrom_cons, ih, and_assoc]
      rfl

theorem verifyFrom_append :
    verifyFrom format sha256 expected (records ++ [record]) = some true ↔
      verifyFrom format sha256 expected records = some true ∧
        Links format sha256 (chainEnd expected records) record := by
  rw [verifyFrom_split, verifyFrom_cons]
  exact and_congr_right fun _ => and_iff_left rfl

theorem chainEnd_append (expected : String) (records : List AuditRecord) (record : AuditRecord) :
    chainEnd expected (records ++ [record]) =
      (record.text? "hash").getD (chainEnd expected records) := by
  rw [chainEnd, foldl_append]
  rfl

/-! ### What an equal hash says about two records -/

theorem mem_payload {value : PyValue} (apart : name ≠ "hash") :
    (name, value) ∈ (payload record).items ↔
      (name, value) ∈ record.items := by
  rw [payload, mem_filter]
  exact and_iff_left (decide_eq_true apart)

theorem mem_keys_payload (apart : name ≠ "hash") :
    name ∈ Items.keys (payload record).items ↔ name ∈ Items.keys record.items := by
  rw [Items.keys, Items.keys, mem_map, mem_map]
  constructor
  · intro listed
    obtain ⟨item, there, same⟩ := listed
    exact ⟨item, mem_of_mem_filter there, same⟩
  · intro listed
    obtain ⟨item, there, same⟩ := listed
    exact ⟨item, mem_filter.mpr ⟨there, decide_eq_true (same ▸ apart)⟩, same⟩

theorem mem_of_text? {text : String} (found : record.text? name = some text) :
    (name, PyValue.str text) ∈ record.items :=
  Items.mem_of_get? (Dict.text?_eq_some.mp found)

theorem item_unique {left right : PyValue} (listed : (name, left) ∈ record.items)
    (other : (name, right) ∈ record.items) :
    left = right :=
  (Prod.ext_iff.mp (inj_on_of_nodup_map record.distinct listed other rfl)).2

theorem name_of_mem {value : PyValue} (listed : (name, value) ∈ record.items) :
    name ∈ Items.keys record.items :=
  mem_map_of_mem (f := Prod.fst) listed

theorem same_record {left right : AuditRecord} (plain : Plain left.toValue)
    (other : Plain right.toValue) {tree : Json} {digest : String}
    (leftTree : (payload left).toValue.canonical format.text = some tree)
    (rightTree : (payload right).toValue.canonical format.text = some tree)
    (leftHash : left.text? "hash" = some digest) (rightHash : right.text? "hash" = some digest) :
    SameRecord left right := by
  obtain ⟨members, arranged, written, otherWritten, perm⟩ := perm_of_canonical leftTree rightTree
  apply PyValue.Same.dict
  · intro name
    by_cases isHash : name = "hash"
    · subst isHash
      exact iff_of_true (name_of_mem (mem_of_text? leftHash)) (name_of_mem (mem_of_text? rightHash))
    · have sameNames := names_of_perm written otherWritten perm name
      exact (mem_keys_payload isHash).symm.trans (sameNames.trans (mem_keys_payload isHash))
  · intro name value otherValue listed otherListed
    by_cases isHash : name = "hash"
    · subst isHash
      rw [item_unique listed (mem_of_text? leftHash),
        item_unique otherListed (mem_of_text? rightHash)]
      exact .str digest
    · obtain ⟨inner, isTree, isOther⟩ := tree_of_perm written otherWritten perm
        (payload right).distinct ((mem_payload isHash).mpr listed)
        ((mem_payload isHash).mpr otherListed)
      exact same_of_canonical (plain.values (name, value) listed)
        (other.values (name, otherValue) otherListed) isTree isOther

theorem same_prev {left right : AuditRecord} {tree : Json} {otherExpected : String}
    (leftTree : (payload left).toValue.canonical format.text = some tree)
    (rightTree : (payload right).toValue.canonical format.text = some tree)
    (leftPrev : left.text? "prev_hash" = some expected)
    (rightPrev : right.text? "prev_hash" = some otherExpected) : expected = otherExpected := by
  have apart : "prev_hash" ≠ "hash" := by decide
  obtain ⟨members, arranged, written, otherWritten, perm⟩ := perm_of_canonical leftTree rightTree
  obtain ⟨inner, isTree, isOther⟩ := tree_of_perm written otherWritten perm
    (payload right).distinct ((mem_payload apart).mpr (mem_of_text? leftPrev))
    ((mem_payload apart).mpr (mem_of_text? rightPrev))
  exact Json.str.inj (Option.some.inj (isTree.trans isOther.symm))

theorem tree_of_text {value other : PyValue} {text : String}
    (written : canonicalJson format value = some text)
    (otherWritten : canonicalJson format other = some text) :
    ∃ tree, value.canonical format.text = some tree ∧
      other.canonical format.text = some tree := by
  obtain ⟨tree, isTree, rendered⟩ := Option.map_eq_some_iff.mp written
  obtain ⟨otherTree, isOther, otherRendered⟩ := Option.map_eq_some_iff.mp otherWritten
  have sameChars := String.ofList_injective (rendered.trans otherRendered.symm)
  rw [← render_injective sameChars] at isOther
  exact ⟨tree, isTree, isOther⟩

/-! ### The whole log -/

theorem CollisionFree.mono {others : List AuditRecord} (free : CollisionFree format sha256 others)
    (included : ∀ record ∈ records, record ∈ others) :
    CollisionFree format sha256 records := by
  constructor
  · intro left leftListed right rightListed
    exact free.injective left (included left leftListed) right (included right rightListed)
  · intro record listed
    exact free.notGenesis record (included record listed)

theorem Links.exists_hash (links : Links format sha256 expected record) : ∃ text,
      canonicalJson format (payload record).toValue = some text ∧
        record.text? "hash" = some (sha256 text) := by
  obtain ⟨_, digest, computed, carried⟩ := links
  obtain ⟨text, isText, isDigest⟩ := Option.map_eq_some_iff.mp computed
  exact ⟨text, isText, carried.trans (congrArg some isDigest.symm)⟩

theorem last_agrees {otherExpected : String} {other : AuditRecord} (plain : Plain record.toValue)
    (otherPlain : Plain other.toValue)
    (injective : ∀ text otherText, canonicalJson format (payload record).toValue = some text →
      canonicalJson format (payload other).toValue = some otherText →
        sha256 text = sha256 otherText → text = otherText)
    (links : Links format sha256 expected record)
    (otherLinks : Links format sha256 otherExpected other)
    (sameHash : record.text? "hash" = other.text? "hash") :
    SameRecord record other ∧ expected = otherExpected := by
  obtain ⟨text, isText, carried⟩ := links.exists_hash
  obtain ⟨otherText, isOther, otherCarried⟩ := otherLinks.exists_hash
  have sameDigest : sha256 text = sha256 otherText :=
    Option.some.inj (carried.symm.trans (sameHash.trans otherCarried))
  have sameText := injective text otherText isText isOther sameDigest
  subst sameText
  obtain ⟨tree, isTree, isOtherTree⟩ := tree_of_text isText isOther
  constructor
  · exact same_record plain otherPlain isTree isOtherTree carried otherCarried
  · exact same_prev isTree isOtherTree links.1 otherLinks.1

theorem chainEnd_ne_genesis (free : CollisionFree format sha256 (records ++ [record]))
    (accepted : verifyAuditChain format sha256 (records ++ [record]) = some true) :
    chainEnd genesisHash (records ++ [record]) ≠ genesisHash := by
  have listed : record ∈ records ++ [record] := mem_append_right _ (mem_singleton_self _)
  obtain ⟨text, isText, carried⟩ := (verifyFrom_append.mp accepted).2.exists_hash
  rw [chainEnd_append, carried, Option.getD_some]
  exact free.notGenesis record listed text isText

theorem chainEnd_of_links {start : String} (links : Links format sha256 expected record) :
    record.text? "hash" = some (chainEnd start (records ++ [record])) := by
  obtain ⟨text, _, carried⟩ := links.exists_hash
  rw [chainEnd_append, carried, Option.getD_some]

theorem same_of_chainEnd {others : List AuditRecord}
    (plain : ∀ record ∈ records ++ others, Plain record.toValue)
    (free : CollisionFree format sha256 (records ++ others))
    (accepted : verifyAuditChain format sha256 records = some true)
    (otherAccepted : verifyAuditChain format sha256 others = some true)
    (sameEnd : chainEnd genesisHash records = chainEnd genesisHash others) :
    List.Forall₂ SameRecord records others := by
  induction records using List.reverseRecOn generalizing others with
  | nil =>
      cases others using List.reverseRecOn with
      | nil => exact List.Forall₂.nil
      | append_singleton others other =>
          exact absurd sameEnd.symm (chainEnd_ne_genesis free otherAccepted)
  | append_singleton records record ih =>
      cases others using List.reverseRecOn with
      | nil =>
          rw [append_nil] at free
          exact absurd sameEnd (chainEnd_ne_genesis free accepted)
      | append_singleton others other =>
          obtain ⟨restAccepted, links⟩ := verifyFrom_append.mp accepted
          obtain ⟨otherRest, otherLinks⟩ := verifyFrom_append.mp otherAccepted
          have listed : record ∈ (records ++ [record]) ++ (others ++ [other]) := by simp
          have otherListed : other ∈ (records ++ [record]) ++ (others ++ [other]) := by simp
          have included : ∀ earlier ∈ records ++ others,
              earlier ∈ (records ++ [record]) ++ (others ++ [other]) := by
            intro earlier member
            rcases mem_append.mp member with left | right
            · exact mem_append_left _ (mem_append_left _ left)
            · exact mem_append_right _ (mem_append_left _ right)
          have sameHash : record.text? "hash" = other.text? "hash" := by
            rw [chainEnd_of_links links, chainEnd_of_links otherLinks, sameEnd]
          obtain ⟨sameLast, sameBefore⟩ := last_agrees (plain record listed)
            (plain other otherListed) (free.injective record listed other otherListed) links
            otherLinks sameHash
          have sameRest := ih (fun earlier member => plain earlier (included earlier member))
            (free.mono included) restAccepted otherRest sameBefore
          exact rel_append sameRest (List.Forall₂.cons sameLast List.Forall₂.nil)

theorem lastHash_of_accepted {start : String}
    (accepted : verifyFrom format sha256 start records = some true) :
    records = [] ∨ lastHash records = some (chainEnd start records) := by
  cases records using List.reverseRecOn with
  | nil => exact .inl rfl
  | append_singleton records record =>
      right
      rw [lastHash, List.getLast?_concat]
      exact chainEnd_of_links (verifyFrom_append.mp accepted).2

/-- The last record's hash commits to the whole log: no other log with that last hash is
accepted. -/
theorem audit_chain_tamper_evident {records others : List AuditRecord}
    (json : ∀ record ∈ records ++ others, Plain record.toValue)
    (free : CollisionFree format sha256 (records ++ others))
    (sameLast : lastHash records = lastHash others)
    (accepted : verifyAuditChain format sha256 records = some true) :
    (verifyAuditChain format sha256 others = some true →
        List.Forall₂ SameRecord records others) ∧
      (¬ List.Forall₂ SameRecord records others →
        verifyAuditChain format sha256 others ≠ some true) := by
  have agree : verifyAuditChain format sha256 others = some true →
      List.Forall₂ SameRecord records others := by
    intro otherAccepted
    apply same_of_chainEnd json free accepted otherAccepted
    rcases lastHash_of_accepted accepted with empty | ends
    · rcases lastHash_of_accepted otherAccepted with otherEmpty | otherEnds
      · rw [empty, otherEmpty]
      · rw [empty, otherEnds] at sameLast
        cases sameLast
    · rcases lastHash_of_accepted otherAccepted with otherEmpty | otherEnds
      · rw [ends, otherEmpty] at sameLast
        cases sameLast
      · rw [ends, otherEnds] at sameLast
        exact Option.some.inj sameLast
  exact ⟨agree, fun differ otherAccepted => differ (agree otherAccepted)⟩

end

/-! ### A log and its rearrangement -/

def loginText : String :=
  "\x7b\x22event_type\x22:\x22auth.login\x22,\x22prev_hash\x22:\x22" ++ genesisHash ++ "\x22\x7d"

def loginHash : String := "1ae73a319a6f885dfcf8d9383624136c6ff8eb57a1216de97ceffa0ae916cf92"

def startText : String :=
  "\x7b\x22event_type\x22:\x22run.started\x22,\x22metadata\x22:" ++
    "\x7b\x22attempt\x22:2,\x22dry_run\x22:true\x7d,\x22prev_hash\x22:\x22" ++ loginHash ++
    "\x22\x7d"

def startHash : String := "d4a2d347e022174214e8493e19285f906a6c044314266b59025fa13fd2b76148"

def twoDigests (text : String) : String :=
  if text = loginText then loginHash else if text = startText then startHash else text

def loginRecord : AuditRecord where
  items := [("event_type", .str "auth.login"), ("prev_hash", .str genesisHash),
    ("hash", .str loginHash)]
  distinct := by decide

def startRecord : AuditRecord where
  items := [("event_type", .str "run.started"), ("prev_hash", .str loginHash),
    ("metadata", .dict [(.str "attempt", .int 2), (.str "dry_run", .bool true)]),
    ("hash", .str startHash)]
  distinct := by decide

def startRearranged : AuditRecord where
  items := [("hash", .str startHash), ("prev_hash", .str loginHash),
    ("metadata", .dict [(.str "dry_run", .bool true), (.str "attempt", .int 2)]),
    ("event_type", .str "run.started")]
  distinct := by decide

theorem plain_loginRecord : Plain loginRecord.toValue := by
  apply Plain.dict loginRecord.distinct
  intro item listed
  simp only [loginRecord, List.mem_cons, not_mem_nil, or_false] at listed
  rcases listed with rfl | rfl | rfl
  · exact .str _
  · exact .str _
  · exact .str _

theorem plain_pair (first second : String) (apart : first ≠ second) {value other : PyValue}
    (firstPlain : Plain value) (secondPlain : Plain other) :
    Plain (.dict [(.str first, value), (.str second, other)]) := by
  have distinct : (Items.keys [(first, value), (second, other)]).Nodup := by
    simpa [Items.keys] using apart
  apply Plain.dict distinct
  intro item listed
  simp only [List.mem_cons, not_mem_nil, or_false] at listed
  rcases listed with rfl | rfl
  · exact firstPlain
  · exact secondPlain

theorem plain_startRecord : Plain startRecord.toValue := by
  apply Plain.dict startRecord.distinct
  intro item listed
  simp only [startRecord, List.mem_cons, not_mem_nil, or_false] at listed
  rcases listed with rfl | rfl | rfl | rfl
  · exact .str _
  · exact .str _
  · exact plain_pair "attempt" "dry_run" (by decide) (.int 2) (.bool true)
  · exact .str _

theorem plain_startRearranged : Plain startRearranged.toValue := by
  apply Plain.dict startRearranged.distinct
  intro item listed
  simp only [startRearranged, List.mem_cons, not_mem_nil, or_false] at listed
  rcases listed with rfl | rfl | rfl | rfl
  · exact .str _
  · exact .str _
  · exact plain_pair "dry_run" "attempt" (by decide) (.bool true) (.int 2)
  · exact .str _

theorem twoDigests_collisionFree : CollisionFree ratioFormat twoDigests
    ([loginRecord, startRecord] ++ [loginRecord, startRearranged]) := by
  have texts : ∀ record ∈ [loginRecord, startRecord] ++ [loginRecord, startRearranged],
      canonicalJson ratioFormat (payload record).toValue = some loginText ∨
        canonicalJson ratioFormat (payload record).toValue = some startText := by
    decide +kernel
  have hashed : ∀ text ∈ [loginText, startText], ∀ other ∈ [loginText, startText],
      twoDigests text = twoDigests other → text = other := by
    decide +kernel
  have notGenesis : ∀ text ∈ [loginText, startText], twoDigests text ≠ genesisHash := by
    decide +kernel
  have among : ∀ record ∈ [loginRecord, startRecord] ++ [loginRecord, startRearranged],
      ∀ text, canonicalJson ratioFormat (payload record).toValue = some text →
        text ∈ [loginText, startText] := by
    intro record listed text written
    rcases texts record listed with login | start
    · rw [Option.some.inj (written.symm.trans login)]
      exact mem_cons_self
    · rw [Option.some.inj (written.symm.trans start)]
      exact mem_cons_of_mem _ mem_cons_self
  constructor
  · intro left leftListed right rightListed text other written otherWritten
    exact hashed text (among left leftListed text written) other
      (among right rightListed other otherWritten)
  · intro record listed text written
    exact notGenesis text (among record listed text written)

theorem rearranged_log_same :
    List.Forall₂ SameRecord [loginRecord, startRecord] [loginRecord, startRearranged] := by
  have json : ∀ record ∈ [loginRecord, startRecord] ++ [loginRecord, startRearranged],
      Plain record.toValue := by
    intro record listed
    simp only [cons_append, nil_append, List.mem_cons, not_mem_nil, or_false]
      at listed
    rcases listed with rfl | rfl | rfl | rfl
    · exact plain_loginRecord
    · exact plain_startRecord
    · exact plain_loginRecord
    · exact plain_startRearranged
  have evident := audit_chain_tamper_evident json twoDigests_collisionFree (by decide +kernel)
    (by decide +kernel)
  exact evident.1 (by decide +kernel)

end AuditLog
