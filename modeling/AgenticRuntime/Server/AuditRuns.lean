/-
When the audit log verifies over whole runs.

The chain holds as long as a record reads back to the text that was hashed, the head is
the hash of the last stored record, and a call returns exactly when its record is stored.
-/

import AgenticRuntime.Server.AuditLog

namespace Python

theorem Dict.get?_of_mem {α : Type} {dict : Dict α} {name : String} {value : α}
    (listed : (name, value) ∈ dict.items) : dict.get? name = some value := by
  cases found : dict.get? name with
  | none =>
      have absent := Items.get?_eq_none_iff.mp found
      exact absurd (List.mem_map_of_mem listed) absent
  | some held =>
      have there := Items.mem_of_get? found
      have same := List.inj_on_of_nodup_map dict.distinct there listed rfl
      exact congrArg some (Prod.mk.inj same).2

end Python

namespace AuditLog

open Python List Transition Dict

section

variable {format : FloatFormat} {sha256 : String → String}

/-! ### Reading a line back -/

theorem readRecord_items {members : List (String × Json)}
    (distinct : (Items.keys members).Nodup) :
    (readRecord (.object members)).items = rereadItems members := by
  have whole : (Items.keys ([] ++ rereadItems members)).Nodup := by
    rw [nil_append, keys_rereadItems]
    exact distinct
  change Items.update [] (loadsMembers members) = _
  rw [loadsMembers_eq]
  exact Items.update_of_distinct whole

variable (sha256) in
theorem exists_line {record : AuditRecord}
    (stable : ∀ item ∈ record.items, Stable format.text item.2) :
    ∃ line, record.toValue.canonical format.text = some line ∧
      computeAuditHash format sha256 (readRecord line) = computeAuditHash format sha256 record ∧
        ∀ name text, record.text? name = some text →
          (readRecord line).text? name = some text := by
  obtain ⟨members, written, isWritten, perm, increasing, again⟩ :=
    exists_members record.distinct stable
  have items := readRecord_items (distinct_of_sorted increasing)
  refine ⟨.object members, canonical_of_members isWritten perm increasing, ?_, ?_⟩
  · let kept := members.filter fun member => decide (member.1 ≠ "hash")
    have keptIncreasing : (Items.keys kept).Pairwise fun left right => left < right :=
      List.Pairwise.sublist (filter_sublist.map Prod.fst) increasing
    have ofRecord : (payload record).toValue.canonical format.text = some (.object kept) :=
      canonical_of_members (mapM_writeMember_filter (fun name => decide (name ≠ "hash")) isWritten)
        (perm.filter _) keptIncreasing
    have payloadItems : (payload (readRecord (.object members))).items = rereadItems kept := by
      change (readRecord (.object members)).items.filter _ = _
      rw [items, rereadItems, filter_map]
      rfl
    have ofRead : (payload (readRecord (.object members))).toValue.canonical format.text =
        some (.object kept) := by
      rw [toValue, payloadItems]
      exact canonical_reread keptIncreasing
        fun member listed => again member (mem_of_mem_filter listed)
    rw [computeAuditHash, computeAuditHash, canonicalJson, canonicalJson, ofRecord, ofRead]
  · intro name text held
    obtain ⟨tree, there, isTree⟩ := exists_member_of_written isWritten (mem_of_text? held)
    cases isTree
    apply text?_eq_some.mpr
    apply get?_of_mem
    rw [items]
    exact mem_map.mpr ⟨_, perm.mem_iff.mpr there, rfl⟩

/-! ### What the logger builds -/

def eventValues (format : FloatFormat) (event : AuditEvent) : List PyValue :=
  [jsonSafe format (orEmpty event.actor), jsonSafe format (orEmpty event.target),
    jsonSafe format (orEmpty event.metadata)]

theorem stable_optionalText (text : Option String) :
    Stable format.text (optionalText text) := by
  cases text with
  | none => exact ⟨.null, rfl, rfl⟩
  | some text => exact ⟨.str text, rfl, rfl⟩

theorem stable_str (text : String) : Stable format.text (.str text) := ⟨.str text, rfl, rfl⟩

theorem unhashed_stable {event : AuditEvent} (prevHash : String)
    (ordered : ∀ value ∈ eventValues format event, KeyOrder format.text value) :
    ∀ item ∈ (unhashedRecord format event prevHash).items, Stable format.text item.2 := by
  have given : ∀ value ∈ eventValues format event, Stable format.text value :=
    fun value listed => stable_of_keyOrder (ordered value listed)
  simp only [eventValues, forall_mem_cons] at given
  obtain ⟨actor, target, metadata, _⟩ := given
  intro item listed
  simp only [unhashedRecord, List.mem_cons, not_mem_nil, or_false] at listed
  rcases listed with rfl | rfl | rfl | rfl | rfl | rfl | rfl | rfl | rfl | rfl | rfl | rfl
  · exact stable_str _
  · exact stable_str _
  · exact stable_str _
  · exact stable_str _
  · exact stable_str _
  · exact actor
  · exact target
  · exact stable_optionalText _
  · exact stable_optionalText _
  · exact stable_optionalText _
  · exact metadata
  · exact stable_str _

theorem fresh_hash (event : AuditEvent) (prevHash : String) :
    "hash" ∉ Items.keys (unhashedRecord format event prevHash).items := by
  have names : "hash" ∉ ["schema_version", "id", "timestamp", "event_type", "outcome", "actor",
      "target", "tenant_id", "run_id", "request_id", "metadata", "prev_hash"] := by
    decide
  exact names

theorem payload_hashed (event : AuditEvent) (prevHash digest : String) :
    payload ((unhashedRecord format event prevHash).insert "hash" (.str digest)) =
      payload (unhashedRecord format event prevHash) := by
  have kept : ∀ record : AuditRecord, (payload record).items =
      record.items.filter fun item => item.1 ≠ "hash" := fun record => rfl
  have grown : ((unhashedRecord format event prevHash).insert "hash" (.str digest)).items =
      (unhashedRecord format event prevHash).items ++ [("hash", .str digest)] :=
    Items.insert_of_fresh (fresh_hash event prevHash) _
  apply ext
  rw [kept, kept, grown, filter_append]
  exact append_nil _

theorem unhashed_prev (event : AuditEvent) (prevHash : String) :
    (unhashedRecord format event prevHash).text? "prev_hash" = some prevHash := by
  apply text?_eq_some.mpr
  apply get?_of_mem
  simp [unhashedRecord]

theorem buildRecord_some {event : AuditEvent} {prevHash digest : String} {record : AuditRecord}
    (built : buildRecord format sha256 event prevHash = some (record, digest)) :
    record = (unhashedRecord format event prevHash).insert "hash" (.str digest) ∧
      Links format sha256 prevHash record ∧ record.text? "hash" = some digest := by
  obtain ⟨hash, computed, same⟩ := Option.map_eq_some_iff.mp built
  cases same
  have carried : ((unhashedRecord format event prevHash).insert "hash" (.str digest)).text? "hash" =
      some digest := by
    apply text?_eq_some.mpr
    rw [get?_insert, if_pos rfl]
  refine ⟨rfl, ⟨?_, digest, ?_, carried⟩, carried⟩
  · have held : (unhashedRecord format event prevHash).get? "prev_hash" =
        some (.str prevHash) := text?_eq_some.mp (unhashed_prev event prevHash)
    apply text?_eq_some.mpr
    rw [get?_insert, if_neg (by decide)]
    exact held
  · rw [computeAuditHash, payload_hashed]
    exact computed

theorem values_of_built {event : AuditEvent} {prevHash digest : String} {record : AuditRecord}
    (built : buildRecord format sha256 event prevHash = some (record, digest)) :
    ∀ value ∈ eventValues format event, (value.canonical format.text).isSome := by
  obtain ⟨hash, computed, _⟩ := Option.map_eq_some_iff.mp built
  obtain ⟨text, isText, _⟩ := Option.map_eq_some_iff.mp computed
  obtain ⟨tree, isTree, _⟩ := Option.map_eq_some_iff.mp isText
  rw [toValue, canonical_named, Option.map_eq_some_iff] at isTree
  obtain ⟨members, written, _⟩ := isTree
  have ofItem : ∀ name value, name ≠ "hash" →
      (name, value) ∈ (unhashedRecord format event prevHash).items →
        (value.canonical format.text).isSome := by
    intro name value apart listed
    obtain ⟨tree, _, isTree⟩ := exists_member_of_written written ((mem_payload apart).mpr listed)
    exact Option.isSome_of_eq_some isTree
  simp only [eventValues, forall_mem_cons]
  refine ⟨?_, ?_, ?_, fun value listed => absurd listed not_mem_nil⟩
  · exact ofItem "actor" _ (by decide) (by simp [unhashedRecord])
  · exact ofItem "target" _ (by decide) (by simp [unhashedRecord])
  · exact ofItem "metadata" _ (by decide) (by simp [unhashedRecord])

end

/-! ### Runs -/

section

variable (format : FloatFormat) (sha256 : String → String) (backend : Backend)

/-- The records that can be read verify, from the genesis value if none was dropped, and
every call that was answered has its record in the store unless Redis dropped it. -/
structure LogVerifies (state : LogState) : Prop where
  whole : state.trimmed = [] → verifyAuditChain format sha256 state.records = some true
  linked : ∃ start, verifyFrom format sha256 start state.records = some true
  answered : ∀ line ∈ state.answered, line ∈ state.trimmed ++ state.stored

def readable (state : LogState) : TailRead → Bool
  | .failed _ => false
  | .read =>
      match backend with
      | .file => true
      | .redis _ => state.connected

def AppendOutcome.honest : AppendOutcome → Bool
  | .returned kept _ _ => kept
  | .raised kept => !kept

/-- What a call needs to keep the chain: values that are written back in their order, a tail
that can be read where it is needed, and an honest store. -/
def Faithful (state : LogState) : Event → Prop
  | .restart _ => True
  | .audit event tail append => state.enabled = true →
      ((∀ value ∈ eventValues format event, (value.canonical format.text).isSome) →
        ∀ value ∈ eventValues format event, KeyOrder format.text value) ∧
      (state.head = none → state.stored = [] ∨ readable backend state tail = true) ∧
      append.honest = true

/-- The stored records link from `start`, and the head is where they end. -/
structure ChainFrom (start : String) (state : LogState) : Prop where
  accepted : verifyFrom format sha256 start state.records = some true
  fresh : state.trimmed = [] → start = genesisHash
  ends : state.enabled = true → ∀ head, state.head = some head →
    head = chainEnd start state.records
  answered : ∀ line ∈ state.answered, line ∈ state.trimmed ++ state.stored

variable {format sha256 backend} {start : String} {state : LogState} {tail : TailRead}

theorem ChainFrom.verifies (chain : ChainFrom format sha256 start state) :
    LogVerifies format sha256 state := by
  refine ⟨?_, ⟨start, chain.accepted⟩, chain.answered⟩
  intro untrimmed
  have accepted := chain.accepted
  rw [chain.fresh untrimmed] at accepted
  exact accepted

variable (backend) in
theorem getLastHash_keeps (state : LogState) (tail : TailRead) :
    (getLastHash backend state tail).2.stored = state.stored ∧
      (getLastHash backend state tail).2.trimmed = state.trimmed ∧
        (getLastHash backend state tail).2.answered = state.answered ∧
          (getLastHash backend state tail).2.enabled = state.enabled := by
  cases backend with
  | file | redis maxEvents =>
      cases tail with
      | read | failed disconnected => exact ⟨rfl, rfl, rfl, rfl⟩

variable (backend) in
theorem chainHead_keeps (state : LogState) (tail : TailRead) :
    (chainHead backend state tail).2.stored = state.stored ∧
      (chainHead backend state tail).2.trimmed = state.trimmed ∧
        (chainHead backend state tail).2.answered = state.answered ∧
          (chainHead backend state tail).2.enabled = state.enabled ∧
            (chainHead backend state tail).2.head = some (chainHead backend state tail).1 := by
  unfold chainHead
  cases known : state.head with
  | some head => exact ⟨rfl, rfl, rfl, rfl, known⟩
  | none =>
      obtain ⟨stored, trimmed, answered, enabled⟩ := getLastHash_keeps backend state tail
      exact ⟨stored, trimmed, answered, enabled, rfl⟩

theorem getLastHash_readable (isReadable : readable backend state tail = true) :
    (getLastHash backend state tail).1.filter (· ≠ "") =
      (lastHash state.records).filter (· ≠ "") := by
  cases tail with
  | failed disconnected => cases isReadable
  | read =>
      cases backend with
      | file =>
          change ((lastHash state.records).filter _).filter _ = _
          rw [Option.filter_filter]
          simp
      | redis maxEvents =>
          have connected : state.connected = true := isReadable
          change (if state.connected then lastHash state.records else none).filter _ = _
          rw [if_pos connected]

theorem getLastHash_empty (empty : state.stored = []) :
    (getLastHash backend state tail).1.filter (· ≠ "") = none := by
  have nothing : lastHash state.records = none := by
    rw [LogState.records, empty]
    rfl
  cases backend with
  | file =>
      cases tail with
      | read =>
          change ((lastHash state.records).filter _).filter _ = _
          rw [nothing]
          rfl
      | failed disconnected => rfl
  | redis maxEvents =>
      cases tail with
      | read =>
          change (if state.connected then lastHash state.records else none).filter _ = _
          rw [nothing, ite_self]
          rfl
      | failed disconnected => rfl

theorem chainEnd_digest {records : List AuditRecord}
    (accepted : verifyFrom format sha256 start records = some true) :
    records = [] ∨ ∃ text, chainEnd start records = sha256 text := by
  cases records using List.reverseRecOn with
  | nil => exact .inl rfl
  | append_singleton records record =>
      obtain ⟨text, _, carried⟩ := (verifyFrom_append.mp accepted).2.exists_hash
      right
      refine ⟨text, ?_⟩
      rw [chainEnd_append, carried, Option.getD_some]

theorem chainHead_none (unknown : state.head = none) :
    (chainHead backend state tail).1 =
      ((getLastHash backend state tail).1.filter (· ≠ "")).getD genesisHash := by
  unfold chainHead
  rw [unknown]

theorem records_eq {other : LogState} (same : state.stored = other.stored) :
    state.records = other.records := congrArg (List.map readRecord) same

theorem chainFrom_chainHead (chain : ChainFrom format sha256 start state)
    (ends : (chainHead backend state tail).1 = chainEnd start state.records) :
    ChainFrom format sha256 start (chainHead backend state tail).2 := by
  obtain ⟨stored, trimmed, answered, enabled, known⟩ := chainHead_keeps backend state tail
  constructor
  · rw [records_eq stored]
    exact chain.accepted
  · rw [trimmed]
    exact chain.fresh
  · intro _ head isHead
    rw [known] at isHead
    rw [← Option.some.inj isHead, records_eq stored]
    exact ends
  · rw [answered, trimmed, stored]
    exact chain.answered

theorem ChainFrom.restart_empty (chain : ChainFrom format sha256 start state)
    (empty : state.stored = []) (unknown : state.head = none) :
    ChainFrom format sha256 genesisHash state := by
  refine ⟨?_, fun _ => rfl, ?_, chain.answered⟩
  · rw [LogState.records, empty]
    rfl
  · intro _ head isHead
    rw [unknown] at isHead
    cases isHead

theorem chainHead_ends (digests : ∀ text, sha256 text ≠ "")
    (chain : ChainFrom format sha256 start state) (on : state.enabled = true)
    (found : state.head = none → state.stored = [] ∨ readable backend state tail = true) :
    ∃ origin, ChainFrom format sha256 origin (chainHead backend state tail).2 ∧
      (chainHead backend state tail).1 = chainEnd origin state.records := by
  cases known : state.head with
  | some head =>
      have isHead : (chainHead backend state tail).1 = head := by
        unfold chainHead
        rw [known]
      have ends := isHead.trans (chain.ends on head known)
      exact ⟨start, chainFrom_chainHead chain ends, ends⟩
  | none =>
      have atGenesis : state.stored = [] → ∃ origin,
          ChainFrom format sha256 origin (chainHead backend state tail).2 ∧
            (chainHead backend state tail).1 = chainEnd origin state.records := by
        intro empty
        have ends : (chainHead backend state tail).1 = chainEnd genesisHash state.records := by
          rw [chainHead_none known, getLastHash_empty empty, LogState.records, empty]
          rfl
        exact ⟨genesisHash, chainFrom_chainHead (chain.restart_empty empty known) ends, ends⟩
      rcases found known with empty | isReadable
      · exact atGenesis empty
      · rcases lastHash_of_accepted chain.accepted with empty | last
        · exact atGenesis (map_eq_nil_iff.mp empty)
        · rcases chainEnd_digest chain.accepted with empty | digest
          · exact atGenesis (map_eq_nil_iff.mp empty)
          · obtain ⟨text, isDigest⟩ := digest
            have nonempty : chainEnd start state.records ≠ "" := by
              rw [isDigest]
              exact digests text
            have ends : (chainHead backend state tail).1 = chainEnd start state.records := by
              rw [chainHead_none known, getLastHash_readable isReadable, last, Option.filter_some,
                if_pos (decide_eq_true nonempty), Option.getD_some]
            exact ⟨start, chainFrom_chainHead chain ends, ends⟩

theorem chainFrom_appended {digest : String} {line : Json} {append : AppendOutcome}
    (chain : ChainFrom format sha256 start state)
    (links : Links format sha256 (chainEnd start state.records) (readRecord line))
    (carried : (readRecord line).text? "hash" = some digest) (honest : append.honest = true) :
    ∃ origin, ChainFrom format sha256 origin
      ((state.appended line append).acknowledged line digest append) := by
  cases append with
  | raised kept =>
      cases kept with
      | true => cases honest
      | false => exact ⟨start, chain⟩
  | returned kept trimmed disconnected =>
      cases kept with
      | false => cases honest
      | true =>
          have accepted : verifyFrom format sha256 start (state.records ++ [readRecord line]) =
              some true := verifyFrom_append.mpr ⟨chain.accepted, links⟩
          have ends : chainEnd start (state.records ++ [readRecord line]) = digest := by
            rw [chainEnd_append, carried, Option.getD_some]
          have split := take_append_drop trimmed (state.records ++ [readRecord line])
          have newRecords : ((state.stored ++ [line]).drop trimmed).map readRecord =
              (state.records ++ [readRecord line]).drop trimmed := by
            rw [map_drop, map_append]
            rfl
          rw [← split] at accepted ends
          refine ⟨chainEnd start ((state.records ++ [readRecord line]).take trimmed), ?_, ?_, ?_, ?_⟩
          · change verifyFrom format sha256 _ (((state.stored ++ [line]).drop trimmed).map _) = _
            rw [newRecords]
            exact (verifyFrom_split.mp accepted).2
          · intro untrimmed
            change state.trimmed ++ (state.stored ++ [line]).take trimmed = [] at untrimmed
            obtain ⟨earlier, notNow⟩ := append_eq_nil_iff.mp untrimmed
            have nothing : (state.records ++ [readRecord line]).take trimmed = [] := by
              have mapped := congrArg (List.map readRecord) notNow
              rw [map_take, map_append] at mapped
              exact mapped
            rw [nothing]
            exact chain.fresh earlier
          · intro _ head isHead
            change some digest = some head at isHead
            change head = chainEnd _ (((state.stored ++ [line]).drop trimmed).map _)
            rw [newRecords, ← Option.some.inj isHead, ← ends, chainEnd, foldl_append]
            rfl
          · intro answered listed
            have whole : (state.trimmed ++ (state.stored ++ [line]).take trimmed) ++
                (state.stored ++ [line]).drop trimmed = state.trimmed ++ (state.stored ++ [line]) := by
              rw [append_assoc, take_append_drop]
            change answered ∈ (state.trimmed ++ (state.stored ++ [line]).take trimmed) ++
              (state.stored ++ [line]).drop trimmed
            rw [whole, ← append_assoc]
            rcases mem_append.mp listed with earlier | last
            · exact mem_append_left _ (chain.answered answered earlier)
            · exact mem_append_right _ last

theorem auditStep_cases {after : LogState} {event : AuditEvent} {append : AppendOutcome}
    (taken : auditStep format sha256 backend state event tail append = some after) :
    after = (chainHead backend state tail).2 ∨
      ∃ record digest, buildRecord format sha256 event (chainHead backend state tail).1 =
          some (record, digest) ∧
        ((state.enabled = false ∧
            after = { (chainHead backend state tail).2 with head := some digest }) ∨
          ∃ line, state.enabled = true ∧ record.toValue.canonical format.text = some line ∧
            after = ((chainHead backend state tail).2.appended line append).acknowledged line
              digest append) := by
  obtain ⟨_, _, _, enabled, _⟩ := chainHead_keeps backend state tail
  unfold auditStep at taken
  simp only at taken
  cases built : buildRecord format sha256 event (chainHead backend state tail).1 with
  | none =>
      rw [built] at taken
      exact .inl (Option.some.inj taken).symm
  | some whole =>
      obtain ⟨record, digest⟩ := whole
      rw [built] at taken
      dsimp only at taken
      cases on : state.enabled with
      | false =>
          rw [if_neg (Bool.not_eq_true _ ▸ enabled.trans on)] at taken
          exact .inr ⟨record, digest, rfl, .inl ⟨rfl, (Option.some.inj taken).symm⟩⟩
      | true =>
          rw [if_pos (enabled.trans on)] at taken
          cases written : record.toValue.canonical format.text with
          | none =>
              rw [written] at taken
              exact .inl (Option.some.inj taken).symm
          | some line =>
              rw [written] at taken
              simp only at taken
              split at taken
              · exact .inr ⟨record, digest, rfl,
                  .inr ⟨line, rfl, written, (Option.some.inj taken).symm⟩⟩
              · cases taken

theorem ChainFrom.of_disabled (chain : ChainFrom format sha256 start state)
    (off : state.enabled = false) (head : Option String) :
    ChainFrom format sha256 start { (chainHead backend state tail).2 with head := head } := by
  obtain ⟨stored, trimmed, answered, enabled, _⟩ := chainHead_keeps backend state tail
  constructor
  · exact (records_eq stored).symm ▸ chain.accepted
  · exact trimmed.symm ▸ chain.fresh
  · intro on
    change (chainHead backend state tail).2.enabled = true at on
    rw [enabled, off] at on
    cases on
  · change ∀ line ∈ (chainHead backend state tail).2.answered, line ∈
      (chainHead backend state tail).2.trimmed ++ (chainHead backend state tail).2.stored
    rw [answered, trimmed, stored]
    exact chain.answered

theorem links_of_built {event : AuditEvent} {prevHash digest : String} {record : AuditRecord}
    {line : Json} (built : buildRecord format sha256 event prevHash = some (record, digest))
    (inOrder : ∀ value ∈ eventValues format event, KeyOrder format.text value)
    (written : record.toValue.canonical format.text = some line) :
    Links format sha256 prevHash (readRecord line) ∧
      (readRecord line).text? "hash" = some digest := by
  obtain ⟨isRecord, ⟨previous, found, computed, held⟩, carried⟩ := buildRecord_some built
  have stable : ∀ item ∈ record.items, Stable format.text item.2 := by
    intro item listed
    rw [isRecord] at listed
    rcases Items.mem_insert listed with earlier | hash
    · exact unhashed_stable prevHash inOrder item earlier
    · subst hash
      exact stable_str digest
  obtain ⟨read, isLine, sameHash, sameTexts⟩ := exists_line sha256 stable
  cases isLine.symm.trans written
  exact ⟨⟨sameTexts _ _ previous, found, sameHash.trans computed, sameTexts _ _ held⟩,
    sameTexts _ _ carried⟩

theorem chainFrom_audit (digests : ∀ text, sha256 text ≠ "") {after : LogState} {event : AuditEvent}
    {append : AppendOutcome} (chain : ChainFrom format sha256 start state)
    (faithful : Faithful format backend state (.audit event tail append))
    (taken : auditStep format sha256 backend state event tail append = some after) :
    ∃ origin, ChainFrom format sha256 origin after := by
  cases on : state.enabled with
  | false =>
      rcases auditStep_cases taken with same | ⟨record, digest, _, ⟨_, same⟩ | ⟨_, enabled, _⟩⟩
      · subst same
        exact ⟨start, chain.of_disabled on _⟩
      · subst same
        exact ⟨start, chain.of_disabled on _⟩
      · rw [on] at enabled
        cases enabled
  | true =>
      obtain ⟨inOrder, found, honest⟩ := faithful on
      obtain ⟨origin, headChain, ends⟩ := chainHead_ends digests chain on found
      rcases auditStep_cases taken with same | ⟨record, digest, built, ⟨off, _⟩ |
        ⟨line, _, written, same⟩⟩
      · subst same
        exact ⟨origin, headChain⟩
      · rw [on] at off
        cases off
      · subst same
        have keyOrder := inOrder (values_of_built built)
        obtain ⟨links, carried⟩ := links_of_built built keyOrder written
        have stored := (chainHead_keeps backend state tail).1
        rw [ends, ← records_eq stored] at links
        exact chainFrom_appended headChain links carried honest

end

/-! ### Runs of the log -/

def eventText (eventType id metadata prevHash : String) : String :=
  "\x7b\x22actor\x22:\x7b\x7d,\x22event_type\x22:\x22" ++ eventType ++ "\x22,\x22id\x22:\x22" ++
    id ++ "\x22,\x22metadata\x22:\x7b" ++ metadata ++
    "\x7d,\x22outcome\x22:\x22success\x22,\x22prev_hash\x22:\x22" ++ prevHash ++
    "\x22,\x22request_id\x22:null,\x22run_id\x22:null,\x22schema_version\x22:\x22audit.v1\x22," ++
    "\x22target\x22:\x7b\x7d,\x22tenant_id\x22:null," ++
    "\x22timestamp\x22:\x222026-10-09T12:00:00+00:00\x22\x7d"

def eventAt (eventType id : String) (metadata : Option Mapping) : AuditEvent where
  eventType := eventType
  outcome := .success
  actor := none
  target := none
  tenantId := none
  runId := none
  requestId := none
  metadata := metadata
  id := id
  timestamp := "2026-10-09T12:00:00+00:00"

def loginEvent : AuditEvent :=
  eventAt "auth.login" "4f1c0e6a9b2d4c7e8a3f5d6b7c8e9f01" (some [(.str "index", .int 1)])

def logoutEvent : AuditEvent := eventAt "auth.logout" "8d2b7a5c3e1f4a6db90c1e2f3a4b5c6d" none

def scoresEvent : AuditEvent :=
  eventAt "scores.saved" "c3e1f4a6db904f1c8d2b7a5c0e6a9b2d"
    (some [(.int 9, .str "low"), (.int 10, .str "high")])

/-- SHA-256 on the texts of these events; the last one is what is read back of the third. -/
def eventDigests : List (String × String) := [
  (eventText "auth.login" "4f1c0e6a9b2d4c7e8a3f5d6b7c8e9f01" "\x22index\x22:1" genesisHash,
    "1fc54056e7ecd4211dfa49f2605ed55a8b98079c110ee2657e1550e1763ee7fb"),
  (eventText "auth.logout" "8d2b7a5c3e1f4a6db90c1e2f3a4b5c6d" ""
      "1fc54056e7ecd4211dfa49f2605ed55a8b98079c110ee2657e1550e1763ee7fb",
    "c96bdd200e52c3a00e4962e7c651e08e8465c2caf028e541aa859dffe94420d2"),
  (eventText "scores.saved" "c3e1f4a6db904f1c8d2b7a5c0e6a9b2d"
      "\x229\x22:\x22low\x22,\x2210\x22:\x22high\x22" genesisHash,
    "749f28168da1b74160c06c4a01a8a375a6427645bbbfb3dd3e7bb829acf54a9f"),
  (eventText "scores.saved" "c3e1f4a6db904f1c8d2b7a5c0e6a9b2d"
      "\x2210\x22:\x22high\x22,\x229\x22:\x22low\x22" genesisHash,
    "f70f7091db6df0da29774484958561e0831c7792a0c2c6a84bc810ccd915d860")]

def eventDigest (text : String) : String :=
  match eventDigests.find? fun entry => entry.1 = text with
  | some entry => entry.2
  | none => "#" ++ text

theorem eventDigest_ne_empty (text : String) : eventDigest text ≠ "" := by
  have listed : ∀ entry ∈ eventDigests, entry.2 ≠ "" := by decide
  unfold eventDigest
  cases found : eventDigests.find? fun entry => entry.1 = text with
  | none =>
      intro empty
      have chars := congrArg String.toList empty
      rw [String.toList_append] at chars
      cases chars
  | some entry => exact listed entry (mem_of_find?_eq_some found)

theorem keyOrder_named {format : FloatFormat} (items : List (String × PyValue))
    (distinct : (Items.keys items).Nodup) (each : ∀ item ∈ items, KeyOrder format.text item.2) :
    KeyOrder format.text (.dict (items.map fun item => (.str item.1, item.2))) := by
  apply KeyOrder.dict
  · have keys : Items.keys (items.map fun item => (PyKey.str item.1, item.2)) =
        (Items.keys items).map PyKey.str := by
      rw [Items.keys, Items.keys, map_map, map_map]
      rfl
    rw [keys]
    exact namesInOrder_str distinct
  · intro item listed
    obtain ⟨source, there, same⟩ := mem_map.mp listed
    rw [← same]
    exact each source there

theorem keyOrder_empty : KeyOrder ratioFormat.text (.dict []) :=
  keyOrder_named [] nodup_nil fun _ listed => absurd listed not_mem_nil

theorem keyOrder_loginEvent : ∀ value ∈ eventValues ratioFormat loginEvent,
    KeyOrder ratioFormat.text value := by
  have metadata : KeyOrder ratioFormat.text (.dict [(.str "index", .int 1)]) := by
    apply keyOrder_named [("index", .int 1)] (nodup_singleton "index")
    intro item listed
    rw [mem_singleton.mp listed]
    exact .int 1
  intro value listed
  rcases List.mem_cons.mp listed with actor | listed
  · exact actor ▸ keyOrder_empty
  · rcases List.mem_cons.mp listed with target | listed
    · exact target ▸ keyOrder_empty
    · exact mem_singleton.mp listed ▸ metadata

theorem keyOrder_logoutEvent : ∀ value ∈ eventValues ratioFormat logoutEvent,
    KeyOrder ratioFormat.text value := by
  intro value listed
  rcases List.mem_cons.mp listed with actor | listed
  · exact actor ▸ keyOrder_empty
  · rcases List.mem_cons.mp listed with target | listed
    · exact target ▸ keyOrder_empty
    · exact mem_singleton.mp listed ▸ keyOrder_empty

def sessionEvents : List Event :=
  [.audit loginEvent .read (.returned true 0 false), .restart true,
    .audit logoutEvent .read (.returned true 0 false)]

end AuditLog
