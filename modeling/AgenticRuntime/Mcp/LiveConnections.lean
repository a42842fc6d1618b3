/-
Open transports and the connections that own them.

Nothing is leaked and nothing dead handed out in the runs in which no operation
walks away from an open transport and no caller meets a closed one.
-/

import AgenticRuntime.Mcp.ConnectionManager
import AgenticRuntime.Transition

namespace AgenticRuntime.Mcp

open Python Transition Function Option Mcp.Operation
open Manager (step)

namespace Manager

variable {manager after : Manager} {name : String} {index : Nat} {metadata : ConnectionMetadata}

/-! ### What the parts of an operation change -/

theorem setLink_links (change : Link → Link) (other : Nat) :
    (manager.setLink index change).links other =
      if other = index then change (manager.links index) else manager.links other :=
  update_apply ..

theorem hold_links (operation : Operation) : (manager.hold operation).links = manager.links := rfl

theorem setMetadata_get? (change : ConnectionMetadata → ConnectionMetadata) (other : String) :
    (manager.setMetadata name change).connections.get? other =
      if name = other then (manager.connections.get? name).map change
      else manager.connections.get? other := by
  unfold setMetadata
  by_cases same : name = other
  · subst same
    rw [if_pos rfl]
    cases found : manager.connections.get? name with
    | none => exact found
    | some metadata => exact (Dict.get?_insert ..).trans (if_pos rfl)
  · rw [if_neg same]
    cases manager.connections.get? name with
    | none => rfl
    | some metadata => exact (Dict.get?_insert ..).trans (if_neg same)

theorem setMetadata_same (manager : Manager) (name : String)
    (change : ConnectionMetadata → ConnectionMetadata) :
    (manager.setMetadata name change).links = manager.links ∧
      (manager.setMetadata name change).made = manager.made ∧
      (manager.setMetadata name change).active = manager.active ∧
      (manager.setMetadata name change).now = manager.now := by
  unfold setMetadata
  cases manager.connections.get? name <;> exact ⟨rfl, rfl, rfl, rfl⟩

/-! ### The runs in question -/

def disconnects (manager : Manager) (index : Nat) : Bool :=
  match manager.active with
  | some (.disconnecting _ link) => link = index
  | some (.disconnectingAll link _) => link = index
  | _ => false

/-- `connect` returns the stored client. -/
def reuses (manager : Manager) (metadata : ConnectionMetadata) (forceNew : Bool) : Bool :=
  !forceNew && !metadata.isAuthSuppressed manager.now && metadata.state = .connected

/-- `connect` raises at once. -/
def refuses (manager : Manager) (metadata : ConnectionMetadata) (forceNew : Bool) : Bool :=
  !forceNew && metadata.isAuthSuppressed manager.now

/-- A connection replaced or given up has no open transport; one handed out has no closed one. -/
def Spares (manager : Manager) : ManagerEvent → Prop
  | .connect name config forceNew =>
      ∀ metadata, manager.connections.get? name = some metadata →
        (manager.reuses metadata forceNew = true → (manager.links metadata.link).closed = false) ∧
        (manager.reuses metadata forceNew = false → manager.refuses metadata forceNew = false →
          buildTransport config = none → (manager.links metadata.link).live = false)
  | .resume =>
      ∀ name index handshake, manager.active = some (.connecting name index (.settled handshake)) →
        match handshake with
        | .accepted => (manager.links index).closed = false
        | .refused error =>
            isAuthFailure error = true ∨ maxAttempts ≤ manager.attempts name →
              (manager.links index).live = false
        | .failed _ => (manager.links index).live = false
  | .wake =>
      ∀ name index error, manager.active = some (.connecting name index (.sleeping error)) →
        (manager.links index).live = false
  | .getConnection name =>
      ∀ metadata, manager.connections.get? name = some metadata → metadata.state = .connected →
        (manager.links metadata.link).closed = false ∧ manager.disconnects metadata.link = false
  | _ => True

/-! ### The invariant -/

structure Steady (manager : Manager) : Prop where
  stored : ∀ name metadata, manager.connections.get? name = some metadata →
    metadata.link < manager.made ∧ (manager.links metadata.link).name = name
  /-- an open transport is that of a connected connection, or of the one being made -/
  live : ∀ index, (manager.links index).live = true →
    ∃ metadata, manager.connections.get? (manager.links index).name = some metadata ∧
      metadata.link = index ∧ (metadata.state = .connected ∨
        ∃ phase, manager.active = some (.connecting (manager.links index).name index phase))
  connected : ∀ name metadata, manager.connections.get? name = some metadata →
    metadata.state = .connected → (manager.links metadata.link).started = true ∧
      ((manager.links metadata.link).closed = false →
        (manager.links metadata.link).initialized = true ∨
          manager.disconnects metadata.link = true)
  connecting : ∀ name index phase, manager.active = some (.connecting name index phase) →
    (∃ metadata, manager.connections.get? name = some metadata ∧ metadata.link = index ∧
      metadata.state ≠ .connected) ∧
    ((manager.links index).started = true ↔ phase ≠ .starting)
  disconnecting : ∀ name index, manager.active = some (.disconnecting name index) →
    ∃ metadata, manager.connections.get? name = some metadata ∧ metadata.link = index
  disconnectingAll : ∀ index rest, manager.active = some (.disconnectingAll index rest) →
    ∀ name metadata, manager.connections.get? name = some metadata →
      metadata.link = index ∨ metadata.link ∈ rest ∨ (manager.links metadata.link).closed = true

theorem initial_steady : initial.Steady := by
  constructor
  · intro name metadata found
    cases found
  · intro index live
    cases live
  · intro name metadata found
    cases found
  · intro name index phase active
    cases active
  · intro name index active
    cases active
  · intro index rest active
    cases active

theorem Steady.name_eq (steady : manager.Steady) {other : String} {held : ConnectionMetadata}
    (first : manager.connections.get? name = some metadata)
    (second : manager.connections.get? other = some held) (same : metadata.link = held.link) :
    name = other := by
  rw [← (steady.stored name metadata first).2, same, (steady.stored other held second).2]

/-! ### Giving a connection up, and trying again -/

variable {phase : ConnectPhase} {handshake : Handshake} {config : McpServerConfig}

theorem Steady.setMetadata (steady : manager.Steady)
    (active : manager.active = some (.connecting name index phase))
    (change : ConnectionMetadata → ConnectionMetadata)
    (link : ∀ metadata, (change metadata).link = metadata.link)
    (state : ∀ metadata, metadata.state ≠ .connected → (change metadata).state ≠ .connected) :
    (manager.setMetadata name change).Steady := by
  obtain ⟨links, made, activeSame, -⟩ := manager.setMetadata_same name change
  obtain ⟨⟨own, found, linked, unconnected⟩, started⟩ := steady.connecting name index phase active
  have lookup {other : String} {held : ConnectionMetadata}
      (now : (manager.setMetadata name change).connections.get? other = some held) :
      (name = other ∧ held = change own) ∨
        (name ≠ other ∧ manager.connections.get? other = some held) := by
    rw [setMetadata_get?] at now
    by_cases same : name = other
    · rw [if_pos same, found] at now
      exact .inl ⟨same, (some.inj now).symm⟩
    · rw [if_neg same] at now
      exact .inr ⟨same, now⟩
  constructor
  · intro other held now
    rw [links, made]
    rcases lookup now with ⟨rfl, rfl⟩ | ⟨-, before⟩
    · rw [link]
      exact steady.stored name own found
    · exact steady.stored other held before
  · intro open_ live
    rw [links] at live ⊢
    rw [activeSame]
    obtain ⟨held, before, same, why⟩ := steady.live open_ live
    by_cases here : name = (manager.links open_).name
    · rw [← here, found] at before
      obtain rfl := some.inj before
      refine ⟨change own, ?_, (link own).trans same, ?_⟩
      · rw [setMetadata_get?, if_pos here, found]
        rfl
      · exact .inr (why.resolve_left unconnected)
    · exact ⟨held, by rw [setMetadata_get?, if_neg here, before], same, why⟩
  · intro other held now connected
    rw [links]
    have disconnecting : (manager.setMetadata name change).disconnects = manager.disconnects := by
      funext link
      unfold disconnects
      rw [activeSame]
    rw [disconnecting]
    rcases lookup now with ⟨rfl, rfl⟩ | ⟨-, before⟩
    · exact absurd connected (state own unconnected)
    · exact steady.connected other held before connected
  · intro other link' phase' now
    rw [activeSame, active] at now
    obtain ⟨rfl, rfl, rfl⟩ := connecting.inj (some.inj now)
    rw [links]
    refine ⟨⟨change own, ?_, (link own).trans linked, state own unconnected⟩, started⟩
    rw [setMetadata_get?, if_pos rfl, found]
    rfl
  · intro other link' now
    rw [activeSame, active] at now
    cases now
  · intro link' rest now
    rw [activeSame, active] at now
    cases now

theorem Steady.release (steady : manager.Steady)
    (active : manager.active = some (.connecting name index phase))
    (dead : (manager.links index).live = false) : manager.release.Steady := by
  constructor
  · exact steady.stored
  · intro open_ live
    obtain ⟨held, before, same, connected | ⟨later, now⟩⟩ := steady.live open_ live
    · exact ⟨held, before, same, .inl connected⟩
    · rw [active] at now
      obtain ⟨-, rfl, -⟩ := connecting.inj (some.inj now)
      rw [show (manager.links index).live = true from live] at dead
      cases dead
  · intro other held found connected
    obtain ⟨started, up⟩ := steady.connected other held found connected
    refine ⟨started, fun unclosed => .inl ((up unclosed).resolve_right ?_)⟩
    unfold disconnects
    rw [active]
    exact Bool.false_ne_true
  · intro other link phase' now
    cases now
  · intro other link now
    cases now
  · intro link rest now
    cases now

theorem Steady.rephase {later : ConnectPhase} (steady : manager.Steady)
    (active : manager.active = some (.connecting name index phase))
    (begun : phase ≠ .starting ↔ later ≠ .starting) :
    (manager.hold (.connecting name index later)).Steady := by
  obtain ⟨own, started⟩ := steady.connecting name index phase active
  have neither (link : Nat) : manager.disconnects link = false := by
    unfold disconnects
    rw [active]
  constructor
  · exact steady.stored
  · intro open_ live
    obtain ⟨held, before, same, connected | ⟨earlier, now⟩⟩ := steady.live open_ live
    · exact ⟨held, before, same, .inl connected⟩
    · rw [active] at now
      obtain ⟨here, rfl, -⟩ := connecting.inj (some.inj now)
      exact ⟨held, before, same, .inr ⟨later, by rw [here]; rfl⟩⟩
  · intro other held found connected
    obtain ⟨up, initialized⟩ := steady.connected other held found connected
    refine ⟨up, fun unclosed => .inl ((initialized unclosed).resolve_right ?_)⟩
    rw [neither]
    exact Bool.false_ne_true
  · intro other link phase' now
    obtain ⟨rfl, rfl, rfl⟩ := connecting.inj (some.inj now)
    exact ⟨own, started.trans begun⟩
  · intro other link now
    cases now
  · intro link rest now
    cases now

theorem Steady.failConnect (steady : manager.Steady)
    (active : manager.active = some (.connecting name index phase))
    (dead : (manager.links index).live = false) (error : String) :
    (manager.failConnect name error).1.Steady := by
  have marked := steady.setMetadata active (fun metadata => { metadata with state := .failed })
    (fun _ => rfl) (fun _ _ => nofun)
  obtain ⟨links, -, same, -⟩ := manager.setMetadata_same name
    fun metadata => { metadata with state := .failed }
  exact marked.release (same.trans active) (by rw [links]; exact dead)

theorem Steady.scheduleRetry (steady : manager.Steady)
    (active : manager.active = some (.connecting name index (.settled handshake)))
    (dead : maxAttempts ≤ manager.attempts name → (manager.links index).live = false)
    (error : String) : (manager.scheduleRetry name index error).1.Steady := by
  have marked := steady.setMetadata active
    (fun metadata => { metadata with state := .reconnecting }) (fun _ => rfl) (fun _ _ => nofun)
  obtain ⟨links, -, same, -⟩ := manager.setMetadata_same name
    fun metadata => { metadata with state := .reconnecting }
  have activeMarked := same.trans active
  unfold Manager.scheduleRetry
  dsimp only
  split
  · rename_i exhausted
    exact marked.failConnect activeMarked (by rw [links]; exact dead exhausted) error
  · have counted := marked.setMetadata activeMarked
      (fun metadata => { metadata with attempts := metadata.attempts + 1 }) (fun _ => rfl)
      (fun _ unconnected => unconnected)
    exact counted.rephase ((setMetadata_same _ _ _).2.2.1.trans activeMarked)
      (iff_of_true nofun nofun)

/-! ### Coming up -/

theorem Steady.started (steady : manager.Steady)
    (active : manager.active = some (.connecting name index .starting)) :
    ((manager.setLink index fun link => { link with started := true }).hold
      (.connecting name index .waiting)).Steady := by
  obtain ⟨⟨own, found, linked, unconnected⟩, begun⟩ := steady.connecting name index _ active
  have named : (manager.links index).name = name := by
    rw [← linked]
    exact (steady.stored name own found).2
  have other_link {other : String} {held : ConnectionMetadata}
      (before : manager.connections.get? other = some held) (connected : held.state = .connected) :
      held.link ≠ index := by
    intro same
    have equal := steady.name_eq before found (same.trans linked.symm)
    rw [equal, found] at before
    obtain rfl := some.inj before
    exact unconnected connected
  constructor
  · intro other held before
    obtain ⟨within, tag⟩ := steady.stored other held before
    refine ⟨within, ?_⟩
    rw [hold_links, setLink_links]
    split
    · rename_i same
      rw [← same]
      exact tag
    · exact tag
  · intro open_ live
    rw [hold_links, setLink_links] at live ⊢
    by_cases same : open_ = index
    · subst same
      rw [if_pos rfl] at live ⊢
      exact ⟨own, named ▸ found, linked, .inr ⟨.waiting, by rw [← named]; rfl⟩⟩
    · rw [if_neg same] at live ⊢
      obtain ⟨held, before, at_, connected | ⟨phase, now⟩⟩ := steady.live open_ live
      · exact ⟨held, before, at_, .inl connected⟩
      · rw [active] at now
        exact absurd (connecting.inj (some.inj now)).2.1.symm same
  · intro other held before connected
    rw [hold_links, setLink_links, if_neg (other_link before connected)]
    obtain ⟨up, initialized⟩ := steady.connected other held before connected
    refine ⟨up, fun unclosed => ?_⟩
    rcases initialized unclosed with ready | closing
    · exact .inl ready
    · unfold disconnects at closing
      rw [active] at closing
      cases closing
  · intro other link phase now
    obtain ⟨rfl, rfl, rfl⟩ := connecting.inj (some.inj now)
    refine ⟨⟨own, found, linked, unconnected⟩, ?_⟩
    rw [hold_links, setLink_links, if_pos rfl]
    exact iff_of_true rfl nofun
  · intro other link now
    cases now
  · intro link rest now
    cases now

theorem Steady.accepted (steady : manager.Steady)
    (active : manager.active = some (.connecting name index (.settled handshake))) :
    (manager.resume name index .accepted).1.Steady := by
  obtain ⟨⟨own, found, linked, unconnected⟩, begun⟩ := steady.connecting name index _ active
  have running := begun.mpr nofun
  have named : (manager.links index).name = name := by
    rw [← linked]
    exact (steady.stored name own found).2
  let up := manager.setLink index fun link => { link with initialized := true }
  let change : ConnectionMetadata → ConnectionMetadata :=
    fun metadata => { metadata with state := .connected, attempts := 0 }
  obtain ⟨links, made, -, -⟩ := up.setMetadata_same name change
  have foundUp : up.connections.get? name = some own := found
  have lookup {other : String} {held : ConnectionMetadata}
      (now : (up.setMetadata name change).connections.get? other = some held) :
      (name = other ∧ held = change own) ∨
        (name ≠ other ∧ manager.connections.get? other = some held) := by
    rw [setMetadata_get?] at now
    by_cases same : name = other
    · rw [if_pos same, foundUp] at now
      exact .inl ⟨same, (some.inj now).symm⟩
    · rw [if_neg same] at now
      exact .inr ⟨same, now⟩
  have tag (link : Nat) : (up.links link).name = (manager.links link).name := by
    rw [setLink_links]
    split
    · rename_i same
      rw [same]
    · rfl
  have state (link : Nat) : (up.links link).live = (manager.links link).live := by
    rw [setLink_links]
    split
    · rename_i same
      rw [same]
      rfl
    · rfl
  change ((up.setMetadata name change).release).Steady
  constructor
  · intro other held now
    change held.link < (up.setMetadata name change).made ∧
      ((up.setMetadata name change).links held.link).name = other
    rw [links, made, tag]
    rcases lookup now with ⟨rfl, rfl⟩ | ⟨-, before⟩
    · exact steady.stored name own found
    · exact steady.stored other held before
  · intro open_ live
    change ((up.setMetadata name change).links open_).live = true at live
    change ∃ metadata, (up.setMetadata name change).connections.get?
      ((up.setMetadata name change).links open_).name = some metadata ∧ _
    rw [links, state] at live
    rw [links, tag]
    obtain ⟨held, before, same, why⟩ := steady.live open_ live
    by_cases here : name = (manager.links open_).name
    · rw [← here, found] at before
      obtain rfl := some.inj before
      refine ⟨change own, ?_, same, .inl rfl⟩
      rw [setMetadata_get?, if_pos here, foundUp]
      rfl
    · refine ⟨held, ?_, same, .inl (why.resolve_right ?_)⟩
      · rw [setMetadata_get?, if_neg here]
        exact before
      · rintro ⟨phase, now⟩
        rw [active] at now
        exact here (connecting.inj (some.inj now)).1
  · intro other held now connected
    change ((up.setMetadata name change).links held.link).started = true ∧
      (((up.setMetadata name change).links held.link).closed = false →
        ((up.setMetadata name change).links held.link).initialized = true ∨ _)
    rw [links]
    rcases lookup now with ⟨rfl, rfl⟩ | ⟨apart, before⟩
    · have here : (change own).link = index := linked
      rw [here, setLink_links, if_pos rfl]
      exact ⟨running, fun _ => .inl rfl⟩
    · have different : held.link ≠ index := by
        intro same
        exact apart (steady.name_eq before found (same.trans linked.symm)).symm
      rw [setLink_links, if_neg different]
      obtain ⟨begun, ready⟩ := steady.connected other held before connected
      refine ⟨begun, fun unclosed => .inl ((ready unclosed).resolve_right ?_)⟩
      unfold disconnects
      rw [active]
      exact Bool.false_ne_true
  · intro other link phase now
    cases now
  · intro other link now
    cases now
  · intro link rest now
    cases now

theorem Steady.idle_live (steady : manager.Steady) (idle : manager.active = none)
    (live : (manager.links index).live = true) :
    ∃ metadata, manager.connections.get? (manager.links index).name = some metadata ∧
      metadata.link = index ∧ metadata.state = .connected := by
  obtain ⟨held, before, same, connected | ⟨phase, now⟩⟩ := steady.live index live
  · exact ⟨held, before, same, connected⟩
  · rw [idle] at now
    cases now

theorem Steady.idle_connected (steady : manager.Steady) (idle : manager.active = none)
    (found : manager.connections.get? name = some metadata) (connected : metadata.state = .connected) :
    (manager.links metadata.link).started = true ∧
      ((manager.links metadata.link).closed = false →
        (manager.links metadata.link).initialized = true) := by
  obtain ⟨started, ready⟩ := steady.connected name metadata found connected
  refine ⟨started, fun unclosed => (ready unclosed).resolve_right ?_⟩
  unfold disconnects
  rw [idle]
  exact Bool.false_ne_true

def newMetadata (manager : Manager) : ConnectionMetadata :=
  { link := manager.made, state := .connecting, attempts := 0, authFailureAt := none }

theorem createConnection_unbuilt {error : String} (built : buildTransport config = some error) :
    manager.createConnection name config = (manager, some (.raised error)) := by
  unfold createConnection
  rw [built]

/-- What `_create_connection` has done when it awaits the transport. -/
theorem createConnection_built (manager : Manager) (name : String)
    (built : buildTransport config = none) :
    ∃ after, manager.createConnection name config = (after, none) ∧
      (∀ other, after.links other =
        if other = manager.made then Link.fresh name else manager.links other) ∧
      after.made = manager.made + 1 ∧
      (∀ other, after.connections.get? other =
        if name = other then some manager.newMetadata else manager.connections.get? other) ∧
      after.active = some (.connecting name manager.made .starting) := by
  let stored : Manager :=
    { manager.setLink manager.made (fun _ => Link.fresh name) with
      made := manager.made + 1
      connections := manager.connections.insert name manager.newMetadata }
  have fresh : stored.links manager.made = Link.fresh name := update_self ..
  refine ⟨stored.hold (.connecting name manager.made .starting), ?_, fun other => update_apply ..,
    rfl, fun other => Dict.get?_insert .., rfl⟩
  unfold createConnection
  rw [built]
  change stored.attemptConnect name manager.made = _
  unfold attemptConnect
  rw [fresh]
  rfl

theorem Steady.createConnection (steady : manager.Steady) (idle : manager.active = none)
    (config : McpServerConfig)
    (dead : buildTransport config = none → ∀ metadata,
      manager.connections.get? name = some metadata → (manager.links metadata.link).live = false) :
    (manager.createConnection name config).1.Steady := by
  cases built : buildTransport config with
  | some error =>
      rw [createConnection_unbuilt built]
      exact steady
  | none =>
      obtain ⟨after, same, links, made, lookup, active⟩ := manager.createConnection_built name built
      rw [same]
      change after.Steady
      constructor
      · intro other held now
        rw [lookup] at now
        rw [made, links]
        by_cases same : name = other
        · rw [if_pos same] at now
          obtain rfl := some.inj now
          exact ⟨Nat.lt_succ_self _, (congrArg Link.name (if_pos rfl)).trans same⟩
        · rw [if_neg same] at now
          obtain ⟨within, tag⟩ := steady.stored other held now
          rw [if_neg (Nat.ne_of_lt within)]
          exact ⟨Nat.lt_succ_of_lt within, tag⟩
      · intro open_ live
        rw [links] at live ⊢
        by_cases new : open_ = manager.made
        · rw [if_pos new] at live
          cases live
        · rw [if_neg new] at live ⊢
          obtain ⟨held, before, same, connected⟩ := steady.idle_live idle live
          refine ⟨held, ?_, same, .inl connected⟩
          rw [lookup, if_neg, before]
          intro here
          have gone := dead built held (here ▸ before)
          rw [same, live] at gone
          cases gone
      · intro other held now connected
        rw [lookup] at now
        rw [links]
        by_cases same : name = other
        · rw [if_pos same] at now
          obtain rfl := some.inj now
          cases connected
        · rw [if_neg same] at now
          obtain ⟨within, -⟩ := steady.stored other held now
          rw [if_neg (Nat.ne_of_lt within)]
          obtain ⟨started, ready⟩ := steady.idle_connected idle now connected
          exact ⟨started, fun unclosed => .inl (ready unclosed)⟩
      · intro other link phase now
        rw [active] at now
        obtain ⟨rfl, rfl, rfl⟩ := connecting.inj (some.inj now)
        constructor
        · exact ⟨manager.newMetadata, (lookup name).trans (if_pos rfl), rfl, nofun⟩
        · rw [links, if_pos rfl]
          exact iff_of_false Bool.false_ne_true fun differs => differs rfl
      · intro other link now
        rw [active] at now
        cases now
      · intro link rest now
        rw [active] at now
        cases now

/-! ### Closing -/

theorem Steady.endClose (steady : manager.Steady) (index : Nat) :
    (manager.endClose index).Steady := by
  have links (other : Nat) : (manager.endClose index).links other =
      if other = index then { manager.links index with closed := true, initialized := false }
      else manager.links other := setLink_links ..
  have tag (link : Nat) : ((manager.endClose index).links link).name = (manager.links link).name := by
    rw [links]
    split
    · rename_i same
      rw [same]
    · rfl
  have started (link : Nat) :
      ((manager.endClose index).links link).started = (manager.links link).started := by
    rw [links]
    split
    · rename_i same
      rw [same]
    · rfl
  constructor
  · intro other held found
    rw [tag]
    exact steady.stored other held found
  · intro open_ live
    rw [tag]
    have elsewhere : open_ ≠ index := by
      intro same
      rw [links, if_pos same, Link.live, Bool.not_true, Bool.and_false] at live
      cases live
    rw [links, if_neg elsewhere] at live
    exact steady.live open_ live
  · intro other held found connected
    rw [started]
    obtain ⟨begun, ready⟩ := steady.connected other held found connected
    refine ⟨begun, fun unclosed => ?_⟩
    rw [links] at unclosed ⊢
    split at unclosed
    · cases unclosed
    · rename_i elsewhere
      rw [if_neg elsewhere]
      exact ready unclosed
  · intro other link phase active
    rw [started]
    exact steady.connecting other link phase active
  · exact steady.disconnecting
  · intro link rest active other held found
    rcases steady.disconnectingAll link rest active other held found with here | later | gone
    · exact .inl here
    · exact .inr (.inl later)
    · refine .inr (.inr ?_)
      rw [links]
      split
      · rfl
      · exact gone

theorem Steady.transportClosed (steady : manager.Steady) (index : Nat) :
    (manager.transportClosed index).Steady := by
  have shut : (manager.endClose index).Steady := steady.endClose index
  unfold Manager.transportClosed
  dsimp only
  split
  · rename_i name link active
    split
    · exact shut.rephase active (iff_of_true nofun nofun)
    · exact shut
  · exact shut

theorem Steady.beginClose {operation : Operation} (steady : manager.Steady)
    (idle : manager.active = none)
    (one : ∀ name link, operation = .disconnecting name link →
      ∃ metadata, manager.connections.get? name = some metadata ∧ metadata.link = link)
    (all : ∀ link rest, operation = .disconnectingAll link rest →
      ∀ name metadata, manager.connections.get? name = some metadata →
        metadata.link = link ∨ metadata.link ∈ rest ∨ (manager.links metadata.link).closed = true)
    (closes : ((manager.beginClose index).hold operation).disconnects index = true) :
    ((manager.beginClose index).hold operation).Steady := by
  have links (other : Nat) : ((manager.beginClose index).hold operation).links other =
      if other = index then { manager.links index with initialized := false }
      else manager.links other := update_apply ..
  have alike (link : Nat) : (((manager.beginClose index).hold operation).links link).name =
        (manager.links link).name ∧
      (((manager.beginClose index).hold operation).links link).started =
        (manager.links link).started ∧
      (((manager.beginClose index).hold operation).links link).closed =
        (manager.links link).closed := by
    rw [links]
    split
    · rename_i same
      rw [same]
      exact ⟨rfl, rfl, rfl⟩
    · exact ⟨rfl, rfl, rfl⟩
  constructor
  · intro other held found
    rw [(alike held.link).1]
    exact steady.stored other held found
  · intro open_ live
    rw [Link.live, (alike open_).2.1, (alike open_).2.2] at live
    rw [(alike open_).1]
    obtain ⟨held, found, same, connected⟩ := steady.idle_live idle live
    exact ⟨held, found, same, .inl connected⟩
  · intro other held found connected
    rw [(alike held.link).2.1, (alike held.link).2.2]
    obtain ⟨begun, ready⟩ := steady.idle_connected idle found connected
    refine ⟨begun, fun unclosed => ?_⟩
    by_cases same : held.link = index
    · rw [same]
      exact .inr closes
    · rw [links, if_neg same]
      exact .inl (ready unclosed)
  · intro other link phase now
    obtain rfl := some.inj now
    cases closes
  · intro other link now
    exact one other link (some.inj now)
  · intro link rest now other held found
    rw [(alike held.link).2.2]
    exact all link rest (some.inj now) other held found

theorem Steady.release_closed (steady : manager.Steady)
    (closing : ∀ link, manager.disconnects link = true → (manager.links link).closed = true)
    (disconnection : ∀ name link phase, manager.active ≠ some (.connecting name link phase)) :
    manager.release.Steady := by
  constructor
  · exact steady.stored
  · intro open_ live
    obtain ⟨held, found, same, connected | ⟨phase, now⟩⟩ := steady.live open_ live
    · exact ⟨held, found, same, .inl connected⟩
    · exact absurd now (disconnection _ _ _)
  · intro other held found connected
    obtain ⟨begun, ready⟩ := steady.connected other held found connected
    refine ⟨begun, fun unclosed => .inl ((ready unclosed).resolve_right ?_)⟩
    intro busy
    have still : (manager.links held.link).closed = false := unclosed
    rw [closing held.link busy] at still
    cases still
  · intro other link phase now
    cases now
  · intro other link now
    cases now
  · intro link rest now
    cases now

theorem Steady.closeNext (steady : manager.Steady) (idle : manager.active = none)
    {remaining : List Nat}
    (covered : ∀ name metadata, manager.connections.get? name = some metadata →
      metadata.link ∈ remaining ∨ (manager.links metadata.link).closed = true) :
    (manager.closeNext remaining).1.Steady := by
  cases remaining with
  | nil =>
      constructor
      · intro name metadata found
        cases found
      · intro index live
        obtain ⟨held, found, same, -⟩ := steady.idle_live idle live
        rcases covered _ held found with listed | closed
        · cases listed
        · rw [same] at closed
          have open_ : (manager.links index).live = true := live
          rw [Link.live, closed, Bool.not_true, Bool.and_false] at open_
          cases open_
      · intro name metadata found
        cases found
      · intro name index phase active
        cases active
      · intro name index active
        cases active
      · intro index rest active
        cases active
  | cons index rest =>
      refine steady.beginClose idle nofun ?_ (decide_eq_true rfl)
      intro link later same name metadata found
      obtain ⟨rfl, rfl⟩ := disconnectingAll.inj same
      rcases covered name metadata found with listed | closed
      · rcases List.mem_cons.mp listed with here | later
        · exact .inl here
        · exact .inr (.inl later)
      · exact .inr (.inr closed)

theorem Steady.disconnect (steady : manager.Steady) (idle : manager.active = none)
    (name : String) : (manager.disconnect name).1.Steady := by
  unfold Manager.disconnect
  cases found : manager.connections.get? name with
  | none => exact steady
  | some metadata =>
      refine steady.beginClose idle ?_ nofun (decide_eq_true rfl)
      intro other link same
      obtain ⟨rfl, rfl⟩ := disconnecting.inj same
      exact ⟨metadata, found, rfl⟩

theorem endClose_closed (manager : Manager) (index : Nat) :
    ((manager.endClose index).links index).closed = true := by
  unfold endClose
  rw [setLink_links, if_pos rfl]

/-- `del self._connections[name]` once its transport is closed. -/
theorem Steady.erase (steady : manager.Steady) (idle : manager.active = none)
    (closed : ∀ metadata, manager.connections.get? name = some metadata →
      (manager.links metadata.link).closed = true) :
    { manager with connections := manager.connections.erase name }.Steady := by
  have lookup {other : String} {held : ConnectionMetadata}
      (now : (manager.connections.erase name).get? other = some held) :
      name ≠ other ∧ manager.connections.get? other = some held := by
    rw [Dict.get?_erase] at now
    split at now
    · cases now
    · rename_i apart
      exact ⟨apart, now⟩
  constructor
  · intro other held now
    exact steady.stored other held (lookup now).2
  · intro index live
    obtain ⟨held, found, same, connected⟩ := steady.idle_live idle live
    refine ⟨held, ?_, same, .inl connected⟩
    refine (Dict.get?_erase ..).trans ((if_neg ?_).trans found)
    intro here
    have gone := closed held (here ▸ found)
    rw [same] at gone
    have open_ : (manager.links index).live = true := live
    rw [Link.live, gone, Bool.not_true, Bool.and_false] at open_
    cases open_
  · intro other held now connected
    exact steady.connected other held (lookup now).2 connected
  · intro other link phase now
    rw [show manager.active = some _ from now] at idle
    cases idle
  · intro other link now
    rw [show manager.active = some _ from now] at idle
    cases idle
  · intro link rest now
    rw [show manager.active = some _ from now] at idle
    cases idle

theorem Steady.closed {operation : Operation} {reply : Option Reply} (steady : manager.Steady)
    (active : manager.active = some operation)
    (taken : manager.closed operation = some (after, reply)) : after.Steady := by
  have shut (index : Nat) (own : ∀ link, manager.disconnects link = true → link = index)
      (disconnection : ∀ name link phase, operation ≠ .connecting name link phase) :
      (manager.endClose index).release.Steady := by
    refine (steady.endClose index).release_closed ?_ ?_
    · intro link busy
      rw [own link busy]
      exact manager.endClose_closed index
    · intro name link phase now
      rw [show manager.active = some _ from now] at active
      exact disconnection name link phase (some.inj active).symm
  cases operation with
  | connecting name index phase => cases taken
  | disconnecting name index =>
      cases taken
      have released := shut index (fun link busy => by
        unfold disconnects at busy
        rw [active] at busy
        exact (of_decide_eq_true busy).symm) nofun
      refine released.erase rfl ?_
      intro metadata found
      obtain ⟨held, before, same⟩ := steady.disconnecting name index active
      obtain rfl := some.inj (before.symm.trans found)
      rw [same]
      exact manager.endClose_closed index
  | disconnectingAll index rest =>
      have reached : ((manager.endClose index).closeNext rest).1 = after :=
        congrArg Prod.fst (some.inj taken)
      rw [← reached]
      have released := shut index (fun link busy => by
        unfold disconnects at busy
        rw [active] at busy
        exact (of_decide_eq_true busy).symm) nofun
      refine released.closeNext rfl ?_
      intro name metadata found
      have kept := (steady.endClose index).disconnectingAll index rest active name metadata found
      rcases kept with here | later | gone
      · rw [here]
        exact .inr (manager.endClose_closed index)
      · exact .inl later
      · exact .inr gone

/-! ### One step -/

/-- `disconnect_all` begins with every stored link. -/
theorem covered (manager : Manager) (name : String) (metadata : ConnectionMetadata)
    (found : manager.connections.get? name = some metadata) :
    metadata.link ∈ manager.storedLinks ∨ (manager.links metadata.link).closed = true :=
  .inl (List.mem_map.mpr ⟨(name, metadata), Items.mem_of_get? found, rfl⟩)

theorem Steady.connect (steady : manager.Steady) (idle : manager.active = none) {forceNew : Bool}
    (spares : manager.Spares (.connect name config forceNew)) :
    (manager.connect name config forceNew).1.Steady := by
  unfold Manager.connect
  cases found : manager.connections.get? name with
  | none =>
      refine steady.createConnection idle config fun _ metadata now => ?_
      rw [found] at now
      cases now
  | some metadata =>
      have create (fresh : manager.reuses metadata forceNew = false)
          (allowed : manager.refuses metadata forceNew = false) :
          (manager.createConnection name config).1.Steady := by
        refine steady.createConnection idle config fun built held now => ?_
        rw [found] at now
        obtain rfl := some.inj now
        exact (spares metadata found).2 fresh allowed built
      dsimp only
      cases forceNew with
      | true => exact create rfl rfl
      | false =>
          cases suppressed : metadata.isAuthSuppressed manager.now with
          | true => exact steady
          | false =>
              by_cases connected : metadata.state = .connected
              · rw [if_pos connected]
                exact steady
              · rw [if_neg connected]
                refine create ?_ ?_
                · simp only [reuses, connected, decide_false, Bool.and_false]
                · simp only [refuses, suppressed, Bool.and_false]

theorem Steady.resume (steady : manager.Steady)
    (active : manager.active = some (.connecting name index (.settled handshake)))
    (spares : manager.Spares .resume) : (manager.resume name index handshake).1.Steady := by
  have spared := spares name index handshake active
  cases handshake with
  | accepted => exact steady.accepted active
  | failed error => exact steady.failConnect active spared error
  | refused error =>
      unfold Manager.resume
      dsimp only
      split
      · rename_i auth
        have marked := steady.setMetadata active
          (fun metadata =>
            { metadata with state := .needsAuth, authFailureAt := some manager.now })
          (fun _ => rfl) (fun _ _ => nofun)
        obtain ⟨links, -, same, -⟩ := manager.setMetadata_same name
          fun metadata => { metadata with state := .needsAuth, authFailureAt := some manager.now }
        exact marked.release (same.trans active) (by rw [links]; exact spared (.inl auth))
      · exact steady.scheduleRetry active (fun exhausted => spared (.inr exhausted)) error

theorem Steady.wake {error : String} (steady : manager.Steady)
    (active : manager.active = some (.connecting name index (.sleeping error)))
    (spares : manager.Spares .wake) : (manager.wake name index error).1.Steady := by
  have dead := spares name index error active
  have started := (steady.connecting name index _ active).2.mpr nofun
  unfold Manager.wake
  split
  · exact steady.failConnect active dead error
  · unfold Manager.attemptConnect
    rw [if_pos started]
    exact steady.failConnect active dead _

def begins : ManagerEvent → Bool
  | .connect _ _ _ | .disconnect _ | .disconnectAll => true
  | _ => false

theorem idle_of_act {event : ManagerEvent} {moved : Manager × Option Reply}
    (acted : manager.act event = some moved) (first : begins event = true) :
    manager.active = none := by
  cases idle : manager.active with
  | none => rfl
  | some operation =>
      cases event with
      | connect name config forceNew | disconnect name | disconnectAll =>
          simp only [act, idle] at acted
          cases acted
      | _ => cases first

theorem Steady.step {event : ManagerEvent} (steady : manager.Steady)
    (spares : manager.Spares event) (taken : manager.step event = some after) : after.Steady := by
  obtain ⟨⟨reached, reply⟩, acted, rfl⟩ := map_eq_some_iff.mp taken
  cases event with
  | connect name config forceNew =>
      have idle := idle_of_act acted rfl
      simp only [act, idle, some.injEq] at acted
      have moved := steady.connect idle spares
      rw [acted] at moved
      exact moved
  | started error =>
      simp only [act] at acted
      split at acted
      · rename_i name index active
        cases error with
        | some text =>
            have moved := steady.failConnect active ?_ text
            · rw [some.inj acted] at moved
              exact moved
            · have begun := (steady.connecting name index _ active).2
              rw [Link.live, Bool.eq_false_iff.mpr fun up => begun.mp up rfl, Bool.false_and]
        | none =>
            cases acted
            exact steady.started active
      · cases acted
  | answer handshake =>
      simp only [act] at acted
      split at acted
      · rename_i name index active
        cases acted
        exact steady.rephase active (iff_of_true nofun nofun)
      · cases acted
  | resume =>
      simp only [act] at acted
      split at acted
      · rename_i name index handshake active
        have moved := steady.resume active spares
        rw [some.inj acted] at moved
        exact moved
      · cases acted
  | wake =>
      simp only [act] at acted
      split at acted
      · rename_i name index error active
        have moved := steady.wake active spares
        rw [some.inj acted] at moved
        exact moved
      · cases acted
  | disconnect name =>
      have idle := idle_of_act acted rfl
      simp only [act, idle, some.injEq] at acted
      have moved := steady.disconnect idle name
      rw [acted] at moved
      exact moved
  | disconnectAll =>
      have idle := idle_of_act acted rfl
      simp only [act, idle, some.injEq] at acted
      have moved := steady.closeNext idle manager.covered
      rw [acted] at moved
      exact moved
  | closed =>
      obtain ⟨operation, active, ended⟩ := bind_eq_some_iff.mp acted
      exact steady.closed active ended
  | transportClosed index =>
      simp only [act] at acted
      split at acted
      · cases acted
        exact steady.transportClosed index
      · cases acted
  | getConnection name =>
      cases acted
      exact steady
  | pass seconds =>
      simp only [act] at acted
      split at acted
      · cases acted
        exact ⟨steady.stored, steady.live, steady.connected, steady.connecting,
          steady.disconnecting, steady.disconnectingAll⟩
      · cases acted

theorem run_steady {events : List ManagerEvent}
    (along : Along step Spares initial events)
    (run : replay step initial events = some manager) : manager.Steady :=
  replay_invariant_along (fun _ _ _ steady spares taken => steady.step spares taken)
    initial_steady along run

/-! ### What callers are given -/

theorem attemptConnect_no_client (index link : Nat) :
    (manager.attemptConnect name index).2 ≠ some (.client link) := by
  unfold attemptConnect
  split
  · exact nofun
  · split
    · exact nofun
    · exact nofun

theorem createConnection_no_client (config : McpServerConfig) (link : Nat) :
    (manager.createConnection name config).2 ≠ some (.client link) := by
  unfold createConnection
  cases buildTransport config with
  | some error => exact nofun
  | none => exact attemptConnect_no_client _ link

theorem connect_client {forceNew : Bool} {link : Nat}
    (given : (manager.connect name config forceNew).2 = some (.client link)) :
    ∃ metadata, manager.connections.get? name = some metadata ∧ metadata.link = link ∧
      metadata.state = .connected ∧ manager.reuses metadata forceNew = true ∧
      (manager.connect name config forceNew).1 = manager := by
  unfold connect at given ⊢
  cases found : manager.connections.get? name with
  | none =>
      rw [found] at given
      exact absurd given (createConnection_no_client config link)
  | some metadata =>
      rw [found] at given
      dsimp only at given ⊢
      cases forceNew with
      | true => exact absurd given (createConnection_no_client config link)
      | false =>
          cases suppressed : metadata.isAuthSuppressed manager.now with
          | true =>
              rw [suppressed] at given
              cases given
          | false =>
              rw [suppressed] at given
              by_cases connected : metadata.state = .connected
              · simp only [connected, Bool.false_eq_true, if_false, if_true, some.injEq,
                  Reply.client.injEq] at given
                refine ⟨metadata, rfl, given, connected, ?_, ?_⟩
                · simp only [reuses, suppressed, connected, decide_true, Bool.not_false,
                    Bool.and_self]
                · simp only [connected, Bool.false_eq_true, if_false, if_true]
              · simp only [connected, Bool.false_eq_true, if_false] at given
                exact absurd given (createConnection_no_client config link)

theorem resume_client {link : Nat}
    (given : (manager.resume name index handshake).2 = some (.client link)) :
    handshake = .accepted ∧ link = index := by
  cases handshake with
  | accepted => exact ⟨rfl, (Reply.client.inj (some.inj given)).symm⟩
  | failed error => cases given
  | refused error =>
      unfold resume at given
      dsimp only at given
      split at given
      · cases given
      · unfold scheduleRetry at given
        dsimp only at given
        split at given
        · cases given
        · cases given

theorem closeNext_no_client (remaining : List Nat) (link : Nat) :
    (manager.closeNext remaining).2 ≠ some (.client link) := by
  cases remaining <;> exact nofun

theorem closed_no_client {operation : Operation} {reply : Reply}
    (taken : manager.closed operation = some (after, some reply)) (link : Nat) :
    reply ≠ .client link := by
  rintro rfl
  cases operation with
  | connecting name index phase => cases taken
  | disconnecting name index => cases taken
  | disconnectingAll index rest =>
      exact closeNext_no_client rest link (congrArg Prod.snd (some.inj taken))

theorem Steady.client {event : ManagerEvent} {link : Nat} (steady : manager.Steady)
    (spares : manager.Spares event)
    (acted : manager.act event = some (after, some (.client link))) :
    (after.links link).live = true ∧ (after.links link).initialized = true := by
  have up {held : Nat} {state : Manager} (started : (state.links held).started = true)
      (unclosed : (state.links held).closed = false) : (state.links held).live = true := by
    rw [Link.live, started, unclosed, Bool.not_false, Bool.and_self]
  cases event with
  | connect name config forceNew =>
      have idle := idle_of_act acted rfl
      simp only [act, idle, some.injEq] at acted
      obtain ⟨metadata, found, rfl, connected, reused, same⟩ :=
        connect_client (congrArg Prod.snd acted)
      rw [acted] at same
      obtain rfl : after = manager := same
      have unclosed := (spares metadata found).1 reused
      obtain ⟨started, ready⟩ := steady.idle_connected idle found connected
      exact ⟨up started unclosed, ready unclosed⟩
  | started error =>
      simp only [act] at acted
      split at acted
      · cases error with
        | some text => cases acted
        | none => cases acted
      · cases acted
  | answer handshake | transportClosed index | pass seconds =>
      simp only [act] at acted
      split at acted
      · cases acted
      · cases acted
  | resume =>
      simp only [act] at acted
      split at acted
      · rename_i name index handshake active
        have given := some.inj acted
        obtain ⟨rfl, rfl⟩ := resume_client (congrArg Prod.snd given)
        have unclosed := spares name link _ active
        have started := (steady.connecting name link _ active).2.mpr nofun
        have links : after.links link = { manager.links link with initialized := true } := by
          have reached : (manager.resume name link .accepted).1 = after := congrArg Prod.fst given
          rw [← reached]
          change ((Manager.setMetadata _ name _).links link) = _
          rw [(setMetadata_same _ _ _).1, setLink_links, if_pos rfl]
        have liveNow : (after.links link).live = (manager.links link).live := by
          rw [links]
          rfl
        rw [liveNow]
        exact ⟨up started unclosed, by rw [links]⟩
      · cases acted
  | wake =>
      simp only [act] at acted
      split at acted
      · have given := congrArg Prod.snd (some.inj acted)
        unfold Manager.wake at given
        split at given
        · cases given
        · exact absurd given (attemptConnect_no_client _ link)
      · cases acted
  | disconnect name =>
      have idle := idle_of_act acted rfl
      simp only [act, idle, some.injEq] at acted
      have given := congrArg Prod.snd acted
      unfold Manager.disconnect at given
      cases found : manager.connections.get? name with
      | none | some metadata =>
          rw [found] at given
          cases given
  | disconnectAll =>
      have idle := idle_of_act acted rfl
      simp only [act, idle, some.injEq] at acted
      exact absurd (congrArg Prod.snd acted) (closeNext_no_client _ link)
  | closed =>
      obtain ⟨operation, active, ended⟩ := bind_eq_some_iff.mp acted
      exact absurd rfl (closed_no_client ended link)
  | getConnection name =>
      simp only [act, getConnection, some.injEq, Prod.mk.injEq] at acted
      obtain ⟨rfl, given⟩ := acted
      cases found : manager.connections.get? name with
      | none =>
          rw [found] at given
          cases given
      | some metadata =>
          rw [found] at given
          by_cases connected : metadata.state = .connected
          · simp only [connected, if_true, Reply.client.injEq] at given
            subst given
            obtain ⟨unclosed, idle⟩ := spares metadata found connected
            obtain ⟨started, ready⟩ := steady.connected name metadata found connected
            refine ⟨up started unclosed, (ready unclosed).resolve_right ?_⟩
            rw [idle]
            exact Bool.false_ne_true
          · simp only [connected, if_false] at given
            cases given

/-! ### No leak and nothing dead -/

def stdioServer : McpServerConfig :=
  { name := "s", transportType := .stdio, stdio := some "server", websocket := none }

/-- The server answers `initialize` with an error; the retry finds a transport that was started. -/
def refusedHandshake : List ManagerEvent :=
  [.connect "s" stdioServer false, .started none,
    .answer (.refused "MCP error -32603: Internal error"), .resume, .wake]

def lostServer : List ManagerEvent :=
  [.connect "s" stdioServer false, .started none, .answer .accepted, .resume, .transportClosed 0]

def madeConnection : List ManagerEvent :=
  [.connect "s" stdioServer false, .started none, .answer .accepted, .resume]

theorem madeConnection_along :
    Along step Spares initial (madeConnection ++ [.getConnection "s"]) := by
  refine Along.cons rfl ?_ (Along.cons rfl trivial (Along.cons rfl trivial
    (Along.cons rfl ?_ (Along.cons rfl ?_ trivial))))
  · intro metadata found
    cases found
  · intro name index handshake active
    cases active
    rfl
  · intro metadata found connected
    cases found
    exact ⟨rfl, rfl⟩

end Manager

end AgenticRuntime.Mcp
