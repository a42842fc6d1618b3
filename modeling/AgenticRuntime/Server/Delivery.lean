/-
Every client that stays connected is sent every event.

A broadcast appends to the store before it takes its snapshot of the connections,
and a client is registered before its replay reads the store, so what misses the
snapshot is found by the replay.
-/

import AgenticRuntime.Server.HubInvariant

namespace AgenticRuntime

open List Function And

variable {Client Listener Tenant : Type}

namespace Hub

/-- Why a client that is connected has been sent a message or will be. -/
inductive Owes (hub : Hub Client Listener Tenant) (client : Client) (socket : Socket Tenant)
    (message : Message Tenant) : Prop where
  | received (path : DeliveryPath) (member : (path, message) ∈ socket.received)
  | waiting (phase : FlightPhase Client) (early : phase = .appending ∨ phase = .appended)
      (flight : hub.flights message.number = some { message := message, phase := phase })
  | sending (remaining dead : List Client) (target : client ∈ remaining)
      (flight : hub.flights message.number =
        some { message := message, phase := .sending remaining dead })
  | stored (early : socket.phase = .registered ∨ socket.phase = .reading)
      (member : message ∈ hub.stored)
  | read (events : List (Message Tenant)) (phase : socket.phase = .read events)
      (member : message ∈ events)
  | replaying (remaining : List (Message Tenant)) (phase : socket.phase = .replaying remaining)
      (member : message ∈ remaining)

def Kept (hub : Hub Client Listener Tenant) : Prop :=
  ∀ message, message ∈ hub.log →
    hub.flights message.number = some { message := message, phase := .appending } ∨
      message ∈ hub.stored

/-- A connected client is on the connection list and no broadcast is about to
take it off. -/
structure Attached (hub : Hub Client Listener Tenant) (client : Client) : Prop where
  listed : ∀ socket, hub.sockets client = some socket → socket.phase.connected = true →
    client ∈ hub.connections
  alive : ∀ number message remaining dead, hub.flights number =
    some { message := message, phase := .sending remaining dead } → client ∉ dead

def Delivers (hub : Hub Client Listener Tenant) (client : Client) : Prop :=
  ∀ socket, hub.sockets client = some socket → socket.phase.connected = true →
    ∀ message, message ∈ hub.log → hub.Owes client socket message

/-- The store takes what it is given and answers what it is asked, and it neither
evicts nor clears an event of the run. -/
def Retained (settings : StreamSettings) (hub : Hub Client Listener Tenant) :
    ChannelEvent Client Listener Tenant → Prop
  | .stored _ success => success = true ∧ hub.stored.length < settings.maxEvents
  | .readStore _ success => success = true
  | .storeCleared success => success = false
  | _ => True

def StaysConnected (client : Client) : ChannelEvent Client Listener Tenant → Prop
  | .sent _ target false => target ≠ client
  | .replayed other false => other ≠ client
  | .closeSocket other => other ≠ client
  | _ => True

section

variable [DecidableEq Client] [DecidableEq Listener] {settings : StreamSettings}
  {hub after : Hub Client Listener Tenant} {event : ChannelEvent Client Listener Tenant}
  {client : Client}

variable {message : Message Tenant} {remaining : List Client}

private theorem Kept.deliver (kept : hub.Kept) {phase : FlightPhase Client}
    (known : hub.flights message.number = some { message := message, phase := phase })
    (later : phase ≠ .appending) (remaining dead : List Client) :
    (hub.deliver message remaining dead).Kept := by
  intro other member
  rw [deliver_log] at member
  rw [deliver_stored, deliver_flights]
  rcases kept other member with flying | stored
  · left
    have different : other.number ≠ message.number := by
      intro same
      rw [same, known] at flying
      cases flying
      exact later rfl
    rw [update_of_ne different]
    exact flying
  · exact .inr stored

private theorem Kept.step (kept : hub.Kept) (numbered : hub.Numbered)
    (retained : hub.Retained settings event) (step : HubStep settings hub event after) :
    after.Kept := by
  cases step with
  | @called run message last =>
      intro other member
      rcases mem_append.mp member with old | new
      · have bound := numbered.bounded other old
        have different : other.number ≠ message.number := by omega
        rcases kept other old with flying | stored
        · left
          exact (update_of_ne different _ _).trans flying
        · exact .inr stored
      · rw [mem_singleton.mp new]
        exact .inl (update_self _ _ _)
  | @appended number message success flight =>
      obtain ⟨worked, room⟩ := retained
      subst worked
      have grown : (hub.append settings message true).stored = hub.stored ++ [message] :=
        pushBounded_of_lt room
      intro other member
      rcases kept other member with flying | stored
      · by_cases same : other.number = message.number
        · have own := numbered.distinct other member message (numbered.flight _ _ flight).1 same
          right
          rw [grown, own]
          exact mem_append_right _ (mem_singleton_self _)
        · left
          exact (update_of_ne same _ _).trans flying
      · right
        rw [grown]
        exact mem_append_left _ stored
  | resumed flight | failed flight => exact kept.deliver (numbered.own flight) nofun _ _
  | @sent number message target remaining dead flight =>
      have received : (hub.receive target .live message).Kept := by
        rw [receive_eq]
        exact kept
      have own : (hub.receive target .live message).flights message.number =
          some { message := message, phase := .sending (target :: remaining) dead } := by
        rw [receive_eq]
        exact numbered.own flight
      exact received.deliver own nofun remaining dead
  | resumedReplay known read | replayed known replaying =>
      rw [replay_eq]
      exact kept
  | storeCleared => cases retained
  | opened | resolved | accepted | began | readStore | interrupted | closed | streamOpened | streamResolved | streamRegistered | streamYielded
  | streamEnded | streamClosed | cleared
  | idle => exact kept

private theorem Attached.deliver (attached : hub.Attached client) {dead : List Client}
    (alive : client ∉ dead) :
    (hub.deliver message remaining dead).Attached client := by
  constructor
  case listed =>
    intro socket known connected
    rw [deliver_sockets] at known
    exact mem_deliver_connections hub message remaining dead
      (attached.listed socket known connected) alive
  case alive =>
    intro number other rest gone there
    rw [deliver_flights] at there
    by_cases same : number = message.number
    · subst same
      rw [update_self] at there
      split at there
      · cases there
      · cases there
        exact alive
    · rw [update_of_ne same] at there
      exact attached.alive number other rest gone there

omit [DecidableEq Listener] in
private theorem Attached.setSocket (attached : hub.Attached client) {other : Client}
    {socket later : Socket Tenant} (known : hub.sockets other = some socket)
    (phase : later.phase.connected = true → socket.phase.connected = true) :
    (hub.setSocket other later).Attached client := by
  constructor
  case listed =>
    intro own there connected
    by_cases same : client = other
    · subst same
      cases (update_self _ _ _).symm.trans there
      exact attached.listed socket known (phase connected)
    · exact attached.listed own ((update_of_ne same _ _).symm.trans there) connected
  case alive => exact attached.alive

private theorem Attached.step (attached : hub.Attached client)
    (stays : StaysConnected client event) (step : HubStep settings hub event after) :
    after.Attached client := by
  cases step with
  | called last =>
      constructor
      case listed => exact attached.listed
      case alive =>
        intro number other rest gone there
        rw [broadcast_flights] at there
        split at there
        · cases there
        · exact attached.alive number other rest gone there
  | appended flight =>
      constructor
      case listed => exact attached.listed
      case alive =>
        intro number other rest gone there
        rw [append_flights] at there
        split at there
        · cases there
        · exact attached.alive number other rest gone there
  | resumed flight => exact attached.deliver not_mem_nil
  | @sent number message target remaining dead flight =>
      have received : (hub.receive target .live message).Attached client := by
        constructor
        case listed =>
          intro socket known connected
          have listed : client ∈ hub.connections := by
            by_cases same : client = target
            · subst same
              rw [receive_sockets_self] at known
              obtain ⟨own, present, equal⟩ := Option.map_eq_some_iff.mp known
              subst equal
              exact attached.listed own present connected
            · rw [receive_sockets_of_ne hub message same] at known
              exact attached.listed socket known connected
          rw [receive_eq]
          exact listed
        case alive =>
          rw [receive_eq]
          exact attached.alive
      exact received.deliver (attached.alive _ _ _ _ flight)
  | @failed number message target remaining dead flight =>
      refine attached.deliver ?_
      intro member
      rcases mem_append.mp member with old | new
      · exact attached.alive _ _ _ _ flight old
      · exact stays (mem_singleton.mp new).symm
  | @opened other tenant phase fresh opening =>
      constructor
      case listed =>
        intro own there connected
        by_cases same : client = other
        · subst same
          cases (update_self _ _ _).symm.trans there
          rcases opening with early | early | early
          · rw [early] at connected
            cases connected
          · rw [early] at connected
            cases connected
          · rw [early] at connected
            cases connected
        · exact attached.listed own ((update_of_ne same _ _).symm.trans there) connected
      case alive => exact attached.alive
  | resolved known resolving decided =>
      refine attached.setSocket known ?_
      intro connected
      rcases decided with early | early
      · rw [early] at connected
        cases connected
      · rw [early] at connected
        cases connected
  | @accepted other socket known accepting =>
      constructor
      case listed =>
        intro own there connected
        by_cases same : client = other
        · rw [same]
          exact mem_append_right _ (mem_singleton_self _)
        · exact mem_append_left _ (attached.listed own
            ((update_of_ne same _ _).symm.trans there) connected)
      case alive => exact attached.alive
  | began known registered =>
      refine attached.setSocket known fun _ => ?_
      rw [registered]
      rfl
  | readStore known reading =>
      refine attached.setSocket known fun _ => ?_
      rw [reading]
      rfl
  | resumedReplay known read =>
      rw [replay_eq]
      refine attached.setSocket known fun _ => ?_
      rw [read]
      rfl
  | replayed known replaying =>
      rw [replay_eq]
      refine attached.setSocket known fun _ => ?_
      rw [replaying]
      rfl
  | interrupted known replaying =>
      refine attached.setSocket known fun _ => ?_
      rw [replaying]
      rfl
  | @closed other socket known =>
      have gone : (hub.setSocket other { socket with phase := .closed }).Attached client :=
        attached.setSocket known nofun
      constructor
      case listed =>
        intro own there connected
        have different : client ≠ other := fun same => stays same.symm
        exact (mem_erase_of_ne different).mpr (gone.listed own there connected)
      case alive => exact gone.alive
  | streamOpened | streamResolved | streamRegistered | streamYielded
  | streamEnded | streamClosed | cleared | storeCleared | idle => exact ⟨attached.listed, attached.alive⟩

omit [DecidableEq Client] [DecidableEq Listener] in
private theorem Owes.carry {socket later : Socket Tenant} (owes : hub.Owes client socket message)
    (flights : after.flights message.number = hub.flights message.number)
    (stored : message ∈ hub.stored → message ∈ after.stored) (phase : later.phase = socket.phase)
    (received : ∀ entry, entry ∈ socket.received → entry ∈ later.received) :
    after.Owes client later message := by
  cases owes with
  | received path member => exact .received path (received _ member)
  | waiting stage early flight => exact .waiting stage early (flights.trans flight)
  | sending remaining dead target flight =>
      exact .sending remaining dead target (flights.trans flight)
  | stored early member => exact .stored (phase ▸ early) (stored member)
  | read events there member => exact .read events (phase.trans there) member
  | replaying remaining there member => exact .replaying remaining (phase.trans there) member

omit [DecidableEq Listener] in
private theorem Delivers.setSocket (delivers : hub.Delivers client) {other : Client}
    {later : Socket Tenant} (own : client = other → later.phase.connected = true →
      ∀ message, message ∈ hub.log → (hub.setSocket other later).Owes client later message) :
    (hub.setSocket other later).Delivers client := by
  intro socket known connected message member
  by_cases same : client = other
  · subst same
    cases (update_self _ _ _).symm.trans known
    exact own rfl connected message member
  · have there := (update_of_ne same _ _).symm.trans known
    exact (delivers socket there connected message member).carry rfl id rfl fun _ => id

private theorem Delivers.deliver (delivers : hub.Delivers client) (numbered : hub.Numbered)
    (logged : message ∈ hub.log) {dead : List Client}
    (own : ∀ socket, hub.sockets client = some socket → socket.phase.connected = true →
      (hub.deliver message remaining dead).Owes client socket message) :
    (hub.deliver message remaining dead).Delivers client := by
  intro socket known connected other member
  rw [deliver_sockets] at known
  rw [deliver_log] at member
  by_cases same : other.number = message.number
  · rw [numbered.distinct other member message logged same]
    exact own socket known connected
  · refine (delivers socket known connected other member).carry ?_ ?_ rfl fun _ => id
    · rw [deliver_flights]
      exact update_of_ne same _ _
    · rw [deliver_stored]
      exact id

private theorem Owes.send {socket : Socket Tenant} {target : Client} {dead gone : List Client}
    (owes : hub.Owes client socket message) (flight : hub.flights message.number =
      some { message := message, phase := .sending (target :: remaining) dead })
    (other : target ≠ client) :
    (hub.deliver message remaining gone).Owes client socket message := by
  cases owes with
  | received path member => exact .received path member
  | waiting stage early waits =>
      cases flight.symm.trans waits
      rcases early with impossible | impossible
      · cases impossible
      · cases impossible
  | sending rest lost listed sends =>
      cases flight.symm.trans sends
      have later : client ∈ remaining := by
        rcases List.mem_cons.mp listed with head | tail
        · exact absurd head.symm other
        · exact tail
      refine .sending remaining gone later ?_
      rw [deliver_flights, update_self, if_neg (ne_nil_of_mem later)]
  | stored early member =>
      refine .stored early ?_
      rw [deliver_stored]
      exact member
  | read events there member => exact .read events there member
  | replaying rest there member => exact .replaying rest there member

private theorem Delivers.step (delivers : hub.Delivers client) (numbered : hub.Numbered)
    (kept : hub.Kept) (attached : hub.Attached client) (retained : hub.Retained settings event)
    (stays : StaysConnected client event) (step : HubStep settings hub event after) :
    after.Delivers client := by
  cases step with
  | @called run message last =>
      intro socket known connected other member
      rcases mem_append.mp member with old | new
      · have bound := numbered.bounded other old
        have different : other.number ≠ message.number := by omega
        exact (delivers socket known connected other old).carry
          (update_of_ne different _ _) id rfl fun _ => id
      · rw [mem_singleton.mp new]
        exact .waiting .appending (.inl rfl) (update_self _ _ _)
  | @appended number message success flight =>
      obtain ⟨worked, room⟩ := retained
      subst worked
      have grown : (hub.append settings message true).stored = hub.stored ++ [message] :=
        pushBounded_of_lt room
      intro socket known connected other member
      by_cases same : other.number = message.number
      · rw [numbered.distinct other member message (numbered.flight _ _ flight).1 same]
        exact .waiting .appended (.inr rfl) (update_self _ _ _)
      · refine (delivers socket known connected other member).carry
          (update_of_ne same _ _) ?_ rfl fun _ => id
        intro stored
        rw [grown]
        exact mem_append_left _ stored
  | @resumed number message flight =>
      refine delivers.deliver numbered (numbered.flight _ _ flight).1 ?_
      intro socket known connected
      have listed := attached.listed socket known connected
      refine .sending hub.connections [] listed ?_
      rw [deliver_flights, update_self, if_neg (ne_nil_of_mem listed)]
  | @sent number message target remaining dead flight =>
      have logged := (numbered.flight _ _ flight).1
      have own := numbered.own flight
      have same : (hub.receive target .live message).flights = hub.flights ∧
          (hub.receive target .live message).log = hub.log ∧
          (hub.receive target .live message).stored = hub.stored := by
        rw [receive_eq]
        exact ⟨rfl, rfl, rfl⟩
      obtain ⟨flights, log, stored⟩ := same
      have received : (hub.receive target .live message).Delivers client := by
        intro socket known connected other member
        rw [log] at member
        by_cases at_target : client = target
        · subst at_target
          rw [receive_sockets_self] at known
          obtain ⟨before, present, equal⟩ := Option.map_eq_some_iff.mp known
          subst equal
          refine (delivers before present connected other member).carry (by rw [flights])
            (by rw [stored]; exact id) rfl ?_
          exact fun entry old => mem_append_left _ old
        · rw [receive_sockets_of_ne hub message at_target] at known
          exact (delivers socket known connected other member).carry (by rw [flights])
            (by rw [stored]; exact id) rfl fun _ => id
      have still : (hub.receive target .live message).Numbered := by
        rw [receive_eq]
        exact ⟨numbered.bounded, numbered.distinct, numbered.flight⟩
      refine received.deliver still (log ▸ logged) ?_
      intro socket known connected
      by_cases at_target : client = target
      · subst at_target
        rw [receive_sockets_self] at known
        obtain ⟨before, present, equal⟩ := Option.map_eq_some_iff.mp known
        subst equal
        exact .received .live (mem_append_right _ (mem_singleton_self _))
      · exact (received socket known connected message (log ▸ logged)).send
          ((congrFun flights _).trans own) fun equal => at_target equal.symm
  | @failed number message target remaining dead flight =>
      have logged := (numbered.flight _ _ flight).1
      refine delivers.deliver numbered logged ?_
      intro socket known connected
      exact (delivers socket known connected message logged).send (numbered.own flight) stays
  | opened fresh opening =>
      refine delivers.setSocket ?_
      rintro - connected
      rcases opening with early | early | early
      · rw [early] at connected
        cases connected
      · rw [early] at connected
        cases connected
      · rw [early] at connected
        cases connected
  | resolved known resolving decided =>
      refine delivers.setSocket ?_
      rintro - connected
      rcases decided with early | early
      · rw [early] at connected
        cases connected
      · rw [early] at connected
        cases connected
  | @accepted other socket known accepting =>
      have registered : (hub.setSocket other { socket with phase := .registered }).Delivers
          client := by
        refine delivers.setSocket ?_
        intro _ _ message member
        rcases kept message member with flying | stored
        · exact .waiting .appending (.inl rfl) flying
        · exact .stored (.inl rfl) stored
      intro own there connected message member
      exact (registered own there connected message member).carry rfl id rfl fun _ => id
  | began known registered =>
      refine delivers.setSocket ?_
      rintro same - message member
      subst same
      cases delivers _ known (by rw [registered]; rfl) message member with
      | received path sent => exact .received path sent
      | waiting stage early flight => exact .waiting stage early flight
      | sending remaining dead target flight => exact .sending remaining dead target flight
      | stored early there => exact .stored (.inr rfl) there
      | read events there _ | replaying remaining there _ => cases registered.symm.trans there
  | @readStore other socket success known reading =>
      have worked : success = true := retained
      subst worked
      refine delivers.setSocket ?_
      rintro same - message member
      subst same
      cases delivers _ known (by rw [reading]; rfl) message member with
      | received path sent => exact .received path sent
      | waiting stage early flight => exact .waiting stage early flight
      | sending remaining dead target flight => exact .sending remaining dead target flight
      | stored early there => exact .read hub.stored rfl there
      | read events there _ | replaying remaining there _ => cases reading.symm.trans there
  | @resumedReplay other socket events known read =>
      rw [replay_eq]
      refine delivers.setSocket ?_
      rintro same - message member
      subst same
      cases delivers _ known (by rw [read]; rfl) message member with
      | received path sent => exact .received path sent
      | waiting stage early flight => exact .waiting stage early flight
      | sending remaining dead target flight => exact .sending remaining dead target flight
      | stored early there =>
          rw [read] at early
          rcases early with impossible | impossible
          · cases impossible
          · cases impossible
      | read found there listed =>
          cases read.symm.trans there
          have some_found : events ≠ [] := ne_nil_of_mem listed
          have nonempty : events.isEmpty = false := by simpa using some_found
          refine .replaying events ?_ listed
          simp [nonempty, some_found]
      | replaying remaining there _ => cases read.symm.trans there
  | @replayed other socket event remaining known replaying =>
      rw [replay_eq]
      refine delivers.setSocket ?_
      rintro same - message member
      subst same
      cases delivers _ known (by rw [replaying]; rfl) message member with
      | received path sent => exact .received path (mem_append_left _ sent)
      | waiting stage early flight => exact .waiting stage early flight
      | sending rest dead target flight => exact .sending rest dead target flight
      | stored early there =>
          rw [replaying] at early
          rcases early with impossible | impossible
          · cases impossible
          · cases impossible
      | read found there _ => cases replaying.symm.trans there
      | replaying rest there listed =>
          cases replaying.symm.trans there
          rcases List.mem_cons.mp listed with head | tail
          · rw [head]
            exact .received .replay (mem_append_right _ (mem_singleton_self _))
          · exact .replaying remaining (if_neg (ne_nil_of_mem tail)) tail
  | interrupted known replaying =>
      refine delivers.setSocket ?_
      rintro same -
      exact absurd same.symm stays
  | @closed other socket known =>
      intro own there connected message member
      have different : client ≠ other := fun same => stays same.symm
      exact (delivers own ((update_of_ne different _ _).symm.trans there) connected message
        member).carry rfl id rfl fun _ => id
  | storeCleared => cases retained
  | streamOpened | streamResolved | streamRegistered | streamYielded
  | streamEnded | streamClosed | cleared | idle =>
      intro own there connected message member
      exact (delivers own there connected message member).carry rfl id rfl fun _ => id

end

end Hub

namespace RunChannel

variable [DecidableEq Client] [DecidableEq Listener] [DecidableEq Tenant]

/-- However broadcasts, connects and replays interleave, a client that stays
connected has been sent every event once no broadcast and no replay to it is
under way. -/
theorem delivery_complete (settings : StreamSettings) (records : List Tenant) (client : Client)
    (events : List (Nat × ChannelEvent Client Listener Tenant))
    (finish : RunChannel Client Listener Tenant) (socket : Socket Tenant)
    (run : Transition.replay (next settings) (start records) events = some finish)
    (along : Transition.Along (next settings) (fun channel event =>
      channel.hub.Retained settings event.2 ∧ Hub.StaysConnected client event.2)
      (start records) events)
    (landed : ∀ number, finish.hub.flights number = none)
    (known : finish.hub.sockets client = some socket) (replayed : socket.phase = .live) :
    ∀ message, message ∈ finish.hub.log → ∃ path, (path, message) ∈ socket.received := by
  have preserved : ∀ (channel : RunChannel Client Listener Tenant) event after,
      (channel.hub.Numbered ∧ channel.hub.Kept ∧ channel.hub.Attached client ∧
        channel.hub.Delivers client) →
      (channel.hub.Retained settings event.2 ∧ Hub.StaysConnected client event.2) →
      channel.next settings event = some after →
      after.hub.Numbered ∧ after.hub.Kept ∧ after.hub.Attached client ∧
        after.hub.Delivers client := by
    rintro channel event after ⟨numbered, kept, attached, delivers⟩ ⟨retained, stays⟩ taken
    have step := next_hub taken
    exact ⟨numbered.step step, kept.step numbered retained step, attached.step stays step,
      delivers.step numbered kept attached retained stays step⟩
  have initial : ((start records : RunChannel Client Listener Tenant).hub).Numbered ∧
      ((start records : RunChannel Client Listener Tenant).hub).Kept ∧
      ((start records : RunChannel Client Listener Tenant).hub).Attached client ∧
      ((start records : RunChannel Client Listener Tenant).hub).Delivers client :=
    ⟨⟨nofun, nofun, nofun⟩, nofun, ⟨nofun, nofun⟩, nofun⟩
  obtain ⟨_, _, _, delivers⟩ := Transition.replay_invariant_along preserved initial along run
  intro message member
  cases delivers socket known (by rw [replayed]; rfl) message member with
  | received path sent => exact ⟨path, sent⟩
  | waiting stage early flight | sending remaining dead target flight =>
      cases (landed message.number).symm.trans flight
  | stored early _ =>
      rw [replayed] at early
      rcases early with impossible | impossible
      · cases impossible
      · cases impossible
  | read found there _ | replaying remaining there _ => cases replayed.symm.trans there

/-- The second broadcast and the replay of a client cross each other: the event
reaches the store before the replay reads it and the snapshot after the client
has registered. -/
def crossing : List (Nat × ChannelEvent String String String) :=
  [(0, .submit "acme"), (0, .startRun 0), (0, .broadcast 0 .workflowStart false),
    (0, .stored 0 true), (0, .resumeBroadcast 0), (1, .openSocket "tab" "acme"),
    (1, .accepted "tab"), (2, .broadcast 0 .stepStart false), (2, .beginReplay "tab"),
    (2, .stored 1 true), (2, .readStore "tab" true), (3, .resumeBroadcast 1),
    (3, .resumeReplay "tab"), (3, .sent 1 "tab" true), (3, .replayed "tab" true),
    (3, .replayed "tab" true)]

theorem delivery_complete_crossing : ∃ (finish : RunChannel String String String)
    (socket : Socket String),
    Transition.replay (next {}) (start []) crossing = some finish ∧
      finish.hub.sockets "tab" = some socket ∧ finish.hub.log.length = 2 ∧
      ∀ message, message ∈ finish.hub.log → ∃ path, (path, message) ∈ socket.received := by
  have whole : ∃ (finish : RunChannel String String String) (socket : Socket String),
      Transition.replay (next {}) (start []) crossing = some finish ∧
        finish.hub.sockets "tab" = some socket ∧ socket.phase = .live ∧
        finish.hub.log.length = 2 ∧ ∀ number, finish.hub.flights number = none := by
    let first : Message String := { number := 0, tenant := "acme", type := .workflowStart }
    let second : Message String := { number := 1, tenant := "acme", type := .stepStart }
    refine ⟨_, {
      tenant := "acme"
      phase := .live
      received := [(.live, second), (.replay, first), (.replay, second)] }, rfl, ?_⟩
    refine ⟨rfl, rfl, rfl, ?_⟩
    intro number
    match number with
    | 0 => rfl
    | 1 => rfl
    | number + 2 => rfl
  obtain ⟨finish, socket, run, known, replayed, count, landed⟩ := whole
  refine ⟨finish, socket, run, known, count, ?_⟩
  refine delivery_complete {} [] "tab" crossing finish socket run ?_ landed known replayed
  exact intro ⟨trivial, trivial⟩ <| intro ⟨trivial, trivial⟩ <|
    intro ⟨trivial, trivial⟩ <| intro ⟨⟨rfl, by decide⟩, trivial⟩ <|
    intro ⟨trivial, trivial⟩ <| intro ⟨trivial, trivial⟩ <|
    intro ⟨trivial, trivial⟩ <| intro ⟨trivial, trivial⟩ <|
    intro ⟨trivial, trivial⟩ <| intro ⟨⟨rfl, by decide⟩, trivial⟩ <|
    intro ⟨rfl, trivial⟩ <| intro ⟨trivial, trivial⟩ <|
    intro ⟨trivial, trivial⟩ <| intro ⟨trivial, trivial⟩ <|
    intro ⟨trivial, trivial⟩ <| intro ⟨trivial, trivial⟩ trivial

end RunChannel

end AgenticRuntime
