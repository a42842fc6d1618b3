/-
The order in which one producer's events reach a client.

The live path and the replay path each keep the order of the broadcasts, but a
client is registered before its replay has ended, so the two may cross.
-/

import AgenticRuntime.Server.Delivery

namespace AgenticRuntime

open List Function Socket Transition And
open List.Pairwise (nil sublist)

variable {Client Listener Tenant : Type}

def InOrder (messages : List (Message Tenant)) : Prop :=
  messages.Pairwise fun first second => first.number < second.number

theorem InOrder.append {first second : List (Message Tenant)} (ordered : InOrder first)
    (later : InOrder second)
    (across : ∀ left, left ∈ first → ∀ right, right ∈ second → left.number < right.number) :
    InOrder (first ++ second) :=
  pairwise_append.mpr ⟨ordered, later, across⟩

theorem InOrder.snoc {messages : List (Message Tenant)} {message : Message Tenant}
    (ordered : InOrder messages) (last : ∀ other, other ∈ messages → other.number < message.number) :
    InOrder (messages ++ [message]) := by
  refine ordered.append (pairwise_singleton _ message) ?_
  intro left member right same
  rw [mem_singleton.mp same]
  exact last left member

theorem InOrder.pushBounded {messages : List (Message Tenant)} {message : Message Tenant}
    (ordered : InOrder messages) (last : ∀ other, other ∈ messages → other.number < message.number)
    (maxlen : Nat) : InOrder (pushBounded maxlen messages message) :=
  sublist pushBounded_suffix.sublist (ordered.snoc last)

def SocketPhase.unread : SocketPhase Tenant → Bool
  | .resolving | .accepting | .registered | .reading | .read _ => true
  | .replaying _ | .live | .closed => false

def SocketPhase.catchingUp : SocketPhase Tenant → Bool
  | .registered | .reading | .read _ | .replaying _ => true
  | .resolving | .accepting | .live | .closed => false

/-- What a client has been sent on the paths that `keep` selects. -/
def Socket.sentBy (socket : Socket Tenant) (keep : DeliveryPath → Bool) : List (Message Tenant) :=
  (socket.received.filter fun entry => keep entry.1).map Prod.snd

def Socket.ahead (socket : Socket Tenant) (keep : DeliveryPath → Bool) : List (Message Tenant) :=
  if keep .replay then socket.phase.pending else []

def FlightPhase.awaits (client : Client) : FlightPhase Client → Prop
  | .appending | .appended => True
  | .sending remaining _ => client ∈ remaining

theorem Socket.sentBy_snoc (socket : Socket Tenant) (keep : DeliveryPath → Bool)
    (path : DeliveryPath) (message : Message Tenant) :
    sentBy { socket with received := socket.received ++ [(path, message)] } keep =
      socket.sentBy keep ++ if keep path then [message] else [] := by
  simp only [sentBy, filter_append, map_append]
  cases selected : keep path with
  | true | false => simp [selected]

namespace Hub

variable (hub : Hub Client Listener Tenant)

def Sequential : ChannelEvent Client Listener Tenant → Prop
  | .broadcast _ _ _ => ∀ number, hub.flights number = none
  | _ => True

def Quiet (client : Client) : Prop :=
  ∀ socket, hub.sockets client = some socket → socket.phase.catchingUp = true →
    ∀ number, hub.flights number = none

def Awaits (client : Client) (number : Nat) : Prop :=
  ∃ flight, hub.flights number = some flight ∧ flight.phase.awaits client

def Joined (client : Client) : Prop :=
  ∃ socket, hub.sockets client = some socket ∧ socket.phase ≠ .resolving ∧
    socket.phase ≠ .accepting

structure InSequence (hub : Hub Client Listener Tenant) : Prop where
  newest : ∀ number flight, hub.flights number = some flight → number + 1 = hub.log.length
  stored : InOrder hub.stored
  buffered : InOrder hub.eventBuffer
  storedBelow : ∀ message, message ∈ hub.stored → message.number < hub.log.length
  bufferedBelow : ∀ message, message ∈ hub.eventBuffer → message.number < hub.log.length
  appending : ∀ number message, hub.flights number =
    some { message := message, phase := .appending } →
    ∀ other, other ∈ hub.stored → other.number < number
  snapshot : ∀ number message remaining dead, hub.flights number =
    some { message := message, phase := .sending remaining dead } →
    remaining.Nodup ∧ ∀ client, client ∈ remaining → hub.Joined client

/-- What a client has been sent, and what its replay will send, on the selected
paths. -/
structure Tracks (hub : Hub Client Listener Tenant) (keep : DeliveryPath → Bool)
    (client : Client) (socket : Socket Tenant) : Prop where
  ordered : InOrder (socket.sentBy keep ++ socket.ahead keep)
  bounded : ∀ message, message ∈ socket.sentBy keep ++ socket.ahead keep →
    message.number < hub.log.length
  fresh : keep .live = true → ∀ number, hub.Awaits client number →
    ∀ message, message ∈ socket.sentBy keep → message.number < number
  early : keep .replay = true → socket.phase.unread = true → socket.sentBy keep = []

section

variable [DecidableEq Client] [DecidableEq Listener] {settings : StreamSettings}
  {hub after : Hub Client Listener Tenant} {event : ChannelEvent Client Listener Tenant}
  {client : Client}

variable {socket : Socket Tenant} {message : Message Tenant} {remaining : List Client}

section

omit [DecidableEq Listener]

private theorem Joined.setSocket (joined : hub.Joined client) {other : Client}
    {later : Socket Tenant} (known : hub.sockets other = some socket)
    (kept : socket.phase ≠ .resolving ∧ socket.phase ≠ .accepting →
      later.phase ≠ .resolving ∧ later.phase ≠ .accepting) :
    (hub.setSocket other later).Joined client := by
  obtain ⟨own, there, phase⟩ := joined
  by_cases same : client = other
  · subst same
    cases there.symm.trans known
    exact ⟨later, update_self _ _ _, kept phase⟩
  · exact ⟨own, (update_of_ne same _ _).trans there, phase⟩

private theorem joined_receive (joined : hub.Joined client) (target : Client) (path : DeliveryPath)
    (message : Message Tenant) : (hub.receive target path message).Joined client := by
  obtain ⟨own, there, phase⟩ := joined
  by_cases same : client = target
  · subst same
    refine ⟨{ own with received := own.received ++ [(path, message)] }, ?_, phase⟩
    rw [receive_sockets_self, there]
    rfl
  · exact ⟨own, (receive_sockets_of_ne hub message same path).trans there, phase⟩

end

theorem deliver_awaits {dead : List Client} {number : Nat}
    (awaits : (hub.deliver message remaining dead).Awaits client number) :
    (number ≠ message.number ∧ hub.Awaits client number) ∨
      (number = message.number ∧ client ∈ remaining) := by
  obtain ⟨flight, known, waits⟩ := awaits
  rw [deliver_flights] at known
  by_cases same : number = message.number
  · right
    subst same
    rw [update_self] at known
    split at known
    · cases known
    · cases known
      exact ⟨rfl, waits⟩
  · left
    rw [update_of_ne same] at known
    exact ⟨same, flight, known, waits⟩

private theorem InSequence.deliver (sequence : hub.InSequence) {phase : FlightPhase Client}
    (known : hub.flights message.number = some { message := message, phase := phase })
    (distinct : remaining.Nodup) (members : ∀ client, client ∈ remaining → hub.Joined client)
    (dead : List Client) :
    (hub.deliver message remaining dead).InSequence := by
  have joins : ∀ client, hub.Joined client → (hub.deliver message remaining dead).Joined client := by
    rintro client ⟨own, there, early⟩
    exact ⟨own, (congrFun (deliver_sockets hub message remaining dead) client).trans there, early⟩
  have flights : ∀ number flight, (hub.deliver message remaining dead).flights number = some flight →
      (number ≠ message.number ∧ hub.flights number = some flight) ∨
        (number = message.number ∧
          flight = { message := message, phase := .sending remaining dead }) := by
    intro number flight there
    rw [deliver_flights] at there
    by_cases same : number = message.number
    · right
      subst same
      rw [update_self] at there
      split at there
      · cases there
      · cases there
        exact ⟨rfl, rfl⟩
    · left
      rw [update_of_ne same] at there
      exact ⟨same, there⟩
  constructor
  case newest =>
    intro number flight there
    rw [deliver_log]
    rcases flights number flight there with ⟨_, old⟩ | ⟨same, _⟩
    · exact sequence.newest number flight old
    · rw [same]
      exact sequence.newest _ _ known
  case stored => simpa using sequence.stored
  case buffered => simpa using sequence.buffered
  case storedBelow => simpa using sequence.storedBelow
  case bufferedBelow => simpa using sequence.bufferedBelow
  case appending =>
    intro number other there
    rw [deliver_stored]
    rcases flights number _ there with ⟨_, old⟩ | ⟨_, impossible⟩
    · exact sequence.appending number other old
    · cases impossible
  case snapshot =>
    intro number other rest gone there
    rcases flights number _ there with ⟨_, old⟩ | ⟨_, same⟩
    · obtain ⟨nodup, all⟩ := sequence.snapshot number other rest gone old
      exact ⟨nodup, fun client member => joins client (all client member)⟩
    · cases same
      exact ⟨distinct, fun client member => joins client (members client member)⟩

omit [DecidableEq Client] [DecidableEq Listener] in
private theorem InSequence.of_joined (sequence : hub.InSequence) (log : after.log = hub.log)
    (flights : after.flights = hub.flights) (stored : after.stored = hub.stored)
    (buffer : after.eventBuffer = hub.eventBuffer)
    (joins : ∀ client, hub.Joined client → after.Joined client) : after.InSequence := by
  constructor
  case newest => exact log ▸ flights ▸ sequence.newest
  case stored => exact stored ▸ sequence.stored
  case buffered => exact buffer ▸ sequence.buffered
  case storedBelow => exact log ▸ stored ▸ sequence.storedBelow
  case bufferedBelow => exact log ▸ buffer ▸ sequence.bufferedBelow
  case appending => exact flights ▸ stored ▸ sequence.appending
  case snapshot =>
    intro number message remaining dead there
    obtain ⟨nodup, all⟩ := sequence.snapshot number message remaining dead (flights ▸ there)
    exact ⟨nodup, fun client member => joins client (all client member)⟩

omit [DecidableEq Listener] in
private theorem InSequence.setSocket (sequence : hub.InSequence) {other : Client}
    {later : Socket Tenant} (known : hub.sockets other = some socket)
    (kept : socket.phase ≠ .resolving ∧ socket.phase ≠ .accepting →
      later.phase ≠ .resolving ∧ later.phase ≠ .accepting) :
    (hub.setSocket other later).InSequence :=
  sequence.of_joined rfl rfl rfl rfl fun _ joined => joined.setSocket known kept

private theorem InSequence.step (sequence : hub.InSequence) (numbered : hub.Numbered)
    (listed : hub.Listed)
    (sequential : hub.Sequential event) (step : HubStep settings hub event after) :
    after.InSequence := by
  cases step with
  | @called run message last =>
      have alone : ∀ number flight, (hub.broadcast settings message).flights number = some flight →
          number = message.number ∧ flight = { message := message, phase := .appending } := by
        intro number flight there
        rw [broadcast_flights] at there
        split at there
        · rename_i same
          cases there
          exact ⟨same, rfl⟩
        · cases (sequential number).symm.trans there
      constructor
      case newest =>
        intro number flight there
        rw [(alone number flight there).1, last]
        exact (broadcast_log_length hub message settings).symm
      case stored => exact sequence.stored
      case buffered =>
        refine sequence.buffered.pushBounded ?_ _
        intro other member
        rw [last]
        exact sequence.bufferedBelow other member
      case storedBelow =>
        intro other member
        have bound := sequence.storedBelow other member
        rw [broadcast_log_length]
        omega
      case bufferedBelow =>
        intro other member
        rw [broadcast_log_length]
        rcases mem_of_mem_pushBounded member with old | new
        · have bound := sequence.bufferedBelow other old
          omega
        · rw [new, last]
          omega
      case appending =>
        intro number other there stored member
        rw [(alone number _ there).1, last]
        exact sequence.storedBelow stored member
      case snapshot =>
        intro number other remaining dead there
        cases (alone number _ there).2
  | @appended number message success flight =>
      have own : message.number = number := (numbered.flight _ _ flight).2
      have below : ∀ other, other ∈ hub.stored → other.number < message.number := by
        intro other member
        rw [own]
        exact sequence.appending number message flight other member
      have newest := sequence.newest number _ flight
      have flights : ∀ at_number flight', (hub.append settings message success).flights at_number =
          some flight' → (at_number ≠ message.number ∧ hub.flights at_number = some flight') ∨
            (at_number = message.number ∧
              flight' = { message := message, phase := .appended }) := by
        intro at_number flight' there
        rw [append_flights] at there
        split at there
        · rename_i same
          cases there
          exact .inr ⟨same, rfl⟩
        · rename_i different
          exact .inl ⟨different, there⟩
      have only : ∀ at_number flight', hub.flights at_number = some flight' →
          at_number = message.number := by
        intro at_number flight' there
        have other := sequence.newest at_number flight' there
        omega
      constructor
      case newest =>
        intro at_number flight' there
        rcases flights at_number flight' there with ⟨_, old⟩ | ⟨same, _⟩
        · exact sequence.newest at_number flight' old
        · rw [same, own]
          exact newest
      case stored =>
        cases success with
        | true => exact sequence.stored.pushBounded below _
        | false => exact sequence.stored
      case buffered => exact sequence.buffered
      case storedBelow =>
        cases success with
        | true =>
            intro other member
            rcases mem_of_mem_pushBounded member with old | new
            · exact sequence.storedBelow other old
            · rw [new, own]
              change number < hub.log.length
              omega
        | false => exact sequence.storedBelow
      case bufferedBelow => exact sequence.bufferedBelow
      case appending =>
        intro at_number other there
        rcases flights at_number _ there with ⟨different, old⟩ | ⟨_, impossible⟩
        · exact absurd (only at_number _ old) different
        · cases impossible
      case snapshot =>
        intro at_number other remaining dead there
        rcases flights at_number _ there with ⟨different, old⟩ | ⟨_, impossible⟩
        · exact absurd (only at_number _ old) different
        · cases impossible
  | @resumed number message flight =>
      refine sequence.deliver (numbered.own flight) listed.clients ?_ []
      intro client member
      obtain ⟨socket, known, connected⟩ := listed.connected client member
      refine ⟨socket, known, ?_, ?_⟩
      · intro resolving
        rw [resolving] at connected
        cases connected
      · intro accepting
        rw [accepting] at connected
        cases connected
  | @sent number message target remaining dead flight =>
      obtain ⟨distinct, members⟩ := sequence.snapshot _ _ _ _ flight
      have received : (hub.receive target .live message).InSequence := by
        have joins := fun client (joined : hub.Joined client) =>
          joined_receive joined target .live message
        rw [receive_eq] at joins ⊢
        exact sequence.of_joined rfl rfl rfl rfl joins
      have own : (hub.receive target .live message).flights message.number =
          some { message := message, phase := .sending (target :: remaining) dead } := by
        rw [receive_eq]
        exact numbered.own flight
      refine received.deliver own (nodup_cons.mp distinct).2 ?_ dead
      intro client member
      exact joined_receive (members client (mem_cons_of_mem _ member)) target .live message
  | @failed number message target remaining dead flight =>
      obtain ⟨distinct, members⟩ := sequence.snapshot _ _ _ _ flight
      refine sequence.deliver (numbered.own flight) (nodup_cons.mp distinct).2 ?_ _
      exact fun client member => members client (mem_cons_of_mem _ member)
  | @opened other tenant phase fresh opening =>
      have joins : ∀ client, hub.Joined client → (hub.setSocket other
          { tenant := tenant, phase := phase }).Joined client := by
        rintro client ⟨own, there, early⟩
        have different : client ≠ other := by
          intro same
          rw [same, fresh] at there
          cases there
        exact ⟨own, (update_of_ne different _ _).trans there, early⟩
      exact sequence.of_joined rfl rfl rfl rfl joins
  | resolved known resolving decided =>
      exact sequence.setSocket known fun past => absurd resolving past.1
  | @accepted other socket known accepting =>
      have moved : (hub.setSocket other { socket with phase := .registered }).InSequence :=
        sequence.setSocket known fun _ => ⟨nofun, nofun⟩
      exact moved.of_joined rfl rfl rfl rfl fun _ joined => joined
  | began known registered | readStore known reading | interrupted known replaying =>
      exact sequence.setSocket known fun _ => ⟨nofun, nofun⟩
  | @resumedReplay other socket events known read =>
      rw [replay_eq]
      refine sequence.setSocket known fun _ => ?_
      generalize (if events.isEmpty then hub.eventBuffer else events) = pending
      cases pending with
      | nil | cons event remaining => exact ⟨nofun, nofun⟩
  | @replayed other socket event remaining known replaying =>
      rw [replay_eq]
      refine sequence.setSocket known fun _ => ?_
      cases remaining with
      | nil | cons event remaining => exact ⟨nofun, nofun⟩
  | @closed other socket known =>
      have moved : (hub.setSocket other { socket with phase := .closed }).InSequence :=
        sequence.setSocket known fun _ => ⟨nofun, nofun⟩
      exact moved.of_joined rfl rfl rfl rfl fun _ joined => joined
  | cleared =>
      constructor
      case newest => exact sequence.newest
      case stored => exact sequence.stored
      case buffered => exact nil
      case storedBelow => exact sequence.storedBelow
      case bufferedBelow => exact nofun
      case appending => exact sequence.appending
      case snapshot => exact sequence.snapshot
  | storeCleared =>
      constructor
      case newest => exact sequence.newest
      case stored => exact nil
      case buffered => exact sequence.buffered
      case storedBelow => exact nofun
      case bufferedBelow => exact sequence.bufferedBelow
      case appending => exact nofun
      case snapshot => exact sequence.snapshot
  | streamOpened | streamResolved | streamRegistered | streamYielded | streamEnded
  | streamClosed | idle =>
      exact ⟨sequence.newest, sequence.stored, sequence.buffered, sequence.storedBelow,
        sequence.bufferedBelow, sequence.appending, sequence.snapshot⟩

def Follows (hub : Hub Client Listener Tenant) (keep : DeliveryPath → Bool) (client : Client) :
    Prop :=
  ∀ socket, hub.sockets client = some socket → hub.Tracks keep client socket

variable {keep : DeliveryPath → Bool}

omit [DecidableEq Client] [DecidableEq Listener] in
private theorem Tracks.carry (tracks : hub.Tracks keep client socket)
    (longer : hub.log.length ≤ after.log.length) (awaits : ∀ number, after.Awaits client number →
      hub.Awaits client number ∨ hub.log.length ≤ number) : after.Tracks keep client socket := by
  constructor
  case ordered => exact tracks.ordered
  case bounded =>
    exact fun message member => Nat.lt_of_lt_of_le (tracks.bounded message member) longer
  case fresh =>
    intro live number waits message member
    rcases awaits number waits with old | new
    · exact tracks.fresh live number old message member
    · have bound := tracks.bounded message (mem_append_left _ member)
      omega
  case early => exact tracks.early

omit [DecidableEq Listener] in
private theorem Follows.setSocket (follows : hub.Follows keep client) {other : Client}
    {later : Socket Tenant} (own : client = other → hub.Tracks keep client later) :
    (hub.setSocket other later).Follows keep client := by
  intro socket known
  by_cases same : client = other
  · subst same
    cases (update_self _ _ _).symm.trans known
    exact (own rfl).carry (Nat.le_refl _) fun _ => Or.inl
  · have there := (update_of_ne same _ _).symm.trans known
    exact (follows socket there).carry (Nat.le_refl _) fun _ => Or.inl

section

omit [DecidableEq Client] [DecidableEq Listener]

private theorem Tracks.setPhase (tracks : hub.Tracks keep client socket)
    {phase : SocketPhase Tenant} (pending : phase.pending = [])
    (unread : phase.unread = true → socket.phase.unread = true) :
    hub.Tracks keep client { socket with phase := phase } := by
  have none_ahead : ahead { socket with phase := phase } keep = [] := by
    simp only [ahead, pending, ite_self]
  have ordered := sublist (sublist_append_left _ _) tracks.ordered
  constructor
  case ordered =>
    rw [none_ahead, append_nil]
    exact ordered
  case bounded =>
    rw [none_ahead, append_nil]
    exact fun message member => tracks.bounded message (mem_append_left _ member)
  case fresh => exact tracks.fresh
  case early => exact fun replay early => tracks.early replay (unread early)

private theorem Tracks.take (tracks : hub.Tracks keep client socket)
    (early : socket.phase.unread = true) {phase : SocketPhase Tenant}
    (ordered : InOrder phase.pending)
    (below : ∀ message, message ∈ phase.pending → message.number < hub.log.length) :
    hub.Tracks keep client { socket with phase := phase } := by
  have split_ahead : keep .replay = false ∨
      (ahead { socket with phase := phase } keep = phase.pending ∧
        socket.sentBy keep = []) := by
    cases replay : keep .replay with
    | false => exact .inl rfl
    | true => exact .inr ⟨by simp only [ahead, replay, if_true], tracks.early replay early⟩
  rcases split_ahead with off | ⟨ahead, unsent⟩
  · have none_ahead : ∀ own : Socket Tenant, own.ahead keep = [] := by
      intro own
      simp only [ahead, off, Bool.false_eq_true, if_false]
    constructor
    case ordered =>
      have before := tracks.ordered
      rw [none_ahead] at before ⊢
      exact before
    case bounded =>
      have before := tracks.bounded
      rw [none_ahead] at before ⊢
      exact before
    case fresh => exact tracks.fresh
    case early => exact fun replay => absurd (off.symm.trans replay) nofun
  · constructor
    case ordered =>
      rw [ahead]
      change InOrder (socket.sentBy keep ++ phase.pending)
      rw [unsent]
      exact ordered
    case bounded =>
      rw [ahead]
      change ∀ message, message ∈ socket.sentBy keep ++ phase.pending → _
      rw [unsent]
      exact below
    case fresh => exact tracks.fresh
    case early => exact fun _ _ => unsent

end

private theorem Follows.deliver (follows : hub.Follows keep client) {dead : List Client}
    (waited : client ∈ remaining → hub.Awaits client message.number) :
    (hub.deliver message remaining dead).Follows keep client := by
  intro socket known
  rw [deliver_sockets] at known
  refine (follows socket known).carry (Nat.le_of_eq (by rw [deliver_log])) ?_
  intro number awaits
  rcases deliver_awaits awaits with ⟨_, old⟩ | ⟨same, member⟩
  · exact .inl old
  · rw [same]
    exact .inl (waited member)

omit [DecidableEq Client] [DecidableEq Listener] in
private theorem ahead_of_flight (joined : hub.Joined client)
    (known : hub.sockets client = some socket) (quiet : keep .replay = true → hub.Quiet client)
    {number : Nat} {flight : Flight Client Tenant} (flying : hub.flights number = some flight) :
    socket.ahead keep = [] ∧ (keep .replay = true → socket.phase.unread = false) := by
  cases replay : keep .replay with
  | false => exact ⟨by simp only [ahead, replay, Bool.false_eq_true, if_false], nofun⟩
  | true =>
      have idle : socket.phase.catchingUp = false := by
        cases catching : socket.phase.catchingUp with
        | false => rfl
        | true => cases (quiet replay socket known catching number).symm.trans flying
      obtain ⟨own, there, past⟩ := joined
      cases known.symm.trans there
      simp only [ahead, replay, if_true]
      cases phase : socket.phase with
      | resolving => exact absurd phase past.1
      | accepting => exact absurd phase past.2
      | registered | reading | read | replaying =>
          rw [phase] at idle
          cases idle
      | live | closed => exact ⟨rfl, fun _ => rfl⟩

private theorem Follows.step (follows : hub.Follows keep client) (numbered : hub.Numbered)
    (sequence : hub.InSequence)
    (quiet : keep .live = true → keep .replay = true → hub.Quiet client)
    (step : HubStep settings hub event after) : after.Follows keep client := by
  cases step with
  | @called run message last =>
      intro socket known
      refine (follows socket known).carry ?_ ?_
      · rw [broadcast_log_length]
        exact Nat.le_succ _
      · rintro number ⟨flight, there, waits⟩
        rw [broadcast_flights] at there
        split at there
        · rename_i same
          rw [same, last]
          exact .inr (Nat.le_refl _)
        · exact .inl ⟨flight, there, waits⟩
  | @appended number message success flight =>
      intro socket known
      refine (follows socket known).carry (Nat.le_refl _) ?_
      rintro other ⟨flight', there, waits⟩
      rw [append_flights] at there
      split at there
      · rename_i same
        rw [same]
        exact .inl ⟨_, numbered.own flight, trivial⟩
      · exact .inl ⟨flight', there, waits⟩
  | resumed flight => exact follows.deliver fun _ => ⟨_, numbered.own flight, trivial⟩
  | @sent number message target remaining dead flight =>
      obtain ⟨distinct, members⟩ := sequence.snapshot _ _ _ _ flight
      have own := numbered.own flight
      have same : (hub.receive target .live message).log = hub.log ∧
          (hub.receive target .live message).flights = hub.flights := by
        rw [receive_eq]
        exact ⟨rfl, rfl⟩
      obtain ⟨log, flights⟩ := same
      by_cases at_target : client = target
      · subst at_target
        have passed : client ∉ remaining := (nodup_cons.mp distinct).1
        intro socket known
        rw [deliver_sockets, receive_sockets_self] at known
        obtain ⟨before, present, equal⟩ := Option.map_eq_some_iff.mp known
        subst equal
        have tracks := follows before present
        have joined := members client mem_cons_self
        have nobody : ∀ other, ¬ ((hub.receive client .live message).deliver message remaining
            dead).Awaits client other := by
          intro other awaits
          rcases deliver_awaits awaits with ⟨different, ⟨flight', there, _⟩⟩ | ⟨_, member⟩
          · rw [flights] at there
            have newest := sequence.newest _ _ there
            have first := sequence.newest _ _ own
            change message.number + 1 = _ at first
            omega
          · exact passed member
        have sent := sentBy_snoc before keep .live message
        cases live : keep .live with
        | false =>
            rw [live] at sent
            simp only [Bool.false_eq_true, if_false, append_nil] at sent
            constructor
            case ordered =>
              rw [sent]
              exact tracks.ordered
            case bounded =>
              rw [sent, deliver_log, log]
              exact tracks.bounded
            case fresh => exact fun impossible => absurd (live.symm.trans impossible) nofun
            case early =>
              rw [sent]
              exact tracks.early
        | true =>
            rw [live] at sent
            simp only [if_true] at sent
            obtain ⟨none_ahead, read⟩ := ahead_of_flight joined present (quiet live) own
            have below : ∀ other, other ∈ before.sentBy keep → other.number < message.number :=
              tracks.fresh live message.number ⟨_, own, mem_cons_self⟩
            have ordered := sublist (sublist_append_left _ _) tracks.ordered
            have ahead : ahead { before with
                received := before.received ++ [(.live, message)] } keep = [] := none_ahead
            constructor
            case ordered =>
              rw [sent, ahead, append_nil]
              exact InOrder.snoc ordered below
            case bounded =>
              rw [sent, ahead, append_nil, deliver_log, log]
              intro other member
              rcases mem_append.mp member with old | new
              · exact tracks.bounded other (mem_append_left _ old)
              · rw [mem_singleton.mp new]
                exact numbered.bounded message (numbered.flight _ _ flight).1
            case fresh => exact fun _ other awaits => absurd awaits (nobody other)
            case early => exact fun replay unread => absurd ((read replay).symm.trans unread) nofun
      · have received : (hub.receive target .live message).Follows keep client := by
          intro socket known
          rw [receive_sockets_of_ne hub message at_target] at known
          refine (follows socket known).carry (Nat.le_of_eq (by rw [log])) ?_
          rintro other ⟨flight', there, waits⟩
          rw [flights] at there
          exact .inl ⟨flight', there, waits⟩
        refine received.deliver fun member => ?_
        exact ⟨_, (congrFun flights _).trans own, mem_cons_of_mem _ member⟩
  | failed flight =>
      exact follows.deliver fun member =>
        ⟨_, numbered.own flight, mem_cons_of_mem _ member⟩
  | opened fresh opening =>
      refine follows.setSocket fun _ => ?_
      constructor
      case ordered =>
        rcases opening with early | early | early
        all_goals
          subst early
          simp [sentBy, ahead, SocketPhase.pending, InOrder]
      case bounded =>
        rcases opening with early | early | early
        all_goals
          subst early
          simp [sentBy, ahead, SocketPhase.pending]
      case fresh => exact fun _ _ _ => nofun
      case early => exact fun _ _ => rfl
  | resolved known resolving decided =>
      refine follows.setSocket fun same => ?_
      subst same
      rcases decided with phase | phase
      · subst phase
        refine (follows _ known).setPhase rfl fun _ => ?_
        rw [resolving]
        rfl
      · subst phase
        exact (follows _ known).setPhase rfl nofun
  | @accepted other socket known accepting =>
      have moved : (hub.setSocket other { socket with phase := .registered }).Follows keep client := by
        refine follows.setSocket fun same => ?_
        subst same
        refine (follows _ known).setPhase rfl fun _ => ?_
        rw [accepting]
        rfl
      intro own there
      exact (moved own there).carry (Nat.le_refl _) fun _ => Or.inl
  | began known registered =>
      refine follows.setSocket fun same => ?_
      subst same
      refine (follows _ known).setPhase rfl fun _ => ?_
      rw [registered]
      rfl
  | @readStore other socket success known reading =>
      refine follows.setSocket fun same => ?_
      subst same
      refine (follows _ known).take (by rw [reading]; rfl) ?_ ?_
      · cases success with
        | true => exact sequence.stored
        | false => exact nil
      · cases success with
        | true => exact sequence.storedBelow
        | false => exact nofun
  | @resumedReplay other socket events known read =>
      rw [replay_eq]
      refine follows.setSocket fun same => ?_
      subst same
      have pending : ∀ remaining : List (Message Tenant), (if remaining = [] then .live
          else .replaying remaining : SocketPhase Tenant).pending = remaining := by
        intro remaining
        cases remaining with
        | nil => rfl
        | cons event remaining => rfl
      have tracks := follows _ known
      cases found : events with
      | nil =>
          refine tracks.take (by rw [read]; rfl) ?_ ?_
          · rw [pending]
            exact sequence.buffered
          · rw [pending]
            exact sequence.bufferedBelow
      | cons first rest =>
          rw [found] at read
          cases replay : keep .replay with
          | false =>
              constructor
              case ordered =>
                have before := tracks.ordered
                simp only [ahead, replay, Bool.false_eq_true, if_false] at before ⊢
                exact before
              case bounded =>
                have before := tracks.bounded
                simp only [ahead, replay, Bool.false_eq_true, if_false] at before ⊢
                exact before
              case fresh => exact tracks.fresh
              case early => exact fun impossible => absurd (replay.symm.trans impossible) nofun
          | true =>
              have ahead : socket.ahead keep = first :: rest := by
                simp only [ahead, replay, if_true, read, SocketPhase.pending]
              have unsent := tracks.early replay (by rw [read]; rfl)
              have ordered := tracks.ordered
              have bounded := tracks.bounded
              rw [unsent, ahead] at ordered bounded
              refine tracks.take (by rw [read]; rfl) ?_ ?_
              · rw [pending]
                exact ordered
              · rw [pending]
                exact bounded
  | @replayed other socket event remaining known replaying =>
      rw [replay_eq]
      refine follows.setSocket fun same => ?_
      subst same
      have tracks := follows _ known
      have pending : ∀ remaining : List (Message Tenant), (if remaining = [] then .live
          else .replaying remaining : SocketPhase Tenant).pending = remaining ∧
            (if remaining = [] then .live
              else .replaying remaining : SocketPhase Tenant).unread = false := by
        intro remaining
        cases remaining with
        | nil | cons event remaining => exact ⟨rfl, rfl⟩
      have sent := sentBy_snoc socket keep .replay event
      have past : ∀ {goal : Prop}, (if remaining = [] then .live
          else .replaying remaining : SocketPhase Tenant).unread = true → goal :=
        fun unread => absurd ((pending remaining).2.symm.trans unread) nofun
      cases replay : keep .replay with
      | false =>
          rw [replay] at sent
          simp only [Bool.false_eq_true, if_false, append_nil] at sent
          have none_ahead : ∀ own : Socket Tenant, own.ahead keep = [] := by
            intro own
            simp only [ahead, replay, Bool.false_eq_true, if_false]
          constructor
          case ordered =>
            have before := tracks.ordered
            rw [none_ahead] at before ⊢
            exact sent ▸ before
          case bounded =>
            have before := tracks.bounded
            rw [none_ahead] at before ⊢
            exact sent ▸ before
          case fresh =>
            have before := tracks.fresh
            exact fun live number awaits message member =>
              before live number awaits message (sent ▸ member)
          case early => exact fun _ => past
      | true =>
          rw [replay] at sent
          simp only [if_true] at sent
          have before : socket.ahead keep = event :: remaining := by
            simp only [ahead, replay, if_true, replaying, SocketPhase.pending]
          have whole : sentBy { socket with
              received := socket.received ++ [(.replay, event)] } keep ++ remaining =
                socket.sentBy keep ++ socket.ahead keep := by
            rw [sent, before, append_assoc, singleton_append]
          have ahead : ahead { socket with
              phase := if remaining = [] then .live else .replaying remaining
              received := socket.received ++ [(.replay, event)] } keep = remaining := by
            simp only [ahead, replay, if_true]
            exact (pending remaining).1
          constructor
          case ordered =>
            rw [ahead]
            exact whole ▸ tracks.ordered
          case bounded =>
            rw [ahead]
            exact whole ▸ tracks.bounded
          case fresh =>
            rintro live number ⟨flight, flying, _⟩
            have catching : socket.phase.catchingUp = true := by
              rw [replaying]
              rfl
            cases (quiet live replay socket known catching number).symm.trans flying
          case early => exact fun _ => past
  | interrupted known replaying =>
      refine follows.setSocket fun same => ?_
      subst same
      exact (follows _ known).setPhase rfl nofun
  | @closed other socket known =>
      have moved : (hub.setSocket other { socket with phase := .closed }).Follows keep client := by
        refine follows.setSocket fun same => ?_
        subst same
        exact (follows _ known).setPhase rfl nofun
      intro own there
      exact (moved own there).carry (Nat.le_refl _) fun _ => Or.inl
  | streamOpened | streamResolved | streamRegistered | streamYielded | streamEnded
  | streamClosed | cleared | storeCleared | idle =>
      intro own there
      exact (follows own there).carry (Nat.le_refl _) fun _ => Or.inl

end

end Hub

namespace RunChannel

variable [DecidableEq Client] [DecidableEq Listener] [DecidableEq Tenant]

private theorem follows_of_run {settings : StreamSettings} {records : List Tenant}
    {events : List (Nat × ChannelEvent Client Listener Tenant)}
    {finish : RunChannel Client Listener Tenant} (keep : DeliveryPath → Bool) (client : Client)
    (run : replay (next settings) (start records) events = some finish)
    (along : Along (next settings) (fun channel event =>
      channel.hub.Sequential event.2 ∧
        (keep .live = true → keep .replay = true → channel.hub.Quiet client))
      (start records) events) : finish.hub.Follows keep client := by
  have preserved : ∀ (channel : RunChannel Client Listener Tenant) event after,
      (channel.hub.Numbered ∧ channel.hub.Listed ∧ channel.hub.InSequence ∧
        channel.hub.Follows keep client) →
      (channel.hub.Sequential event.2 ∧
        (keep .live = true → keep .replay = true → channel.hub.Quiet client)) →
      channel.next settings event = some after →
      after.hub.Numbered ∧ after.hub.Listed ∧ after.hub.InSequence ∧
        after.hub.Follows keep client := by
    rintro channel event after ⟨numbered, listed, sequence, follows⟩ ⟨sequential, quiet⟩ taken
    have step := next_hub taken
    exact ⟨numbered.step step, listed.step step, sequence.step numbered listed sequential step,
      follows.step numbered sequence quiet step⟩
  have initial : ((start records : RunChannel Client Listener Tenant).hub).Numbered ∧
      ((start records : RunChannel Client Listener Tenant).hub).Listed ∧
      ((start records : RunChannel Client Listener Tenant).hub).InSequence ∧
      ((start records : RunChannel Client Listener Tenant).hub).Follows keep client :=
    ⟨⟨nofun, nofun, nofun⟩, ⟨nodup_nil, nofun, nodup_nil, nofun⟩,
      ⟨nofun, nil, nil, nofun, nofun, nofun, nofun⟩, nofun⟩
  exact (replay_invariant_along preserved initial along run).2.2.2

/-- One producer's events reach a client in order and once on each path, whatever
is evicted, cleared or lost by the store. Only a broadcast that is under way
while the client catches up can make the two paths cross. -/
theorem delivery_in_order (settings : StreamSettings) (records : List Tenant) (client : Client)
    (events : List (Nat × ChannelEvent Client Listener Tenant))
    (finish : RunChannel Client Listener Tenant) (socket : Socket Tenant)
    (run : replay (next settings) (start records) events = some finish)
    (sequential : Along (next settings)
      (fun channel event => channel.hub.Sequential event.2) (start records) events)
    (known : finish.hub.sockets client = some socket) :
    InOrder (socket.sentBy fun path => path = .live) ∧
      InOrder (socket.sentBy fun path => path = .replay) ∧
      (Along (next settings) (fun channel _ => channel.hub.Quiet client)
          (start records) events →
        InOrder (socket.received.map Prod.snd)) := by
  have separate : ∀ keep : DeliveryPath → Bool, (keep .live = true → keep .replay = true → False) →
      InOrder (socket.sentBy keep) := by
    intro keep apart
    have follows := follows_of_run keep client run <|
      sequential.mono fun _ _ allowed => ⟨allowed, fun live replay => (apart live replay).elim⟩
    exact sublist (sublist_append_left _ _) (follows socket known).ordered
  refine ⟨separate _ nofun, separate _ nofun, ?_⟩
  intro quiet
  have follows := follows_of_run (fun _ => true) client run <|
    (sequential.and quiet).mono fun _ _ allowed => ⟨allowed.1, fun _ _ => allowed.2⟩
  have ordered := sublist (sublist_append_left _ _) (follows socket known).ordered
  have all : socket.sentBy (fun _ => true) = socket.received.map Prod.snd := by
    simp [sentBy]
  rw [all] at ordered
  exact ordered

def between : List (Nat × ChannelEvent String String String) :=
  [(0, .submit "acme"), (0, .startRun 0), (0, .broadcast 0 .workflowStart false),
    (0, .stored 0 true), (0, .resumeBroadcast 0), (1, .openSocket "tab" "acme"),
    (1, .accepted "tab"), (1, .beginReplay "tab"), (1, .readStore "tab" true),
    (1, .resumeReplay "tab"), (1, .replayed "tab" true), (2, .broadcast 0 .stepStart false),
    (2, .stored 1 true), (2, .resumeBroadcast 1), (2, .sent 1 "tab" true)]

theorem delivery_in_order_between : ∃ (finish : RunChannel String String String)
    (socket : Socket String),
    replay (next {}) (start []) between = some finish ∧
      finish.hub.sockets "tab" = some socket ∧ socket.received.length = 2 ∧
      InOrder (socket.received.map Prod.snd) := by
  have whole : ∃ (finish : RunChannel String String String) (socket : Socket String),
      replay (next {}) (start []) between = some finish ∧
        finish.hub.sockets "tab" = some socket ∧ socket.received.length = 2 := by
    let first : Message String := { number := 0, tenant := "acme", type := .workflowStart }
    let second : Message String := { number := 1, tenant := "acme", type := .stepStart }
    refine ⟨_, {
      tenant := "acme"
      phase := .live
      received := [(.replay, first), (.live, second)] }, rfl, ?_⟩
    exact ⟨rfl, rfl⟩
  obtain ⟨finish, socket, run, known, count⟩ := whole
  refine ⟨finish, socket, run, known, count, ?_⟩
  refine (delivery_in_order {} [] "tab" between finish socket run ?_ known).2.2 ?_
  · iterate 2 refine intro trivial ?_
    refine intro (fun _ => rfl) ?_
    iterate 8 refine intro trivial ?_
    refine intro (fun number => ?_) ?_
    · match number with
      | 0 => rfl
      | number + 1 => rfl
    iterate 3 refine intro trivial ?_
    trivial
  · have absent : ∀ channel : RunChannel String String String,
        channel.hub.sockets "tab" = none → channel.hub.Quiet "tab" := by
      intro channel none_known socket there
      cases none_known.symm.trans there
    have past : ∀ (channel : RunChannel String String String) (own : Socket String),
        channel.hub.sockets "tab" = some own → own.phase.catchingUp = false →
          channel.hub.Quiet "tab" := by
      intro channel own there idle other known catching
      cases there.symm.trans known
      cases idle.symm.trans catching
    have landed : ∀ channel : RunChannel String String String, channel.hub.flights 0 = none →
        (∀ number, channel.hub.flights (number + 1) = none) → channel.hub.Quiet "tab" := by
      intro channel first later socket _ _ number
      cases number with
      | zero => exact first
      | succ number => exact later number
    iterate 6 refine intro (absent _ rfl) ?_
    refine intro (past _ _ rfl rfl) ?_
    iterate 4 refine intro (landed _ rfl fun _ => rfl) ?_
    iterate 4 refine intro (past _ _ rfl rfl) ?_
    trivial

/-- The client is sent the second event, then the first, then the second again. -/
theorem delivery_crosses : ∃ (finish : RunChannel String String String) (socket : Socket String),
    replay (next {}) (start []) crossing = some finish ∧
      Along (next {}) (fun channel event => channel.hub.Sequential event.2)
        (start []) crossing ∧
      finish.hub.sockets "tab" = some socket ∧
      socket.received.map (fun entry => entry.2.number) = [1, 0, 1] ∧
      ¬ InOrder (socket.received.map Prod.snd) := by
  let first : Message String := { number := 0, tenant := "acme", type := .workflowStart }
  let second : Message String := { number := 1, tenant := "acme", type := .stepStart }
  refine ⟨_, {
    tenant := "acme"
    phase := .live
    received := [(.live, second), (.replay, first), (.replay, second)] }, rfl, ?_, rfl, rfl, ?_⟩
  · iterate 2 refine intro trivial ?_
    refine intro (fun _ => rfl) ?_
    iterate 4 refine intro trivial ?_
    refine intro (fun number => ?_) ?_
    · match number with
      | 0 => rfl
      | number + 1 => rfl
    iterate 8 refine intro trivial ?_
    trivial
  · intro ordered
    exact absurd (rel_of_pairwise_cons ordered mem_cons_self) (by decide)

end RunChannel

end AgenticRuntime
