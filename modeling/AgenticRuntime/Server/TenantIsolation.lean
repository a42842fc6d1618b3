/-
Whose events the connections and the listeners of a run id get.

The binding of the run id is dropped on a timer, while sockets, listeners, tasks
and stored events may still be there, so isolation rests on who else is there
when a tenant comes in.
-/

import AgenticRuntime.Server.HubInvariant

namespace AgenticRuntime

open List Function Option Ownership Transition

variable {Client Listener Tenant : Type}

/-- The ownership check has let the socket in and its endpoint has not ended. -/
def SocketPhase.admitted : SocketPhase Tenant → Bool
  | .resolving | .closed => false
  | .accepting | .registered | .reading | .read _ | .replaying _ | .live => true

def StreamPhase.isAdmitted : StreamPhase → Bool
  | .resolving | .closed => false
  | .admitted | .registered => true

inductive Ownership.Names (ownership : Ownership Tenant) : Tenant → Prop where
  | bound {tenant : Tenant} (owner : ownership.runTenant = some tenant) : Names ownership tenant
  | submitted {run : Nat} {task : RunTask Tenant} (known : ownership.runs run = some task) :
      Names ownership task.tenant

def ChannelEvent.bringsIn : ChannelEvent Client Listener Tenant → Bool
  | .broadcast _ _ _ | .openSocket _ _ | .resolveSocket _ | .openStream _ _ | .resolveStream _ => true
  | _ => false

def ChannelEvent.namesRun : ChannelEvent Client Listener Tenant → Bool
  | .submit _ | .startRun _ | .finishRun _ | .persist _ => true
  | _ => false

namespace Hub

/-- The tenant has a receiver here, or an event that may still be sent. -/
inductive Holds (hub : Hub Client Listener Tenant) : Tenant → Prop where
  | socket {client : Client} {socket : Socket Tenant} (known : hub.sockets client = some socket)
      (admitted : socket.phase.admitted = true) : Holds hub socket.tenant
  | stream {listener : Listener} {stream : SseStream Tenant}
      (known : hub.streams listener = some stream) (admitted : stream.phase.isAdmitted = true) :
      Holds hub stream.tenant
  | flight {number : Nat} {flight : Flight Client Tenant}
      (known : hub.flights number = some flight) : Holds hub flight.message.tenant
  | buffered {message : Message Tenant} (member : message ∈ hub.eventBuffer) :
      Holds hub message.tenant
  | stored {message : Message Tenant} (member : message ∈ hub.stored) : Holds hub message.tenant

def Sole (hub : Hub Client Listener Tenant) : Prop :=
  ∀ first second, hub.Holds first → hub.Holds second → first = second

/-- What receivers have been sent or are about to be sent is their own. -/
structure Private (hub : Hub Client Listener Tenant) : Prop where
  received : ∀ client socket, hub.sockets client = some socket →
    ∀ entry, entry ∈ socket.received → entry.2.tenant = socket.tenant
  pending : ∀ client socket, hub.sockets client = some socket →
    ∀ message, message ∈ socket.phase.pending → message.tenant = socket.tenant
  snapshot : ∀ number message remaining dead, hub.flights number =
    some { message := message, phase := .sending remaining dead } →
    ∀ client, client ∈ remaining → ∃ socket, hub.sockets client = some socket ∧
      message.tenant = socket.tenant
  queued : ∀ listener stream, hub.streams listener = some stream →
    ∀ message, message ∈ stream.queue ++ stream.sent → message.tenant = stream.tenant

section

variable [DecidableEq Client] [DecidableEq Listener] {settings : StreamSettings}
  {hub after : Hub Client Listener Tenant} {event : ChannelEvent Client Listener Tenant}

omit [DecidableEq Listener] in
private theorem Private.setSocket (own : hub.Private) {client : Client}
    {socket later : Socket Tenant} (known : hub.sockets client = some socket)
    (same : later.tenant = socket.tenant)
    (received : ∀ entry, entry ∈ later.received → entry ∈ socket.received ∨
      entry.2.tenant = socket.tenant)
    (pending : ∀ message, message ∈ later.phase.pending → message.tenant = socket.tenant) :
    (hub.setSocket client later).Private := by
  constructor
  case received =>
    intro other there known' entry member
    by_cases at_client : other = client
    · subst at_client
      cases (update_self _ _ _).symm.trans known'
      rw [same]
      rcases received entry member with old | new
      · exact own.received other socket known entry old
      · exact new
    · exact own.received other there ((update_of_ne at_client _ _).symm.trans known') entry
        member
  case pending =>
    intro other there known' message member
    by_cases at_client : other = client
    · subst at_client
      cases (update_self _ _ _).symm.trans known'
      rw [same]
      exact pending message member
    · exact own.pending other there ((update_of_ne at_client _ _).symm.trans known')
        message member
  case snapshot =>
    intro number message remaining dead flight other member
    obtain ⟨there, known', tenant⟩ := own.snapshot number message remaining dead flight other member
    by_cases at_client : other = client
    · subst at_client
      cases known.symm.trans known'
      exact ⟨later, update_self _ _ _, tenant.trans same.symm⟩
    · exact ⟨there, (update_of_ne at_client _ _).trans known', tenant⟩
  case queued => exact own.queued

variable {later : SseStream Tenant} {tenant : Tenant}

omit [DecidableEq Client] in
private theorem Private.setStream (own : hub.Private) {listener : Listener}
    (queued : ∀ message, message ∈ later.queue ++ later.sent → message.tenant = later.tenant) :
    (hub.setStream listener later).Private := by
  constructor
  case received => exact own.received
  case pending => exact own.pending
  case snapshot => exact own.snapshot
  case queued =>
    intro other there known message member
    by_cases same : other = listener
    · subst same
      cases (update_self _ _ _).symm.trans known
      exact queued message member
    · exact own.queued other there ((update_of_ne same _ _).symm.trans known) message member

private theorem Private.deliver (own : hub.Private) (listed : hub.Listed) {message : Message Tenant}
    {remaining dead : List Client}
    (targets : ∀ client, client ∈ remaining → ∃ socket, hub.sockets client = some socket ∧
      message.tenant = socket.tenant)
    (streams : ∀ listener stream, hub.streams listener = some stream →
      stream.phase = .registered → message.tenant = stream.tenant) :
    (hub.deliver message remaining dead).Private := by
  constructor
  case received =>
    intro client socket known
    rw [deliver_sockets] at known
    exact own.received client socket known
  case pending =>
    intro client socket known
    rw [deliver_sockets] at known
    exact own.pending client socket known
  case snapshot =>
    intro number other rest gone there
    rw [deliver_flights] at there
    rw [deliver_sockets]
    by_cases same : number = message.number
    · subst same
      rw [update_self] at there
      split at there
      · cases there
      · cases there
        exact targets
    · rw [update_of_ne same] at there
      exact own.snapshot number other rest gone there
  case queued =>
    intro listener stream known other member
    rw [deliver_streams hub message remaining dead listed.listeners] at known
    split at known
    · rename_i pushed
      obtain ⟨before, there, equal⟩ := map_eq_some_iff.mp known
      subst equal
      obtain ⟨own_stream, known', registered⟩ := listed.registered listener pushed.2
      cases there.symm.trans known'
      simp only [append_assoc, mem_append, mem_singleton] at member
      rcases member with queue | new | sent
      · exact own.queued listener before there other (mem_append_left _ queue)
      · rw [new]
        exact streams listener before there registered
      · exact own.queued listener before there other (mem_append_right _ sent)
    · exact own.queued listener stream known other member

theorem Private.step (own : hub.Private) (listed : hub.Listed) (sole : hub.Sole)
    (step : HubStep settings hub event after) : after.Private := by
  have to_stream : ∀ {number : Nat} {flight : Flight Client Tenant},
      hub.flights number = some flight → ∀ listener stream, hub.streams listener = some stream →
        stream.phase = .registered → flight.message.tenant = stream.tenant := by
    intro number flight flying listener stream known registered
    exact sole _ _ (.flight flying) (.stream known (by rw [registered]; rfl))
  cases step with
  | @called run message last =>
      constructor
      case received => exact own.received
      case pending => exact own.pending
      case snapshot =>
        intro number other remaining dead there
        rw [broadcast_flights] at there
        split at there
        · cases there
        · exact own.snapshot number other remaining dead there
      case queued => exact own.queued
  | appended flight =>
      constructor
      case received => exact own.received
      case pending => exact own.pending
      case snapshot =>
        intro number other remaining dead there
        rw [append_flights] at there
        split at there
        · cases there
        · exact own.snapshot number other remaining dead there
      case queued => exact own.queued
  | @resumed number message flight =>
      refine own.deliver listed ?_ (to_stream flight)
      intro client member
      obtain ⟨socket, known, connected⟩ := listed.connected client member
      refine ⟨socket, known, sole _ _ (.flight flight) (.socket known ?_)⟩
      cases phase : socket.phase with
      | resolving | accepting | closed =>
          rw [phase] at connected
          cases connected
      | registered | reading | read | replaying | live => rfl
  | @sent number message client remaining dead flight =>
      obtain ⟨socket, known, tenant⟩ :=
        own.snapshot number message _ dead flight client mem_cons_self
      have received : hub.receive client .live message = hub.setSocket client
          { socket with received := socket.received ++ [(.live, message)] } := by
        rw [receive, known]
      rw [received]
      have moved : (hub.setSocket client { socket with
          received := socket.received ++ [(.live, message)] }).Private := by
        refine own.setSocket known rfl ?_ (own.pending client socket known)
        intro entry member
        rcases mem_append.mp member with old | new
        · exact .inl old
        · rw [mem_singleton.mp new]
          exact .inr tenant
      have still := listed.receive client .live message
      rw [received] at still
      refine moved.deliver still ?_ (to_stream flight)
      intro other member
      exact moved.snapshot number message _ dead flight other (mem_cons_of_mem _ member)
  | @failed number message client remaining dead flight =>
      refine own.deliver listed ?_ (to_stream flight)
      intro other member
      exact own.snapshot number message _ dead flight other (mem_cons_of_mem _ member)
  | @opened client tenant phase fresh opening =>
      have empty : phase.pending = [] := by
        rcases opening with early | early | early
        · exact early ▸ rfl
        · exact early ▸ rfl
        · exact early ▸ rfl
      constructor
      case received =>
        intro other there known entry member
        by_cases same : other = client
        · subst same
          cases (update_self _ _ _).symm.trans known
          cases member
        · exact own.received other there ((update_of_ne same _ _).symm.trans known) entry
            member
      case pending =>
        intro other there known message member
        by_cases same : other = client
        · subst same
          cases (update_self _ _ _).symm.trans known
          rw [empty] at member
          cases member
        · exact own.pending other there ((update_of_ne same _ _).symm.trans known) message
            member
      case snapshot =>
        intro number message remaining dead there other member
        obtain ⟨socket, known, tenant⟩ :=
          own.snapshot number message remaining dead there other member
        have different : other ≠ client := by
          intro same
          rw [same, fresh] at known
          cases known
        exact ⟨socket, (update_of_ne different _ _).trans known, tenant⟩
      case queued => exact own.queued
  | resolved known resolving decided =>
      refine own.setSocket known rfl (fun _ => Or.inl) ?_
      rcases decided with early | early
      · subst early
        exact nofun
      · subst early
        exact nofun
  | @accepted client socket known accepting =>
      have moved : (hub.setSocket client { socket with phase := .registered }).Private :=
        own.setSocket known rfl (fun _ => Or.inl) nofun
      exact ⟨moved.received, moved.pending, moved.snapshot, moved.queued⟩
  | began known registered | interrupted known replaying =>
      exact own.setSocket known rfl (fun _ => Or.inl) nofun
  | @readStore client socket success known reading =>
      refine own.setSocket known rfl (fun _ => Or.inl) ?_
      intro message member
      cases success with
      | false => cases member
      | true => exact sole _ _ (.stored member) (.socket known (by rw [reading]; rfl))
  | @resumedReplay client socket events known read =>
      rw [replay_eq]
      refine own.setSocket known rfl (fun _ => Or.inl) ?_
      have source : ∀ message, message ∈ (if events.isEmpty then hub.eventBuffer else events) →
          message.tenant = socket.tenant := by
        intro message member
        split at member
        · exact sole _ _ (.buffered member) (.socket known (by rw [read]; rfl))
        · exact own.pending client socket known message (by rw [read]; exact member)
      intro message member
      generalize (if events.isEmpty then hub.eventBuffer else events) = pending at source member
      cases pending with
      | nil => cases member
      | cons first rest => exact source message member
  | @replayed client socket event remaining known replaying =>
      rw [replay_eq]
      have ours : ∀ message, message ∈ event :: remaining → message.tenant = socket.tenant := by
        intro message member
        exact own.pending client socket known message (by rw [replaying]; exact member)
      refine own.setSocket known rfl ?_ ?_
      · intro entry member
        rcases mem_append.mp member with old | new
        · exact .inl old
        · rw [mem_singleton.mp new]
          exact .inr (ours event mem_cons_self)
      · intro message member
        cases remaining with
        | nil => cases member
        | cons first rest => exact ours message (mem_cons_of_mem _ member)
  | @closed client socket known =>
      have moved : (hub.setSocket client { socket with phase := .closed }).Private :=
        own.setSocket known rfl (fun _ => Or.inl) nofun
      exact ⟨moved.received, moved.pending, moved.snapshot, moved.queued⟩
  | streamOpened fresh opening => exact own.setStream nofun
  | @streamResolved listener stream phase known resolving decided =>
      exact own.setStream (own.queued listener stream known)
  | @streamRegistered listener stream known admitted =>
      have moved : (hub.setStream listener { stream with phase := .registered }).Private :=
        own.setStream (own.queued listener stream known)
      exact ⟨moved.received, moved.pending, moved.snapshot, moved.queued⟩
  | @streamYielded listener stream event queue known registered waiting open_ended =>
      refine own.setStream ?_
      intro message member
      have ours := own.queued listener stream known message
      rw [waiting] at ours
      apply ours
      simp only [mem_append, List.mem_cons, not_mem_nil, or_false] at member ⊢
      tauto
  | @streamEnded listener stream event queue known registered waiting last =>
      have moved : (hub.setStream listener { stream with
          phase := .closed, queue := queue, sent := stream.sent ++ [event] }).Private := by
        refine own.setStream ?_
        intro message member
        have ours := own.queued listener stream known message
        rw [waiting] at ours
        apply ours
        simp only [mem_append, List.mem_cons, not_mem_nil, or_false] at member ⊢
        tauto
      exact ⟨moved.received, moved.pending, moved.snapshot, moved.queued⟩
  | @streamClosed listener stream known =>
      have moved : (hub.setStream listener { stream with phase := .closed }).Private :=
        own.setStream (own.queued listener stream known)
      exact ⟨moved.received, moved.pending, moved.snapshot, moved.queued⟩
  | cleared | storeCleared | idle => exact ⟨own.received, own.pending, own.snapshot, own.queued⟩

section

omit [DecidableEq Client] [DecidableEq Listener]

theorem Holds.of_less (holds : after.Holds tenant)
    (sockets : ∀ client socket, after.sockets client = some socket →
      socket.phase.admitted = true → hub.Holds socket.tenant)
    (streams : ∀ listener stream, after.streams listener = some stream →
      stream.phase.isAdmitted = true → hub.Holds stream.tenant)
    (flights : ∀ number flight, after.flights number = some flight →
      hub.Holds flight.message.tenant)
    (buffered : ∀ message, message ∈ after.eventBuffer → hub.Holds message.tenant)
    (stored : ∀ message, message ∈ after.stored → hub.Holds message.tenant) : hub.Holds tenant := by
  cases holds with
  | socket known admitted => exact sockets _ _ known admitted
  | stream known admitted => exact streams _ _ known admitted
  | flight known => exact flights _ _ known
  | buffered member => exact buffered _ member
  | stored member => exact stored _ member

theorem Holds.of_fields (holds : after.Holds tenant) (sockets : after.sockets = hub.sockets)
    (streams : after.streams = hub.streams) (flights : after.flights = hub.flights)
    (buffered : after.eventBuffer = hub.eventBuffer) (stored : after.stored = hub.stored) :
    hub.Holds tenant := by
  cases holds with
  | socket known admitted => exact .socket (sockets ▸ known) admitted
  | stream known admitted => exact .stream (streams ▸ known) admitted
  | flight known => exact .flight (flights ▸ known)
  | buffered member => exact .buffered (buffered ▸ member)
  | stored member => exact .stored (stored ▸ member)

end

omit [DecidableEq Listener] in
theorem holds_setSocket {client : Client} {later : Socket Tenant}
    (holds : (hub.setSocket client later).Holds tenant) :
    hub.Holds tenant ∨ later.phase.admitted = true ∧ tenant = later.tenant := by
  cases holds with
  | @socket other socket known admitted =>
      by_cases same : other = client
      · subst same
        cases (update_self _ _ _).symm.trans known
        exact .inr ⟨admitted, rfl⟩
      · exact .inl (.socket ((update_of_ne same _ _).symm.trans known) admitted)
  | stream known admitted => exact .inl (.stream known admitted)
  | flight known => exact .inl (.flight known)
  | buffered member => exact .inl (.buffered member)
  | stored member => exact .inl (.stored member)

omit [DecidableEq Client] in
theorem holds_setStream {listener : Listener}
    (holds : (hub.setStream listener later).Holds tenant) :
    hub.Holds tenant ∨ later.phase.isAdmitted = true ∧ tenant = later.tenant := by
  cases holds with
  | socket known admitted => exact .inl (.socket known admitted)
  | @stream other stream known admitted =>
      by_cases same : other = listener
      · subst same
        cases (update_self _ _ _).symm.trans known
        exact .inr ⟨admitted, rfl⟩
      · exact .inl (.stream ((update_of_ne same _ _).symm.trans known) admitted)
  | flight known => exact .inl (.flight known)
  | buffered member => exact .inl (.buffered member)
  | stored member => exact .inl (.stored member)

omit [DecidableEq Listener] in
private theorem holds_moved {client : Client} {socket later : Socket Tenant}
    (holds : (hub.setSocket client later).Holds tenant) (known : hub.sockets client = some socket)
    (same : later.tenant = socket.tenant)
    (admitted : later.phase.admitted = true → socket.phase.admitted = true) : hub.Holds tenant := by
  rcases holds_setSocket holds with old | ⟨moved, own⟩
  · exact old
  · rw [own, same]
    exact .socket known (admitted moved)

omit [DecidableEq Client] in
private theorem holds_streamed {listener : Listener} {stream : SseStream Tenant}
    (holds : (hub.setStream listener later).Holds tenant)
    (known : hub.streams listener = some stream) (same : later.tenant = stream.tenant)
    (admitted : later.phase.isAdmitted = true → stream.phase.isAdmitted = true) :
    hub.Holds tenant := by
  rcases holds_setStream holds with old | ⟨moved, own⟩
  · exact old
  · rw [own, same]
    exact .stream known (admitted moved)

private theorem holds_deliver {message : Message Tenant} {remaining dead : List Client}
    (listed : hub.Listed) (flying : hub.Holds message.tenant)
    (holds : (hub.deliver message remaining dead).Holds tenant) : hub.Holds tenant := by
  refine holds.of_less ?_ ?_ ?_ ?_ ?_
  · intro client socket known
    rw [deliver_sockets] at known
    exact .socket known
  · intro listener stream known admitted
    rw [deliver_streams hub message remaining dead listed.listeners] at known
    split at known
    · obtain ⟨before, there, equal⟩ := map_eq_some_iff.mp known
      subst equal
      have ours := Holds.stream there admitted
      exact ours
    · exact .stream known admitted
  · intro number flight known
    rw [deliver_flights, update_apply] at known
    split at known
    · split at known
      · cases known
      · cases known
        exact flying
    · exact .flight known
  · intro other member
    rw [deliver_eventBuffer] at member
    exact .buffered member
  · intro other member
    rw [deliver_stored] at member
    exact .stored member

theorem holds_step (listed : hub.Listed) (step : HubStep settings hub event after)
    (holds : after.Holds tenant) :
    hub.Holds tenant ∨ event.bringsIn = true := by
  cases step with
  | called | opened | resolved | streamOpened | streamResolved => exact .inr rfl
  | appended flight =>
      refine .inl (holds.of_less (fun _ _ known => .socket known) (fun _ _ known => .stream known)
        ?_ (fun _ member => .buffered member) ?_)
      · intro number other known
        rw [append_flights] at known
        split at known
        · cases known
          have ours := Holds.flight flight
          exact ours
        · exact .flight known
      · intro message member
        rw [append_stored] at member
        split at member
        · rcases mem_of_mem_pushBounded member with old | new
          · exact .stored old
          · rw [new]
            have ours := Holds.flight flight
            exact ours
        · exact .stored member
  | resumed flight | failed flight => exact .inl (holds_deliver listed (.flight flight) holds)
  | @sent number message client remaining dead flight =>
      have flying : (hub.receive client .live message).flights number =
          some { message := message, phase := .sending (client :: remaining) dead } := by
        rw [receive_eq]
        exact flight
      have received := holds_deliver (listed.receive client .live message) (.flight flying) holds
      left
      refine received.of_less ?_ ?_ ?_ ?_ ?_
      · intro other socket known admitted
        by_cases same : other = client
        · subst same
          rw [receive_sockets_self] at known
          obtain ⟨before, there, equal⟩ := map_eq_some_iff.mp known
          subst equal
          have ours := Holds.socket there admitted
          exact ours
        · rw [receive_sockets_of_ne hub message same] at known
          exact .socket known admitted
      · rw [receive_eq]
        exact fun _ _ known => .stream known
      · rw [receive_eq]
        exact fun _ _ known => .flight known
      · rw [receive_eq]
        exact fun _ member => .buffered member
      · rw [receive_eq]
        exact fun _ member => .stored member
  | accepted known accepting =>
      exact .inl (holds_moved (holds.of_fields rfl rfl rfl rfl rfl) known rfl
        fun _ => by rw [accepting]; rfl)
  | began known registered =>
      exact .inl (holds_moved holds known rfl fun _ => by rw [registered]; rfl)
  | readStore known reading =>
      exact .inl (holds_moved holds known rfl fun _ => by rw [reading]; rfl)
  | resumedReplay known read =>
      rw [replay_eq] at holds
      exact .inl (holds_moved holds known rfl fun _ => by rw [read]; rfl)
  | replayed known replaying =>
      rw [replay_eq] at holds
      exact .inl (holds_moved holds known rfl fun _ => by rw [replaying]; rfl)
  | interrupted known replaying =>
      exact .inl (holds_moved holds known rfl fun _ => by rw [replaying]; rfl)
  | closed known =>
      exact .inl (holds_moved (holds.of_fields rfl rfl rfl rfl rfl) known rfl nofun)
  | streamRegistered known admitted =>
      exact .inl (holds_streamed (holds.of_fields rfl rfl rfl rfl rfl) known rfl
        fun _ => by rw [admitted]; rfl)
  | streamYielded known registered waiting open_ended =>
      exact .inl (holds_streamed holds known rfl fun admitted => admitted)
  | streamEnded known | streamClosed known =>
      exact .inl (holds_streamed (holds.of_fields rfl rfl rfl rfl rfl) known rfl nofun)
  | cleared =>
      exact .inl (holds.of_less (fun _ _ known => .socket known) (fun _ _ known => .stream known)
        (fun _ _ known => .flight known) nofun fun _ member => .stored member)
  | storeCleared =>
      exact .inl (holds.of_less (fun _ _ known => .socket known) (fun _ _ known => .stream known)
        (fun _ _ known => .flight known) (fun _ member => .buffered member) nofun)
  | idle => exact .inl holds

end

end Hub

namespace RunChannel

variable (channel : RunChannel Client Listener Tenant)

def Present (tenant : Tenant) : Prop :=
  channel.ownership.Names tenant ∨ channel.hub.Holds tenant

def Sole : Prop :=
  ∀ first second, channel.Present first → channel.Present second → first = second

/-- When a tenant takes an unbound run id, or is let in by its record, nobody
else is there. -/
def Exclusive :
    ChannelEvent Client Listener Tenant → Prop
  | .submit tenant => channel.ownership.runTenant = none →
      ∀ other, channel.Present other → other = tenant
  | .resolveSocket client => ∀ socket, channel.hub.sockets client = some socket →
      socket.tenant ∈ channel.ownership.records →
      ∀ other, channel.Present other → other = socket.tenant
  | .resolveStream listener => ∀ stream, channel.hub.streams listener = some stream →
      stream.tenant ∈ channel.ownership.records →
      ∀ other, channel.Present other → other = stream.tenant
  | _ => True

/-- No connection and no listener has been sent an event of another tenant's run. -/
def Isolated : Prop :=
  (∀ client socket, channel.hub.sockets client = some socket →
    ∀ entry, entry ∈ socket.received → entry.2.tenant = socket.tenant) ∧
  ∀ listener stream, channel.hub.streams listener = some stream →
    ∀ message, message ∈ stream.queue ++ stream.sent → message.tenant = stream.tenant

section

variable [DecidableEq Client] [DecidableEq Listener] [DecidableEq Tenant]
  {settings : StreamSettings} {channel after : RunChannel Client Listener Tenant}

omit [DecidableEq Client] [DecidableEq Listener] [DecidableEq Tenant] in
private theorem Sole.of_less (sole : channel.Sole)
    (less : ∀ tenant, after.Present tenant → channel.Present tenant) : after.Sole :=
  fun first second left right => sole first second (less first left) (less second right)

variable {tenant : Tenant}

omit [DecidableEq Client] [DecidableEq Listener] [DecidableEq Tenant] in
private theorem sole_of_alone (alone : ∀ other, channel.Present other → other = tenant)
    (joined : ∀ other, after.Present other → channel.Present other ∨ other = tenant) :
    after.Sole := by
  have all : ∀ other, after.Present other → other = tenant := by
    intro other present
    rcases joined other present with old | new
    · exact alone other old
    · exact new
  intro first second left right
  rw [all first left, all second right]

section

omit [DecidableEq Client] [DecidableEq Listener]

private theorem submit_sole (sole : channel.Sole) (exclusive : channel.Exclusive (.submit tenant)) :
    ({ channel with ownership := channel.ownership.submit tenant } :
      RunChannel Client Listener Tenant).Sole := by
  have names : ∀ other, (channel.ownership.submit tenant).Names other →
      channel.ownership.Names other ∨
        (other = tenant ∧ channel.ownership.runTenant.getD tenant = tenant) ∨
          channel.ownership.runTenant = some other := by
    intro other named
    by_cases accepted : channel.ownership.runTenant.getD tenant = tenant
    · simp only [submit, bindRunTenant, accepted, decide_true, if_true] at named
      cases named with
      | bound owner =>
          cases owner
          exact .inr (.inl ⟨rfl, accepted⟩)
      | submitted known =>
          simp only [update_apply] at known
          split at known
          · cases known
            exact .inr (.inl ⟨rfl, accepted⟩)
          · exact .inl (.submitted known)
    · simp only [submit, bindRunTenant, accepted, decide_false, Bool.false_eq_true,
        if_false] at named
      cases named with
      | bound owner =>
          cases owner
          cases bound : channel.ownership.runTenant with
          | none => exact absurd (by rw [bound]; rfl) accepted
          | some owner => exact .inr (.inr rfl)
      | submitted known => exact .inl (.submitted known)
  cases bound : channel.ownership.runTenant with
  | none =>
      refine sole_of_alone (exclusive bound) ?_
      rintro other (named | holds)
      · rcases names other named with old | ⟨same, _⟩ | owner
        · exact .inl (.inl old)
        · exact .inr same
        · cases bound.symm.trans owner
      · exact .inl (.inr holds)
  | some owner =>
      refine sole.of_less ?_
      rintro other (named | holds)
      · left
        rcases names other named with old | ⟨same, accepted⟩ | owned
        · exact old
        · rw [bound, getD_some] at accepted
          exact .bound (by rw [bound, same, accepted])
        · exact .bound owned
      · exact .inr holds

private theorem startRun_names {run : Nat} {own : Ownership Tenant}
    (started : channel.ownership.startRun run = some own) (named : own.Names tenant) :
    channel.ownership.Names tenant := by
  simp only [startRun] at started
  split at started
  · rename_i task known
    cases started
    cases named with
    | bound owner =>
        simp only [bindRunTenant, some.injEq] at owner
        cases bound : channel.ownership.runTenant with
        | none =>
            rw [bound, getD_none] at owner
            subst owner
            exact .submitted known
        | some other =>
            rw [bound, getD_some] at owner
            subst owner
            exact .bound bound
    | submitted there =>
        simp only [update_apply] at there
        split at there
        · cases there
          have ours := Ownership.Names.submitted known
          exact ours
        · exact .submitted there
  · cases started

end

section

omit [DecidableEq Client] [DecidableEq Listener] [DecidableEq Tenant]

private theorem finishRun_names {run : Nat} {own : Ownership Tenant}
    (finished : channel.ownership.finishRun run = some own) (named : own.Names tenant) :
    channel.ownership.Names tenant := by
  unfold finishRun at finished
  split at finished
  · cases finished
    cases named with
    | bound owner => exact .bound owner
    | submitted there =>
        simp only [update_apply] at there
        split at there
        · cases there
        · exact .submitted there
  · cases finished

private theorem broadcast_sole {message : Message Tenant} (sole : channel.Sole)
    (submitted : channel.ownership.Names message.tenant) :
    ({ channel with hub := channel.hub.broadcast settings message } :
      RunChannel Client Listener Tenant).Sole := by
  refine sole.of_less ?_
  rintro other (named | holds)
  · exact .inl named
  · cases holds with
    | socket known admitted => exact .inr (.socket known admitted)
    | stream known admitted => exact .inr (.stream known admitted)
    | flight known =>
        simp only [Hub.broadcast, update_apply] at known
        split at known
        · cases known
          exact .inl submitted
        · exact .inr (.flight known)
    | buffered member =>
        rcases mem_of_mem_pushBounded member with old | new
        · exact .inr (.buffered old)
        · rw [new]
          exact .inl submitted
    | stored member => exact .inr (.stored member)

end

omit [DecidableEq Tenant] in
private theorem hub_sole {event : ChannelEvent Client Listener Tenant} (sole : channel.Sole)
    (listed : channel.hub.Listed) (step : HubStep settings channel.hub event after.hub)
    (outside : event.bringsIn = false)
    (names : ∀ tenant, after.ownership.Names tenant → channel.ownership.Names tenant) :
    after.Sole := by
  refine sole.of_less ?_
  rintro tenant (named | holds)
  · exact .inl (names tenant named)
  · rcases Hub.holds_step listed step holds with old | brought
    · exact .inr old
    · exact absurd (outside.symm.trans brought) nofun

section

omit [DecidableEq Client] [DecidableEq Listener]

private theorem owner_of_allowed (allowed : channel.ownerAllows tenant = some true) :
    channel.ownership.runTenant = some tenant := by
  obtain ⟨owner, bound, same⟩ := map_eq_some_iff.mp allowed
  rw [bound, of_decide_eq_true same]

private theorem openingSocket_admitted (admitted : (channel.openingSocket tenant).admitted = true) :
    channel.ownerAllows tenant = some true := by
  unfold openingSocket at admitted
  split at admitted
  · cases admitted
  · rename_i allowed
    exact allowed
  · cases admitted

private theorem openingStream_admitted
    (admitted : (channel.openingStream tenant).isAdmitted = true) :
    channel.ownerAllows tenant = some true := by
  unfold openingStream at admitted
  split at admitted
  · cases admitted
  · rename_i allowed
    exact allowed
  · cases admitted

end

private theorem take_names {event : ChannelEvent Client Listener Tenant}
    (took : channel.take settings event = some after) (foreign : event.namesRun = false) :
    ∀ tenant, after.ownership.Names tenant → channel.ownership.Names tenant := by
  have on_hub : ∀ {hub : Option (Hub Client Listener Tenant)}, channel.onHub hub = some after →
      ∀ tenant, after.ownership.Names tenant → channel.ownership.Names tenant := by
    intro hub onHub
    obtain ⟨own, _, same⟩ := onHub_some onHub
    subst same
    exact fun _ named => named
  cases event with
  | submit | startRun | finishRun | persist => cases foreign
  | broadcast | stored | openSocket | openStream =>
      simp only [take] at took
      split at took
      · exact on_hub took
      · cases took
  | resumeBroadcast =>
      simp only [take] at took
      split at took
      · cases took
        exact fun _ named => named
      · cases took
  | sent =>
      simp only [take] at took
      split at took
      · split at took
        · split at took
          · cases took
            exact fun _ named => named
          · cases took
            exact fun _ named => named
        · cases took
      · cases took
  | resolveSocket | accepted | beginReplay | readStore | resumeReplay | replayed | closeSocket
  | resolveStream | registerStream | takeEvent | closeStream => exact on_hub took
  | startTimer | cancelTimer | timerDone =>
      obtain ⟨own, _, same⟩ := onRetention_some took
      subst same
      exact fun _ named => named
  | fireTimer =>
      obtain ⟨fired, onRetention, same⟩ := map_eq_some_iff.mp took
      obtain ⟨own, _, equal⟩ := onRetention_some onRetention
      subst same
      subst equal
      intro tenant named
      cases named with
      | bound owner => cases owner
      | submitted known => exact .submitted known
  | storeCleared =>
      simp only [take] at took
      split at took
      · cases took
      · cases took
        exact fun _ named => named

private theorem next_names {event : Nat × ChannelEvent Client Listener Tenant}
    (taken : channel.next settings event = some after) (foreign : event.2.namesRun = false) :
    ∀ tenant, after.ownership.Names tenant → channel.ownership.Names tenant := by
  have names := take_names (next_take taken).2 foreign
  exact names

theorem next_sole {event : Nat × ChannelEvent Client Listener Tenant} (sole : channel.Sole)
    (listed : channel.hub.Listed) (exclusive : channel.Exclusive event.2)
    (taken : channel.next settings event = some after) : after.Sole := by
  have step := next_hub taken
  obtain ⟨_, took⟩ := next_take taken
  obtain ⟨now, event⟩ := event
  cases event with
  | submit tenant =>
      cases took
      exact submit_sole sole exclusive
  | startRun run =>
      obtain ⟨own, started, same⟩ := onOwnership_some took
      subst same
      exact hub_sole sole listed step rfl fun tenant => startRun_names started
  | finishRun run =>
      obtain ⟨own, finished, same⟩ := onOwnership_some took
      subst same
      exact hub_sole sole listed step rfl fun tenant => finishRun_names finished
  | persist tenant =>
      cases took
      refine hub_sole sole listed step rfl ?_
      intro other named
      cases named with
      | bound owner => exact .bound owner
      | submitted known => exact .submitted known
  | broadcast run type evaluationEnabled =>
      simp only [take] at took
      split at took
      · rename_i tenant known
        cases took
        exact broadcast_sole sole (.submitted known)
      · cases took
  | openSocket client tenant =>
      simp only [take] at took
      split at took
      · cases took
        refine sole.of_less ?_
        rintro other (named | holds)
        · exact .inl named
        · rcases Hub.holds_setSocket holds with old | ⟨admitted, same⟩
          · exact .inr old
          · left
            rw [same]
            exact .bound (owner_of_allowed (openingSocket_admitted admitted))
      · cases took
  | openStream listener tenant =>
      simp only [take] at took
      split at took
      · cases took
        refine sole.of_less ?_
        rintro other (named | holds)
        · exact .inl named
        · rcases Hub.holds_setStream holds with old | ⟨admitted, same⟩
          · exact .inr old
          · left
            rw [same]
            exact .bound (owner_of_allowed (openingStream_admitted admitted))
      · cases took
  | resolveSocket client =>
      obtain ⟨own, known, same⟩ := onHub_some took
      obtain ⟨socket, present, stepped⟩ := bind_eq_some_iff.mp known
      subst same
      split at stepped
      · cases stepped
        by_cases record : socket.tenant ∈ channel.ownership.records
        · refine sole_of_alone (exclusive socket present record) ?_
          rintro other (named | holds)
          · exact .inl (.inl named)
          · exact (Hub.holds_setSocket holds).imp .inr And.right
        · refine sole.of_less ?_
          rintro other (named | holds)
          · exact .inl named
          · rcases Hub.holds_setSocket holds with old | ⟨admitted, _⟩
            · exact .inr old
            · simp [hasRecord, record, SocketPhase.admitted] at admitted
      · cases stepped
  | resolveStream listener =>
      obtain ⟨own, known, same⟩ := onHub_some took
      obtain ⟨stream, present, stepped⟩ := bind_eq_some_iff.mp known
      subst same
      split at stepped
      · cases stepped
        by_cases record : stream.tenant ∈ channel.ownership.records
        · refine sole_of_alone (exclusive stream present record) ?_
          rintro other (named | holds)
          · exact .inl (.inl named)
          · exact (Hub.holds_setStream holds).imp .inr And.right
        · refine sole.of_less ?_
          rintro other (named | holds)
          · exact .inl named
          · rcases Hub.holds_setStream holds with old | ⟨admitted, _⟩
            · exact .inr old
            · simp [hasRecord, record, StreamPhase.isAdmitted] at admitted
      · cases stepped
  | stored | resumeBroadcast | sent | accepted | beginReplay | readStore | resumeReplay | replayed
  | closeSocket | registerStream | takeEvent | closeStream | startTimer | fireTimer | cancelTimer
  | timerDone | storeCleared =>
      exact hub_sole sole listed step rfl (next_names taken rfl)

omit [DecidableEq Client] [DecidableEq Listener] [DecidableEq Tenant] in
private theorem absent_start (records : List Tenant) (tenant : Tenant) :
    ¬ (start records : RunChannel Client Listener Tenant).Present tenant := by
  rintro (named | holds)
  · cases named with
    | bound owner => cases owner
    | submitted known => cases known
  · cases holds with
    | socket known => cases known
    | stream known => cases known
    | flight known => cases known
    | buffered member | stored member => cases member

/-- As long as a tenant takes the run id, or is let in by its record, only when
nobody else is there, nobody is ever sent an event of another tenant's run. -/
theorem streams_isolated (settings : StreamSettings) (records : List Tenant)
    (events : List (Nat × ChannelEvent Client Listener Tenant))
    (finish : RunChannel Client Listener Tenant)
    (run : replay (next settings) (start records) events = some finish)
    (exclusive : Transition.Along (next settings) (fun channel event => channel.Exclusive event.2)
      (start records) events) : finish.Isolated := by
  have preserved : ∀ (channel : RunChannel Client Listener Tenant) event after,
      (channel.hub.Listed ∧ channel.Sole ∧ channel.hub.Private) → channel.Exclusive event.2 →
      channel.next settings event = some after →
      after.hub.Listed ∧ after.Sole ∧ after.hub.Private := by
    rintro channel event after ⟨listed, sole, own⟩ exclusive taken
    have step := next_hub taken
    refine ⟨listed.step step, next_sole sole listed exclusive taken, own.step listed ?_ step⟩
    exact fun first second left right => sole first second (.inr left) (.inr right)
  have initial : (start records : RunChannel Client Listener Tenant).hub.Listed ∧
      (start records : RunChannel Client Listener Tenant).Sole ∧
      (start records : RunChannel Client Listener Tenant).hub.Private :=
    ⟨⟨nodup_nil, nofun, nodup_nil, nofun⟩, fun first _ left =>
      absurd left (absent_start records first),
      ⟨nofun, nofun, nofun, nofun⟩⟩
  obtain ⟨_, _, own⟩ := replay_invariant_along preserved initial exclusive run
  exact ⟨own.received, own.queued⟩

def streamed : List (Nat × ChannelEvent String String String) :=
  [(0, .submit "acme"), (0, .startRun 0), (0, .openSocket "tab" "acme"), (0, .accepted "tab"),
    (0, .openStream "feed" "acme"), (0, .registerStream "feed"), (0, .beginReplay "tab"),
    (0, .readStore "tab" true), (0, .resumeReplay "tab"), (1, .broadcast 0 .workflowEnd false),
    (1, .stored 0 true), (1, .resumeBroadcast 0), (1, .sent 0 "tab" true)]

theorem streams_isolated_streamed : ∃ (finish : RunChannel String String String)
    (socket : Socket String) (stream : SseStream String),
    replay (next {}) (start []) streamed = some finish ∧
      finish.hub.sockets "tab" = some socket ∧ socket.received.length = 1 ∧
      finish.hub.streams "feed" = some stream ∧ stream.queue.length = 1 ∧ finish.Isolated := by
  have whole : ∃ (finish : RunChannel String String String) (socket : Socket String)
      (stream : SseStream String),
      replay (next {}) (start []) streamed = some finish ∧
        finish.hub.sockets "tab" = some socket ∧ socket.received.length = 1 ∧
        finish.hub.streams "feed" = some stream ∧ stream.queue.length = 1 := by
    let last : Message String := { number := 0, tenant := "acme", type := .workflowEnd }
    refine ⟨_, { tenant := "acme", phase := .live, received := [(.live, last)] },
      { tenant := "acme", phase := .registered, queue := [last] }, rfl, ?_⟩
    exact ⟨rfl, rfl, rfl, rfl⟩
  obtain ⟨finish, socket, stream, run, known, received, there, queued⟩ := whole
  refine ⟨finish, socket, stream, run, known, received, there, queued, ?_⟩
  refine streams_isolated {} [] streamed finish run ?_
  refine And.intro ?_ ?_
  · exact fun _ other present => absurd present (absent_start [] other)
  iterate 12 refine And.intro trivial ?_
  trivial

/-- The retention timer drops the binding while the tab is still open, and
another tenant submits a run under the same id. -/
def reused : List (Nat × ChannelEvent String String String) :=
  [(0, .submit "acme"), (0, .startRun 0), (0, .openSocket "tab" "acme"), (0, .accepted "tab"),
    (0, .beginReplay "tab"), (0, .readStore "tab" true), (0, .resumeReplay "tab"),
    (1, .broadcast 0 .workflowEnd false), (1, .stored 0 true), (1, .resumeBroadcast 0),
    (1, .sent 0 "tab" true), (1, .startTimer 0), (1, .finishRun 0), (11, .fireTimer 0),
    (11, .storeCleared true), (12, .submit "rival"), (12, .startRun 1),
    (12, .broadcast 1 .workflowStart false), (12, .stored 1 true), (12, .resumeBroadcast 1),
    (12, .sent 1 "tab" true)]

theorem stream_leaks_after_reuse : ∃ (finish : RunChannel String String String)
    (socket : Socket String) (message : Message String),
    replay (next { delay := 10 }) (start []) reused = some finish ∧
      finish.hub.sockets "tab" = some socket ∧ socket.tenant = "acme" ∧
      (.live, message) ∈ socket.received ∧ message.tenant = "rival" ∧ ¬ finish.Isolated := by
  have whole : ∃ finish : RunChannel String String String,
      replay (next { delay := 10 }) (start []) reused = some finish ∧
        finish.hub.sockets "tab" = some {
          tenant := "acme"
          phase := .live
          received := [(.live, { number := 0, tenant := "acme", type := .workflowEnd }),
            (.live, { number := 1, tenant := "rival", type := .workflowStart })] } := by
    refine ⟨_, rfl, ?_⟩
    rfl
  obtain ⟨finish, run, known⟩ := whole
  have received : (DeliveryPath.live, ({ number := 1, tenant := "rival", type := .workflowStart } :
      Message String)) ∈ [(.live, { number := 0, tenant := "acme", type := .workflowEnd }),
        (.live, { number := 1, tenant := "rival", type := .workflowStart })] := by
    simp
  refine ⟨finish, _, _, run, known, rfl, received, rfl, ?_⟩
  intro isolated
  exact absurd (isolated.1 "tab" _ known _ received) (by decide)

end

end RunChannel

end AgenticRuntime
