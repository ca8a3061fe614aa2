import Modbus.ServerTrace

/-! One connection of the server from its first notification to its last. The
service is asked whether it accepts the connection, sees what the loop reports,
and is told in the end why the connection is over. -/
namespace Modbus

inductive Acceptance where
  | accept | reject
  deriving DecidableEq, Repr

/-- A server whose service is also notified of a connection's beginning and end. -/
structure Lifecycle (Header σ : Type) extends Server Header σ where
  onConnect : σ → Acceptance × σ
  onDisconnect : Disconnect → σ → σ

/-- A call made to the service for one connection, with its answer. -/
inductive Notification where
  | connect (answer : Acceptance)
  | hook (hook : Hook)
  | disconnect (reason : Disconnect)

/-- What serving a connection has come to: its result, once it has one, what has become of
the transport and the service, and the calls made to the service. -/
structure ServedConnection (σ : Type) where
  outcome : Option (Result Unit)
  transport : FrameTransport
  service : σ
  notifications : List Notification

def Disconnect.outcome : Disconnect → Result Unit
  | .failed error => .error error
  | _ => .ok ()

theorem Disconnect.outcome_error (reason : Disconnect) (e : Error) :
    reason.outcome = .error e ↔ reason = .failed e := by
  cases reason <;> simp [outcome]

namespace Lifecycle

variable {Header σ : Type}

def serveConnection (server : Lifecycle Header σ) (turns : Nat) (transport : FrameTransport)
    (service : σ) : ServedConnection σ :=
  let (answer, service) := server.onConnect service
  let transport := transport.elapse (server.service.took service)
  match answer with
  | .reject =>
    ⟨some (.ok ()), transport, server.onDisconnect .rejected service,
      [.connect .reject, .disconnect .rejected]⟩
  | .accept =>
    match server.exchange turns (.new transport service) with
    | (.ended reason, session) =>
      ⟨some reason.outcome, session.transport, server.onDisconnect reason session.service,
        .connect .accept :: session.hooks.map .hook ++ [.disconnect reason]⟩
    | (_, session) =>
      ⟨none, session.transport, session.service, .connect .accept :: session.hooks.map .hook⟩

def serveLink (server : Lifecycle Header σ) (turns : Nat) (transport : FrameTransport) (service : σ) :
    ServedConnection σ :=
  server.serveConnection turns transport service

end Lifecycle

namespace Server

variable {Header σ : Type}

/-- The notifications between two sessions, the last of which is the failure the loop ended
with. -/
def Notifies (server : Server Header σ) (before : Session Header σ) (standing : Standing)
    (after : Session Header σ) : Prop :=
  ∃ hooks, after.hooks = before.hooks ++ hooks ∧
    server.service.Follows before.service hooks after.service ∧
    ∀ e, standing = .ended (.failed e) → hooks.getLast? = some (.error e)

variable {server : Server Header σ} {before middle after : Session Header σ} {standing : Standing}

theorem Does.notifies {hooks : List Hook} {written : Bytes} (does : server.Does before after hooks written)
    (last : ∀ e, standing = .ended (.failed e) → hooks.getLast? = some (.error e)) :
    server.Notifies before standing after :=
  ⟨hooks, does.notified, does.service, last⟩

theorem Notifies.trans {earlier : Standing} (first : server.Notifies before earlier middle)
    (second : server.Notifies middle standing after) : server.Notifies before standing after := by
  obtain ⟨early, noted, follows, _⟩ := first
  obtain ⟨late, noted', follows', last⟩ := second
  refine ⟨early ++ late, by rw [noted', noted, List.append_assoc], follows.append follows', ?_⟩
  intro e failed
  simp [last e failed]

theorem notifies_refl (server : Server Header σ) (session : Session Header σ)
    (quiet : ∀ e, standing ≠ .ended (.failed e)) : server.Notifies session standing session :=
  (server.does_nothing session).notifies fun e failed => absurd failed (quiet e)

variable (server) (session : Session Header σ)

theorem respond_notifies (header : Header) (response : ResponsePdu) :
    server.Notifies session (server.respond header response session).1
      (server.respond header response session).2 := by
  rcases server.respond_cases session header response with
    ⟨adu, after, _, responded, does⟩ | ⟨e, after, _, responded, does⟩ | ⟨failure, after, _, _, responded, does⟩
  · rw [responded]
    exact does.notifies (by simp)
  · rw [responded]
    apply does.notifies
    intro failure ended
    cases ends : e.endsStream with
    | false => simp [ends] at ended
    | true => simpa [ends] using ended
  · rw [responded]
    apply does.notifies
    intro e ended
    simpa using ended

theorem dispatch_notifies (header : Header) (request : RequestPdu) :
    server.Notifies session (server.dispatch header request session).1
      (server.dispatch header request session).2 := by
  obtain ⟨answer, asked, asking, does⟩ := server.ask_does session (server.framing.unit header) request
  have noted : server.Notifies session .serving asked := does.notifies (by simp)
  simp only [dispatch, asking]
  split
  · exact server.notifies_refl session (by simp)
  · split
    · exact noted
    · split
      · exact noted
      · exact noted.trans (server.respond_notifies asked header _)

theorem handle_notifies (received : Result (Header × RequestPdu)) :
    server.Notifies session (server.handle received session).1 (server.handle received session).2 := by
  unfold handle
  split
  · exact server.dispatch_notifies session _ _
  · exact server.notifies_refl session (by simp)
  · next e other =>
    have noticed := server.notify_does session e
    simp only
    split
    · apply noticed.notifies
      intro failure ended
      simpa using ended
    · exact noticed.notifies (by simp)

theorem turn_notifies : server.Notifies session (server.turn session).1 (server.turn session).2 := by
  unfold turn
  split
  · exact server.notifies_refl session (by simp)
  · split
    · next received transport _ =>
      exact server.handle_notifies
        { session with transport := transport, received := session.received ++ [received] } received
    · refine ⟨[], (List.append_nil _).symm, .nil, ?_⟩
      intro e failed
      split at failed <;> cases failed

theorem exchange_notifies (turns : Nat) :
    server.Notifies session (server.exchange turns session).1 (server.exchange turns session).2 := by
  induction turns generalizing session with
  | zero => exact server.notifies_refl session (by simp [exchange])
  | succ turns ih =>
    have turned := server.turn_notifies session
    rw [exchange]
    split
    · next next turning =>
      rw [turning] at turned
      exact turned.trans (ih next)
    · exact turned

end Server

namespace Lifecycle

variable {Header σ : Type} (server : Lifecycle Header σ) {turns : Nat} {transport : FrameTransport}
  {service : σ} {outcome : Result Unit}

/-- How serving a connection comes to its end: the service refuses it, or the loop ends. -/
inductive Serves (turns : Nat) (transport : FrameTransport) (service : σ) :
    Result Unit → ServedConnection σ → Prop
  | rejected {connected : σ} : server.onConnect service = (.reject, connected) →
      Serves turns transport service (.ok ())
        ⟨some (.ok ()), transport.elapse (server.service.took connected), server.onDisconnect .rejected connected,
          [.connect .reject, .disconnect .rejected]⟩
  | exchanged {connected : σ} {reason : Disconnect} {session : Session Header σ} :
      server.onConnect service = (.accept, connected) →
      server.exchange turns (.new (transport.elapse (server.service.took connected)) connected) =
        (.ended reason, session) →
      Serves turns transport service reason.outcome
        ⟨some reason.outcome, session.transport, server.onDisconnect reason session.service,
          .connect .accept :: session.hooks.map .hook ++ [.disconnect reason]⟩

theorem serveConnection_serves
    (completed : (server.serveConnection turns transport service).outcome = some outcome) :
    server.Serves turns transport service outcome (server.serveConnection turns transport service) := by
  unfold serveConnection at completed ⊢
  rcases connecting : server.onConnect service with ⟨_ | _, connected⟩
  · rw [connecting] at completed
    simp only at completed ⊢
    rcases exchanged : server.exchange turns (.new (transport.elapse (server.service.took connected)) connected)
      with ⟨_ | _ | reason, session⟩
    all_goals
      rw [exchanged] at completed
      cases completed
    exact .exchanged connecting exchanged
  · rw [connecting] at completed
    cases completed
    exact .rejected connecting

theorem serveConnection_mono
    (completed : (server.serveConnection turns transport service).outcome = some outcome) (more : Nat) :
    server.serveConnection (turns + more) transport service =
      server.serveConnection turns transport service := by
  have serves := server.serveConnection_serves completed
  generalize same : server.serveConnection turns transport service = served at serves
  cases serves with
  | rejected refused => simp only [serveConnection, refused]
  | exchanged accepted ended =>
    have settled := server.exchange_ended (congrArg Prod.fst ended) more
    simp only [serveConnection, accepted, settled, ended]

/-- The service is called when a connection begins, then for requests and failures, then once when
it is over, with the reason that serving returns. -/
theorem connection_notified_in_order (turns : Nat) (transport : FrameTransport) (service : σ)
    (outcome : Result Unit) (completed : (server.serveLink turns transport service).outcome = some outcome) :
    ∃ answer hooks reason connected last,
      (server.serveLink turns transport service).notifications =
        .connect answer :: hooks.map .hook ++ [.disconnect reason] ∧
      server.onConnect service = (answer, connected) ∧ server.service.Follows connected hooks last ∧
      (server.serveLink turns transport service).service = server.onDisconnect reason last ∧
      (answer = .reject → hooks = [] ∧ reason = .rejected ∧
        (server.serveLink turns transport service).transport.wire = transport.wire ∧
        (server.serveLink turns transport service).transport.reader.link.stream.arrivals =
          transport.reader.link.stream.arrivals ∧
        (server.serveLink turns transport service).transport.reader.link.buffer =
          transport.reader.link.buffer) ∧
      (∀ e, reason = .failed e → hooks.getLast? = some (.error e)) ∧
      (∀ e, outcome = .error e ↔ reason = .failed e) ∧
      ∀ more, server.serveLink (turns + more) transport service = server.serveLink turns transport service := by
  have settled := server.serveConnection_mono completed
  have serves := server.serveConnection_serves completed
  unfold serveLink
  generalize server.serveConnection turns transport service = served at serves settled
  cases serves with
  | @rejected connected refused =>
    refine ⟨.reject, [], .rejected, connected, connected, rfl, refused, .nil, rfl, ?_, by simp, by simp, settled⟩
    intro _
    exact ⟨rfl, rfl, rfl, List.append_nil _, rfl⟩
  | @exchanged connected reason session accepted ended =>
    have notifies := server.exchange_notifies
      (.new (transport.elapse (server.service.took connected)) connected) turns
    rw [ended] at notifies
    obtain ⟨hooks, noted, follows, last⟩ := notifies
    obtain rfl : session.hooks = hooks := noted
    refine ⟨.accept, session.hooks, reason, connected, session.service, rfl, accepted, follows, rfl, by simp, ?_,
      reason.outcome_error, settled⟩
    intro e failed
    exact last e (by rw [failed])

/-- A request answered, then three bytes of another and the end of the stream. -/
theorem severed_link_notified :
    let server : Lifecycle MbapHeader Nat :=
      ⟨⟨.tcp, .default, ⟨none⟩, sevens, none, fun _ => ⟨0, 0, none, []⟩⟩,
        fun asked => (.accept, asked), fun _ asked => asked⟩
    let start : FrameTransport := .new ⟨0, [⟨0, .ok ⟨[0, 1, 0, 0, 0, 6, 17, 3, 0, 0, 0, 1, 0, 2, 0],
      by decide⟩⟩], some 9, .exact⟩
    ((server.serveLink 2 start 0).outcome = some (.error .connectionClosed) ∧
      (server.serveLink 2 start 0).notifications.length = 4) ∧
    ∃ hooks : List Hook, (server.serveLink 2 start 0).notifications =
        .connect .accept :: hooks.map .hook ++ [.disconnect (.failed .connectionClosed)] ∧
      hooks.getLast? = some (.error .connectionClosed) := by
  intro server start
  have failed : (server.serveLink 2 start 0).outcome = some (.error .connectionClosed) := by decide
  obtain ⟨answer, hooks, reason, _, _, notifications, asked, _, _, _, last, returned, _⟩ :=
    connection_notified_in_order server 2 start 0 _ failed
  have ended := (returned .connectionClosed).mp rfl
  cases asked
  cases ended
  exact ⟨⟨failed, by decide⟩, hooks, notifications, last _ rfl⟩

end Lifecycle

end Modbus
