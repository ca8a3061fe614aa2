import Modbus.Lifecycle
import Modbus.Runs

/-! The futures a server runs, one await at a time: the service, the stream and the
socket decide when an await completes and with what. A select is polled in two
steps, so that shutdown may be requested after the signal was looked at. -/
namespace Modbus

/-- The shutdown signal: whether it is set, and whether a call of `shutdown` has returned. -/
structure Signal where
  requested : Bool
  returned : Bool
  deriving DecidableEq, Repr

namespace Signal

def unset : Signal := ⟨false, false⟩

/-- `shutdown` sets the signal first. -/
def request (signal : Signal) : Signal := { signal with requested := true }

def release (signal : Signal) (subscribed : Bool) : Option Signal :=
  if signal.requested && !subscribed then some { signal with returned := true } else none

theorem release_some {signal next : Signal} {subscribed : Bool} (released : signal.release subscribed = some next) :
    subscribed = false ∧ signal.requested = true ∧ next = ⟨true, true⟩ := by
  obtain ⟨requested, returned⟩ := signal
  cases requested <;> cases subscribed <;> cases released
  exact ⟨rfl, rfl, rfl⟩

end Signal

/-- Where the future that serves a connection stands. -/
inductive Phase (Header : Type) where
  | fresh
  | connecting
  | waiting
  | receiving
  | requesting (header : Header) (request : RequestPdu)
  | responding (header : Header) (response : ResponsePdu)
  | reporting (error : Error) (ends : Bool)
  | disconnecting (reason : Disconnect)
  | finished (outcome : Result Unit)

/-- What a connection's future comes to next. -/
inductive Advance (Header : Type) where
  | start
  | connected (answer : Acceptance)
  | poll
  | pend
  | received (result : Result (Header × RequestPdu))
  | answered (answer : Answer)
  | sent (result : Result Unit)
  | reported
  | disconnected

/-- A connection's future, and the calls of the service that have completed. -/
structure ConnectionTask (Header : Type) where
  phase : Phase Header
  told : List Notification

namespace ConnectionTask

variable {Header : Type} (framing : ServerFraming Header) (config : ServerConfig)

def new : ConnectionTask Header := ⟨.fresh, []⟩

/-- `serve_connection` and the loop inside it. -/
def step (requested : Bool) (task : ConnectionTask Header) (advance : Advance Header) :
    Option (ConnectionTask Header) :=
  match task.phase, advance with
  | .fresh, .start => some { task with phase := .connecting }
  | .connecting, .connected answer => some {
      phase := match answer with
        | .reject => .disconnecting .rejected
        | .accept => .waiting
      told := task.told ++ [.connect answer] }
  | .waiting, .poll => some { task with
      phase := if requested then .disconnecting .shuttingDown else .receiving }
  | .receiving, .pend => some { task with phase := .waiting }
  | .receiving, .received (.ok (header, request)) => some { task with
      phase :=
        if !framing.isBroadcast (framing.unit header) && config.unit.any (· != framing.unit header) then .waiting
        else .requesting header request }
  | .receiving, .received (.error (.io .unexpectedEof _)) => some { task with phase := .disconnecting .closed }
  | .receiving, .received (.error e) => some { task with
      phase := .reporting e (e.endsStream || !framing.boundary.isSelfLocating) }
  | .requesting header request, .answered answer => some {
      phase := match answer.response request.function with
        | none => .waiting
        | some response =>
          if framing.isBroadcast (framing.unit header) then .waiting else .responding header response
      told := task.told ++ [.hook (.request (framing.unit header) request answer)] }
  | .responding .., .sent (.ok ()) => some { task with phase := .waiting }
  | .responding .., .sent (.error e) => some { task with phase := .reporting e e.endsStream }
  | .reporting e ends, .reported => some {
      phase := if ends then .disconnecting (.failed e) else .waiting
      told := task.told ++ [.hook (.error e)] }
  | .disconnecting reason, .disconnected => some ⟨.finished reason.outcome, task.told ++ [.disconnect reason]⟩
  | _, _ => none

def isFinished (task : ConnectionTask Header) : Bool :=
  match task.phase with
  | .finished _ => true
  | _ => false

def isRunning (task : ConnectionTask Header) : Bool :=
  match task.phase with
  | .connecting | .requesting .. | .reporting .. | .disconnecting _ => true
  | _ => false

def isPolling (task : ConnectionTask Header) : Bool :=
  match task.phase with
  | .receiving => true
  | _ => false

end ConnectionTask

def Advance.takesUp : Advance Header → Bool
  | .received (.ok _) => true
  | _ => false

namespace ConnectionTask

variable {Header : Type} {framing : ServerFraming Header} {config : ServerConfig} {requested : Bool}
  {task next : ConnectionTask Header} {advance : Advance Header}

theorem step_finished (ended : task.isFinished = true) : task.step framing config requested advance = none := by
  obtain ⟨phase, told⟩ := task
  cases phase <;> cases ended
  rfl

theorem running_unfinished (ended : task.isFinished = true) : task.isRunning = false := by
  obtain ⟨phase, told⟩ := task
  cases phase <;> cases ended
  rfl

theorem step_heeds (stepped : task.step framing config true advance = some next) : next.isPolling = false := by
  unfold step at stepped
  split at stepped
  all_goals cases stepped
  all_goals repeat' first | rfl | split

theorem step_takesUp (stepped : task.step framing config requested advance = some next)
    (takes : advance.takesUp = true) : task.isPolling = true := by
  obtain ⟨phase, told⟩ := task
  cases advance with
  | received result =>
    cases phase with
    | receiving => rfl
    | _ => cases stepped
  | _ => cases takes

end ConnectionTask

/-- Where the future that answers a datagram stands. -/
inductive DatagramTask where
  | fresh (header : MbapHeader) (request : RequestPdu)
  | requesting (header : MbapHeader) (request : RequestPdu)
  | sending (header : MbapHeader) (response : ResponsePdu)
  | reporting (error : Error)
  | finished

/-- What a datagram's future comes to next. -/
inductive DatagramAdvance where
  | start
  | answered (answer : Answer)
  | sent (result : Result Unit)
  | reported

namespace DatagramTask

/-- `serve_datagram`. There is no broadcast to tell apart. -/
def step (config : ServerConfig) : DatagramTask → DatagramAdvance → Option DatagramTask
  | .fresh header request, .start =>
    some (if config.unit.any (· != ServerFraming.tcp.unit header) then .finished else .requesting header request)
  | .requesting header request, .answered answer =>
    some (match answer.response request.function with
      | none => .finished
      | some response => .sending header response)
  | .sending .., .sent (.ok ()) => some .finished
  | .sending .., .sent (.error e) => some (.reporting e)
  | .reporting _, .reported => some .finished
  | _, _ => none

def isFinished : DatagramTask → Bool
  | .finished => true
  | _ => false

def isRunning : DatagramTask → Bool
  | .requesting .. | .reporting _ => true
  | _ => false

end DatagramTask

/-- A server of one link, and its shutdown signal. -/
structure LinkServer (Header : Type) where
  signal : Signal
  task : ConnectionTask Header

inductive LinkEvent (Header : Type) where
  | request
  | release
  | advance (advance : Advance Header)

namespace LinkServer

variable {Header : Type}

def start : LinkServer Header := ⟨.unset, .new⟩

/-- `serve_link` subscribes when it is first polled, and lets go when it returns. -/
def subscribed (server : LinkServer Header) : Bool :=
  match server.task.phase with
  | .fresh | .finished _ => false
  | _ => true

def step (framing : ServerFraming Header) (config : ServerConfig) (server : LinkServer Header) :
    LinkEvent Header → Option (LinkServer Header)
  | .request => some { server with signal := server.signal.request }
  | .release => (server.signal.release server.subscribed).map ({ server with signal := · })
  | .advance advance =>
    (server.task.step framing config server.signal.requested advance).map ({ server with task := · })

end LinkServer

namespace Server

variable {Header σ : Type} (server : Server Header σ)

/-- The future of a connection that was accepted, as far as the notifications of a session. -/
def future (signal : Signal) (phase : Phase Header) (session : Session Header σ) : LinkServer Header :=
  ⟨signal, ⟨phase, .connect .accept :: session.hooks.map .hook⟩⟩

def Follows (state : LinkServer Header) : Standing → Session Header σ → Prop
  | .serving, after => Reaches (LinkServer.step server.framing server.config) state (future .unset .waiting after)
  | .ended reason, after => ∃ signal,
      Reaches (LinkServer.step server.framing server.config) state (future signal (.disconnecting reason) after)
  | .waiting, _ => True

variable {server} in
theorem Follows.after {state middle : LinkServer Header} {standing : Standing} {after : Session Header σ}
    (first : Reaches (LinkServer.step server.framing server.config) state middle)
    (rest : server.Follows middle standing after) : server.Follows state standing after := by
  cases standing with
  | serving => exact Run.trans first rest
  | waiting => trivial
  | ended reason =>
    obtain ⟨signal, reaches⟩ := rest
    exact ⟨signal, first.trans reaches⟩

variable (session : Session Header σ)

theorem future_notify (e : Error) (signal : Signal) (phase : Phase Header) :
    future signal phase (server.notify e session) =
      ⟨signal, ⟨phase, .connect .accept :: session.hooks.map .hook ++ [.hook (.error e)]⟩⟩ := by
  simp [future, notify]

theorem reported_follows (e : Error) (ends : Bool) :
    server.Follows (future .unset (.reporting e ends) session)
      (if ends then .ended (.failed e) else .serving) (server.notify e session) := by
  have moved : LinkServer.step server.framing server.config (future .unset (.reporting e ends) session)
      (.advance .reported) =
        some (future .unset (if ends then .disconnecting (.failed e) else .waiting) (server.notify e session)) := by
    rw [future_notify]
    rfl
  cases ends with
  | false => exact Reaches.once _ moved
  | true => exact ⟨_, Reaches.once _ moved⟩

theorem respond_follows (header : Header) (response : ResponsePdu) :
    server.Follows (future .unset (.responding header response) session)
      (server.respond header response session).1 (server.respond header response session).2 := by
  unfold respond
  simp only
  split
  · have moved : LinkServer.step server.framing server.config (future .unset (.responding header response) session)
        (.advance (.sent (.ok ()))) = some (future .unset .waiting session) := rfl
    exact Reaches.once _ moved
  · next e transport _ =>
    have moved : LinkServer.step server.framing server.config (future .unset (.responding header response) session)
        (.advance (.sent (.error e))) = some (future .unset (.reporting e e.endsStream) session) := rfl
    have reported := server.reported_follows
      { session with transport := transport, responses := session.responses + 1 } e e.endsStream
    have follows := reported.after (Reaches.once _ moved)
    split
    all_goals simp_all only [if_true, if_false, Bool.false_eq_true]
  · trivial

theorem future_ask (unit : UnitId) (request : RequestPdu) (signal : Signal) (phase : Phase Header) :
    future signal phase (server.ask unit request session).2 =
      ⟨signal, ⟨phase, .connect .accept :: session.hooks.map .hook ++
        [.hook (.request unit request (server.ask unit request session).1)]⟩⟩ := by
  simp [future, ask]

theorem dispatch_follows (header : Header) (request : RequestPdu) :
    server.Follows (future .unset .receiving session) (server.dispatch header request session).1
      (server.dispatch header request session).2 := by
  have taken (phase : Phase Header)
      (decided : (if !server.framing.isBroadcast (server.framing.unit header) &&
        server.config.unit.any (· != server.framing.unit header) then .waiting
        else .requesting header request) = phase) :
      Reaches (LinkServer.step server.framing server.config) (future .unset .receiving session)
        (future .unset phase session) := by
    subst decided
    exact Reaches.once (.advance (.received (.ok (header, request)))) rfl
  simp only [dispatch]
  split
  · next foreign => exact taken .waiting (if_pos foreign)
  · next own =>
    have asked (phase : Phase Header)
        (decided : (match (server.ask (server.framing.unit header) request session).1.response request.function with
          | none => .waiting
          | some response =>
            if server.framing.isBroadcast (server.framing.unit header) then .waiting
            else .responding header response) = phase) :
        Reaches (LinkServer.step server.framing server.config) (future .unset .receiving session)
          (future .unset phase (server.ask (server.framing.unit header) request session).2) := by
      subst decided
      rw [future_ask]
      exact (taken _ (if_neg own)).next (.advance (.answered _)) rfl
    split
    · next withheld => exact asked .waiting (by rw [withheld])
    · next response answered =>
      split
      · next broadcast => exact asked .waiting (by simp only [answered, if_pos broadcast])
      · next unicast =>
        exact (server.respond_follows _ header response).after
          (asked (.responding header response) (by simp only [answered, if_neg unicast]))

theorem handle_follows (received : Result (Header × RequestPdu)) :
    server.Follows (future .unset .receiving session) (server.handle received session).1
      (server.handle received session).2 := by
  unfold handle
  split
  · exact server.dispatch_follows session _ _
  · next os =>
    exact ⟨.unset, Reaches.once (.advance (.received (.error (.io .unexpectedEof os)))) rfl⟩
  · next e other =>
    have moved : LinkServer.step server.framing server.config (future .unset .receiving session)
        (.advance (.received (.error e))) =
          some (future .unset (.reporting e (e.endsStream || !server.framing.boundary.isSelfLocating)) session) := by
      cases e with
      | io kind os =>
        cases kind with
        | unexpectedEof => exact absurd rfl (other os)
        | _ => rfl
      | _ => rfl
    have follows := (server.reported_follows session e _).after (Reaches.once _ moved)
    simp only
    split
    all_goals simp_all only [if_true, if_false, Bool.false_eq_true]

theorem turn_follows :
    server.Follows (future .unset .waiting session) (server.turn session).1 (server.turn session).2 := by
  have told : server.Follows (future .unset .waiting session) (.ended .shuttingDown) session := by
    have requested : Reaches (LinkServer.step server.framing server.config) (future .unset .waiting session)
        (future ⟨true, false⟩ .waiting session) := Reaches.once (.request) rfl
    exact ⟨⟨true, false⟩, requested.next (.advance .poll) rfl⟩
  unfold turn
  split
  · exact told
  · split
    · next received transport _ =>
      have polled : Reaches (LinkServer.step server.framing server.config) (future .unset .waiting session)
          (future .unset .receiving session) := Reaches.once (.advance .poll) rfl
      exact (server.handle_follows { session with
        transport := transport, received := session.received ++ [received] } received).after polled
    · cases server.shutdown with
      | none => trivial
      | some => exact told

theorem exchange_follows (turns : Nat) :
    server.Follows (future .unset .waiting session) (server.exchange turns session).1
      (server.exchange turns session).2 := by
  induction turns generalizing session with
  | zero => exact Run.start
  | succ turns ih =>
    have turned := server.turn_follows session
    rw [exchange]
    split
    · next next turning =>
      rw [turning] at turned
      exact (ih next).after turned
    · exact turned

end Server

/-- Serving a link, as far as it is driven, is a course its future can take, with the same calls to
the service and the same result. -/
theorem Lifecycle.serveLink_follows (server : Lifecycle Header σ) {turns : Nat} {transport : FrameTransport}
    {service : σ} {outcome : Result Unit}
    (completed : (server.serveLink turns transport service).outcome = some outcome) :
    ∃ signal, Reaches (LinkServer.step server.framing server.config) .start
      ⟨signal, ⟨.finished outcome, (server.serveLink turns transport service).notifications⟩⟩ := by
  have started : Reaches (LinkServer.step server.framing server.config) .start ⟨.unset, ⟨.connecting, []⟩⟩ :=
    Reaches.once (.advance .start) rfl
  have serves := server.serveConnection_serves completed
  unfold serveLink
  generalize server.serveConnection turns transport service = served at serves
  cases serves with
  | rejected =>
    have rejected := started.next (.advance (.connected .reject)) rfl
    exact ⟨.unset, rejected.next (.advance .disconnected) rfl⟩
  | @exchanged connected _ _ _ ended =>
    have accepted := started.next (.advance (.connected .accept)) rfl
    have follows := server.toServer.exchange_follows
      (.new (transport.elapse (server.service.took connected)) connected) turns
    rw [ended] at follows
    obtain ⟨signal, reaches⟩ := follows
    exact ⟨signal, Reaches.next (accepted.trans reaches) (.advance .disconnected) rfl⟩

end Modbus
