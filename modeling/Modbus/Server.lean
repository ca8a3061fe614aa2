import Modbus.FrameErrors
import Modbus.FrameTransport

/-! The server on one connection: it receives a request, lets the service answer
it and writes the answer, until the connection ends. The service is a state
machine of its own, seen through the notifications this connection makes. -/
namespace Modbus

open Bytes ByteStream

/-- What a server does differently per framing. -/
structure ServerFraming (Header : Type) extends Framing Header where
  unit : Header → UnitId
  isBroadcast : UnitId → Bool

namespace ServerFraming

def tcp : ServerFraming MbapHeader where
  toFraming := Modbus.tcp
  unit header := header.unitId
  isBroadcast _ := false

def serial (framing : Framing UnitId) : ServerFraming UnitId where
  toFraming := framing
  unit header := header
  isBroadcast unit := unit == broadcastUnit

end ServerFraming

/-- The only unit to answer, or none to leave the decision to the service. -/
structure ServerConfig where
  unit : Option UnitId
  deriving DecidableEq, Repr

inductive Disconnect where
  | closed | rejected | shuttingDown
  | failed (error : Error)
  deriving DecidableEq, Repr

abbrev Answer := Except ExceptionCode (Option ResponsePdu)

def Answer.response (function : FunctionCode) : Answer → Option ResponsePdu
  | .ok response => response
  | .error exception => some (.exception ⟨function, exception⟩)

/-- A service and whatever its answers depend on, in a state `σ`. -/
structure Service (σ : Type) where
  onRequest : UnitId → RequestPdu → σ → Answer × σ
  onError : Error → σ → σ
  /-- How long the notification that led to this state took. -/
  took : σ → Nat

/-- A notification of the service, with what it answered. -/
inductive Hook where
  | request (unit : UnitId) (request : RequestPdu) (answer : Answer)
  | error (error : Error)

/-- One connection of a server, with what it cannot choose: when it is told to shut down,
and what becomes of each response it writes. -/
structure Server (Header σ : Type) where
  framing : ServerFraming Header
  line : TransportConfig
  config : ServerConfig
  service : Service σ
  shutdown : Option Nat
  passages : Nat → Passage

structure Session (Header σ : Type) where
  transport : FrameTransport
  service : σ
  responses : Nat
  received : List (Result (Header × RequestPdu))
  hooks : List Hook

/-- Where the loop stands after a turn: it goes on, it waits for a request that does not
come, or it has ended. -/
inductive Standing where
  | serving
  | waiting
  | ended (reason : Disconnect)
  deriving DecidableEq, Repr

def Session.new (transport : FrameTransport) (service : σ) : Session Header σ :=
  ⟨transport, service, 0, [], []⟩

namespace Server

variable {Header σ : Type}

/-- `on_request`. -/
def ask (server : Server Header σ) (unit : UnitId) (request : RequestPdu) (session : Session Header σ) :
    Answer × Session Header σ :=
  let (answer, service) := server.service.onRequest unit request session.service
  (answer, { session with
    service := service
    transport := session.transport.elapse (server.service.took service)
    hooks := session.hooks ++ [.request unit request answer] })

/-- `on_error`. -/
def notify (server : Server Header σ) (error : Error) (session : Session Header σ) : Session Header σ :=
  let service := server.service.onError error session.service
  { session with
    service := service
    transport := session.transport.elapse (server.service.took service)
    hooks := session.hooks ++ [.error error] }

/-- A write that is waited for comes to an end, so the last case is never taken. -/
def respond (server : Server Header σ) (header : Header) (response : ResponsePdu)
    (session : Session Header σ) : Standing × Session Header σ :=
  let transport := { session.transport with passage := server.passages session.responses }
  match transport.sendResponse server.framing.toFraming header response none with
  | (some (.ok ()), transport) =>
    (.serving, { session with transport := transport, responses := session.responses + 1 })
  | (some (.error e), transport) =>
    let session := server.notify e
      { session with transport := transport, responses := session.responses + 1 }
    if e.endsStream then (.ended (.failed e), session)
    else (.serving, session)
  | (none, transport) => (.waiting, { session with transport := transport })

def dispatch (server : Server Header σ) (header : Header) (request : RequestPdu)
    (session : Session Header σ) : Standing × Session Header σ :=
  let unit := server.framing.unit header
  let broadcast := server.framing.isBroadcast unit
  if !broadcast && server.config.unit.any (· != unit) then (.serving, session)
  else
    let function := request.function
    let (answer, session) := server.ask unit request session
    match answer.response function with
    | none => (.serving, session)
    | some response => if broadcast then (.serving, session) else server.respond header response session

def handle (server : Server Header σ) (received : Result (Header × RequestPdu))
    (session : Session Header σ) : Standing × Session Header σ :=
  match received with
  | .ok (header, request) => server.dispatch header request session
  | .error (.io .unexpectedEof _) => (.ended .closed, session)
  | .error e =>
    let session := server.notify e session
    if e.endsStream || !server.framing.boundary.isSelfLocating then (.ended (.failed e), session)
    else (.serving, session)

/-- One turn of the loop. A request that is complete only when shutdown is requested is no
longer taken up. -/
def turn (server : Server Header σ) (session : Session Header σ) : Standing × Session Header σ :=
  if server.shutdown.any (· ≤ session.transport.reader.link.stream.now) then
    (.ended .shuttingDown, session)
  else
    match session.transport.recvRequest server.framing.toFraming server.line
        (server.shutdown.map (· - 1)) with
    | (some received, transport) => server.handle received
        { session with transport := transport, received := session.received ++ [received] }
    | (none, transport) =>
      (if server.shutdown.isSome then .ended .shuttingDown else .waiting,
        { session with transport := transport })

def exchange (server : Server Header σ) : Nat → Session Header σ → Standing × Session Header σ
  | 0, session => (.serving, session)
  | turns + 1, session =>
    match server.turn session with
    | (.serving, session) => exchange server turns session
    | ended => ended

def accepts (server : Server Header σ) (header : Header) : Bool :=
  let unit := server.framing.unit header
  server.framing.isBroadcast unit || server.config.unit.all (· == unit)

def reply (server : Server Header σ) (header : Header) (request : RequestPdu) (answer : Answer) : Bytes :=
  if server.framing.isBroadcast (server.framing.unit header) then []
  else match answer.response request.function with
    | none => []
    | some response =>
      match server.framing.encodeResponse header response with
      | .ok adu => adu
      | .error _ => []

end Server

/-- The notifications lead a service from one state to another, with these answers. -/
inductive Service.Follows (service : Service σ) : σ → List Hook → σ → Prop
  | nil {state : σ} : Follows service state [] state
  | request {state next last : σ} {unit : UnitId} {request : RequestPdu} {answer : Answer}
      {hooks : List Hook} : service.onRequest unit request state = (answer, next) →
      Follows service next hooks last → Follows service state (.request unit request answer :: hooks) last
  | error {state last : σ} {e : Error} {hooks : List Hook} : Follows service (service.onError e state) hooks last →
      Follows service state (.error e :: hooks) last

theorem Service.Follows.append {service : Service σ} {start middle last : σ} {first second : List Hook}
    (before : service.Follows start first middle) (after : service.Follows middle second last) :
    service.Follows start (first ++ second) last := by
  induction before with
  | nil => exact after
  | request asked _ ih => exact .request asked (ih after)
  | error _ ih => exact .error (ih after)

@[simp] theorem FrameTransport.elapse_wire (time : Nat) (transport : FrameTransport) :
    (transport.elapse time).wire = transport.wire := rfl

theorem Link.Ahead.elapse {transport : FrameTransport} {ending : Option Nat} {bytes : Bytes} {time : Nat}
    (ahead : transport.reader.link.Ahead ending bytes) :
    (transport.elapse time).reader.link.Ahead ending bytes :=
  ahead.wait rfl

namespace Server

variable {Header σ : Type}

/-- What the loop has done between two sessions: whom it notified and what it wrote. -/
structure Does (server : Server Header σ) (before after : Session Header σ) (hooks : List Hook)
    (written : Bytes) : Prop where
  received : after.received = before.received
  notified : after.hooks = before.hooks ++ hooks
  wire : after.transport.wire = before.transport.wire ++ written
  service : server.service.Follows before.service hooks after.service
  latch : after.transport.reader.receiving = before.transport.reader.receiving
  ahead : (∀ n, (server.passages n).arrivals = []) → ∀ ending bytes,
    before.transport.reader.link.Ahead ending bytes → after.transport.reader.link.Ahead ending bytes

section Parts

variable (server : Server Header σ) (session : Session Header σ)

theorem does_nothing : server.Does session session [] [] where
  received := rfl
  notified := by simp
  wire := by simp
  service := .nil
  latch := rfl
  ahead _ _ _ still := still

variable {server session} in
theorem Does.trans {middle after : Session Header σ} {first second : List Hook} {written more : Bytes}
    (one : server.Does session middle first written) (two : server.Does middle after second more) :
    server.Does session after (first ++ second) (written ++ more) where
  received := two.received.trans one.received
  notified := by rw [two.notified, one.notified, List.append_assoc]
  wire := by rw [two.wire, one.wire, List.append_assoc]
  service := one.service.append two.service
  latch := two.latch.trans one.latch
  ahead silent ending bytes still := two.ahead silent ending bytes (one.ahead silent ending bytes still)

theorem notify_does (e : Error) : server.Does session (server.notify e session) [.error e] [] where
  received := rfl
  notified := rfl
  wire := by simp [notify]
  service := .error .nil
  latch := rfl
  ahead _ _ _ still := still.elapse

theorem ask_does (unit : UnitId) (request : RequestPdu) : ∃ answer after,
    server.ask unit request session = (answer, after) ∧
      server.Does session after [.request unit request answer] [] := by
  rcases asked : server.service.onRequest unit request session.service with ⟨answer, service⟩
  simp only [ask, asked]
  exact ⟨answer, _, rfl, rfl, rfl, by simp, .request asked .nil, rfl, fun _ _ _ still => still.elapse⟩

theorem respond_cases (header : Header) (response : ResponsePdu) :
    (∃ adu after, server.framing.encodeResponse header response = .ok adu ∧
      server.respond header response session = (.serving, after) ∧ server.Does session after [] adu) ∨
    (∃ e after, server.framing.encodeResponse header response = .error e ∧
      server.respond header response session =
        (if e.endsStream then .ended (.failed e) else .serving, after) ∧
      server.Does session after [.error e] []) ∨
    ∃ failure after written, (server.passages session.responses).failure = some failure ∧
      server.respond header response session = (.ended (.failed failure.error), after) ∧
      server.Does session after [.error failure.error] written := by
  obtain ⟨result, transport, sending, course⟩ := FrameTransport.sendResponse_sent
    server.framing.toFraming header response
    { session.transport with passage := server.passages session.responses }
  simp only [respond, sending]
  cases course with
  | written encoded _ wire reader =>
    refine .inl ⟨_, _, encoded, rfl, rfl, by simp, wire, .nil, by rw [reader], ?_⟩
    intro silent ending bytes still
    rw [reader]
    exact still.wait (silent _)
  | @unencodable e _ encoded wire reader =>
    have failed := server.notify_does
      { session with transport := transport, responses := session.responses + 1 } e
    refine .inr (.inl ⟨e, _, encoded, ?_, failed.received, failed.notified, ?_, failed.service, ?_, ?_⟩)
    · cases ends : e.endsStream <;> simp [ends]
    · rw [failed.wire, wire]
    · rw [failed.latch, reader]
    · intro silent ending bytes still
      exact failed.ahead silent ending bytes (reader ▸ still)
  | @broken adu failure _ _ failing wire reader =>
    have failed := server.notify_does
      { session with transport := transport, responses := session.responses + 1 } failure.error
    refine .inr (.inr ⟨failure, _, adu.take (server.passages session.responses).accepted, failing, rfl,
      failed.received, failed.notified, ?_, failed.service, ?_, ?_⟩)
    · rw [failed.wire, wire, List.append_nil]
    · rw [failed.latch, reader]
    · intro silent ending bytes still
      exact failed.ahead silent ending bytes (reader ▸ still)

end Parts

/-- What the loop can do with a result of receiving. -/
inductive Handled (server : Server Header σ) (before : Session Header σ) :
    Result (Header × RequestPdu) → Standing → Session Header σ → Prop
  | closed {os : Option Int32} {after : Session Header σ} : server.Does before after [] [] →
      Handled server before (.error (.io .unexpectedEof os)) (.ended .closed) after
  | failed {e : Error} {after : Session Header σ} : (∀ os, e ≠ .io .unexpectedEof os) →
      (e.endsStream || !server.framing.boundary.isSelfLocating) = true →
      server.Does before after [.error e] [] → Handled server before (.error e) (.ended (.failed e)) after
  | survived {e : Error} {after : Session Header σ} : e.endsStream = false →
      server.framing.boundary.isSelfLocating = true →
      server.Does before after [.error e] [] → Handled server before (.error e) .serving after
  | foreign {header : Header} {request : RequestPdu} {after : Session Header σ} :
      server.accepts header = false → server.Does before after [] [] →
      Handled server before (.ok (header, request)) .serving after
  | answered {header : Header} {request : RequestPdu} {answer : Answer} {after : Session Header σ} :
      server.accepts header = true →
      server.Does before after [.request (server.framing.unit header) request answer]
        (server.reply header request answer) →
      Handled server before (.ok (header, request)) .serving after
  | unencodable {header : Header} {request : RequestPdu} {answer : Answer} {e : Error}
      {after : Session Header σ} : server.accepts header = true →
      server.reply header request answer = [] → e.endsStream = false →
      server.Does before after [.request (server.framing.unit header) request answer, .error e] [] →
      Handled server before (.ok (header, request)) .serving after
  | unwritten {header : Header} {request : RequestPdu} {answer : Answer} {failure : ReadFailure}
      {written : Bytes} {after : Session Header σ} : server.accepts header = true →
      (∃ n, (server.passages n).failure = some failure) →
      server.Does before after
        [.request (server.framing.unit header) request answer, .error failure.error] written →
      Handled server before (.ok (header, request)) (.ended (.failed failure.error)) after

theorem skips_eq (server : Server Header σ) (header : Header) :
    (!server.framing.isBroadcast (server.framing.unit header) &&
      server.config.unit.any (· != server.framing.unit header)) = !server.accepts header := by
  simp only [accepts, Bool.not_or]
  cases server.config.unit <;> simp [bne]

theorem dispatch_handled (server : Server Header σ) (costs : server.framing.CostsFrames)
    (session : Session Header σ) (header : Header) (request : RequestPdu) :
    ∃ standing after, server.dispatch header request session = (standing, after) ∧
      server.Handled session (.ok (header, request)) standing after := by
  cases wanted : server.accepts header with
  | false =>
    simp only [dispatch, skips_eq, wanted, Bool.not_false, if_true]
    exact ⟨_, _, rfl, .foreign wanted (server.does_nothing session)⟩
  | true =>
    obtain ⟨answer, asked, asking, does⟩ := server.ask_does session (server.framing.unit header) request
    simp only [dispatch, skips_eq, wanted, Bool.not_true, Bool.false_eq_true, if_false, asking]
    cases withheld : answer.response request.function with
    | none =>
      have silent : server.Does session asked [.request (server.framing.unit header) request answer]
          (server.reply header request answer) := by
        simpa [reply, withheld] using does
      exact ⟨_, _, rfl, .answered wanted silent⟩
    | some response =>
      simp only
      split
      · next broadcast =>
        have silent : server.Does session asked [.request (server.framing.unit header) request answer]
            (server.reply header request answer) := by
          simpa [reply, broadcast] using does
        exact ⟨_, _, rfl, .answered wanted silent⟩
      · next unicast =>
        rcases server.respond_cases asked header response with
          ⟨adu, after, encoded, responded, sent⟩ | ⟨e, after, encoded, responded, failed⟩ |
            ⟨failure, after, written, failing, responded, broken⟩
        · have replied : server.reply header request answer = adu := by
            simp [reply, unicast, withheld, encoded]
          exact ⟨_, _, responded, .answered wanted (replied ▸ does.trans sent)⟩
        · have survivable := (costs.encodeResponse header response).endsStream encoded
          have nothing : server.reply header request answer = [] := by
            simp [reply, unicast, withheld, encoded]
          rw [responded, survivable]
          exact ⟨_, _, rfl, .unencodable wanted nothing survivable (does.trans failed)⟩
        · exact ⟨_, _, responded, .unwritten wanted ⟨_, failing⟩ (does.trans broken)⟩

theorem handle_handled (server : Server Header σ) (costs : server.framing.CostsFrames)
    (session : Session Header σ) (received : Result (Header × RequestPdu)) :
    ∃ standing after, server.handle received session = (standing, after) ∧
      server.Handled session received standing after := by
  unfold handle
  split
  · exact server.dispatch_handled costs session _ _
  · exact ⟨_, _, rfl, .closed (server.does_nothing session)⟩
  · next e other =>
    have noticed := server.notify_does session e
    cases ends : (e.endsStream || !server.framing.boundary.isSelfLocating) with
    | true => exact ⟨_, _, rfl, .failed other ends noticed⟩
    | false =>
      obtain ⟨survivable, selfLocating⟩ := Bool.or_eq_false_iff.mp ends
      exact ⟨_, _, rfl, .survived survivable (by simpa using selfLocating) noticed⟩

/-- What a turn can do: find the server told to shut down, wait for a request that never
comes, or handle what it received. -/
inductive Turned (server : Server Header σ) (before : Session Header σ) : Standing → Session Header σ → Prop
  | shuttingDown {moment : Nat} {transport : FrameTransport} : server.shutdown = some moment →
      transport.wire = before.transport.wire →
      Turned server before (.ended .shuttingDown) { before with transport := transport }
  | waiting {reader : Reader} : server.shutdown = none →
      before.transport.reader.recvRequest server.framing.toFraming server.line none = (none, reader) →
      Turned server before .waiting { before with transport := { before.transport with reader := reader } }
  | handled {received : Result (Header × RequestPdu)} {reader : Reader} {standing : Standing}
      {after : Session Header σ} :
      before.transport.reader.recvRequest server.framing.toFraming server.line
        (server.shutdown.map (· - 1)) = (some received, reader) →
      server.Handled { before with
          transport := { before.transport with reader := reader }
          received := before.received ++ [received] } received standing after →
      Turned server before standing after

theorem turn_turned (server : Server Header σ) (costs : server.framing.CostsFrames)
    (session : Session Header σ) :
    ∃ standing after, server.turn session = (standing, after) ∧ server.Turned session standing after := by
  by_cases due : server.shutdown.any (· ≤ session.transport.reader.link.stream.now) = true
  · obtain ⟨moment, told, _⟩ := (Option.any_eq_true ..).mp due
    rw [turn, if_pos due]
    exact ⟨_, _, rfl, .shuttingDown told rfl⟩
  · rw [turn, if_neg due, FrameTransport.recvRequest]
    rcases receiving : session.transport.reader.recvRequest server.framing.toFraming server.line
      (server.shutdown.map (· - 1)) with ⟨_ | received, reader⟩
    · cases told : server.shutdown with
      | none =>
        rw [told] at receiving
        exact ⟨_, _, rfl, .waiting told receiving⟩
      | some moment => exact ⟨_, _, rfl, .shuttingDown told rfl⟩
    · obtain ⟨standing, after, handling, handled⟩ := server.handle_handled costs { session with
        transport := { session.transport with reader := reader }
        received := session.received ++ [received] } received
      exact ⟨_, _, handling, .handled receiving handled⟩

def Reached (server : Server Header σ) (start session : Session Header σ) : Prop :=
  ∃ turns, server.exchange turns start = (.serving, session)

theorem exchange_succ (server : Server Header σ) (turns : Nat) (session : Session Header σ) :
    server.exchange (turns + 1) session = match server.exchange turns session with
      | (.serving, session) => server.turn session
      | ended => ended := by
  induction turns generalizing session with
  | zero =>
    simp only [exchange]
    rcases server.turn session with ⟨_ | _ | _, after⟩ <;> rfl
  | succ turns ih =>
    rcases turning : server.turn session with ⟨_ | _ | _, after⟩
    · have next (more : Nat) : server.exchange (more + 1) session = server.exchange more after := by
        rw [exchange, turning]
      rw [next, next]
      exact ih after
    · simp only [exchange, turning]
    · simp only [exchange, turning]

theorem exchange_ended (server : Server Header σ) {turns : Nat} {start : Session Header σ} {reason : Disconnect}
    (ended : (server.exchange turns start).1 = .ended reason) (more : Nat) :
    server.exchange (turns + more) start = server.exchange turns start := by
  induction more with
  | zero => rfl
  | succ more ih =>
    rw [← Nat.add_assoc, exchange_succ, ih]
    rcases exchanged : server.exchange turns start with ⟨_ | _ | _, session⟩
    · rw [exchanged] at ended
      cases ended
    · rfl
    · rfl

theorem exchange_rule (server : Server Header σ) (costs : server.framing.CostsFrames)
    (start : Session Header σ) (Holds : Standing → Session Header σ → Prop) (initially : Holds .serving start)
    (kept : ∀ session standing after, server.Reached start session → Holds .serving session →
      server.Turned session standing after → Holds standing after) (turns : Nat) :
    Holds (server.exchange turns start).1 (server.exchange turns start).2 := by
  induction turns with
  | zero => exact initially
  | succ turns ih =>
    rw [exchange_succ]
    rcases exchanged : server.exchange turns start with ⟨_ | _ | _, session⟩
    · rw [exchanged] at ih
      obtain ⟨standing, after, turning, turned⟩ := server.turn_turned costs session
      simp only [turning]
      exact kept session standing after ⟨turns, exchanged⟩ ih turned
    · rw [exchanged] at ih
      exact ih
    · rw [exchanged] at ih
      exact ih

end Server

end Modbus
