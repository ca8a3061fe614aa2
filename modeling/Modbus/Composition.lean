import Modbus.Conveyance
import Modbus.ServerTrace

/-! A client and a server at the two ends of one byte stream. The stream delivers
what is written, in pieces and at times of its own choosing. Seen from the calls
and from the service, the stream and both codecs are not there: the calls return
what the service, asked directly, would have answered. -/
namespace Modbus

open Bytes ByteStream

structure Call where
  unit : UnitId
  request : RequestPdu

/-- A call and what the service answered to it. -/
structure Served extends Call where
  answer : Answer

def Served.hook (served : Served) : Hook := .request served.unit served.request served.answer

def Service.direct (service : Service σ) : List Call → σ → List Served × σ
  | [], state => ([], state)
  | call :: rest, state =>
    let (answer, state) := service.onRequest call.unit call.request state
    let (served, state) := direct service rest state
    (⟨call, answer⟩ :: served, state)

/-- The calls made on a client, one after the other, each waited for. -/
def Client.callEach (framing : ClientFraming Header) (transport : ClientTransport Header σ) :
    List Call → Client σ → List (Option (Result (Option ResponsePdu))) × Client σ
  | [], client => ([], client)
  | each :: rest, client =>
    let (result, client) := Client.call framing transport each.unit each.request none client
    let (results, client) := callEach framing transport rest client
    (result :: results, client)

/-- A lossless stream in both directions: when messages are written, in which reads the other end
gets them, and when the client sees a close. -/
structure Channel where
  requested : Nat → Nat
  answered : Nat → Nat
  closed : Nat → Nat
  upstream : Nat → Bytes → Reads
  downstream : Nat → Bytes → Reads
  up_carries : ∀ n bytes, Carries (upstream n bytes) bytes
  down_carries : ∀ n bytes, Carries (downstream n bytes) bytes

structure Connection (Header σ : Type) where
  client : ClientFraming Header
  server : ServerFraming Header
  clientLine : TransportConfig
  serverLine : TransportConfig
  config : ServerConfig
  service : Service σ
  channel : Channel
  refuses : ∀ received, client.decodeResponse [] ≠ .ok received

/-- Both ends of a connection. -/
structure World (Header σ : Type) where
  client : FrameTransport
  standing : Standing
  server : Session Header σ
  messages : Nat

def World.new (now : Nat) (clientTimer serverTimer : Timer) (service : σ) : World Header σ :=
  ⟨.new ⟨now, [], none, clientTimer⟩, .serving, .new (.new ⟨now, [], none, serverTimer⟩) service, 0⟩

def FrameTransport.deliver (arrivals : Reads) (transport : FrameTransport) : FrameTransport :=
  { transport with reader := { transport.reader with link := transport.reader.link.deliver 0 arrivals } }

def FrameTransport.close (time : Nat) (transport : FrameTransport) : FrameTransport :=
  let link := transport.reader.link
  { transport with reader := { transport.reader with
      link := { link with stream := { link.stream with ending := link.stream.ending.or (some time) } } } }

/-- The server's loop, until it would wait. The receive that waits is still pending when more
arrives, and goes on with all of it. -/
def Server.settle (server : Server Header σ) : Nat → Session Header σ → Standing × Session Header σ
  | 0, session => (.serving, session)
  | turns + 1, session =>
    match server.turn session with
    | (.serving, session) => settle server turns session
    | (.waiting, _) => (.serving, session)
    | ended => ended

namespace Connection

variable {Header σ : Type} (connection : Connection Header σ)

def serving : Server Header σ where
  framing := connection.server
  line := connection.serverLine
  config := connection.config
  service := connection.service
  shutdown := none
  passages n := ⟨connection.channel.answered n, 0, none, []⟩

def serve (bytes : Bytes) (world : World Header σ) : Standing × Session Header σ :=
  match world.standing with
  | .serving =>
    let transport := world.server.transport.deliver (connection.channel.upstream world.messages bytes)
    connection.serving.settle (transport.reader.link.remaining + 1) { world.server with transport := transport }
  | standing => (standing, world.server)

/-- The client writes, the server gets what was written, the client gets what the server wrote, and
the close if the server has ended. -/
def sendRequest (header : Header) (request : RequestPdu) (limit : Option Nat) (world : World Header σ) :
    Option (Result Unit) × World Header σ :=
  let passage := ⟨connection.channel.requested world.messages, 0, none, []⟩
  let (result, client) := { world.client with passage := passage }.sendRequest connection.client.toFraming
    header request limit
  let (standing, server) := connection.serve (client.wire.drop world.client.wire.length) world
  let answer := server.transport.wire.drop world.server.transport.wire.length
  let client := client.deliver (connection.channel.downstream world.messages answer)
  let client := if standing = .serving then client else client.close (connection.channel.closed world.messages)
  (result, ⟨client, standing, server, world.messages + 1⟩)

def recvResponse (limit : Option Nat) (world : World Header σ) :
    Option (Result (Header × ResponsePdu)) × World Header σ :=
  let (result, client) := world.client.recvResponse connection.client.toFraming connection.clientLine limit
  (result, { world with client := client })

def transport : ClientTransport Header (World Header σ) where
  now world := world.client.reader.link.stream.now
  timer world := world.client.reader.link.stream.timer
  sendRequest := connection.sendRequest
  recvResponse := connection.recvResponse
  remaining world := world.client.reader.link.remaining
  consumes {limit state received after} ran := by
    rcases receiving : state.client.recvResponse connection.client.toFraming connection.clientLine limit with
      ⟨result, client⟩
    simp only [recvResponse, receiving, Prod.mk.injEq] at ran
    obtain ⟨rfl, rfl⟩ := ran
    exact FrameTransport.recvResponse_consumes connection.refuses receiving

/-- A unit that answers, and a request that can be sent to it. -/
structure Admits (Sendable : RequestPdu → Prop) (call : Call) : Prop where
  unicast : connection.client.isBroadcast call.unit = false
  served : connection.config.unit.all (· == call.unit) = true
  encodes : ∃ data, call.request.encode = .ok data
  unnamed : ¬call.request.HoldsNamedMei
  sendable : Sendable call.request

end Connection

/-- The answer is a response to this request that encodes, or an exception whose code does. -/
def Served.Answers (Answerable : ResponsePdu → Prop) (served : Served) : Prop :=
  match served.answer with
  | .ok (some response) => response.function = served.request.function ∧
      (∃ data, response.encode = .ok data) ∧ ¬response.HoldsNamedMei ∧ Answerable response
  | .ok none => False
  | .error exception => ∃ byte, exception.encode = .ok byte

/-- The call returned what the answer reads as, or the exception naming the request's function. -/
def Served.Returned (served : Served) (result : Option (Result (Option ResponsePdu))) : Prop :=
  match served.answer with
  | .ok (some response) => ∃ data reply, response.encode = .ok data ∧ ResponsePdu.decode data = .ok reply ∧
      result = some (.ok (some reply))
  | .ok none => False
  | .error exception => result = some (.ok (some (.exception ⟨served.request.function, exception⟩)))

/-- Calls over the connection come to what they come to on the service itself, which is asked for
these requests, once each and in order. -/
def Connection.Direct (connection : Connection Header σ) (Sendable : RequestPdu → Prop)
    (Answerable : ResponsePdu → Prop) : Prop :=
  ∀ responses now clientTimer serverTimer state calls,
    let served := connection.service.direct calls state
    let run := Client.callEach connection.client connection.transport calls
      (.withConfig (World.new now clientTimer serverTimer state) responses)
    (∀ call ∈ calls, connection.Admits Sendable call) → (∀ each ∈ served.1, each.Answers Answerable) →
    (∀ result, some result ∈ run.1 → ¬TimedOut result) →
    (∀ received ∈ run.2.transport.server.received, ¬TimedOut received) →
    List.Forall₂ Served.Returned served.1 run.1 ∧
      run.2.transport.server.hooks = served.1.map Served.hook ∧ run.2.transport.server.service = served.2

/-- A client and a server of one framing that mean the same by a header. -/
structure Peers (client : ClientFraming Header) (server : ServerFraming Header) : Prop where
  framing : server.toFraming = client.toFraming
  unit : ∀ unit transaction, server.unit (client.requestHeader unit transaction) = unit
  broadcast : ∀ unit, server.isBroadcast unit = client.isBroadcast unit
  answers : ∀ header, client.isResponseTo header header = true

theorem tcp_peers : Peers .tcp .tcp where
  framing := rfl
  unit _ _ := rfl
  broadcast _ := rfl
  answers header := beq_self_eq_true header

theorem serial_peers (framing : Framing UnitId) : Peers (.serial framing) (.serial framing) where
  framing := rfl
  unit _ _ := rfl
  broadcast _ := rfl
  answers header := beq_self_eq_true header

theorem Served.Answers.response {Answerable : ResponsePdu → Prop} {served : Served}
    (excepts : ∀ exception, Answerable (.exception exception)) (answers : served.Answers Answerable)
    (encodes : ∃ data, served.request.encode = .ok data) :
    ∃ response data, served.answer.response served.request.function = some response ∧
      response.encode = .ok data ∧ ¬response.HoldsNamedMei ∧ Answerable response ∧
      response.function = served.request.function ∧ served.Returned (some (.ok (some response.padded))) := by
  obtain ⟨call, answer⟩ := served
  match answer, answers with
  | .ok (some response), ⟨same, ⟨data, encoded⟩, unnamed, answerable⟩ =>
    exact ⟨response, data, rfl, encoded, unnamed, answerable, same, data, _, encoded,
      (ResponsePdu.decode_encoded unnamed encoded).2, rfl⟩
  | .error exception, ⟨byte, raised⟩ =>
    obtain ⟨_, sent⟩ := encodes
    obtain ⟨⟨function, _, coded, _⟩, _⟩ := RequestPdu.encode_ok.mp sent
    have wire : (ResponsePdu.exception ⟨call.request.function, exception⟩).Wire [function ||| 0x80, byte] :=
      ResponsePdu.exception_wire.mpr ⟨function, byte, coded, raised, rfl⟩
    exact ⟨_, _, rfl, ResponsePdu.encode_ok.mpr ⟨wire, by simp [maxPduLen]⟩, id, excepts _, rfl, rfl⟩

theorem Service.Follows.asked {service : Service σ} {state next last : σ} {unit : UnitId}
    {request : RequestPdu} {answer answered : Answer} {hooks : List Hook}
    (follows : service.Follows state (.request unit request answered :: hooks) last)
    (asking : service.onRequest unit request state = (answer, next)) :
    answered = answer ∧ service.Follows next hooks last := by
  cases follows with
  | request asked rest =>
    obtain ⟨rfl, rfl⟩ := Prod.mk.inj (asked.symm.trans asking)
    exact ⟨rfl, rest⟩

namespace Server

variable {Header σ : Type} {server : Server Header σ}

theorem settle_exchange (server : Server Header σ) (turns : Nat) (session : Session Header σ) :
    ∃ taken ≤ turns, server.settle turns session = server.exchange taken session := by
  induction turns generalizing session with
  | zero => exact ⟨0, Nat.le_refl _, rfl⟩
  | succ turns ih =>
    rcases turning : server.turn session with ⟨_ | _ | reason, after⟩
    · obtain ⟨taken, few, same⟩ := ih after
      refine ⟨taken + 1, Nat.succ_le_succ few, ?_⟩
      simp only [settle, exchange, turning, same]
    · exact ⟨0, Nat.zero_le _, by simp only [settle, exchange, turning]⟩
    · exact ⟨1, Nat.succ_le_succ (Nat.zero_le _), by simp only [settle, exchange, turning]⟩

/-- The service was asked and its answer written; nothing is left to be read. -/
structure Serves (before after : Session Header σ) (hook : Hook) (state : σ) (written : Bytes) : Prop where
  hooks : after.hooks = before.hooks ++ [hook]
  wire : after.transport.wire = before.transport.wire ++ written
  service : after.service = state
  ahead : after.transport.reader.link.Ahead none []
  free : after.transport.reader.receiving = false

section Turns

variable {session after : Session Header σ} {standing : Standing} {header : Header} {request : RequestPdu}
  {answer : Answer} {state : σ} (unfailing : ∀ n, (server.passages n).failure = none)
  (silent : ∀ n, (server.passages n).arrivals = []) (wanted : server.accepts header = true)
  (replies : server.reply header request answer ≠ [])
include unfailing silent wanted replies

theorem Handled.serves (handled : server.Handled session (.ok (header, request)) standing after)
    (asking : server.service.onRequest (server.framing.unit header) request session.service = (answer, state))
    (ahead : session.transport.reader.link.Ahead none []) (free : session.transport.reader.receiving = false) :
    standing = .serving ∧ Serves session after (.request (server.framing.unit header) request answer) state
      (server.reply header request answer) := by
  cases handled with
  | foreign unwanted => simp [wanted] at unwanted
  | answered _ does =>
    obtain ⟨rfl, rest⟩ := does.service.asked asking
    cases rest
    exact ⟨rfl, does.notified, does.wire, rfl, does.ahead silent none [] ahead, does.latch.trans free⟩
  | unencodable _ nothing _ does =>
    obtain ⟨rfl, _⟩ := does.service.asked asking
    exact absurd nothing replies
  | unwritten _ failing =>
    obtain ⟨n, broken⟩ := failing
    simp [unfailing n] at broken

omit unfailing silent wanted replies

theorem Handled.ends {what : String} (handled : server.Handled session (.error (.timeout what)) standing after) :
    (∃ reason, standing = .ended reason) ∧ after.received = session.received := by
  cases handled with
  | failed _ _ does => exact ⟨⟨_, rfl⟩, does.received⟩
  | survived survivable => cases survivable

variable (untold : server.shutdown = none) (free : session.transport.reader.receiving = false)
include untold free

theorem turn_idle {Sendable : RequestPdu → Prop} {Answerable : ResponsePdu → Prop}
    (conveys : server.framing.Conveys Sendable Answerable)
    (ahead : session.transport.reader.link.Ahead none []) : (server.turn session).1 = .waiting := by
  obtain ⟨reader, waits⟩ : ∃ reader, recvAdu server.framing.toFraming server.line .request none
      session.transport.reader = (none, reader) := recvAdu_idle conveys free ahead none
  simp [turn, untold, FrameTransport.recvRequest, Reader.recvRequest, waits]

include unfailing silent wanted replies

theorem turn_serves (costs : server.framing.CostsFrames) {adu : Bytes}
    (arrives : Arrives server.framing.toFraming server.line .request TimedOut adu adu)
    (decodes : server.framing.decodeRequest adu = .ok (header, request))
    (asking : server.service.onRequest (server.framing.unit header) request session.service = (answer, state))
    (ahead : session.transport.reader.link.Ahead none adu) :
    ∃ standing after, server.turn session = (standing, after) ∧
      ((standing = .serving ∧ Serves session after (.request (server.framing.unit header) request answer) state
          (server.reply header request answer)) ∨
        (∃ reason, standing = .ended reason) ∧ ∃ received ∈ after.received, TimedOut received) := by
  rw [← List.append_nil adu] at ahead
  obtain ⟨result, reader, receiving, course⟩ := recvAdu_arrives arrives free ahead none
  obtain ⟨standing, after, turning, turned⟩ := server.turn_turned costs session
  refine ⟨standing, after, turning, ?_⟩
  cases turned with
  | shuttingDown told => simp [untold] at told
  | waiting _ waits =>
    rcases course with ⟨_, limited⟩ | ⟨rfl, _⟩ | ⟨what, rfl⟩
    · exact absurd rfl limited
    · simp [Reader.recvRequest, receiving] at waits
    · simp [Reader.recvRequest, receiving] at waits
  | handled received handled =>
    rw [untold] at received
    rcases course with ⟨_, limited⟩ | ⟨rfl, left, open_⟩ | ⟨what, rfl⟩
    · exact absurd rfl limited
    · simp only [Reader.recvRequest, Option.map_none, receiving, Except.bind, decodes] at received
      cases received
      obtain ⟨goes_on, hooks, wire, service, last, latch⟩ :=
        handled.serves unfailing silent wanted replies asking left open_
      exact .inl ⟨goes_on, hooks, wire, service, last, latch⟩
    · simp only [Reader.recvRequest, Option.map_none, receiving, Except.bind] at received
      cases received
      obtain ⟨ended, recorded⟩ := handled.ends
      exact .inr ⟨ended, .error (.timeout what), by simp [recorded], what, rfl⟩

theorem settle_serves (costs : server.framing.CostsFrames) {adu : Bytes} {Sendable : RequestPdu → Prop}
    {Answerable : ResponsePdu → Prop} (conveys : server.framing.Conveys Sendable Answerable)
    (arrives : Arrives server.framing.toFraming server.line .request TimedOut adu adu)
    (decodes : server.framing.decodeRequest adu = .ok (header, request))
    (asking : server.service.onRequest (server.framing.unit header) request session.service = (answer, state))
    (ahead : session.transport.reader.link.Ahead none adu) (turns : Nat) :
    ∃ standing after, server.settle (turns + 2) session = (standing, after) ∧
      ((standing = .serving ∧ Serves session after (.request (server.framing.unit header) request answer) state
          (server.reply header request answer)) ∨
        standing ≠ .serving ∧ ∃ received ∈ after.received, TimedOut received) := by
  obtain ⟨standing, after, turning, course⟩ :=
    turn_serves unfailing silent wanted replies untold free costs arrives decodes asking ahead
  rcases course with ⟨rfl, serves⟩ | ⟨⟨reason, rfl⟩, late⟩
  · have waits := turn_idle untold serves.free conveys serves.ahead
    rcases waiting : server.turn after with ⟨standing, last⟩
    obtain rfl : standing = .waiting := (congrArg Prod.fst waiting).symm.trans waits
    simp only [settle, turning, waiting]
    exact ⟨_, _, rfl, .inl ⟨rfl, serves⟩⟩
  · simp only [settle, turning]
    exact ⟨_, _, rfl, .inr ⟨nofun, late⟩⟩

end Turns

end Server

/-- Between two calls: both ends have read all that was written, and the server goes on. -/
structure World.Ready (world : World Header σ) (state : σ) : Prop where
  standing : world.standing = .serving
  client : world.client.reader.link.Ahead none []
  clientFree : world.client.reader.receiving = false
  server : world.server.transport.reader.link.Ahead none []
  serverFree : world.server.transport.reader.receiving = false
  service : world.server.service = state

theorem FrameTransport.sendRequest_writes (transport : FrameTransport) {framing : Framing Header}
    {header : Header} {request : RequestPdu} {adu : Bytes}
    (encoded : framing.encodeRequest header request = .ok adu) (unfailing : transport.passage.failure = none)
    (silent : transport.passage.arrivals = []) :
    ∃ after, transport.sendRequest framing header request none = (some (.ok ()), after) ∧
      after.wire = transport.wire ++ adu ∧ after.reader.receiving = transport.reader.receiving ∧
      ∀ ending bytes, transport.reader.link.Ahead ending bytes → after.reader.link.Ahead ending bytes := by
  obtain ⟨result, after, sending, course⟩ := sendRequest_sent framing header request transport
  cases course with
  | unencodable fails => cases encoded.symm.trans fails
  | written again _ wire reader =>
    obtain rfl := Except.ok.inj (encoded.symm.trans again)
    refine ⟨after, sending, wire, by rw [reader], ?_⟩
    intro ending bytes ahead
    rw [reader]
    exact ahead.wait silent
  | broken _ failing => cases unfailing.symm.trans failing

namespace Connection

variable {Header σ : Type} {connection : Connection Header σ} {Sendable : RequestPdu → Prop}
  {Answerable : ResponsePdu → Prop} {world : World Header σ} {state next : σ}

theorem serving_accepts (peers : Peers connection.client connection.server) {call : Call}
    (admits : connection.Admits Sendable call) (transaction : TransactionId) :
    connection.serving.accepts (connection.client.requestHeader call.unit transaction) = true := by
  simp [Server.accepts, serving, peers.unit, admits.served]

theorem serving_reply (peers : Peers connection.client connection.server) {served : Served} {response : ResponsePdu}
    {adu : Bytes} {transaction : TransactionId} (unicast : connection.client.isBroadcast served.unit = false)
    (stands : served.answer.response served.request.function = some response)
    (encoded : connection.client.encodeResponse (connection.client.requestHeader served.unit transaction) response =
      .ok adu) :
    connection.serving.reply (connection.client.requestHeader served.unit transaction) served.request served.answer =
      adu := by
  simp [Server.reply, serving, peers.unit, peers.broadcast, unicast, stands, peers.framing, encoded]

section Served

variable (peers : Peers connection.client connection.server)
  (conveys : connection.client.Conveys Sendable Answerable) (costs : connection.client.CostsFrames)
include peers conveys costs

theorem serve_serves {served : Served} {transaction : TransactionId} {response : ResponsePdu} {adu reply : Bytes}
    (ready : world.Ready state) (admits : connection.Admits Sendable served.toCall)
    (asking : connection.service.onRequest served.unit served.request state = (served.answer, next))
    (stands : served.answer.response served.request.function = some response)
    (arrives : ∀ config, Arrives connection.client.toFraming config .request TimedOut adu adu)
    (decodes : connection.client.decodeRequest adu =
      .ok (connection.client.requestHeader served.unit transaction, served.request))
    (encoded : connection.client.encodeResponse (connection.client.requestHeader served.unit transaction) response =
      .ok reply) (some_bytes : reply ≠ []) :
    ∃ standing session, connection.serve adu world = (standing, session) ∧
      ((standing = .serving ∧ Server.Serves world.server session served.hook next reply) ∨
        standing ≠ .serving ∧ ∃ received ∈ session.received, TimedOut received) := by
  have framing : connection.serving.framing.toFraming = connection.client.toFraming := peers.framing
  have replies := serving_reply peers admits.unicast stands encoded
  have delivered := ready.server.deliver (connection.channel.up_carries world.messages adu) 0
  rw [List.nil_append] at delivered
  have asked : connection.serving.service.onRequest (connection.serving.framing.unit
      (connection.client.requestHeader served.unit transaction)) served.request world.server.service =
        (served.answer, next) := by
    rw [ready.service]
    exact (peers.unit served.unit transaction).symm ▸ asking
  obtain ⟨turns, enough⟩ : ∃ turns, (world.server.transport.deliver (connection.channel.upstream world.messages
      adu)).reader.link.remaining + 1 = turns + 2 := by
    have bytes := List.length_pos_iff.mpr (Arrives.nonempty conveys (arrives connection.serverLine))
    have counted := delivered.remaining
    exact ⟨adu.length - 1, by simp only [FrameTransport.deliver, counted]; omega⟩
  have settled := @Server.settle_serves _ _ connection.serving
    { world.server with
      transport := world.server.transport.deliver (connection.channel.upstream world.messages adu) }
    _ _ _ next (fun _ => rfl) (fun _ => rfl) (serving_accepts peers admits transaction)
    (by rw [replies]; exact some_bytes) rfl ready.serverFree (by rw [framing]; exact costs) adu _ _
    (by rw [framing]; exact conveys) (by rw [framing]; exact arrives _) (by rw [framing]; exact decodes)
    asked delivered turns
  obtain ⟨standing, session, settles, course⟩ := settled
  refine ⟨standing, session, ?_, ?_⟩
  · rw [serve, ready.standing]
    simp only [enough]
    exact settles
  · rw [replies] at course
    rcases course with ⟨rfl, serves⟩ | late
    · have addressed : connection.serving.framing.unit (connection.client.requestHeader served.unit transaction) =
        served.unit := peers.unit served.unit transaction
      rw [addressed] at serves
      exact .inl ⟨rfl, serves.hooks, serves.wire, serves.service, serves.ahead, serves.free⟩
    · exact .inr late

/-- Once a request is sent, its reply is ahead of the client, or a timer has ended the server. -/
inductive Replied (connection : Connection Header σ) (served : Served) (header : Header) (next : σ)
    (before after : World Header σ) : Prop
  | reply {response : ResponsePdu} {adu : Bytes} :
      served.Returned (some (.ok (some response))) → response.function = served.request.function →
      connection.client.decodeResponse adu = .ok (header, response) →
      Arrives connection.client.toFraming connection.clientLine .response TimedOut adu adu →
      after.client.reader.link.Ahead none adu → after.client.reader.receiving = false →
      after.standing = .serving →
      Server.Serves before.server after.server served.hook next adu →
      Replied connection served header next before after
  | late : after.standing ≠ .serving → (∃ received ∈ after.server.received, TimedOut received) →
      Replied connection served header next before after

variable (excepts : ∀ exception, Answerable (.exception exception))
include excepts

theorem sendRequest_replied {served : Served} (ready : world.Ready state)
    (admits : connection.Admits Sendable served.toCall) (answers : served.Answers Answerable)
    (asking : connection.service.onRequest served.unit served.request state = (served.answer, next))
    (transaction : TransactionId) :
    ∃ after, connection.sendRequest (connection.client.requestHeader served.unit transaction) served.request none
        world = (some (.ok ()), after) ∧
      connection.Replied served (connection.client.requestHeader served.unit transaction) next world after := by
  obtain ⟨data, writes⟩ := admits.encodes
  obtain ⟨adu, sent, decodes, arrives⟩ := conveys.request
    (connection.client.requestHeader served.unit transaction) served.request data writes admits.unnamed
    admits.sendable
  obtain ⟨response, answered, stands, encodes, unnamed, answerable, same, returned⟩ :=
    answers.response excepts ⟨data, writes⟩
  obtain ⟨reply, encoded, reads, comes⟩ := conveys.response
    (connection.client.requestHeader served.unit transaction) response answered encodes unnamed answerable
  obtain ⟨client, sending, wire, latch, still⟩ := FrameTransport.sendRequest_writes
    { world.client with passage := ⟨connection.channel.requested world.messages, 0, none, []⟩ } sent rfl rfl
  obtain ⟨standing, session, settled, course⟩ := serve_serves peers conveys costs ready admits asking stands arrives
    decodes encoded (Arrives.nonempty conveys (comes connection.clientLine))
  have written : client.wire.drop world.client.wire.length = adu := by
    rw [wire]
    exact List.drop_left
  simp only [Connection.sendRequest, sending, written, settled]
  refine ⟨_, rfl, ?_⟩
  rcases course with ⟨rfl, serves⟩ | ⟨ended, late⟩
  · have replied : session.transport.wire.drop world.server.transport.wire.length = reply := by
      rw [serves.wire]
      exact List.drop_left
    rw [replied, if_pos rfl]
    have delivered := (still none [] ready.client).deliver (connection.channel.down_carries world.messages reply) 0
    exact .reply returned ((ResponsePdu.padded_function response).trans same) reads (comes _) delivered
      (latch.trans ready.clientFree) rfl serves
  · exact .late ended late

end Served

section Awaited

variable (client : Client (World Header σ)) {header : Header} {expected : FunctionCode}
  (free : client.transport.client.reader.receiving = false) (deadline fuel : Nat)
include free

theorem awaitResponse_arrives {response : ResponsePdu} {adu : Bytes}
    (arrives : Arrives connection.client.toFraming connection.clientLine .response TimedOut adu adu)
    (decodes : connection.client.decodeResponse adu = .ok (header, response))
    (matching : connection.client.isResponseTo header header = true) (same : response.function = expected)
    (ahead : client.transport.client.reader.link.Ahead none adu) :
    ∃ result after, Client.awaitResponse connection.client connection.transport header expected deadline none
        (fuel + 1) client = (result, after) ∧
      ((∃ late, result = some late ∧ TimedOut late) ∨
        result = some (.ok (some response)) ∧ after.state = .answered ∧
        ∃ reader, after.transport = { client.transport with
            client := { client.transport.client with reader := reader } } ∧
          reader.link.Ahead none [] ∧ reader.receiving = false) := by
  rw [← List.append_nil adu] at ahead
  obtain ⟨result, reader, receiving, course⟩ := recvAdu_arrives arrives free ahead (some deadline)
  rcases course with ⟨rfl, _⟩ | ⟨rfl, left, open_⟩ | ⟨what, rfl⟩
  · simp only [Client.awaitResponse, transport, recvResponse, FrameTransport.recvResponse, Client.waitUntil,
      receiving, Nat.lt_irrefl, if_false]
    exact ⟨_, _, rfl, .inl ⟨_, rfl, _, rfl⟩⟩
  · simp only [Client.awaitResponse, transport, recvResponse, FrameTransport.recvResponse, Client.waitUntil,
      receiving, Except.bind, decodes, matching, same, ne_eq, not_true_eq_false, if_true, if_false]
    exact ⟨_, _, rfl, .inr ⟨rfl, rfl, reader, rfl, left, open_⟩⟩
  · simp only [Client.awaitResponse, transport, recvResponse, FrameTransport.recvResponse, Client.waitUntil,
      receiving, Except.bind]
    exact ⟨_, _, rfl, .inl ⟨_, rfl, _, rfl⟩⟩

end Awaited

theorem call_ended {client : Client (World Header σ)} {session : Session Header σ}
    (ended : client.transport.standing ≠ .serving ∧ client.transport.server = session) (unit : UnitId)
    (request : RequestPdu) (limit : Option Nat) :
    let after := (Client.call connection.client connection.transport unit request limit client).2
    after.transport.standing ≠ .serving ∧ after.transport.server = session := by
  refine Client.call_keeps (fun world : World Header σ => world.standing ≠ .serving ∧ world.server = session)
    (fun _ _ still => still) ?_ ended unit request limit
  intro header request limit world ⟨stopped, same⟩
  have unserved (bytes : Bytes) : connection.serve bytes world = (world.standing, world.server) := by
    unfold serve
    split
    · next serving => exact absurd serving stopped
    · rfl
  simp only [transport, sendRequest, unserved]
  exact ⟨stopped, same⟩

theorem callEach_ended {client : Client (World Header σ)} {session : Session Header σ}
    (ended : client.transport.standing ≠ .serving ∧ client.transport.server = session) (calls : List Call) :
    (Client.callEach connection.client connection.transport calls client).2.transport.server = session := by
  induction calls generalizing client with
  | nil => exact ended.2
  | cons call rest ih => exact ih (call_ended ended call.unit call.request none)

section Calls

variable (peers : Peers connection.client connection.server)
  (conveys : connection.client.Conveys Sendable Answerable) (costs : connection.client.CostsFrames)
  (excepts : ∀ exception, Answerable (.exception exception)) {client : Client (World Header σ)}
include peers conveys costs excepts

theorem call_served (served : Served) (usable : client.isDesynchronized = false)
    (ready : client.transport.Ready state) (admits : connection.Admits Sendable served.toCall)
    (answers : served.Answers Answerable)
    (asking : connection.service.onRequest served.unit served.request state = (served.answer, next)) :
    ∃ result after, Client.call connection.client connection.transport served.unit served.request none client =
        (result, after) ∧
      ((∃ late, result = some late ∧ TimedOut late) ∨
        (after.transport.standing ≠ .serving ∧ ∃ received ∈ after.transport.server.received, TimedOut received) ∨
        served.Returned result ∧ after.isDesynchronized = false ∧ after.transport.Ready next ∧
          after.transport.server.hooks = client.transport.server.hooks ++ [served.hook]) := by
  obtain ⟨data, encoded⟩ := admits.encodes
  obtain ⟨sent, sending, replied⟩ := sendRequest_replied peers conveys costs excepts ready admits answers
    asking client.nextTransaction
  rw [Client.call_sent usable encoded sending, admits.unicast, if_neg Bool.false_ne_true]
  cases replied with
  | late ended late =>
    refine ⟨_, _, Prod.mk.eta.symm, .inr (.inl ?_)⟩
    apply Client.awaitResponse_keeps fun world : World Header σ => world.standing ≠ .serving ∧
      ∃ received ∈ world.server.received, TimedOut received
    · exact fun _ _ still => still
    · exact ⟨ended, late⟩
  | reply returned same decodes arrives ahead free standing serves =>
    obtain ⟨result, after, awaited, course⟩ := awaitResponse_arrives
      { client with transport := sent, nextTransaction := Modbus.next client.nextTransaction } free
      (connection.transport.expiry client.config.responseTimeout sent) (connection.transport.remaining sent)
      arrives decodes (peers.answers _) same ahead
    refine ⟨result, after, awaited, course.imp_right fun course => .inr ?_⟩
    obtain ⟨replied, answered, reader, moved, left, open_⟩ := course
    rw [moved, replied]
    exact ⟨returned, by rw [Client.isDesynchronized, answered],
      ⟨standing, left, open_, serves.ahead, serves.free, serves.service⟩, serves.hooks⟩

theorem callEach_served {calls : List Call} (usable : client.isDesynchronized = false)
    (ready : client.transport.Ready state) (admits : ∀ call ∈ calls, connection.Admits Sendable call)
    (answers : ∀ served ∈ (connection.service.direct calls state).1, served.Answers Answerable)
    (timely : ∀ result, some result ∈ (Client.callEach connection.client connection.transport calls client).1 →
      ¬TimedOut result)
    (prompt : ∀ received ∈ (Client.callEach connection.client connection.transport calls
      client).2.transport.server.received, ¬TimedOut received) :
    let run := Client.callEach connection.client connection.transport calls client
    List.Forall₂ Served.Returned (connection.service.direct calls state).1 run.1 ∧
      run.2.transport.server.hooks = client.transport.server.hooks ++
        (connection.service.direct calls state).1.map Served.hook ∧
      run.2.transport.server.service = (connection.service.direct calls state).2 := by
  induction calls generalizing client state with
  | nil => exact ⟨.nil, (List.append_nil _).symm, ready.service⟩
  | cons call rest ih =>
    rcases asking : connection.service.onRequest call.unit call.request state with ⟨answer, next⟩
    simp only [Service.direct, asking, Client.callEach] at answers timely prompt ⊢
    obtain ⟨result, after, called, course⟩ := call_served peers conveys costs excepts ⟨call, answer⟩
      usable ready (admits call List.mem_cons_self) (answers _ List.mem_cons_self) asking
    simp only [called] at timely prompt ⊢
    rcases course with ⟨late, rfl, fired⟩ | ⟨ended, received, recorded, fired⟩ | ⟨returned, still, ready', hooks⟩
    · exact absurd fired (timely late List.mem_cons_self)
    · rw [callEach_ended ⟨ended, rfl⟩ rest] at prompt
      exact absurd fired (prompt received recorded)
    · obtain ⟨others, later, last⟩ := ih still ready' (fun each inside => admits each (List.mem_cons_of_mem _ inside))
        (fun each inside => answers each (List.mem_cons_of_mem _ inside))
        (fun each inside => timely each (List.mem_cons_of_mem _ inside)) prompt
      refine ⟨.cons returned others, ?_, last⟩
      rw [later, hooks, List.append_assoc]
      rfl

theorem direct : connection.Direct Sendable Answerable := by
  intro responses now clientTimer serverTimer state calls served run admits answers timely prompt
  have nothing (timer : Timer) : Link.Ahead ⟨⟨now, [], none, timer⟩, []⟩ none [] := ⟨rfl, [], .nil, rfl⟩
  exact callEach_served peers conveys costs excepts rfl ⟨rfl, nothing _, rfl, nothing _, rfl, rfl⟩ admits answers
    timely prompt

end Calls

end Connection

/-- A client and a server over a lossless stream behave as direct calls: over TCP and ASCII for
every PDU, over RTU on TCP where every length can be derived. -/
theorem composed_calls_are_direct (crc16 : Bytes → UInt16) {σ : Type} (service : Service σ)
    (clientLine serverLine : TransportConfig) (config : ServerConfig) (channel : Channel) :
    (Connection.mk .tcp .tcp clientLine serverLine config service channel tcp_refuses).Direct
      (fun _ => True) (fun _ => True) ∧
    (Connection.mk (.serial ascii) (.serial ascii) clientLine serverLine config service channel ascii_refuses).Direct
      (fun _ => True) (fun _ => True) ∧
    (Connection.mk (.serial (rtuOverTcp crc16)) (.serial (rtuOverTcp crc16)) clientLine serverLine config service
      channel (rtu_refuses crc16)).Direct RequestPdu.Derivable ResponsePdu.Derivable :=
  ⟨Connection.direct tcp_peers tcp_conveys tcp_costsFrames fun _ => trivial,
    Connection.direct (serial_peers ascii) ascii_conveys ascii_costsFrames fun _ => trivial,
    Connection.direct (serial_peers _) (rtuOverTcp_conveys crc16) (rtuOverTcp_costsFrames crc16) fun _ => trivial⟩

def Channel.bytewise : Channel where
  requested _ := 0
  answered _ := 0
  closed _ := 0
  upstream _ bytes := bytes.map fun byte => ⟨0, .ok ⟨[byte], Nat.le_add_left 1 512⟩⟩
  downstream _ bytes := bytes.map fun byte => ⟨0, .ok ⟨[byte], Nat.le_add_left 1 512⟩⟩
  up_carries _ bytes := by
    induction bytes with
    | nil => exact .nil
    | cons byte rest ih => exact .cons (List.cons_ne_nil _ _) ih
  down_carries _ bytes := by
    induction bytes with
    | nil => exact .nil
    | cons byte rest ih => exact .cons (List.cons_ne_nil _ _) ih

def sevensOverTcp : Connection MbapHeader Nat :=
  ⟨.tcp, .tcp, .default, .default, ⟨some ⟨17⟩⟩, sevens, .bytewise, tcp_refuses⟩

/-- A read that is answered and a request that is refused. -/
theorem bytewise_calls_are_direct :
    let calls : List Call := [⟨⟨17⟩, .readHoldingRegisters ⟨0⟩ ⟨1⟩⟩, ⟨⟨17⟩, .readExceptionStatus⟩]
    let served := sevensOverTcp.service.direct calls 0
    let run := Client.callEach sevensOverTcp.client sevensOverTcp.transport calls
      (.withConfig (World.new 0 .exact .exact 0) .default)
    run.1 = [some (.ok (some (.readHoldingRegisters [⟨7⟩]))),
      some (.ok (some (.exception ⟨.readExceptionStatus, .illegalFunction⟩)))] ∧
    List.Forall₂ Served.Returned served.1 run.1 ∧
      run.2.transport.server.hooks = served.1.map Served.hook ∧ run.2.transport.server.service = served.2 := by
  intro calls served run
  have direct : sevensOverTcp.Direct (fun _ => True) (fun _ => True) :=
    (composed_calls_are_direct (fun _ => 0) sevens .default .default ⟨some ⟨17⟩⟩ .bytewise).1
  have results : run.1 = [some (.ok (some (.readHoldingRegisters [⟨7⟩]))),
      some (.ok (some (.exception ⟨.readExceptionStatus, .illegalFunction⟩)))] := by decide
  have received : run.2.transport.server.received = [.ok (⟨⟨1⟩, ⟨17⟩⟩, .readHoldingRegisters ⟨0⟩ ⟨1⟩),
      .ok (⟨⟨2⟩, ⟨17⟩⟩, .readExceptionStatus)] := by decide
  refine ⟨results, direct .default 0 _ _ 0 calls ?_ ?_ ?_ ?_⟩
  · intro call inside
    rcases List.mem_pair.mp inside with rfl | rfl
    · exact ⟨rfl, rfl, ⟨_, rfl⟩, id, trivial⟩
    · exact ⟨rfl, rfl, ⟨_, rfl⟩, id, trivial⟩
  · intro each inside
    rcases List.mem_pair.mp inside with rfl | rfl
    · exact ⟨rfl, ⟨_, rfl⟩, id, trivial⟩
    · exact ⟨1, rfl⟩
  · intro result inside ⟨what, late⟩
    change some result ∈ run.1 at inside
    simp [results, late] at inside
  · intro each inside ⟨what, late⟩
    change each ∈ run.2.transport.server.received at inside
    simp [received, late] at inside

end Modbus
