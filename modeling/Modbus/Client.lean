import Modbus.Transport

/-! The sequential client: one request at a time over any transport. The
transport is a parameter, as it is in the source; what a received header has to
do with a sent one is the framing's. -/
namespace Modbus

open Bytes

/-- What a client does differently per framing. -/
structure ClientFraming (Header : Type) extends Framing Header where
  requestHeader : UnitId → TransactionId → Header
  isResponseTo : Header → Header → Bool
  isBroadcast : UnitId → Bool

namespace ClientFraming

def tcp : ClientFraming MbapHeader where
  toFraming := Modbus.tcp
  requestHeader unit transaction := ⟨transaction, unit⟩
  isResponseTo sent received := sent == received
  isBroadcast _ := false

/-- The serial framings share their client behaviour: the header is the address. -/
def serial (framing : Framing UnitId) : ClientFraming UnitId where
  toFraming := framing
  requestHeader unit _ := unit
  isResponseTo sent received := sent == received
  isBroadcast unit := unit == broadcastUnit

end ClientFraming

structure ClientConfig where
  responseTimeout : Nat
  deriving DecidableEq, Repr

/-- Nanoseconds: one second. -/
def ClientConfig.default : ClientConfig := ⟨1000000000⟩

inductive UnusableReason where
  | peerClosed
  | io (kind : ErrorKind)
  | silent
  | undecodable
  deriving DecidableEq, Repr

inductive ClientState where
  | untried | answered | unanswered
  | unusable (reason : UnusableReason)
  deriving DecidableEq, Repr

def classifyUnusableReason : Error → UnusableReason
  | .connectionClosed => .peerClosed
  | .io kind _ => if kind = .unexpectedEof then .peerClosed else .io kind
  | .timeout _ => .silent
  | _ => .undecodable

/-- The identifier after `current`, wrapping to 1 rather than to 0. -/
def next (current : TransactionId) : TransactionId :=
  if current.raw.toNat + 1 < 65536 then ⟨current.raw + 1⟩ else ⟨1⟩

/-- The identifier of the allocation with this number. -/
def idOf (number : Nat) : TransactionId := ⟨UInt16.ofNat (number % 65535 + 1)⟩

theorem idOf_toNat (number : Nat) : (idOf number).raw.toNat = number % 65535 + 1 := by
  have small : number % 65535 < 65535 := Nat.mod_lt _ (by decide)
  rw [idOf, UInt16.toNat_ofNat', Nat.mod_eq_of_lt (by omega)]

theorem idOf_inj {first second : Nat} : idOf first = idOf second ↔ first % 65535 = second % 65535 := by
  constructor
  · intro same
    have numbers := congrArg (fun id => id.raw.toNat) same
    simp only [idOf_toNat] at numbers
    omega
  · intro same
    rw [idOf, idOf, same]

theorem next_idOf (number : Nat) : next (idOf number) = idOf (number + 1) := by
  have value := idOf_toNat number
  unfold next
  split
  · next room =>
    have following := idOf_toNat (number + 1)
    have sum : ((idOf number).raw + 1).toNat = (idOf number).raw.toNat + 1 := by
      rw [UInt16.toNat_add]
      exact Nat.mod_eq_of_lt room
    have same : (idOf number).raw + 1 = (idOf (number + 1)).raw := by
      apply UInt16.toNat_inj.mp
      omega
    rw [same]
  · have wrapped : (number + 1) % 65535 = 0 := by omega
    rw [idOf, wrapped]
    rfl

/-- A transport and all it depends on, in a state `σ`. An operation without a result was abandoned;
every response uses up part of what is to come. -/
structure ClientTransport (Header σ : Type) where
  now : σ → Nat
  timer : σ → Timer
  sendRequest : Header → RequestPdu → Option Nat → σ → Option (Result Unit) × σ
  recvResponse : Option Nat → σ → Option (Result (Header × ResponsePdu)) × σ
  remaining : σ → Nat
  consumes : ∀ {limit state received after},
    recvResponse limit state = (some (.ok received), after) → remaining after < remaining state

/-- When a wait that begins now runs out. -/
def ClientTransport.expiry {Header σ : Type} (transport : ClientTransport Header σ) (timeout : Nat)
    (state : σ) : Nat :=
  (transport.timer state).fires (transport.now state + timeout)

structure Client (σ : Type) where
  transport : σ
  config : ClientConfig
  nextTransaction : TransactionId
  state : ClientState

namespace Client

variable {Header σ : Type}

def withConfig (transport : σ) (config : ClientConfig) : Client σ := ⟨transport, config, ⟨1⟩, .untried⟩

def isDesynchronized (client : Client σ) : Bool :=
  match client.state with
  | .unusable _ => true
  | _ => false

/-- The earlier of the moment the response deadline goes off and the moment the caller gives up. -/
def waitUntil (deadline : Nat) (limit : Option Nat) : Nat :=
  match limit with
  | none => deadline
  | some limit => min deadline limit

/-- The response loop. The fuel counts receives; `call` supplies enough. -/
def awaitResponse (framing : ClientFraming Header) (transport : ClientTransport Header σ)
    (header : Header) (expected : FunctionCode) (deadline : Nat) (limit : Option Nat) :
    Nat → Client σ → Option (Result (Option ResponsePdu)) × Client σ
  | 0, client => (none, client)
  | fuel + 1, client =>
    match transport.recvResponse (some (waitUntil deadline limit)) client.transport with
    | (none, state) =>
      if waitUntil deadline limit < deadline then
        (none, { client with transport := state })
      else
        (some (.error (.timeout "response")),
          { client with transport := state, state := .unusable .silent })
    | (some (.error e), state) =>
      (some (.error e), { client with
        transport := state
        state := if e.endsStream || !framing.boundary.isSelfLocating
          then .unusable (classifyUnusableReason e) else .unanswered })
    | (some (.ok (received, response)), state) =>
      if framing.isResponseTo header received then
        let client := { client with transport := state, state := .answered }
        if response.function ≠ expected then
          (some (.error (.unexpectedFunction expected response.function)), client)
        else (some (.ok (some response)), client)
      else awaitResponse framing transport header expected deadline limit fuel
        { client with transport := state }

def call (framing : ClientFraming Header) (transport : ClientTransport Header σ) (unit : UnitId)
    (request : RequestPdu) (limit : Option Nat) (client : Client σ) :
    Option (Result (Option ResponsePdu)) × Client σ :=
  if client.isDesynchronized then (some (.error .desynchronized), client)
  else match request.encode with
    | .error e => (some (.error e), client)
    | .ok _ =>
      let header := framing.requestHeader unit client.nextTransaction
      match transport.sendRequest header request limit client.transport with
      | (none, state) => (none, { client with transport := state })
      | (some (.error e), state) =>
        (some (.error e),
          { client with transport := state, state := .unusable (classifyUnusableReason e) })
      | (some (.ok ()), state) =>
        let client :=
          { client with transport := state, nextTransaction := next client.nextTransaction }
        if framing.isBroadcast unit then (some (.ok none), client)
        else awaitResponse framing transport header request.function
          (transport.expiry client.config.responseTimeout state) limit
          (transport.remaining state + 1) client

section Call

variable {framing : ClientFraming Header} {transport : ClientTransport Header σ} {unit : UnitId}
  {request : RequestPdu} {limit : Option Nat} {client : Client σ} {state : σ} {e : Error} {pdu : Bytes}

theorem call_desynchronized (unusable : client.isDesynchronized = true) :
    call framing transport unit request limit client = (some (.error .desynchronized), client) := by
  rw [call, if_pos unusable]

theorem call_unencodable (usable : client.isDesynchronized = false) (fails : request.encode = .error e) :
    call framing transport unit request limit client = (some (.error e), client) := by
  simp [call, usable, fails]

theorem call_unsent (usable : client.isDesynchronized = false) (encodes : request.encode = .ok pdu)
    (sending : transport.sendRequest (framing.requestHeader unit client.nextTransaction) request limit
      client.transport = (some (.error e), state)) :
    call framing transport unit request limit client = (some (.error e),
      { client with transport := state, state := .unusable (classifyUnusableReason e) }) := by
  simp [call, usable, encodes, sending]

theorem call_dropped (usable : client.isDesynchronized = false) (encodes : request.encode = .ok pdu)
    (sending : transport.sendRequest (framing.requestHeader unit client.nextTransaction) request limit
      client.transport = (none, state)) :
    call framing transport unit request limit client = (none, { client with transport := state }) := by
  simp [call, usable, encodes, sending]

theorem call_sent (usable : client.isDesynchronized = false) (encodes : request.encode = .ok pdu)
    (sending : transport.sendRequest (framing.requestHeader unit client.nextTransaction) request limit
      client.transport = (some (.ok ()), state)) :
    call framing transport unit request limit client =
      if framing.isBroadcast unit then (some (.ok none),
        { client with transport := state, nextTransaction := next client.nextTransaction })
      else awaitResponse framing transport (framing.requestHeader unit client.nextTransaction)
        request.function (transport.expiry client.config.responseTimeout state) limit
        (transport.remaining state + 1)
        { client with transport := state, nextTransaction := next client.nextTransaction } := by
  simp [call, usable, encodes, sending]

end Call

section Keeps

variable {framing : ClientFraming Header} {transport : ClientTransport Header σ} (Holds : σ → Prop)
  (receives : ∀ limit state, Holds state → Holds (transport.recvResponse limit state).2) {client : Client σ}
include receives

theorem awaitResponse_keeps (holds : Holds client.transport) (header : Header) (expected : FunctionCode)
    (deadline : Nat) (limit : Option Nat) (fuel : Nat) :
    Holds (awaitResponse framing transport header expected deadline limit fuel client).2.transport := by
  induction fuel generalizing client with
  | zero => exact holds
  | succ fuel ih =>
    have still := receives (some (waitUntil deadline limit)) client.transport holds
    rw [awaitResponse]
    rcases received : transport.recvResponse (some (waitUntil deadline limit)) client.transport with
      ⟨_ | e | ⟨headerIn, response⟩, after⟩
    all_goals rw [received] at still
    · simp only
      split <;> exact still
    · exact still
    · simp only
      split
      · split <;> exact still
      · exact ih still

theorem call_keeps (sends : ∀ header request limit state, Holds state →
      Holds (transport.sendRequest header request limit state).2) (holds : Holds client.transport)
    (unit : UnitId) (request : RequestPdu) (limit : Option Nat) :
    Holds (call framing transport unit request limit client).2.transport := by
  cases usable : client.isDesynchronized with
  | true =>
    rw [call_desynchronized usable]
    exact holds
  | false =>
    cases encodes : request.encode with
    | error e =>
      rw [call_unencodable usable encodes]
      exact holds
    | ok pdu =>
      have still := sends (framing.requestHeader unit client.nextTransaction) request limit client.transport holds
      rcases sending : transport.sendRequest (framing.requestHeader unit client.nextTransaction) request limit
        client.transport with ⟨_ | e | _, after⟩
      all_goals rw [sending] at still
      · rw [call_dropped usable encodes sending]
        exact still
      · rw [call_unsent usable encodes sending]
        exact still
      · rw [call_sent usable encodes sending]
        split
        · exact still
        · exact awaitResponse_keeps Holds receives still _ _ _ _ _

end Keeps

@[simp] theorem awaitResponse_nextTransaction (framing : ClientFraming Header)
    (transport : ClientTransport Header σ) (header : Header) (expected : FunctionCode) (deadline : Nat)
    (limit : Option Nat) (fuel : Nat) (client : Client σ) :
    (awaitResponse framing transport header expected deadline limit fuel client).2.nextTransaction =
      client.nextTransaction := by
  induction fuel generalizing client with
  | zero => rfl
  | succ fuel ih =>
    rw [awaitResponse]
    rcases transport.recvResponse (some (waitUntil deadline limit)) client.transport with
      ⟨_ | e | ⟨received, response⟩, after⟩
    · simp only
      split <;> rfl
    · rfl
    · simp only
      split
      · split <;> rfl
      · exact ih _

/-- With a receive for everything still to come, the loop ends before its fuel does. -/
theorem awaitResponse_returns {framing : ClientFraming Header} {transport : ClientTransport Header σ}
    {header : Header} {expected : FunctionCode} {deadline fuel : Nat} {client : Client σ}
    (enough : transport.remaining client.transport < fuel) :
    (awaitResponse framing transport header expected deadline none fuel client).1 ≠ none := by
  induction fuel generalizing client with
  | zero => omega
  | succ fuel ih =>
    rw [awaitResponse]
    rcases received : transport.recvResponse (some (waitUntil deadline none)) client.transport with
      ⟨_ | e | ⟨headerIn, response⟩, after⟩
    · simp [waitUntil]
    · simp
    · have shorter := transport.consumes received
      by_cases matching : framing.isResponseTo header headerIn = true
      · by_cases same : response.function = expected
        · simp [matching, same]
        · simp [matching, same]
      · simp only [matching]
        exact ih (by simp only; omega)

theorem call_returns {framing : ClientFraming Header} {transport : ClientTransport Header σ}
    (sends : ∀ header request state, (transport.sendRequest header request none state).1 ≠ none)
    (unit : UnitId) (request : RequestPdu) (client : Client σ) :
    (call framing transport unit request none client).1 ≠ none := by
  cases usable : client.isDesynchronized with
  | true => simp [call_desynchronized usable]
  | false =>
    cases encodes : request.encode with
    | error e => simp [call_unencodable usable encodes]
    | ok pdu =>
      have sent := sends (framing.requestHeader unit client.nextTransaction) request client.transport
      rcases sending : transport.sendRequest (framing.requestHeader unit client.nextTransaction) request
        none client.transport with ⟨_ | e | _, after⟩
      · exact absurd (congrArg Prod.fst sending) sent
      · simp [call_unsent usable encodes sending]
      · rw [call_sent usable encodes sending]
        split
        · simp
        · exact awaitResponse_returns (Nat.lt_succ_self _)

end Client

end Modbus
