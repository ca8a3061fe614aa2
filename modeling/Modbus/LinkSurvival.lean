import Modbus.AsciiLine
import Modbus.ServerTrace

/-! What a self-locating link survives. The next frame can be found on the wire,
so only a failure of the stream itself may end a server's loop or a client's use of
the link; a frame that stalls on an ASCII line is the exception the code makes. -/
namespace Modbus

open Bytes ByteStream

def Error.failsStream : Error → Bool
  | .io _ _ | .connectionClosed => true
  | _ => false

/-- A frame has begun, is not complete, and nothing more comes before the timer has gone off. -/
def Ascii.Stalls (timeout : Nat) (link : Link) : Prop :=
  ∃ past coming, Ascii.Reading link past coming ∧ Ascii.Pending (Ascii.held link past) ∧
    Ascii.held link past ≠ [] ∧ ∀ time, ready (⟨0, coming, link.stream.ending, link.stream.timer⟩ : Line) = some time →
      link.stream.timer.fires (clock link.stream.now past + timeout) < time

def Withstands (framing : Framing Header) (config : TransportConfig) (link : Link) : Prop :=
  ∀ {direction limit e after}, Receive.readAdu framing config direction limit link = (some (.error e), after) →
    e.endsStream = true → e.failsStream = true

theorem endOfStream_fails (midAdu : Bool) : (endOfStream midAdu).failsStream = true := by
  cases midAdu <;> rfl

theorem rtu_withstands (crc16 : Bytes → UInt16) (config : TransportConfig) (link : Link) :
    Withstands (rtu crc16) config link := by
  intro direction limit e after failed ends
  obtain ⟨buffer, outcome⟩ := Receive.readUntilSilence_ends failed
  cases outcome with
  | tooLarge => cases ends
  | ended => exact endOfStream_fails false
  | failed => rfl

theorem ascii_withstands {config : TransportConfig} {link : Link}
    (unstalled : ¬Ascii.Stalls config.asciiInterCharacterTimeout link) : Withstands ascii config link := by
  intro direction limit e after failed ends
  obtain ⟨result, last, read, receives⟩ :=
    Ascii.readDelimited_receives config.asciiInterCharacterTimeout limit link
  cases read.symm.trans failed
  cases receives with
  | full => cases ends
  | elapsed reading pending begun late => exact absurd ⟨_, _, reading, pending, begun, late⟩ unstalled
  | ended => exact endOfStream_fails _
  | failed => rfl

section Receives

variable {Header α : Type} {framing : Framing Header} {config : TransportConfig} {direction : Direction}
  {limit : Option Nat} {reader after : Reader} {result : Result Bytes}

theorem recvAdu_free (free : reader.receiving = false)
    (received : recvAdu framing config direction limit reader = (some result, after)) :
    after.receiving = false := by
  cases recvAdu_received received with
  | latched latch => cases free.symm.trans latch
  | adu => rfl
  | failed => rfl

theorem received_fails {decode : Bytes → Result α} (costs : ∀ adu, CostsFrame (decode adu))
    (withstands : Withstands framing config reader.link) (free : reader.receiving = false)
    (received : recvAdu framing config direction limit reader = (some result, after)) {e : Error}
    (failed : result.bind decode = .error e) (ends : e.endsStream = true) : e.failsStream = true := by
  cases result with
  | ok adu =>
    have survivable := (costs adu).endsStream failed
    rw [ends] at survivable
    cases survivable
  | error _ =>
    cases failed
    cases recvAdu_received received with
    | latched latch => cases free.symm.trans latch
    | failed _ reading => exact withstands reading ends

end Receives

namespace Server

variable {Header σ : Type} {server : Server Header σ}

/-- The transport is ready for the next receive, or the connection ended for a reason of its own. -/
def Endures : Standing → Session Header σ → Prop
  | .serving, session => session.transport.reader.receiving = false
  | .waiting, _ => True
  | .ended reason, _ =>
    reason = .shuttingDown ∨ reason = .closed ∨ ∃ e : Error, reason = .failed e ∧ e.failsStream = true

theorem recvRequest_received {limit : Option Nat} {reader after : Reader}
    {received : Result (Header × RequestPdu)}
    (got : reader.recvRequest server.framing.toFraming server.line limit = (some received, after)) :
    ∃ result, recvAdu server.framing.toFraming server.line .request limit reader = (some result, after) ∧
      result.bind server.framing.decodeRequest = received := by
  unfold Reader.recvRequest at got
  rcases receiving : recvAdu server.framing.toFraming server.line .request limit reader with ⟨_ | result, last⟩
  all_goals
    rw [receiving] at got
    cases got
  exact ⟨result, rfl, rfl⟩

theorem Endures.turned (costs : server.framing.CostsFrames)
    (selfLocating : server.framing.boundary.isSelfLocating = true) {session after : Session Header σ}
    {standing : Standing} (withstands : Withstands server.framing.toFraming server.line session.transport.reader.link)
    (free : session.transport.reader.receiving = false) (turned : server.Turned session standing after) :
    Endures standing after := by
  cases turned with
  | shuttingDown => exact .inl rfl
  | waiting => trivial
  | handled got handled =>
    obtain ⟨result, receiving, decoded⟩ := recvRequest_received got
    have ready := recvAdu_free free receiving
    cases handled with
    | closed => exact .inr (.inl rfl)
    | failed _ ends =>
      rw [selfLocating, Bool.not_true, Bool.or_false] at ends
      exact .inr (.inr ⟨_, rfl, received_fails costs.decodeRequest withstands free receiving decoded ends⟩)
    | survived _ _ does => exact does.latch.trans ready
    | foreign _ does => exact does.latch.trans ready
    | answered _ does => exact does.latch.trans ready
    | unencodable _ _ _ does => exact does.latch.trans ready
    | unwritten => exact .inr (.inr ⟨_, rfl, rfl⟩)

/-- A connection none of whose receives stalls ends only with the stream or the server. -/
def Outlives (server : Server Header σ) (Stalls : Link → Prop) : Prop :=
  ∀ stream state,
    (∀ session, server.Reached (.new (.new stream) state) session → ¬Stalls session.transport.reader.link) →
    ∀ turns reason after, server.exchange turns (.new (.new stream) state) = (.ended reason, after) →
      reason = .shuttingDown ∨ reason = .closed ∨ ∃ e, reason = .failed e ∧ e.failsStream = true

theorem outlives (costs : server.framing.CostsFrames)
    (selfLocating : server.framing.boundary.isSelfLocating = true) {Stalls : Link → Prop}
    (withstands : ∀ link, ¬Stalls link → Withstands server.framing.toFraming server.line link) :
    server.Outlives Stalls := by
  intro stream state unstalled turns reason after ended
  have endures := server.exchange_rule costs (.new (.new stream) state) Endures rfl (by
    intro session standing after reached free turned
    exact Endures.turned costs selfLocating (withstands _ (unstalled session reached)) free turned) turns
  rw [ended] at endures
  exact endures

end Server

namespace Client

/-- The readers that a wait for a response receives from: each takes a frame off the one before. -/
inductive Receives (framing : Framing Header) (config : TransportConfig) (deadline : Nat) (start : Reader) :
    Reader → Prop
  | first : Receives framing config deadline start start
  | next {reader after : Reader} {adu : Bytes} : Receives framing config deadline start reader →
      recvAdu framing config .response (some deadline) reader = (some (.ok adu), after) →
      Receives framing config deadline start after

theorem Receives.cons {framing : Framing Header} {config : TransportConfig} {deadline : Nat}
    {start second reader : Reader} {adu : Bytes}
    (received : recvAdu framing config .response (some deadline) start = (some (.ok adu), second))
    (later : Receives framing config deadline second reader) : Receives framing config deadline start reader := by
  induction later with
  | first => exact .next .first received
  | next _ taken ih => exact .next ih taken

def Awaits (framing : Framing Header) (config : TransportConfig) (client : Client FrameTransport) : Reader → Prop :=
  let written : Reader := ⟨client.transport.reader.link.deliver client.transport.passage.written
    client.transport.passage.arrivals, false⟩
  Receives framing config
    (written.link.stream.timer.fires (written.link.stream.now + client.config.responseTimeout)) written

def Free (client : Client FrameTransport) : Prop :=
  client.isDesynchronized = true ∨ client.transport.reader.receiving = false

/-- If the client is unusable after this result, the stream failed or the response was due. -/
def Excused (result : Result (Option ResponsePdu)) (client : Client FrameTransport) : Prop :=
  client.isDesynchronized = true → ∃ e, result = .error e ∧ (e.failsStream = true ∨ e = .timeout "response")

section Calls

variable {framing : Framing UnitId} (config : TransportConfig)
  (refuses : ∀ received, framing.decodeResponse [] ≠ .ok received)

variable {config refuses} in
theorem awaitResponse_outlives (costs : framing.CostsFrames) (selfLocating : framing.boundary.isSelfLocating = true)
    {header : UnitId} {expected : FunctionCode} {deadline fuel : Nat} {client after : Client FrameTransport}
    {result : Result (Option ResponsePdu)}
    (awaited : awaitResponse (.serial framing) (FrameTransport.clientTransport framing config refuses) header
      expected deadline none fuel client = (some result, after))
    (free : client.transport.reader.receiving = false) :
    after.Free ∧ ((∀ reader, Receives framing config deadline client.transport.reader reader →
      Withstands framing config reader.link) → Excused result after) := by
  induction fuel generalizing client with
  | zero => cases awaited
  | succ fuel ih =>
    rw [awaitResponse, waitUntil] at awaited
    rcases receiving : recvAdu framing config .response (some deadline) client.transport.reader with
      ⟨_ | received, reader⟩
    · simp only [FrameTransport.clientTransport, FrameTransport.recvResponse, receiving, Nat.lt_irrefl,
        if_false] at awaited
      cases awaited
      exact ⟨.inl rfl, fun _ _ => ⟨_, rfl, .inr rfl⟩⟩
    · have ready := recvAdu_free free receiving
      simp only [FrameTransport.clientTransport, FrameTransport.recvResponse, receiving] at awaited
      cases decoded : received.bind framing.decodeResponse with
      | error e =>
        simp only [decoded] at awaited
        cases awaited
        refine ⟨.inr ready, ?_⟩
        intro withstands unusable
        refine ⟨e, rfl, .inl ?_⟩
        apply received_fails costs.decodeResponse (withstands _ .first) free receiving decoded
        by_contra survivable
        simp [isDesynchronized, ClientFraming.serial, selfLocating, survivable] at unusable
      | ok answer =>
        obtain ⟨headerIn, response⟩ := answer
        simp only [decoded] at awaited
        split at awaited
        · split at awaited
          all_goals
            cases awaited
            refine ⟨.inr ready, ?_⟩
            intro _ unusable
            cases unusable
        · obtain ⟨stays, excused⟩ := ih awaited ready
          refine ⟨stays, ?_⟩
          intro withstands
          apply excused
          intro later receives
          cases received with
          | error e => cases decoded
          | ok adu => exact withstands later (.cons receiving receives)

theorem call_outlives (costs : framing.CostsFrames) (selfLocating : framing.boundary.isSelfLocating = true)
    (encodes : ∀ header (request : RequestPdu), (∃ adu, framing.encodeRequest header request = .ok adu) ↔
      ∃ data, request.encode = .ok data)
    (unit : UnitId) (request : RequestPdu) (client : Client FrameTransport) (ready : client.Free) :
    ∃ result after, call (.serial framing) (FrameTransport.clientTransport framing config refuses) unit request
        none client = (some result, after) ∧ after.Free ∧
      (client.isDesynchronized = false →
        (∀ reader, Awaits framing config client reader → Withstands framing config reader.link) →
          Excused result after) := by
  have returns : (call (.serial framing) (FrameTransport.clientTransport framing config refuses) unit request
      none client).1 ≠ none := by
    apply call_returns
    intro header pdu state unsent
    obtain ⟨_, _, sending, _⟩ := FrameTransport.sendRequest_sent framing header pdu state
    cases (congrArg Prod.fst sending).symm.trans unsent
  rcases called : call (.serial framing) (FrameTransport.clientTransport framing config refuses) unit request
    none client with ⟨_ | result, after⟩
  · exact absurd (congrArg Prod.fst called) returns
  · refine ⟨result, after, rfl, ?_⟩
    cases usable : client.isDesynchronized with
    | true =>
      rw [call_desynchronized usable] at called
      cases called
      refine ⟨ready, ?_⟩
      intro impossible
      cases impossible
    | false =>
      have free : client.transport.reader.receiving = false := by
        rcases ready with unusable | free
        · rw [usable] at unusable
          cases unusable
        · exact free
      cases encoded : request.encode with
      | error e =>
        rw [call_unencodable usable encoded] at called
        cases called
        refine ⟨ready, ?_⟩
        intro _ _ unusable
        cases usable.symm.trans unusable
      | ok pdu =>
        obtain ⟨sent, state, sending, course⟩ := FrameTransport.sendRequest_sent framing unit request client.transport
        cases course with
        | unencodable fails =>
          obtain ⟨adu, works⟩ := (encodes unit request).mpr ⟨pdu, encoded⟩
          cases works.symm.trans fails
        | broken =>
          rw [call_unsent usable encoded sending] at called
          cases called
          exact ⟨.inl rfl, fun _ _ _ => ⟨_, rfl, .inl rfl⟩⟩
        | written _ _ _ delivered =>
          rw [free] at delivered
          have open_again : state.reader.receiving = false := congrArg Reader.receiving delivered
          rw [call_sent usable encoded sending] at called
          split at called
          · cases called
            refine ⟨.inr open_again, ?_⟩
            intro _ _ unusable
            cases usable.symm.trans unusable
          · obtain ⟨stays, excused⟩ := awaitResponse_outlives costs selfLocating called open_again
            refine ⟨stays, ?_⟩
            intro _ withstands
            apply excused
            intro reader receives
            apply withstands
            rw [Awaits, ← delivered]
            exact receives

theorem calls_free (costs : framing.CostsFrames) (selfLocating : framing.boundary.isSelfLocating = true)
    (encodes : ∀ header (request : RequestPdu), (∃ adu, framing.encodeRequest header request = .ok adu) ↔
      ∃ data, request.encode = .ok data) (exchanges : List Exchange) {client : Client FrameTransport}
    (ready : client.Free) :
    (calls (.serial framing) (FrameTransport.clientTransport framing config refuses) exchanges client).2.Free := by
  induction exchanges generalizing client with
  | nil => exact ready
  | cons exchange rest ih =>
    obtain ⟨result, after, called, stays, _⟩ := call_outlives config refuses costs selfLocating encodes
      exchange.unit exchange.request
      { client with transport := { client.transport with passage := exchange.passage } } ready
    rw [calls, called]
    exact ih stays

/-- After any calls, one more that finds the client usable and does not stall leaves it usable,
unless the stream failed or the response was due. -/
def Outlives (framing : Framing UnitId) (config : TransportConfig)
    (refuses : ∀ received, framing.decodeResponse [] ≠ .ok received) (Stalls : Link → Prop) : Prop :=
  ∀ responses stream exchanges (exchange : Exchange),
    let before := (calls (.serial framing) (FrameTransport.clientTransport framing config refuses) exchanges
      (.withConfig (.new stream) responses)).2
    let client := { before with transport := { before.transport with passage := exchange.passage } }
    client.isDesynchronized = false → (∀ reader, client.Awaits framing config reader → ¬Stalls reader.link) →
    ∃ result after, call (.serial framing) (FrameTransport.clientTransport framing config refuses) exchange.unit
      exchange.request none client = (some result, after) ∧ Excused result after

theorem outlives (costs : framing.CostsFrames) (selfLocating : framing.boundary.isSelfLocating = true)
    {spelling : Bytes → Bytes} (trips : framing.RoundTrips spelling) {Stalls : Link → Prop}
    (withstands : ∀ link, ¬Stalls link → Withstands framing config link) :
    Outlives framing config refuses Stalls := by
  intro responses stream exchanges exchange before client usable unstalled
  have ready : before.Free :=
    calls_free config refuses costs selfLocating trips.request_encodes exchanges (.inr rfl)
  obtain ⟨result, after, called, _, excused⟩ := call_outlives config refuses costs selfLocating
    trips.request_encodes exchange.unit exchange.request client ready
  exact ⟨result, after, called,
    excused usable fun reader awaits => withstands reader.link (unstalled reader awaits)⟩

end Calls

end Client

/-- On a self-locating link, server and client give up only with the stream or a deadline: always
over RTU, and over ASCII as long as no frame stalls. -/
theorem self_locating_link_outlives_frames (crc16 : Bytes → UInt16) {σ : Type} (line : TransportConfig)
    (config : ServerConfig) (service : Service σ) (shutdown : Option Nat) (passages : Nat → Passage) :
    (Server.mk (.serial (rtu crc16)) line config service shutdown passages).Outlives (fun _ => False) ∧
    (Server.mk (.serial ascii) line config service shutdown passages).Outlives
      (Ascii.Stalls line.asciiInterCharacterTimeout) ∧
    Client.Outlives (rtu crc16) line (rtu_refuses crc16) (fun _ => False) ∧
    Client.Outlives ascii line ascii_refuses (Ascii.Stalls line.asciiInterCharacterTimeout) := by
  refine ⟨Server.outlives (rtu_costsFrames crc16) rfl ?_, Server.outlives ascii_costsFrames rfl ?_,
    Client.outlives line _ (rtu_costsFrames crc16) rfl (Framing.roundTrips (Rtu.seals crc16)) ?_,
    Client.outlives line _ ascii_costsFrames rfl (Framing.roundTrips Ascii.seals) ?_⟩
  · exact fun link _ => rtu_withstands crc16 line link
  · exact fun link unstalled => ascii_withstands unstalled
  · exact fun link _ => rtu_withstands crc16 line link
  · exact fun link unstalled => ascii_withstands unstalled

theorem Ascii.prompt_unstalled {timeout : Nat} {link : Link} (closing : Nat) (ending : link.stream.ending = some closing)
    (prompt : ∀ time ∈ closing :: link.stream.arrivals.map Arrival.time, time ≤ link.stream.now + timeout) :
    ¬Ascii.Stalls timeout link := by
  intro ⟨past, coming, reading, _, _, late⟩
  have later := le_clock link.stream.now past
  have next : ∃ time ∈ closing :: link.stream.arrivals.map Arrival.time,
      ready (⟨0, coming, link.stream.ending, link.stream.timer⟩ : Line) = some time := by
    rw [reading.arrivals]
    cases coming with
    | nil => exact ⟨closing, List.mem_cons_self, ending⟩
    | cons arrival rest => exact ⟨arrival.time, by simp, rfl⟩
  obtain ⟨time, inside, first⟩ := next
  have slow := late time first
  have fast := prompt time inside
  have patient := link.stream.timer.patient (clock link.stream.now past + timeout)
  omega

/-- A frame with a wrong checksum, then the close. -/
theorem wrong_checksum_survived :
    let server := Server.mk (.serial ascii) .default ⟨none⟩ sevens none fun _ => ⟨0, 0, none, []⟩
    let start : Session UnitId Nat := .new (.new ⟨0, [⟨0, .ok ⟨[0x3A, 0x31, 0x31, 0x30, 0x37, 0x45, 0x39, 0x0D, 0x0A],
      by decide⟩⟩], some 9, millisecondTimer⟩) 0
    (∀ session, server.Reached start session →
      ¬Ascii.Stalls TransportConfig.default.asciiInterCharacterTimeout session.transport.reader.link) ∧
    ∀ turns reason after, server.exchange turns start = (.ended reason, after) →
      reason = .shuttingDown ∨ reason = .closed ∨ ∃ e, reason = .failed e ∧ e.failsStream = true := by
  intro server start
  have unstalled : ∀ session, server.Reached start session →
      ¬Ascii.Stalls TransportConfig.default.asciiInterCharacterTimeout session.transport.reader.link := by
    intro session ⟨turns, reached⟩
    obtain rfl : (server.exchange turns start).2 = session := congrArg Prod.snd reached
    match turns with
    | 0 => exact Ascii.prompt_unstalled 9 (by decide) (by decide)
    | 1 => exact Ascii.prompt_unstalled 9 (by decide) (by decide)
    | turns + 2 =>
      have closed : (server.exchange 2 start).1 = .ended .closed := by decide
      rw [Nat.add_comm, server.exchange_ended closed] at reached
      cases closed.symm.trans (congrArg Prod.fst reached)
  exact ⟨unstalled, (self_locating_link_outlives_frames (fun _ => 0) .default ⟨none⟩ sevens none
    fun _ => ⟨0, 0, none, []⟩).2.1 _ 0 unstalled⟩

/-- Three characters, two seconds of silence, then a good frame: server and client give up a link
whose next receive succeeds. -/
theorem stalled_frame_ends_the_link :
    let server := Server.mk (.serial ascii) .default ⟨none⟩ sevens none fun _ => ⟨0, 0, none, []⟩
    let served := server.exchange 1 (.new (.new ⟨0, [⟨0, .ok ⟨[0x3A, 0x31, 0x31], by decide⟩⟩, ⟨2000000000,
      .ok ⟨[0x3A, 0x31, 0x31, 0x30, 0x37, 0x45, 0x38, 0x0D, 0x0A], by decide⟩⟩], none, millisecondTimer⟩) 0)
    let called := Client.call (.serial ascii) (FrameTransport.clientTransport ascii .default ascii_refuses) ⟨17⟩
      .readExceptionStatus none (.withConfig { FrameTransport.new ⟨0, [], none, millisecondTimer⟩ with
        passage := ⟨0, 0, none, [⟨0, .ok ⟨[0x3A, 0x31, 0x31], by decide⟩⟩, ⟨2000000000, .ok ⟨[0x3A, 0x31, 0x31,
          0x30, 0x37, 0x35, 0x35, 0x39, 0x33, 0x0D, 0x0A], by decide⟩⟩]⟩ } ⟨5000000000⟩)
    served.1 = .ended (.failed (.timeout "ascii inter-character")) ∧
    (served.2.transport.recvRequest ascii .default none).1 = some (.ok (⟨17⟩, .readExceptionStatus)) ∧
    called.1 = some (.error (.timeout "ascii inter-character")) ∧ called.2.state = .unusable .silent ∧
    (called.2.transport.recvResponse ascii .default none).1 =
      some (.ok (⟨17⟩, .readExceptionStatus ⟨0x55⟩)) := by
  decide

end Modbus
