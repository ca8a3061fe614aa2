import Modbus.SerialExchange

/-! What a client puts on its stream over a sequence of calls, with writes that
stop short and callers that drop a call: whole requests, and at most one cut
short after which nothing follows, as long as no call is dropped part-way
through its own write. -/
namespace Modbus

open Bytes ByteStream

section Records

variable {α : Type} {Whole : List α → Prop}

/-- Whole records, and at most one more cut short. -/
def Framed (Whole : List α → Prop) (log : List α) : Prop :=
  ∃ (records : List (List α)) (part : List α), (∀ record ∈ records, Whole record) ∧
    log = records.flatten ++ part ∧ (part = [] ∨ ∃ record, Whole record ∧ part <+: record ∧ part ≠ record)

theorem framed_next {records : List (List α)} {record part : List α}
    (whole : ∀ record ∈ records, Whole record) (next : Whole record) (begins : part <+: record) :
    Framed Whole (records.flatten ++ part) := by
  by_cases complete : part = record
  · subst complete
    refine ⟨records ++ [part], [], fun other inside => ?_, by simp, .inl rfl⟩
    obtain old | new := List.mem_append.mp inside
    · exact whole other old
    · rwa [List.mem_singleton.mp new]
  · exact ⟨records, part, whole, rfl, .inr ⟨record, next, begins, complete⟩⟩

theorem Framed.sofar {log sofar : List α} (framed : Framed Whole log) (earlier : sofar <+: log) :
    Framed Whole sofar := by
  obtain ⟨records, part, whole, rfl, cut⟩ := framed
  induction records generalizing sofar with
  | nil =>
    rw [List.flatten_nil, List.nil_append] at earlier
    obtain rfl | ⟨record, next, begins, _⟩ := cut
    · rw [List.prefix_nil.mp earlier]
      exact ⟨[], [], whole, rfl, .inl rfl⟩
    · exact framed_next whole next (earlier.trans begins)
  | cons record records ih =>
    obtain ⟨head, tail⟩ := List.forall_mem_cons.mp whole
    obtain ⟨later, same⟩ := earlier
    rw [List.flatten_cons, List.append_assoc] at same
    obtain ⟨rest, rfl, _⟩ | ⟨rest, rfl, remains⟩ := List.append_eq_append_iff.mp same
    · exact @framed_next _ _ [] _ _ (by simp) head (List.prefix_append _ _)
    · obtain ⟨others, part, all, rfl, cut⟩ := ih tail ⟨later, remains.symm⟩
      exact ⟨record :: others, part, List.forall_mem_cons.mpr ⟨head, all⟩, by simp, cut⟩

end Records

def Framing.IsRequest (framing : Framing Header) (adu : Bytes) : Prop :=
  ∃ header request, framing.encodeRequest header request = .ok adu

/-- A call: the pause before it, what it asks for, when its caller drops it, and what becomes
of its request. -/
structure Invocation where
  pause : Nat
  unit : UnitId
  request : RequestPdu
  limit : Option Nat
  passage : Passage

/-- What a request leaves on the wire, however its sending ends. -/
inductive FrameTransport.Puts (transport : FrameTransport) (encoded : Result Bytes) (limit : Option Nat) :
    Option (Result Unit) → Bytes → Prop
  | unencodable {e : Error} : encoded = .error e → Puts transport encoded limit (some (.error e)) []
  | written {adu : Bytes} : encoded = .ok adu → Puts transport encoded limit (some (.ok ())) adu
  | broken {adu : Bytes} {e : Error} : encoded = .ok adu →
      Puts transport encoded limit (some (.error e)) (adu.take transport.passage.accepted)
  | dropped {adu : Bytes} : encoded = .ok adu →
      ¬Within (max transport.reader.link.stream.now transport.passage.written) limit →
      Puts transport encoded limit none (adu.take transport.passage.accepted)

theorem FrameTransport.sendRequest_puts {framing : Framing Header} {header : Header} {pdu : RequestPdu}
    {limit : Option Nat} {transport after : FrameTransport} {result : Option (Result Unit)}
    (sent : transport.sendRequest framing header pdu limit = (result, after)) :
    ∃ bytes, after.wire = transport.wire ++ bytes ∧
      transport.Puts (framing.encodeRequest header pdu) limit result bytes := by
  unfold sendRequest at sent
  unfold Framing.encodeRequest ByteWriter.allocating
  rcases running : (framing.encodeRequestInto header pdu).run [] with ⟨e | _, outgoing⟩
  all_goals rw [running] at sent
  · cases sent
    exact ⟨[], (List.append_nil _).symm, .unencodable rfl⟩
  · simp only [send] at sent
    split at sent
    · split at sent
      · cases sent
        exact ⟨_, rfl, .broken rfl⟩
      · cases sent
        exact ⟨_, rfl, .written rfl⟩
    · next late =>
      cases sent
      exact ⟨_, rfl, .dropped rfl late⟩

theorem FrameTransport.recvResponse_wire (framing : Framing Header) (config : TransportConfig)
    (limit : Option Nat) (transport : FrameTransport) :
    (transport.recvResponse framing config limit).2.wire = transport.wire := by
  unfold recvResponse
  split <;> rfl

namespace Client

variable {Header : Type} (framing : ClientFraming Header) (config : TransportConfig)
  (refuses : ∀ received, framing.decodeResponse [] ≠ .ok received)

def before (invocation : Invocation) (client : Client FrameTransport) : Client FrameTransport :=
  { client with transport :=
      { client.transport.elapse invocation.pause with passage := invocation.passage } }

def invoke (invocation : Invocation) (client : Client FrameTransport) : Client FrameTransport :=
  (call framing (FrameTransport.clientTransport framing.toFraming config refuses) invocation.unit
    invocation.request invocation.limit (client.before invocation)).2

def invokeEach : List Invocation → Client FrameTransport → Client FrameTransport
  | [], client => client
  | invocation :: rest, client => invokeEach rest (client.invoke framing config refuses invocation)

def encodes (invocation : Invocation) (client : Client FrameTransport) : Result Bytes :=
  framing.encodeRequest (framing.requestHeader invocation.unit client.nextTransaction) invocation.request

/-- The caller drops the call when its write has put some bytes on the wire, but not all. -/
def Tears (invocation : Invocation) (client : Client FrameTransport) : Prop :=
  client.isDesynchronized = false ∧ ∃ adu, client.encodes framing invocation = .ok adu ∧
    (0 < invocation.passage.accepted ∧ invocation.passage.accepted < adu.length) ∧
    ¬Within (max (client.before invocation).transport.reader.link.stream.now invocation.passage.written)
      invocation.limit

/-- Every write is driven to its end, or dropped before its first or after its last byte. -/
def Driven : List Invocation → Client FrameTransport → Prop
  | [], _ => True
  | invocation :: rest, client =>
    ¬client.Tears framing invocation ∧ Driven rest (client.invoke framing config refuses invocation)

def LeavesPart (invocation : Invocation) (client : Client FrameTransport) : Prop :=
  ∃ adu part, client.encodes framing invocation = .ok adu ∧ part <+: adu ∧ part ≠ [] ∧ part ≠ adu ∧
    (client.invoke framing config refuses invocation).transport.wire = client.transport.wire ++ part

/-- What a call that is not torn does to the wire. -/
inductive Wrote (invocation : Invocation) (client after : Client FrameTransport) : Prop
  | nothing : after.transport.wire = client.transport.wire → Wrote invocation client after
  | whole {adu : Bytes} : client.encodes framing invocation = .ok adu →
      after.transport.wire = client.transport.wire ++ adu → Wrote invocation client after
  | cut {adu part : Bytes} : client.encodes framing invocation = .ok adu → part <+: adu →
      after.transport.wire = client.transport.wire ++ part → after.isDesynchronized = true →
      Wrote invocation client after

variable {framing config refuses} {invocation : Invocation} {client : Client FrameTransport}

theorem before_wire : (client.before invocation).transport.wire = client.transport.wire := rfl

theorem before_accepted :
    (client.before invocation).transport.passage.accepted = invocation.passage.accepted := rfl

theorem invoke_desynchronized (unusable : client.isDesynchronized = true) :
    client.invoke framing config refuses invocation = client.before invocation := by
  have still : (client.before invocation).isDesynchronized = true := unusable
  rw [invoke, call_desynchronized still]

theorem invokeEach_desynchronized (invocations : List Invocation)
    (unusable : client.isDesynchronized = true) :
    (client.invokeEach framing config refuses invocations).transport.wire = client.transport.wire := by
  induction invocations generalizing client with
  | nil => rfl
  | cons invocation rest ih =>
    have stays := @invoke_desynchronized _ framing config refuses invocation client unusable
    rw [invokeEach, stays]
    exact ih unusable

theorem invoke_wrote (driven : ¬client.Tears framing invocation) :
    client.Wrote framing invocation (client.invoke framing config refuses invocation) := by
  cases usable : client.isDesynchronized with
  | true =>
    rw [invoke_desynchronized usable]
    exact .nothing rfl
  | false =>
    have still : (client.before invocation).isDesynchronized = false := usable
    cases encodable : invocation.request.encode with
    | error e =>
      rw [invoke, call_unencodable still encodable]
      exact .nothing rfl
    | ok pdu =>
      rcases sending : (FrameTransport.clientTransport framing.toFraming config refuses).sendRequest
        (framing.requestHeader invocation.unit client.nextTransaction) invocation.request invocation.limit
        (client.before invocation).transport with ⟨result, after⟩
      obtain ⟨bytes, wire, puts⟩ := FrameTransport.sendRequest_puts sending
      cases puts with
      | unencodable refused =>
        rw [invoke, call_unsent still encodable sending]
        exact .nothing (wire.trans (List.append_nil _))
      | written encoded =>
        refine .whole encoded ?_
        rw [invoke, call_sent still encodable sending]
        split
        · exact wire
        · exact awaitResponse_keeps (fun state : FrameTransport =>
              state.wire = (client.before invocation).transport.wire ++ bytes)
            (fun limit state kept => (FrameTransport.recvResponse_wire _ _ limit state).trans kept)
            (by exact wire) _ _ _ _ _
      | broken encoded =>
        rw [invoke, call_unsent still encodable sending]
        exact .cut encoded (List.take_prefix _ _) wire rfl
      | @dropped adu encoded late =>
        rw [invoke, call_dropped still encodable sending]
        rw [before_wire, before_accepted] at wire
        by_cases none : invocation.passage.accepted = 0
        · refine .nothing (wire.trans ?_)
          rw [none, List.take_zero, List.append_nil]
        · by_cases all : adu.length ≤ invocation.passage.accepted
          · refine .whole encoded (wire.trans ?_)
            rw [List.take_of_length_le all]
          · exact absurd ⟨usable, adu, encoded, by omega, late⟩ driven

/-- Whole requests on the wire, or a client that writes no more. -/
inductive Tidy (framing : ClientFraming Header) (client : Client FrameTransport) : Prop
  | whole {adus : List Bytes} : (∀ adu ∈ adus, framing.IsRequest adu) →
      client.transport.wire = adus.flatten → Tidy framing client
  | done : Framed framing.IsRequest client.transport.wire → client.isDesynchronized = true →
      Tidy framing client

theorem Tidy.framed (tidy : client.Tidy framing) : Framed framing.IsRequest client.transport.wire := by
  cases tidy with
  | whole requests wire => exact ⟨_, [], requests, by rw [wire, List.append_nil], .inl rfl⟩
  | done framed => exact framed

theorem Tidy.invoke (tidy : client.Tidy framing) (driven : ¬client.Tears framing invocation) :
    (client.invoke framing config refuses invocation).Tidy framing := by
  cases tidy with
  | done framed unusable =>
    rw [invoke_desynchronized unusable]
    exact .done framed unusable
  | whole requests wire =>
    cases @invoke_wrote _ framing config refuses invocation client driven with
    | nothing same => exact .whole requests (same.trans wire)
    | whole encoded more =>
      refine @Tidy.whole _ _ _ (_ ++ [_]) (fun adu inside => ?_) (by rw [more, wire]; simp; rfl)
      obtain old | new := List.mem_append.mp inside
      · exact requests adu old
      · rw [List.mem_singleton.mp new]
        exact ⟨_, _, encoded⟩
    | cut encoded begins more unusable =>
      refine .done ?_ unusable
      rw [more, wire]
      exact framed_next requests ⟨_, _, encoded⟩ begins

theorem Tidy.invokeEach (tidy : client.Tidy framing) {invocations : List Invocation}
    (driven : client.Driven framing config refuses invocations) :
    (client.invokeEach framing config refuses invocations).Tidy framing := by
  induction invocations generalizing client with
  | nil => exact tidy
  | cons invocation rest ih => exact ih (tidy.invoke driven.1) driven.2

theorem partly_written_last {earlier later : List Invocation}
    (driven : client.Driven framing config refuses (earlier ++ invocation :: later))
    (partly : (client.invokeEach framing config refuses earlier).LeavesPart framing config refuses
      invocation) :
    (client.invokeEach framing config refuses (earlier ++ invocation :: later)).transport.wire =
      ((client.invokeEach framing config refuses earlier).invoke framing config refuses
        invocation).transport.wire := by
  induction earlier generalizing client with
  | cons first earlier ih => exact ih driven.2 partly
  | nil =>
    obtain ⟨adu, part, encoded, _, some_bytes, short, wire⟩ := partly
    refine invokeEach_desynchronized later ?_
    cases @invoke_wrote _ framing config refuses invocation client driven.1 with
    | nothing same => exact absurd (List.append_right_eq_self.mp (wire.symm.trans same)) some_bytes
    | whole again more =>
      cases encoded.symm.trans again
      exact absurd (List.append_cancel_left (wire.symm.trans more)) short
    | cut _ _ _ unusable => exact unusable

/-- The wire of a client whose writes are driven to their end: at all times whole requests and at
most one cut short, and nothing more after that one. -/
def NeverFollowsPart (framing : ClientFraming Header) (config : TransportConfig)
    (refuses : ∀ received, framing.decodeResponse [] ≠ .ok received) : Prop :=
  ∀ (stream : Line) (timeouts : ClientConfig) (invocations : List Invocation),
    let client := Client.withConfig (FrameTransport.new stream) timeouts
    client.Driven framing config refuses invocations →
    (∀ sofar, sofar <+: (client.invokeEach framing config refuses invocations).transport.wire →
      Framed framing.IsRequest sofar) ∧
    ∀ earlier invocation later, invocations = earlier ++ invocation :: later →
      (client.invokeEach framing config refuses earlier).LeavesPart framing config refuses invocation →
      (client.invokeEach framing config refuses invocations).transport.wire =
        ((client.invokeEach framing config refuses earlier).invoke framing config refuses
          invocation).transport.wire

theorem neverFollowsPart (framing : ClientFraming Header) (config : TransportConfig)
    (refuses : ∀ received, framing.decodeResponse [] ≠ .ok received) :
    NeverFollowsPart framing config refuses := by
  intro stream timeouts invocations client driven
  refine ⟨?_, ?_⟩
  · intro sofar earlier
    have tidy : client.Tidy framing := @Tidy.whole _ _ _ [] (by simp) rfl
    exact (tidy.invokeEach driven).framed.sofar earlier
  · rintro earlier invocation later rfl partly
    exact partly_written_last driven partly

end Client

/-- As long as no caller drops a call part-way through its write, a client of any framing never
writes after a partial request. -/
theorem nothing_follows_a_partial_request (crc16 : Bytes → UInt16) (config : TransportConfig) :
    Client.NeverFollowsPart .tcp config tcp_refuses ∧
    Client.NeverFollowsPart (.serial (rtu crc16)) config (rtu_refuses crc16) ∧
    Client.NeverFollowsPart (.serial (rtuOverTcp crc16)) config (rtu_refuses crc16) ∧
    Client.NeverFollowsPart (.serial ascii) config ascii_refuses :=
  ⟨Client.neverFollowsPart _ _ _, Client.neverFollowsPart _ _ _, Client.neverFollowsPart _ _ _,
    Client.neverFollowsPart _ _ _⟩

def askStatus (pause : Nat) (limit : Option Nat) (passage : Passage) : Invocation :=
  ⟨pause, ⟨17⟩, .readExceptionStatus, limit, passage⟩

def quietTcpClient : Client FrameTransport := .withConfig (.new ⟨0, [], none, .exact⟩) .default

/-- A write that fails after three bytes is the last. -/
theorem failed_write_is_the_last :
    let invocations := [askStatus 0 none ⟨0, 3, some ⟨.connectionReset, none⟩, []⟩, askStatus 0 none ⟨0, 0, none, []⟩]
    let after := quietTcpClient.invokeEach .tcp .default tcp_refuses invocations
    after.transport.wire = [0, 1, 0] ∧ Framed tcp.IsRequest after.transport.wire := by
  intro invocations after
  have driven : quietTcpClient.Driven .tcp .default tcp_refuses invocations := by
    refine ⟨?_, ?_, trivial⟩
    · intro ⟨_, _, _, _, late⟩
      exact late trivial
    · intro ⟨_, _, _, _, late⟩
      exact late trivial
  have property := (nothing_follows_a_partial_request Rtu.crc16Modbus .default).1 ⟨0, [], none, .exact⟩ .default
    invocations driven
  exact ⟨by decide, property.1 _ (List.prefix_refl _)⟩

theorem tcp_request_fifth {adu : Bytes} (request : tcp.IsRequest adu) : adu[4]? = some 0 := by
  obtain ⟨header, request, encoded⟩ := request
  obtain ⟨pdu, written, rfl⟩ := (Framing.encodeRequest_ok Tcp.seals).mp encoded
  have size := (RequestPdu.encode_ok.mp written).2
  have high : (asU16 (pdu.length + Tcp.lengthOverhead) >>> 8).toUInt8 = 0 := by
    apply UInt8.toNat_inj.mp
    simp only [maxPduLen] at size
    rw [(toNat_halves _).1, asU16_toNat (by simp only [Tcp.lengthOverhead]; omega), Tcp.lengthOverhead]
    simp
    omega
  exact congrArg some high

theorem tcp_framed_fifth {log : Bytes} (framed : Framed tcp.IsRequest log) (long : 4 < log.length) :
    log[4]? = some 0 := by
  obtain ⟨records, part, whole, rfl, cut⟩ := framed
  cases records with
  | nil =>
    rw [List.flatten_nil, List.nil_append] at long ⊢
    obtain rfl | ⟨record, request, ⟨rest, rfl⟩, _⟩ := cut
    · cases long
    · rw [← tcp_request_fifth request, List.getElem?_append_left long]
  | cons record records =>
    have fifth := tcp_request_fifth (whole record List.mem_cons_self)
    obtain ⟨inside, _⟩ := List.getElem?_eq_some_iff.mp fifth
    rw [List.flatten_cons, List.append_assoc, List.getElem?_append_left inside, fifth]

/-- A call dropped after three bytes of its write: the next one writes behind them. -/
theorem dropped_write_is_written_behind :
    let torn := askStatus 0 (some 5) ⟨10, 3, none, []⟩
    let first := quietTcpClient.invoke .tcp .default tcp_refuses torn
    let second := first.invoke .tcp .default tcp_refuses (askStatus 10 none ⟨0, 0, none, []⟩)
    quietTcpClient.LeavesPart .tcp .default tcp_refuses torn ∧ first.transport.wire = [0, 1, 0] ∧
    second.transport.wire = [0, 1, 0, 0, 1, 0, 0, 0, 2, 17, 7] ∧
    ¬Framed tcp.IsRequest second.transport.wire := by
  intro torn first second
  have wire : second.transport.wire = [0, 1, 0, 0, 1, 0, 0, 0, 2, 17, 7] := by decide
  refine ⟨⟨[0, 1, 0, 0, 0, 2, 17, 7], [0, 1, 0], by decide, by decide, by decide, by decide, by decide⟩,
    by decide, wire, ?_⟩
  rw [wire]
  intro framed
  cases tcp_framed_fifth framed (by decide)

end Modbus
