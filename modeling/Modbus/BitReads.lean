import Modbus.ClientMatching
import Modbus.FrameTransport

/-! What the bit reads return. A response says how many bytes it brings, not how many
bits were asked for; the client drops what is too much and cannot add what is missing. -/
namespace Modbus

open Bytes

/-- The client's framings, each with how it opens an ADU. -/
inductive Opens : {Header : Type} → ClientFraming Header → (Bytes → Result (Header × Bytes)) → Prop
  | tcp : Opens .tcp Tcp.split
  | rtu (crc16 : Bytes → UInt16) : Opens (.serial (rtu crc16)) (Rtu.split crc16)
  | rtuOverTcp (crc16 : Bytes → UInt16) : Opens (.serial (rtuOverTcp crc16)) (Rtu.split crc16)
  | ascii : Opens (.serial ascii) Ascii.split

namespace Opens

variable {Header : Type} {framing : ClientFraming Header} {split : Bytes → Result (Header × Bytes)}

theorem exact (opens : Opens framing split) : framing.Exact := by
  cases opens with
  | tcp => exact ClientFraming.tcp_exact
  | rtu | rtuOverTcp | ascii => exact ClientFraming.serial_exact _

theorem refuses (opens : Opens framing split) :
    ∀ received, framing.toFraming.decodeResponse [] ≠ .ok received := by
  intro received decodes
  cases opens <;> cases decodes

theorem decodeResponse_ok (opens : Opens framing split) {adu : Bytes} {header : Header}
    {response : ResponsePdu} : framing.toFraming.decodeResponse adu = .ok (header, response) ↔
      ∃ pdu, split adu = .ok (header, pdu) ∧ ResponsePdu.decode pdu = .ok response := by
  cases opens <;> exact Framing.decodeResponse_ok

end Opens

def DataField (split : Bytes → Result (Header × Bytes)) (code : UInt8) (adu data : Bytes) : Prop :=
  ∃ header count, split adu = .ok (header, code :: count :: data) ∧ count.toNat = data.length

theorem bits_of_decoded {pdu : Bytes} {response : ResponsePdu} {bits : List Bool} {code : UInt8}
    (decoded : ResponsePdu.decode pdu = .ok response)
    (shape : response = .readCoils bits ∧ code = 1 ∨ response = .readDiscreteInputs bits ∧ code = 2) :
    ∃ count data, pdu = code :: count :: data ∧ count.toNat = data.length ∧ bits = bitsOf data := by
  obtain ⟨⟨first, body, leads, fits, rfl⟩, _, canonical⟩ := ResponsePdu.decode_ok.mp decoded
  have whole : ∀ bits : List Bool, bits.length % 8 = 0 → bits = bitsOf (packBits bits) := by
    intro bits full
    rw [bitsOf_packBits, padding, full]
    simp
  rcases shape with ⟨rfl, rfl⟩ | ⟨rfl, rfl⟩
  all_goals
    obtain rfl := Except.ok.inj leads
    obtain ⟨count, counted, rfl⟩ := fits
    exact ⟨count, packBits bits, rfl, counted, whole bits canonical⟩

namespace FrameTransport

theorem recvResponse_ok {framing : Framing Header} {config : TransportConfig} {limit : Option Nat}
    {transport after : FrameTransport} {received : Header × ResponsePdu}
    (got : transport.recvResponse framing config limit = (some (.ok received), after)) :
    ∃ adu, recvAdu framing config .response limit transport.reader = (some (.ok adu), after.reader) ∧
      framing.decodeResponse adu = .ok received := by
  unfold recvResponse at got
  rcases reading : recvAdu framing config .response limit transport.reader with ⟨_ | e | adu, reader⟩
  · simp only [reading] at got
    cases got
  · simp only [reading] at got
    cases got
  · simp only [reading, Prod.mk.injEq, Option.some.injEq] at got
    obtain ⟨decodes, rfl⟩ := got
    exact ⟨adu, rfl, decodes⟩

end FrameTransport

namespace Client

variable {Header : Type} {framing : ClientFraming Header} {split : Bytes → Result (Header × Bytes)}

/-- The ADU that answered a call on a byte stream: received last, behind frames for others. -/
def AnsweredBy (opens : Opens framing split) (config : TransportConfig) (limit : Option Nat) (unit : UnitId)
    (request : RequestPdu) (client after : Client FrameTransport) (adu : Bytes) : Prop :=
  let transport := FrameTransport.clientTransport framing.toFraming config opens.refuses
  let sent := framing.requestHeader unit client.nextTransaction
  ∃ state others middle, transport.sendRequest sent request limit client.transport = (some (.ok ()), state) ∧
    let bound := waitUntil (transport.expiry client.config.responseTimeout state) limit
    transport.Yields bound state others middle ∧ (∀ result ∈ others, Foreign sent result) ∧
      recvAdu framing.toFraming config .response (some bound) middle.reader =
        (some (.ok adu), after.transport.reader)

theorem exchange_answered (opens : Opens framing split) {config : TransportConfig} {limit : Option Nat}
    {unit : UnitId} {request : RequestPdu} {client after : Client FrameTransport} {response : ResponsePdu}
    (returned : exchange framing (FrameTransport.clientTransport framing.toFraming config opens.refuses)
      limit unit request client = (some (.ok response), after)) :
    ∃ adu header pdu, AnsweredBy opens config limit unit request client after adu ∧
      split adu = .ok (header, pdu) ∧ ResponsePdu.decode pdu = .ok response := by
  obtain ⟨_, _, called⟩ := exchange_ok returned
  obtain ⟨state, others, middle, sending, yields, foreign, received⟩ := call_answered opens.exact called
  obtain ⟨adu, taken, decodes⟩ := FrameTransport.recvResponse_ok received
  obtain ⟨pdu, opened, decoded⟩ := opens.decodeResponse_ok.mp decodes
  exact ⟨adu, _, pdu, ⟨state, others, middle, sending, yields, foreign, taken⟩, opened, decoded⟩

theorem read_ok {σ : Type} {transport : ClientTransport Header σ} {limit : Option Nat} {unit : UnitId}
    {request : RequestPdu} {expected : FunctionCode} {body : ResponsePdu → Option α} {value : α}
    {client after : Client σ}
    (returned : read framing transport limit unit request expected body client = (some (.ok value), after)) :
    ∃ response, exchange framing transport limit unit request client = (some (.ok response), after) ∧
      body response = some value := by
  unfold read Operation.check at returned
  rcases exchanged : exchange framing transport limit unit request client with ⟨_ | e | response, state⟩
  · simp only [exchanged] at returned
    cases returned
  · simp only [exchanged] at returned
    cases returned
  · cases known : body response with
    | none => simp [exchanged, known, Except.bind] at returned
    | some found =>
      simp only [exchanged, known, Except.bind, Option.map_some, Prod.mk.injEq, Option.some.injEq,
        Except.ok.injEq] at returned
      obtain ⟨rfl, rfl⟩ := returned
      exact ⟨response, rfl, known⟩

end Client

/-- As many bits as were asked for, each from its place in the data. -/
def Complete (quantity : Quantity) (data : Bytes) (bits : List Bool) : Prop :=
  bits.length = quantity.raw.toNat ∧
    ∀ i < quantity.raw.toNat, bits[i]? = some ((data.getD (i / 8) 0).toNat.testBit (i % 8))

theorem complete_iff {quantity : Quantity} {data : Bytes} :
    Complete quantity data (truncate (bitsOf data) quantity) ↔ quantity.raw.toNat ≤ 8 * data.length := by
  have size : (truncate (bitsOf data) quantity).length = min quantity.raw.toNat (8 * data.length) := by
    rw [truncate, List.length_take, length_bitsOf]
  constructor
  · intro complete
    have whole := complete.1
    omega
  · intro enough
    refine ⟨by omega, ?_⟩
    intro i inside
    have within : i < (bitsOf data).length := by
      rw [length_bitsOf]
      omega
    rw [truncate, List.getElem?_take_of_lt inside, ← bitsOf_getD, List.getD_eq_getElem _ _ within,
      List.getElem?_eq_getElem within]

section Reads

variable {Header : Type} {framing : ClientFraming Header} {split : Bytes → Result (Header × Bytes)}

/-- What a bit read returns, from the data field of the ADU that answered it. -/
def ReturnsBits (opens : Opens framing split) (config : TransportConfig) (limit : Option Nat) (unit : UnitId)
    (code : UInt8) (request : RequestPdu) (quantity : Quantity) (client after : Client FrameTransport)
    (bits : List Bool) : Prop :=
  ∃ adu data, Client.AnsweredBy opens config limit unit request client after adu ∧
    DataField split code adu data ∧ bits = (bitsOf data).take quantity.raw.toNat ∧
    (Complete quantity data bits ↔ quantity.raw.toNat ≤ 8 * data.length)

theorem returnsBits (opens : Opens framing split) {config : TransportConfig} {limit : Option Nat}
    {unit : UnitId} {request : RequestPdu} {quantity : Quantity} {client after : Client FrameTransport}
    {response : ResponsePdu} {bits : List Bool} {code : UInt8}
    (returned : Client.exchange framing (FrameTransport.clientTransport framing.toFraming config opens.refuses)
      limit unit request client = (some (.ok response), after))
    (shape : response = .readCoils bits ∧ code = 1 ∨ response = .readDiscreteInputs bits ∧ code = 2) :
    ReturnsBits opens config limit unit code request quantity client after (truncate bits quantity) := by
  obtain ⟨adu, header, pdu, answered, opened, decoded⟩ := Client.exchange_answered opens returned
  obtain ⟨count, data, rfl, counted, rfl⟩ := bits_of_decoded decoded shape
  exact ⟨adu, data, answered, ⟨header, count, opened, counted⟩, rfl, complete_iff⟩

/-- A bit read returns what was asked for exactly where the response has that many bits. -/
theorem bit_reads_complete_iff (opens : Opens framing split) (config : TransportConfig) (limit : Option Nat)
    (unit : UnitId) (address : Address) (quantity : Quantity) (client after : Client FrameTransport)
    (bits : List Bool) :
    let transport := FrameTransport.clientTransport framing.toFraming config opens.refuses
    (Client.readCoils framing transport limit unit address quantity client = (some (.ok bits), after) →
      ReturnsBits opens config limit unit 1 (.readCoils address quantity) quantity client after bits) ∧
    (Client.readDiscreteInputs framing transport limit unit address quantity client =
        (some (.ok bits), after) →
      ReturnsBits opens config limit unit 2 (.readDiscreteInputs address quantity) quantity client after
        bits) := by
  intro transport
  refine ⟨?_, ?_⟩
  · intro returned
    obtain ⟨response, exchanged, known⟩ := Client.read_ok returned
    split at known
    · obtain rfl := Option.some.inj known
      exact returnsBits opens exchanged (.inl ⟨rfl, rfl⟩)
    · cases known
  · intro returned
    obtain ⟨response, exchanged, known⟩ := Client.read_ok returned
    split at known
    · obtain rfl := Option.some.inj known
      exact returnsBits opens exchanged (.inr ⟨rfl, rfl⟩)
    · cases known

end Reads

def answering (bytes : {bytes : Bytes // bytes.length ≤ readChunk}) : Client FrameTransport :=
  .withConfig ⟨.new ⟨0, [], none, .exact⟩, [], [], ⟨0, 0, none, [⟨0, .ok bytes⟩]⟩⟩ .default

theorem ten_coils_read :
    let client := answering ⟨[0, 1, 0, 0, 0, 5, 17, 1, 2, 0xFF, 0x02], by decide⟩
    let returned := Client.readCoils .tcp (FrameTransport.clientTransport tcp .default Opens.tcp.refuses) none
      ⟨17⟩ ⟨0⟩ ⟨10⟩ client
    ReturnsBits .tcp .default none ⟨17⟩ 1 (.readCoils ⟨0⟩ ⟨10⟩) ⟨10⟩ client returned.2
      [true, true, true, true, true, true, true, true, false, true] :=
  (bit_reads_complete_iff .tcp .default none ⟨17⟩ ⟨0⟩ ⟨10⟩ _ _ _).1 rfl

/-- A response with one byte to a read of ten coils makes the method return eight. -/
theorem short_coils_returned :
    let client := answering ⟨[0, 1, 0, 0, 0, 4, 17, 1, 1, 0xFF], by decide⟩
    (Client.readCoils .tcp (FrameTransport.clientTransport tcp .default Opens.tcp.refuses) none
      ⟨17⟩ ⟨0⟩ ⟨10⟩ client).1 = some (.ok (List.replicate 8 true)) := rfl

end Modbus
