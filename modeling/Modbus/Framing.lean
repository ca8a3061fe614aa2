import Modbus.PduRoundTrip

/-! Framings: how a PDU travels inside an ADU and how the ADU's end is found.
Every framing opens an envelope and decodes the PDU inside, or encodes a PDU and
seals it. -/
namespace Modbus

open Bytes ByteWriter

inductive Direction where
  | request | response
  deriving DecidableEq, Repr

inductive Extent where
  | needMore
  | complete (length : Nat)
  deriving DecidableEq, Repr

/-- How a reader finds the end of an ADU in a byte stream. -/
inductive AduBoundary where
  | prefixed (prefixLen : Nat) (total : Bytes → Result Nat)
  | delimited (start : UInt8) (terminator : Bytes)
  | silence
  | contentLength (min : Nat) (extent : Direction → Bytes → Result Extent)

/-- The next ADU can be found without the one before it. -/
def AduBoundary.isSelfLocating : AduBoundary → Bool
  | delimited .. | silence => true
  | prefixed .. | contentLength .. => false

structure Framing (Header : Type) where
  maxAduLen : Nat
  decodeRequest : Bytes → Result (Header × RequestPdu)
  encodeRequestInto : Header → RequestPdu → ByteWriter Error Unit
  decodeResponse : Bytes → Result (Header × ResponsePdu)
  encodeResponseInto : Header → ResponsePdu → ByteWriter Error Unit
  boundary : AduBoundary

namespace Framing

def encodeRequest (framing : Framing Header) (header : Header) (pdu : RequestPdu) : Result Bytes :=
  allocating (framing.encodeRequestInto header pdu)

def encodeResponse (framing : Framing Header) (header : Header) (pdu : ResponsePdu) : Result Bytes :=
  allocating (framing.encodeResponseInto header pdu)

/-- The part every framing shares: open the envelope, then decode what it holds. -/
def enveloping (maxAduLen : Nat) (split : Bytes → Result (Header × Bytes))
    (wrapInto : Header → ByteWriter Error Unit → ByteWriter Error Unit) (boundary : AduBoundary) :
    Framing Header where
  maxAduLen := maxAduLen
  decodeRequest bytes := do
    let (header, pdu) ← split bytes
    let request ← RequestPdu.decode pdu
    pure (header, request)
  encodeRequestInto header pdu := wrapInto header pdu.encodeInto
  decodeResponse bytes := do
    let (header, pdu) ← split bytes
    let response ← ResponsePdu.decode pdu
    pure (header, response)
  encodeResponseInto header pdu := wrapInto header pdu.encodeInto
  boundary := boundary

/-- An envelope layout that `split` opens and `wrapInto` seals, up to how the
received bytes spell it. -/
structure Seals (maxAduLen : Nat) (split : Bytes → Result (Header × Bytes))
    (wrapInto : Header → ByteWriter Error Unit → ByteWriter Error Unit)
    (layout : Header → Bytes → Bytes) (spelling : Bytes → Bytes) : Prop where
  opens : ∀ header pdu, 1 ≤ pdu.length → pdu.length ≤ maxPduLen →
    split (layout header pdu) = .ok (header, pdu)
  spelled : ∀ data header pdu, split data = .ok (header, pdu) → layout header pdu = spelling data
  fits : ∀ header pdu, pdu.length ≤ maxPduLen → (layout header pdu).length ≤ maxAduLen
  wraps : ∀ header (encodePdu : ByteWriter Error Unit) (P : Bytes → Prop), encodePdu.Meets P →
    (∀ pdu, P pdu → pdu.length ≤ maxPduLen) →
    (wrapInto header encodePdu).Meets fun data => ∃ pdu, P pdu ∧ data = layout header pdu

/-- Encoding and decoding an ADU are inverse wherever the PDU codec is. -/
structure RoundTrips (framing : Framing Header) (spelling : Bytes → Bytes) : Prop where
  request_encodes : ∀ header (pdu : RequestPdu),
    (∃ adu, framing.encodeRequest header pdu = .ok adu) ↔ ∃ data, pdu.encode = .ok data
  request_decodes : ∀ header pdu adu data, framing.encodeRequest header pdu = .ok adu →
    pdu.encode = .ok data → adu.length ≤ framing.maxAduLen ∧
      ∀ decoded, RequestPdu.decode data = .ok decoded →
        framing.decodeRequest adu = .ok (header, decoded)
  request_reencodes : ∀ adu header pdu, framing.decodeRequest adu = .ok (header, pdu) →
    framing.encodeRequest header pdu = .ok (spelling adu)
  response_encodes : ∀ header (pdu : ResponsePdu),
    (∃ adu, framing.encodeResponse header pdu = .ok adu) ↔ ∃ data, pdu.encode = .ok data
  response_decodes : ∀ header pdu adu data, framing.encodeResponse header pdu = .ok adu →
    pdu.encode = .ok data → adu.length ≤ framing.maxAduLen ∧
      ∀ decoded, ResponsePdu.decode data = .ok decoded →
        framing.decodeResponse adu = .ok (header, decoded)
  response_reencodes : ∀ adu header pdu, framing.decodeResponse adu = .ok (header, pdu) →
    framing.encodeResponse header pdu = .ok (spelling adu)

theorem bind_ok {x : Result α} {f : α → Result β} {b : β} :
    (x >>= f) = .ok b ↔ ∃ a, x = .ok a ∧ f a = .ok b := by
  cases x <;> simp [bind, Except.bind]

section Sealed

variable {maxAduLen : Nat} {split : Bytes → Result (Header × Bytes)}
  {wrapInto : Header → ByteWriter Error Unit → ByteWriter Error Unit} {boundary : AduBoundary}
  {layout : Header → Bytes → Bytes} {spelling : Bytes → Bytes}

theorem decodeRequest_ok {adu : Bytes} {header : Header} {request : RequestPdu} :
    (enveloping maxAduLen split wrapInto boundary).decodeRequest adu = .ok (header, request) ↔
      ∃ pdu, split adu = .ok (header, pdu) ∧ RequestPdu.decode pdu = .ok request := by
  simp only [enveloping, bind_ok, Prod.exists, pure, Except.pure, Except.ok.injEq, Prod.mk.injEq]
  constructor
  · rintro ⟨_, pdu, opened, _, decoded, rfl, rfl⟩
    exact ⟨pdu, opened, decoded⟩
  · rintro ⟨pdu, opened, decoded⟩
    exact ⟨header, pdu, opened, request, decoded, rfl, rfl⟩

theorem decodeResponse_ok {adu : Bytes} {header : Header} {response : ResponsePdu} :
    (enveloping maxAduLen split wrapInto boundary).decodeResponse adu = .ok (header, response) ↔
      ∃ pdu, split adu = .ok (header, pdu) ∧ ResponsePdu.decode pdu = .ok response := by
  simp only [enveloping, bind_ok, Prod.exists, pure, Except.pure, Except.ok.injEq, Prod.mk.injEq]
  constructor
  · rintro ⟨_, pdu, opened, _, decoded, rfl, rfl⟩
    exact ⟨pdu, opened, decoded⟩
  · rintro ⟨pdu, opened, decoded⟩
    exact ⟨header, pdu, opened, response, decoded, rfl, rfl⟩

theorem encodeRequest_ok (sealed : Seals maxAduLen split wrapInto layout spelling)
    {header : Header} {request : RequestPdu} {adu : Bytes} :
    (enveloping maxAduLen split wrapInto boundary).encodeRequest header request = .ok adu ↔
      ∃ pdu, request.encode = .ok pdu ∧ adu = layout header pdu := by
  have meets := sealed.wraps header request.encodeInto _ request.write_meets.restoring
    fun pdu written => written.2
  rw [encodeRequest, enveloping, meets.allocating]
  simp only [RequestPdu.encode_ok]

theorem encodeResponse_ok (sealed : Seals maxAduLen split wrapInto layout spelling)
    {header : Header} {response : ResponsePdu} {adu : Bytes} :
    (enveloping maxAduLen split wrapInto boundary).encodeResponse header response = .ok adu ↔
      ∃ pdu, response.encode = .ok pdu ∧ adu = layout header pdu := by
  have meets := sealed.wraps header response.encodeInto _ response.write_meets.restoring
    fun pdu written => written.2
  rw [encodeResponse, enveloping, meets.allocating]
  simp only [ResponsePdu.encode_ok]

/-- What is read from an encoded request is what its PDU reads as, under the same header. -/
theorem request_conveyed (sealed : Seals maxAduLen split wrapInto layout spelling) {header other : Header}
    {request read : RequestPdu} {adu : Bytes}
    (sent : (enveloping maxAduLen split wrapInto boundary).encodeRequest header request = .ok adu)
    (received : (enveloping maxAduLen split wrapInto boundary).decodeRequest adu = .ok (other, read)) :
    other = header ∧ ∃ pdu, request.encode = .ok pdu ∧ RequestPdu.decode pdu = .ok read := by
  obtain ⟨pdu, encoded, rfl⟩ := (encodeRequest_ok sealed).mp sent
  obtain ⟨⟨code, body, _, _, shape⟩, size⟩ := RequestPdu.encode_ok.mp encoded
  obtain ⟨again, opened, decoded⟩ := decodeRequest_ok.mp received
  rw [sealed.opens header pdu (by simp [shape]) size] at opened
  cases opened
  exact ⟨rfl, pdu, encoded, decoded⟩

theorem response_conveyed (sealed : Seals maxAduLen split wrapInto layout spelling) {header other : Header}
    {response read : ResponsePdu} {adu : Bytes}
    (sent : (enveloping maxAduLen split wrapInto boundary).encodeResponse header response = .ok adu)
    (received : (enveloping maxAduLen split wrapInto boundary).decodeResponse adu = .ok (other, read)) :
    other = header ∧ ∃ pdu, response.encode = .ok pdu ∧ ResponsePdu.decode pdu = .ok read := by
  obtain ⟨pdu, encoded, rfl⟩ := (encodeResponse_ok sealed).mp sent
  obtain ⟨⟨code, body, _, _, shape⟩, size⟩ := ResponsePdu.encode_ok.mp encoded
  obtain ⟨again, opened, decoded⟩ := decodeResponse_ok.mp received
  rw [sealed.opens header pdu (by simp [shape]) size] at opened
  cases opened
  exact ⟨rfl, pdu, encoded, decoded⟩

theorem response_overheard (sealed : Seals maxAduLen split wrapInto layout spelling) {header other : Header}
    {response : ResponsePdu} {read : RequestPdu} {adu : Bytes}
    (sent : (enveloping maxAduLen split wrapInto boundary).encodeResponse header response = .ok adu)
    (received : (enveloping maxAduLen split wrapInto boundary).decodeRequest adu = .ok (other, read)) :
    other = header := by
  obtain ⟨pdu, encoded, rfl⟩ := (encodeResponse_ok sealed).mp sent
  obtain ⟨⟨code, body, _, _, shape⟩, size⟩ := ResponsePdu.encode_ok.mp encoded
  obtain ⟨again, opened, _⟩ := decodeRequest_ok.mp received
  rw [sealed.opens header pdu (by simp [shape]) size] at opened
  cases opened
  rfl

theorem roundTrips (sealed : Seals maxAduLen split wrapInto layout spelling) :
    RoundTrips (enveloping maxAduLen split wrapInto boundary) spelling where
  request_encodes header pdu := by
    simp only [encodeRequest_ok sealed]
    constructor
    · rintro ⟨_, data, encoded, _⟩
      exact ⟨data, encoded⟩
    · rintro ⟨data, encoded⟩
      exact ⟨_, data, encoded, rfl⟩
  request_decodes header pdu adu data sent encoded := by
    obtain ⟨_, again, rfl⟩ := (encodeRequest_ok sealed).mp sent
    obtain rfl := Except.ok.inj (encoded.symm.trans again)
    obtain ⟨wire, size⟩ := RequestPdu.encode_ok.mp encoded
    have nonempty : 1 ≤ data.length := by
      obtain ⟨code, body, _, _, rfl⟩ := wire
      simp
    refine ⟨sealed.fits header data size, ?_⟩
    intro decoded read
    exact decodeRequest_ok.mpr ⟨data, sealed.opens header data nonempty size, read⟩
  request_reencodes adu header pdu read := by
    obtain ⟨data, opened, decoded⟩ := decodeRequest_ok.mp read
    have encoded := RequestPdu.decode_ok.mp decoded
    exact (encodeRequest_ok sealed).mpr ⟨data, RequestPdu.encode_ok.mpr ⟨encoded.1, encoded.2.1⟩,
      (sealed.spelled adu header data opened).symm⟩
  response_encodes header pdu := by
    simp only [encodeResponse_ok sealed]
    constructor
    · rintro ⟨_, data, encoded, _⟩
      exact ⟨data, encoded⟩
    · rintro ⟨data, encoded⟩
      exact ⟨_, data, encoded, rfl⟩
  response_decodes header pdu adu data sent encoded := by
    obtain ⟨_, again, rfl⟩ := (encodeResponse_ok sealed).mp sent
    obtain rfl := Except.ok.inj (encoded.symm.trans again)
    obtain ⟨wire, size⟩ := ResponsePdu.encode_ok.mp encoded
    have nonempty : 1 ≤ data.length := by
      obtain ⟨code, body, _, _, rfl⟩ := wire
      simp
    refine ⟨sealed.fits header data size, ?_⟩
    intro decoded read
    exact decodeResponse_ok.mpr ⟨data, sealed.opens header data nonempty size, read⟩
  response_reencodes adu header pdu read := by
    obtain ⟨data, opened, decoded⟩ := decodeResponse_ok.mp read
    have encoded := ResponsePdu.decode_ok.mp decoded
    exact (encodeResponse_ok sealed).mpr ⟨data, ResponsePdu.encode_ok.mpr ⟨encoded.1, encoded.2.1⟩,
      (sealed.spelled adu header data opened).symm⟩

end Sealed

end Framing

end Modbus
