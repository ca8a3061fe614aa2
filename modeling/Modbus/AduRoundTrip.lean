import Modbus.Rtu
import Modbus.Ascii
import Modbus.Tcp

/-! The four framings carry every encodable PDU and give back what they were
given. ASCII alone normalises: it reads letters of either case and writes upper
case. A PDU that does not encode leaves the caller's buffer as it was. -/
namespace Modbus

open Bytes ByteWriter

theorem adu_round_trip (crc16 : Bytes → UInt16) :
    (rtu crc16).RoundTrips id ∧ (rtuOverTcp crc16).RoundTrips id ∧
      ascii.RoundTrips (List.map Ascii.upperHex) ∧ tcp.RoundTrips id :=
  ⟨Framing.roundTrips (Rtu.seals crc16), Framing.roundTrips (Rtu.seals crc16),
    Framing.roundTrips Ascii.seals, Framing.roundTrips Tcp.seals⟩

theorem rtu_decodeRequest_ok {crc16 : Bytes → UInt16} {adu : Bytes} {address : UnitId}
    {request : RequestPdu} :
    (rtuOverTcp crc16).decodeRequest adu = .ok (address, request) ↔ ∃ pdu,
      RequestPdu.decode pdu = .ok request ∧ adu = Rtu.layout crc16 address pdu := by
  rw [rtuOverTcp, Framing.decodeRequest_ok]
  constructor
  · rintro ⟨pdu, opened, decoded⟩
    exact ⟨pdu, decoded, (Rtu.layout_split crc16 opened).1.symm⟩
  · rintro ⟨pdu, decoded, rfl⟩
    obtain ⟨⟨code, body, _, _, shape⟩, size, _⟩ := RequestPdu.decode_ok.mp decoded
    exact ⟨pdu, Rtu.split_layout crc16 address pdu (by simp [shape]) size, decoded⟩

theorem rtu_decodeResponse_ok {crc16 : Bytes → UInt16} {adu : Bytes} {address : UnitId}
    {response : ResponsePdu} :
    (rtuOverTcp crc16).decodeResponse adu = .ok (address, response) ↔ ∃ pdu,
      ResponsePdu.decode pdu = .ok response ∧ adu = Rtu.layout crc16 address pdu := by
  rw [rtuOverTcp, Framing.decodeResponse_ok]
  constructor
  · rintro ⟨pdu, opened, decoded⟩
    exact ⟨pdu, decoded, (Rtu.layout_split crc16 opened).1.symm⟩
  · rintro ⟨pdu, decoded, rfl⟩
    obtain ⟨⟨code, body, _, _, shape⟩, size, _⟩ := ResponsePdu.decode_ok.mp decoded
    exact ⟨pdu, Rtu.split_layout crc16 address pdu (by simp [shape]) size, decoded⟩

section CallersBuffer

variable {Header : Type}

/-- A sealing that adds a whole envelope to the caller's buffer or nothing, provided the PDU's
own encoding says the same on every buffer. -/
def WrapsOrLeaves (wrapInto : Header → ByteWriter Error Unit → ByteWriter Error Unit) : Prop :=
  ∀ header encodePdu r, Appends encodePdu r → ∃ s, AppendsOrLeaves (wrapInto header encodePdu) s

theorem Rtu.wrapInto_leaves (crc16 : Bytes → UInt16) : WrapsOrLeaves (Rtu.wrapInto crc16) := by
  intro address encodePdu r body
  exact ⟨_, .trailed (Appends.seq (.push address.raw) body).restored⟩

theorem Ascii.wrapInto_leaves : WrapsOrLeaves Ascii.wrapInto := by
  intro address encodePdu r body
  have characters (covered : Bytes) : Meets (do
      push Ascii.start
      forEach Ascii.encodeHex covered
      Ascii.encodeHex (Ascii.lrc covered)
      extend Ascii.terminator : ByteWriter Error Unit)
      (· = Ascii.start :: (covered.flatMap Ascii.hexPair ++
        (Ascii.hexPair (Ascii.lrc covered) ++ Ascii.terminator))) :=
    (Meets.push_seq Ascii.start (.seq (Ascii.forEach_encodeHex_meets covered)
      (.seq (Ascii.encodeHex_meets _) (.extend Ascii.terminator)))).congr fun data => by simp
  exact ⟨_, .guard fun covered => (characters covered).appends⟩

theorem Tcp.wrapInto_leaves : WrapsOrLeaves Tcp.wrapInto := by
  intro header encodePdu r body
  have written : Meets encodePdu (r = .ok ·) := ⟨r, body, fun _ => Iff.rfl⟩
  obtain ⟨s, headed, _⟩ := written.headed
    (fun len => Tcp.checkLength (asU16 (len + Tcp.lengthOverhead)).toNat)
    (fun len => beBytes (asU16 (len + Tcp.lengthOverhead)))
    (beBytes header.transactionId.raw ++ beBytes Tcp.protocolModbus) (beBytes 0) [header.unitId.raw]
    fun _ => rfl
  exact ⟨s, headed.restored⟩

/-- A framing whose encoders add the ADU the allocating ones return or fail alike and add nothing. -/
def Framing.EncodesOrLeaves (framing : Framing Header) : Prop :=
  ∀ header,
    (∀ request, AppendsOrLeaves (framing.encodeRequestInto header request)
      (framing.encodeRequest header request)) ∧
    ∀ response, AppendsOrLeaves (framing.encodeResponseInto header response)
      (framing.encodeResponse header response)

theorem Framing.encodesOrLeaves {maxAduLen : Nat} {split : Bytes → Result (Header × Bytes)}
    {wrapInto : Header → ByteWriter Error Unit → ByteWriter Error Unit} {boundary : AduBoundary}
    (wraps : WrapsOrLeaves wrapInto) : (enveloping maxAduLen split wrapInto boundary).EncodesOrLeaves := by
  intro header
  constructor
  · intro request
    obtain ⟨r, written, _⟩ := request.write_meets.restoring
    obtain ⟨s, leaves⟩ := wraps header request.encodeInto r written
    exact leaves.self
  · intro response
    obtain ⟨r, written, _⟩ := response.write_meets.restoring
    obtain ⟨s, leaves⟩ := wraps header response.encodeInto r written
    exact leaves.self

end CallersBuffer

/-- Encoding into a caller's buffer appends what the allocating encoding returns, or fails with
its error and leaves the buffer as it was. -/
theorem encoding_appends_or_leaves (crc16 : Bytes → UInt16) :
    (∀ request : RequestPdu, AppendsOrLeaves request.encodeInto request.encode) ∧
    (∀ response : ResponsePdu, AppendsOrLeaves response.encodeInto response.encode) ∧
    tcp.EncodesOrLeaves ∧ (rtu crc16).EncodesOrLeaves ∧ (rtuOverTcp crc16).EncodesOrLeaves ∧
    ascii.EncodesOrLeaves := by
  refine ⟨?_, ?_, Framing.encodesOrLeaves Tcp.wrapInto_leaves,
    Framing.encodesOrLeaves (Rtu.wrapInto_leaves crc16),
    Framing.encodesOrLeaves (Rtu.wrapInto_leaves crc16), Framing.encodesOrLeaves Ascii.wrapInto_leaves⟩
  · intro request
    obtain ⟨r, written, _⟩ := request.write_meets
    exact written.restored.self
  · intro response
    obtain ⟨r, written, _⟩ := response.write_meets
    exact written.restored.self

end Modbus
