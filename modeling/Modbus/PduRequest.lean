import Modbus.Pdu

/-! The wire format of requests. `Body` states the bytes after the function code
without reference to either direction of the codec; reading and writing a
request are both shown exact for it. -/
namespace Modbus.RequestPdu

open Bytes ByteWriter

/-- Registers behind their quantity and byte count. -/
def Quantified (max quantity : UInt16) (registers : List RegisterValue) (data : Bytes) : Prop :=
  quantity.toNat = registers.length ∧ (1 ≤ quantity ∧ quantity ≤ max) ∧ ∃ count : UInt8,
    count.toNat = 2 * registers.length ∧ data = beBytes quantity ++ count :: registerBytes registers

def Body : RequestPdu → Bytes → Prop
  | readCoils address quantity, data | readDiscreteInputs address quantity, data =>
    (1 ≤ quantity.raw ∧ quantity.raw ≤ maxReadBits) ∧
      data = beBytes address.raw ++ beBytes quantity.raw
  | readHoldingRegisters address quantity, data | readInputRegisters address quantity, data =>
    (1 ≤ quantity.raw ∧ quantity.raw ≤ maxReadRegisters) ∧
      data = beBytes address.raw ++ beBytes quantity.raw
  | writeSingleCoil address value, data => data = beBytes address.raw ++ beBytes (coilWord value)
  | writeSingleRegister address value, data => data = beBytes address.raw ++ beBytes value.raw
  | writeMultipleCoils address coils, data => ∃ quantity : UInt16, ∃ count : UInt8,
    quantity.toNat = coils.length ∧ (1 ≤ quantity ∧ quantity ≤ maxWriteBits) ∧
      count.toNat = (packBits coils).length ∧
      data = beBytes address.raw ++ (beBytes quantity ++ count :: packBits coils)
  | writeMultipleRegisters address registers, data => ∃ quantity rest,
    Quantified maxWriteRegisters quantity registers rest ∧ data = beBytes address.raw ++ rest
  | maskWriteRegister address andMask orMask, data =>
    data = beBytes address.raw ++ (beBytes andMask.raw ++ beBytes orMask.raw)
  | readWriteMultipleRegisters readAddress readQuantity writeAddress registers, data =>
    (1 ≤ readQuantity.raw ∧ readQuantity.raw ≤ maxReadRegisters) ∧ ∃ quantity rest,
      Quantified maxRwWriteRegisters quantity registers rest ∧
      data = beBytes readAddress.raw ++ (beBytes readQuantity.raw ++
        (beBytes writeAddress.raw ++ rest))
  | readExceptionStatus, data | getCommEventCounter, data | getCommEventLog, data
  | reportServerId, data => data = []
  | diagnostics subFunction ws, data => ∃ raw,
    subFunction.encode = .ok raw ∧ data = beBytes raw ++ ws.flatMap beBytes
  | readFileRecord records, data =>
    Counted minReadByteCount maxReadByteCount FileRecordRead.layout FileRecordRead.Valid records data
  | writeFileRecord records, data =>
    Counted minWriteDataLen maxWriteDataLen FileRecordWrite.layout FileRecordWrite.Valid records data
  | readFifoQueue address, data => data = beBytes address.raw
  | encapsulatedInterfaceTransport request, data => data = request.layout
  | custom _ opaqueBytes, data => data = opaqueBytes

def Wire (request : RequestPdu) (data : Bytes) : Prop :=
  ∃ code body, request.function.encode = .ok code ∧ request.Body body ∧ data = code :: body

/-- The values decoding can produce. -/
def Canonical : RequestPdu → Prop
  | encapsulatedInterfaceTransport request => request.Canonical
  | _ => True

theorem quantified_ok {field : String} {max quantity : UInt16} {data input : Bytes}
    {values : List RegisterValue} :
    (∃ output, (quantifiedBytes field 1 max registerWidth).run input = .ok ((quantity, data), output) ∧
      registersFromBytes data = values ∧ output = []) ↔
    data = registerBytes values ∧ Quantified max quantity values input := by
  simp only [quantifiedBytes_ok, Quantified, registerWidth]
  constructor
  · rintro ⟨_, ⟨range, count, rfl, counted, sized⟩, decoded, rfl⟩
    have shape := (registersFromBytes_eq (by omega)).mp decoded
    subst shape
    rw [length_registerBytes] at sized
    exact ⟨rfl, by omega, range, count, by omega, by simp⟩
  · rintro ⟨rfl, whole, range, count, counted, rfl⟩
    exact ⟨[], ⟨range, count, by simp, by omega, by rw [length_registerBytes]; omega⟩, by simp, rfl⟩

/-- Decoding accepts only the wire format of what it returns. -/
theorem decodeBody_sound {code : FunctionCode} {input : Bytes} {request : RequestPdu}
    (decoded : (decodeBody code).run input = .ok (request, [])) :
    request.function = code ∧ request.Body input ∧ request.Canonical := by
  cases code with
  | readCoils | readDiscreteInputs | readHoldingRegisters | readInputRegisters =>
    simp only [decodeBody, Parser.bind_ok, Prod.exists, readRequest_ok, Parser.pure_ok] at decoded
    obtain ⟨address, quantity, _, ⟨range, rfl⟩, rfl, rfl⟩ := decoded
    exact ⟨rfl, ⟨range, by simp⟩, trivial⟩
  | writeSingleCoil =>
    simp only [decodeBody, Parser.bind_ok, Prod.exists, singleCoil_ok, Parser.pure_ok] at decoded
    obtain ⟨address, value, _, rfl, rfl, rfl⟩ := decoded
    exact ⟨rfl, by simp [Body], trivial⟩
  | writeSingleRegister =>
    simp only [decodeBody, Parser.bind_ok, Parser.beU16_ok, Parser.pure_ok] at decoded
    obtain ⟨address, _, rfl, value, _, rfl, rfl, rfl⟩ := decoded
    exact ⟨rfl, by simp [Body], trivial⟩
  | writeMultipleCoils =>
    simp only [decodeBody, Parser.bind_ok, Prod.exists, Parser.beU16_ok, quantifiedBytes_ok,
      Parse.lift_ok, Parser.pure_ok] at decoded
    obtain ⟨address, _, rfl, quantity, data, _, ⟨range, count, rfl, counted, taken⟩, coils, _,
      ⟨bits, rfl⟩, rfl, rfl⟩ := decoded
    obtain ⟨rfl, length⟩ := (packedBits_ok taken).mp bits
    exact ⟨rfl, ⟨quantity, count, length.symm, range, by rw [counted, taken], by simp⟩, trivial⟩
  | writeMultipleRegisters =>
    simp only [decodeBody, Parser.bind_ok, Prod.exists, Parser.beU16_ok, Parser.pure_ok] at decoded
    obtain ⟨address, _, rfl, quantity, data, _, read, rfl, rfl⟩ := decoded
    obtain ⟨_, body⟩ := quantified_ok.mp ⟨_, read, rfl, rfl⟩
    exact ⟨rfl, ⟨quantity, _, body, rfl⟩, trivial⟩
  | maskWriteRegister =>
    simp only [decodeBody, Parser.bind_ok, Parser.beU16_ok, Parser.pure_ok] at decoded
    obtain ⟨address, _, rfl, andMask, _, rfl, orMask, _, rfl, rfl, rfl⟩ := decoded
    exact ⟨rfl, by simp [Body], trivial⟩
  | readWriteMultipleRegisters =>
    simp only [decodeBody, Parser.bind_ok, Prod.exists, Parser.beU16_ok, Parse.lift_ok,
      checkRange_ok, Parser.pure_ok] at decoded
    obtain ⟨readAddress, _, rfl, readQuantity, _, rfl, _, _, ⟨range, rfl⟩, writeAddress, _, rfl,
      quantity, data, _, read, rfl, rfl⟩ := decoded
    obtain ⟨_, body⟩ := quantified_ok.mp ⟨_, read, rfl, rfl⟩
    exact ⟨rfl, ⟨range, quantity, _, body, rfl⟩, trivial⟩
  | readExceptionStatus | getCommEventCounter | getCommEventLog | reportServerId =>
    simp only [decodeBody, Parser.pure_ok] at decoded
    obtain ⟨rfl, rfl⟩ := decoded
    exact ⟨rfl, rfl, trivial⟩
  | diagnostics =>
    simp only [decodeBody, Parser.bind_ok, Prod.exists, diagnosticBody_ok, Parser.pure_ok] at decoded
    obtain ⟨subFunction, ws, _, ⟨raw, encoded, rfl, rfl⟩, rfl, _⟩ := decoded
    exact ⟨rfl, ⟨raw, encoded, rfl⟩, trivial⟩
  | readFileRecord =>
    simp only [decodeBody, Parser.bind_ok, decodeReadRequests_ok, Parser.pure_ok] at decoded
    obtain ⟨records, _, ⟨data, counted, rfl⟩, rfl, rfl⟩ := decoded
    exact ⟨rfl, by simpa [Body] using counted, trivial⟩
  | writeFileRecord =>
    simp only [decodeBody, Parser.bind_ok, decodeWriteRecords_ok, Parser.pure_ok] at decoded
    obtain ⟨records, _, ⟨data, counted, rfl⟩, rfl, rfl⟩ := decoded
    exact ⟨rfl, by simpa [Body] using counted, trivial⟩
  | readFifoQueue =>
    simp only [decodeBody, Parser.bind_ok, Parser.beU16_ok, Parser.pure_ok] at decoded
    obtain ⟨address, _, rfl, rfl, rfl⟩ := decoded
    exact ⟨rfl, by simp [Body], trivial⟩
  | encapsulatedInterfaceTransport =>
    simp only [decodeBody, Parser.bind_ok, Parser.pure_ok] at decoded
    obtain ⟨request, _, read, rfl, rfl⟩ := decoded
    exact ⟨rfl, Mei.decodeRequest_ok.mp read⟩
  | custom byte =>
    simp only [decodeBody, Parser.bind_ok, Parser.rest_ok, Parser.pure_ok] at decoded
    obtain ⟨data, _, ⟨rfl, rfl⟩, rfl, _⟩ := decoded
    exact ⟨rfl, rfl, trivial⟩

/-- Everything in the wire format of a canonical request decodes to it. -/
theorem decodeBody_complete {input : Bytes} {request : RequestPdu}
    (body : request.Body input) (canonical : request.Canonical) :
    (decodeBody request.function).run input = .ok (request, []) := by
  cases request with
  | readCoils address quantity | readDiscreteInputs address quantity
  | readHoldingRegisters address quantity | readInputRegisters address quantity =>
    obtain ⟨range, rfl⟩ := body
    simp only [function, decodeBody, Parser.bind_ok, Prod.exists, readRequest_ok, Parser.pure_ok]
    exact ⟨address, quantity, [], ⟨range, by simp⟩, rfl, rfl⟩
  | writeSingleCoil address value =>
    have shape : input = beBytes address.raw ++ beBytes (coilWord value) := body
    simp only [function, decodeBody, Parser.bind_ok, Prod.exists, singleCoil_ok, Parser.pure_ok]
    exact ⟨address, value, [], by simp [shape], rfl, rfl⟩
  | writeSingleRegister address value =>
    have shape : input = beBytes address.raw ++ beBytes value.raw := body
    simp only [function, decodeBody, Parser.bind_ok, Parser.beU16_ok, Parser.pure_ok]
    exact ⟨address.raw, _, shape, value.raw, [], by simp, rfl, rfl⟩
  | writeMultipleCoils address coils =>
    obtain ⟨quantity, count, length, range, counted, rfl⟩ := body
    have width : (packBits coils).length = bitWidth quantity.toNat := by
      rw [length_packBits, length]
      rfl
    simp only [function, decodeBody, Parser.bind_ok, Prod.exists, Parser.beU16_ok, quantifiedBytes_ok,
      Parse.lift_ok, Parser.pure_ok]
    exact ⟨address.raw, _, rfl, quantity, packBits coils, [],
      ⟨range, count, by simp, by rw [counted, width], width⟩, coils, [],
      ⟨(packedBits_ok width).mpr ⟨rfl, length.symm⟩, rfl⟩, rfl, rfl⟩
  | writeMultipleRegisters address registers =>
    obtain ⟨quantity, rest, quantified, rfl⟩ := body
    simp only [function, decodeBody, Parser.bind_ok, Prod.exists, Parser.beU16_ok, Parser.pure_ok]
    obtain ⟨_, read, decoded, rfl⟩ := quantified_ok.mpr ⟨rfl, quantified⟩
    exact ⟨address.raw, _, rfl, quantity, _, [], read, by rw [decoded], rfl⟩
  | maskWriteRegister address andMask orMask =>
    have shape : input = beBytes address.raw ++ (beBytes andMask.raw ++ beBytes orMask.raw) := body
    simp only [function, decodeBody, Parser.bind_ok, Parser.beU16_ok, Parser.pure_ok]
    exact ⟨address.raw, _, shape, andMask.raw, _, rfl, orMask.raw, [], by simp, rfl, rfl⟩
  | readWriteMultipleRegisters readAddress readQuantity writeAddress registers =>
    obtain ⟨range, quantity, rest, quantified, rfl⟩ := body
    simp only [function, decodeBody, Parser.bind_ok, Prod.exists, Parser.beU16_ok, Parse.lift_ok,
      checkRange_ok, Parser.pure_ok]
    obtain ⟨_, read, decoded, rfl⟩ := quantified_ok.mpr ⟨rfl, quantified⟩
    exact ⟨readAddress.raw, _, rfl, readQuantity.raw, _, rfl, (), _, ⟨range, rfl⟩, writeAddress.raw,
      _, rfl, quantity, _, [], read, by rw [decoded], rfl⟩
  | readExceptionStatus | getCommEventCounter | getCommEventLog | reportServerId =>
    have shape : input = [] := body
    simp [function, decodeBody, shape]
  | diagnostics subFunction ws =>
    obtain ⟨raw, encoded, rfl⟩ := body
    simp only [function, decodeBody, Parser.bind_ok, Prod.exists, diagnosticBody_ok, Parser.pure_ok]
    exact ⟨subFunction, ws, [], ⟨raw, encoded, rfl, rfl⟩, rfl, rfl⟩
  | readFileRecord records =>
    simp only [function, decodeBody, Parser.bind_ok, decodeReadRequests_ok, Parser.pure_ok]
    exact ⟨records, [], ⟨input, body, by simp⟩, rfl, rfl⟩
  | writeFileRecord records =>
    simp only [function, decodeBody, Parser.bind_ok, decodeWriteRecords_ok, Parser.pure_ok]
    exact ⟨records, [], ⟨input, body, by simp⟩, rfl, rfl⟩
  | readFifoQueue address =>
    have shape : input = beBytes address.raw := body
    simp only [function, decodeBody, Parser.bind_ok, Parser.beU16_ok, Parser.pure_ok]
    exact ⟨address.raw, [], by simp [shape], rfl, rfl⟩
  | encapsulatedInterfaceTransport request =>
    simp only [function, decodeBody, Parser.bind_ok, Parser.pure_ok]
    exact ⟨request, [], Mei.decodeRequest_ok.mpr ⟨body, canonical⟩, rfl, rfl⟩
  | custom byte data =>
    have shape : input = data := body
    simp [function, decodeBody, shape]

theorem decode_ok {data : Bytes} {request : RequestPdu} :
    decode data = .ok request ↔
      request.Wire data ∧ data.length ≤ maxPduLen ∧ request.Canonical := by
  have parsed : (Parse.run data do
        let byte ← Parser.beU8
        let code ← Parse.lift (FunctionCode.decode byte)
        decodeBody code) = .ok request ↔ request.Wire data ∧ request.Canonical := by
    simp only [Parse.run_ok, Parser.bind_ok, Parser.beU8_ok, Parse.lift_ok, FunctionCode.decode_ok]
    constructor
    · rintro ⟨byte, _, rfl, code, _, ⟨encoded, rfl⟩, read⟩
      obtain ⟨rfl, body, canonical⟩ := decodeBody_sound read
      exact ⟨⟨byte, _, encoded, body, rfl⟩, canonical⟩
    · rintro ⟨⟨byte, body, encoded, fits, rfl⟩, canonical⟩
      exact ⟨byte, body, rfl, _, _, ⟨encoded, rfl⟩, decodeBody_complete fits canonical⟩
  refine sized_ok.trans ?_
  rw [parsed, and_left_comm]

theorem write_meets (request : RequestPdu) :
    Meets request.write fun data => request.Wire data ∧ data.length ≤ maxPduLen := by
  cases request with
  | readCoils address quantity | readDiscreteInputs address quantity
  | readHoldingRegisters address quantity | readInputRegisters address quantity =>
    exact (encodeRead_meets _ address quantity _ _).congr fun data => by
      simp [Wire, Body, function, FunctionCode.encode, and_assoc]
  | writeSingleCoil address value =>
    exact (encodeSingle_meets 5 address (coilWord value)).congr fun data => by
      simp [Wire, Body, function, FunctionCode.encode]
  | writeSingleRegister address value =>
    exact (encodeSingle_meets 6 address value.raw).congr fun data => by
      simp [Wire, Body, function, FunctionCode.encode]
  | writeMultipleCoils address coils =>
    have body := fun quantity => encodeQuantified_meets 15 address ⟨quantity⟩ (pushBits_meets coils)
    rw [length_packBits] at body
    refine (Meets.guard fun quantity _ => body quantity).congr fun data => ?_
    simp only [quantityOf_ok (show maxWriteBits < 65535 by decide), Wire, Body, function,
      FunctionCode.encode, Except.ok.injEq, length_packBits]
    constructor
    · rintro ⟨quantity, ⟨length, range⟩, ⟨count, counted, rfl⟩, size⟩
      exact ⟨⟨15, _, rfl, ⟨quantity, count, length, range, counted, rfl⟩, rfl⟩, size⟩
    · rintro ⟨⟨_, _, rfl, ⟨quantity, count, length, range, counted, rfl⟩, rfl⟩, size⟩
      exact ⟨quantity, ⟨length, range⟩, ⟨count, counted, rfl⟩, size⟩
  | writeMultipleRegisters address registers =>
    have body := fun quantity =>
      encodeQuantified_meets 16 address ⟨quantity⟩ (pushRegisters_meets registers)
    rw [length_registerBytes, Nat.mul_comm] at body
    refine (Meets.guard fun quantity _ => body quantity).congr fun data => ?_
    simp only [quantityOf_ok (show maxWriteRegisters < 65535 by decide), Wire, Body, Quantified,
      function, FunctionCode.encode, Except.ok.injEq]
    constructor
    · rintro ⟨quantity, ⟨length, range⟩, ⟨count, counted, rfl⟩, size⟩
      exact ⟨⟨16, _, rfl, ⟨quantity, _, ⟨length, range, count, by omega, rfl⟩, rfl⟩, rfl⟩, size⟩
    · rintro ⟨⟨_, _, rfl, ⟨quantity, _, ⟨length, range, count, counted, rfl⟩, rfl⟩, rfl⟩, size⟩
      exact ⟨quantity, ⟨length, range⟩, ⟨count, by omega, rfl⟩, size⟩
  | maskWriteRegister address andMask orMask =>
    refine (sized_meets (.push_seq 22 (.extend_seq _ (.extend_seq _ (.extend _))))).congr fun data => ?_
    simp [Wire, Body, function, FunctionCode.encode]
  | readWriteMultipleRegisters readAddress readQuantity writeAddress registers =>
    refine (Meets.check (.guard fun quantity _ => sized_meets (.push_seq 23 (.extend_seq _
      (.extend_seq _ (.extend_seq _ (.extend_seq _ (.push_seq _
        (pushRegisters_meets registers))))))))).congr fun data => ?_
    simp only [quantityOf_ok (show maxRwWriteRegisters < 65535 by decide), checkRange_ok, Wire, Body,
      Quantified, function, FunctionCode.encode, Except.ok.injEq, exists_eq_left]
    constructor
    · rintro ⟨readRange, quantity, ⟨length, range⟩, rfl, size⟩
      have bound : quantity.toNat ≤ 121 := UInt16.le_iff_toNat_le.mp range.2
      exact ⟨⟨23, _, rfl, ⟨readRange, quantity, _,
        ⟨length, range, _, by rw [asU8_toNat (by omega), Nat.mul_comm], rfl⟩, rfl⟩, rfl⟩, size⟩
    · rintro ⟨⟨_, _, rfl, ⟨readRange, quantity, _, ⟨length, range, count, counted, rfl⟩, rfl⟩, rfl⟩, size⟩
      have bound := count.toNat_lt
      have same : count = asU8 (registers.length * 2) := by
        apply UInt8.toNat_inj.mp
        rw [asU8_toNat (by omega), counted, Nat.mul_comm]
      exact ⟨readRange, quantity, ⟨length, range⟩, by rw [same], size⟩
  | readExceptionStatus | getCommEventCounter | getCommEventLog | reportServerId =>
    exact (encodeBare_meets _).congr fun data => by simp [Wire, Body, function, FunctionCode.encode]
  | diagnostics subFunction ws =>
    refine (encodeDiagnostics_meets 8 subFunction ws).congr fun data => ?_
    simp [Wire, Body, function, FunctionCode.encode]
  | readFileRecord records =>
    refine (encodeBody_meets 20 (encodeReadRequestsInto_meets records)).congr fun data => ?_
    simp [Wire, Body, function, FunctionCode.encode]
  | writeFileRecord records =>
    refine (encodeBody_meets 21 (encodeWriteRecordsInto_meets records)).congr fun data => ?_
    simp [Wire, Body, function, FunctionCode.encode]
  | readFifoQueue address =>
    refine (sized_meets (.push_seq 24 (.extend _))).congr fun data => ?_
    simp [Wire, Body, function, FunctionCode.encode]
  | encapsulatedInterfaceTransport request =>
    refine (encodeBody_meets 43 (Mei.encodeRequestInto_meets request)).congr fun data => ?_
    simp [Wire, Body, function, FunctionCode.encode]
  | custom code body =>
    refine (encodeCustom_meets code body).congr fun data => ?_
    simp [Wire, Body, function]

theorem encode_ok {data : Bytes} {request : RequestPdu} :
    encode request = .ok data ↔ request.Wire data ∧ data.length ≤ maxPduLen :=
  (write_meets request).restoring.allocating data

end Modbus.RequestPdu
