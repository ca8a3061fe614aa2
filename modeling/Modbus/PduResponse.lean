import Modbus.Pdu

/-! The wire format of responses, exception responses included. A response's bit
list is padded to whole bytes on the wire, so only lists that fill their bytes
come back from reading. -/
namespace Modbus

open Bytes ByteWriter

namespace ExceptionResponse

/-- The answered function with its exception flag set, then the exception. -/
def Wire (response : ExceptionResponse) (data : Bytes) : Prop :=
  ∃ function exception, response.function.encode = .ok function ∧
    response.exception.encode = .ok exception ∧ data = [function ||| 0x80, exception]

theorem flagged : ∀ byte : UInt8, byte < 0x80 →
    (byte ||| 0x80) &&& 0x80 ≠ 0 ∧ (byte ||| 0x80) &&& ~~~0x80 = byte ∧ 0x80 ≤ byte ||| 0x80 := by
  decide +kernel

theorem unflagged : ∀ byte : UInt8, byte &&& 0x80 ≠ 0 → (byte &&& ~~~0x80) ||| 0x80 = byte := by
  decide +kernel

theorem decode_ok {data : Bytes} {response : ExceptionResponse} :
    decode data = .ok response ↔ response.Wire data := by
  constructor
  · intro decoded
    unfold decode at decoded
    split at decoded
    next raw code =>
      by_cases clear : raw &&& 0x80 = 0
      · rw [if_pos clear] at decoded
        contradiction
      rw [if_neg clear] at decoded
      cases known : FunctionCode.decode (raw &&& ~~~0x80) with
      | error e => simp [known] at decoded
      | ok function =>
        simp only [known, Except.ok.injEq] at decoded
        subst decoded
        refine ⟨raw &&& ~~~0x80, code, FunctionCode.decode_ok.mp known, ?_, ?_⟩
        · exact ExceptionCode.decode_eq.mp rfl
        · rw [unflagged raw clear]
    · contradiction
  · rintro ⟨function, exception, encoded, raised, rfl⟩
    obtain ⟨set, stripped, _⟩ := flagged function (FunctionCode.encode_lt encoded).2
    simp only [decode, if_neg set, stripped, FunctionCode.decode_ok.mpr encoded,
      ExceptionCode.decode_eq.mpr raised]

theorem encodeInto_meets (response : ExceptionResponse) :
    Meets response.encodeInto response.Wire :=
  (Meets.guard fun _ _ => .guard fun _ _ => .push_seq _ (.push _)).congr fun data => by
    simp only [exists_eq_left, Wire, exists_and_left]

end ExceptionResponse

namespace ResponsePdu

/-- Counted bytes: their number, then the bytes. -/
def CountedBytes (bytes data : Bytes) : Prop :=
  ∃ count : UInt8, count.toNat = bytes.length ∧ data = count :: bytes

def Body : ResponsePdu → Bytes → Prop
  | readCoils bits, data | readDiscreteInputs bits, data => CountedBytes (packBits bits) data
  | readHoldingRegisters registers, data | readInputRegisters registers, data
  | readWriteMultipleRegisters registers, data => CountedBytes (registerBytes registers) data
  | writeSingleCoil address value, data => data = beBytes address.raw ++ beBytes (coilWord value)
  | writeSingleRegister address value, data => data = beBytes address.raw ++ beBytes value.raw
  | writeMultipleCoils address quantity, data | writeMultipleRegisters address quantity, data =>
    data = beBytes address.raw ++ beBytes quantity.raw
  | maskWriteRegister address andMask orMask, data =>
    data = beBytes address.raw ++ (beBytes andMask.raw ++ beBytes orMask.raw)
  | readExceptionStatus status, data => data = [status.raw]
  | diagnostics subFunction ws, data => ∃ raw,
    subFunction.encode = .ok raw ∧ data = beBytes raw ++ ws.flatMap beBytes
  | getCommEventCounter status eventCount, data => data = beBytes status ++ beBytes eventCount
  | getCommEventLog status eventCount messageCount events, data => ∃ count : UInt8,
    count.toNat = events.length + 6 ∧ events.length ≤ 64 ∧
      data = count :: (beBytes status ++ (beBytes eventCount ++ (beBytes messageCount ++ events)))
  | reportServerId bytes, data => CountedBytes bytes data
  | readFileRecord records, data =>
    Counted minReadDataLen maxReadDataLen FileRecordReadResponse.layout
      FileRecordReadResponse.Valid records data
  | writeFileRecord records, data =>
    Counted minWriteDataLen maxWriteDataLen FileRecordWrite.layout FileRecordWrite.Valid records data
  | readFifoQueue values, data => ∃ count : UInt16, count.toNat = values.length ∧
    count ≤ maxFifoCount ∧ data = beBytes (count * 2 + 2) ++ (beBytes count ++ registerBytes values)
  | encapsulatedInterfaceTransport response, data => data = response.layout ∧ response.Valid
  | custom _ opaqueBytes, data => data = opaqueBytes
  | exception response, data => ∃ code, response.exception.encode = .ok code ∧ data = [code]

/-- The first byte: the function code, flagged in an exception. -/
def Leads : ResponsePdu → UInt8 → Prop
  | exception response, code =>
    ∃ function, response.function.encode = .ok function ∧ code = function ||| 0x80
  | response, code => response.function.encode = .ok code

def Wire (response : ResponsePdu) (data : Bytes) : Prop :=
  ∃ code body, response.Leads code ∧ response.Body body ∧ data = code :: body

/-- The values decoding can produce. -/
def Canonical : ResponsePdu → Prop
  | readCoils bits | readDiscreteInputs bits => bits.length % 8 = 0
  | encapsulatedInterfaceTransport response => response.Canonical
  | _ => True

def isException : ResponsePdu → Bool
  | exception _ => true
  | _ => false

theorem leads_iff {response : ResponsePdu} (plain : response.isException = false) {code : UInt8} :
    response.Leads code ↔ response.function.encode = .ok code := by
  cases response with
  | exception => simp [isException] at plain
  | _ => rfl

theorem bits_counted {data : Bytes} {bits : List Bool} :
    bitsFromBytes data = bits ↔ data = packBits bits ∧ bits.length % 8 = 0 := by
  constructor
  · rintro rfl
    exact ⟨(packBits_bitsOf data).symm, by simp [bitsFromBytes]⟩
  · rintro ⟨rfl, whole⟩
    rw [bitsFromBytes, bitsOf_packBits, padding, whole]
    simp

theorem decodeBody_sound {code : FunctionCode} {input : Bytes} {response : ResponsePdu}
    (decoded : (decodeBody code).run input = .ok (response, [])) :
    response.isException = false ∧ response.function = code ∧ response.Body input ∧
      response.Canonical := by
  cases code with
  | readCoils | readDiscreteInputs =>
    simp only [decodeBody, Parser.bind_ok, countedBytes_ok, Parser.pure_ok] at decoded
    obtain ⟨data, _, ⟨count, rfl, counted, rfl⟩, rfl, _⟩ := decoded
    obtain ⟨packed, whole⟩ := bits_counted.mp (rfl : bitsFromBytes data = _)
    exact ⟨rfl, rfl, ⟨count, by rw [← packed, counted], by rw [← packed]⟩, whole⟩
  | readHoldingRegisters | readInputRegisters | readWriteMultipleRegisters =>
    simp only [decodeBody, Parser.bind_ok, registers_ok, Parser.pure_ok] at decoded
    obtain ⟨values, _, ⟨count, rfl, counted, rfl⟩, rfl, _⟩ := decoded
    exact ⟨rfl, rfl, ⟨count, by rw [counted, length_registerBytes], rfl⟩, trivial⟩
  | writeSingleCoil =>
    simp only [decodeBody, Parser.bind_ok, Prod.exists, singleCoil_ok, Parser.pure_ok] at decoded
    obtain ⟨address, value, _, rfl, rfl, rfl⟩ := decoded
    exact ⟨rfl, rfl, by simp [Body], trivial⟩
  | writeSingleRegister | writeMultipleCoils | writeMultipleRegisters =>
    simp only [decodeBody, Parser.bind_ok, Parser.beU16_ok, Parser.pure_ok] at decoded
    obtain ⟨address, _, rfl, value, _, rfl, rfl, rfl⟩ := decoded
    exact ⟨rfl, rfl, by simp [Body], trivial⟩
  | maskWriteRegister =>
    simp only [decodeBody, Parser.bind_ok, Parser.beU16_ok, Parser.pure_ok] at decoded
    obtain ⟨address, _, rfl, andMask, _, rfl, orMask, _, rfl, rfl, rfl⟩ := decoded
    exact ⟨rfl, rfl, by simp [Body], trivial⟩
  | readExceptionStatus =>
    simp only [decodeBody, Parser.bind_ok, Parser.beU8_ok, Parser.pure_ok] at decoded
    obtain ⟨status, _, rfl, rfl, rfl⟩ := decoded
    exact ⟨rfl, rfl, rfl, trivial⟩
  | diagnostics =>
    simp only [decodeBody, Parser.bind_ok, Prod.exists, diagnosticBody_ok, Parser.pure_ok] at decoded
    obtain ⟨subFunction, ws, _, ⟨raw, encoded, rfl, rfl⟩, rfl, _⟩ := decoded
    exact ⟨rfl, rfl, ⟨raw, encoded, rfl⟩, trivial⟩
  | getCommEventCounter =>
    simp only [decodeBody, Parser.bind_ok, Parser.beU16_ok, Parser.pure_ok] at decoded
    obtain ⟨status, _, rfl, eventCount, _, rfl, rfl, rfl⟩ := decoded
    exact ⟨rfl, rfl, by simp [Body], trivial⟩
  | getCommEventLog =>
    simp only [decodeBody, Parser.bind_ok, Parser.beU8_ok, Parser.beU16_ok, Parse.lift_ok,
      checkEventLogBytes_ok, Parser.take_ok, Parser.pure_ok, eventLogFixedBytes] at decoded
    obtain ⟨count, _, rfl, _, _, ⟨range, rfl⟩, status, _, rfl, eventCount, _, rfl, messageCount, _,
      rfl, events, _, ⟨rfl, taken⟩, rfl, rfl⟩ := decoded
    exact ⟨rfl, rfl, ⟨count, by omega, by omega, by simp⟩, trivial⟩
  | reportServerId =>
    simp only [decodeBody, Parser.bind_ok, countedBytes_ok, Parser.pure_ok] at decoded
    obtain ⟨data, _, ⟨count, rfl, counted, rfl⟩, rfl, _⟩ := decoded
    exact ⟨rfl, rfl, ⟨count, counted, rfl⟩, trivial⟩
  | readFileRecord =>
    simp only [decodeBody, Parser.bind_ok, decodeReadResponses_ok, Parser.pure_ok] at decoded
    obtain ⟨records, _, ⟨data, counted, rfl⟩, rfl, rfl⟩ := decoded
    exact ⟨rfl, rfl, by simpa [Body] using counted, trivial⟩
  | writeFileRecord =>
    simp only [decodeBody, Parser.bind_ok, decodeWriteRecords_ok, Parser.pure_ok] at decoded
    obtain ⟨records, _, ⟨data, counted, rfl⟩, rfl, rfl⟩ := decoded
    exact ⟨rfl, rfl, by simpa [Body] using counted, trivial⟩
  | readFifoQueue =>
    simp only [decodeBody, Parser.bind_ok, fifoValues_ok, Parser.pure_ok] at decoded
    obtain ⟨values, _, ⟨count, counted, bound, rfl⟩, rfl, rfl⟩ := decoded
    exact ⟨rfl, rfl, ⟨count, counted, bound, by simp⟩, trivial⟩
  | encapsulatedInterfaceTransport =>
    simp only [decodeBody, Parser.bind_ok, Parser.pure_ok] at decoded
    obtain ⟨response, _, read, rfl, rfl⟩ := decoded
    obtain ⟨shape, good, canonical⟩ := Mei.decodeResponse_ok.mp read
    exact ⟨rfl, rfl, ⟨shape, good⟩, canonical⟩
  | custom byte =>
    simp only [decodeBody, Parser.bind_ok, Parser.rest_ok, Parser.pure_ok] at decoded
    obtain ⟨data, _, ⟨rfl, rfl⟩, rfl, _⟩ := decoded
    exact ⟨rfl, rfl, rfl, trivial⟩

theorem decodeBody_complete {input : Bytes} {response : ResponsePdu}
    (plain : response.isException = false) (body : response.Body input)
    (canonical : response.Canonical) :
    (decodeBody response.function).run input = .ok (response, []) := by
  cases response with
  | readCoils bits | readDiscreteInputs bits =>
    obtain ⟨count, counted, rfl⟩ := body
    simp only [function, decodeBody, Parser.bind_ok, countedBytes_ok, Parser.pure_ok]
    exact ⟨_, [], ⟨count, rfl, counted, rfl⟩, by rw [bits_counted.mpr ⟨rfl, canonical⟩], rfl⟩
  | readHoldingRegisters values | readInputRegisters values | readWriteMultipleRegisters values =>
    obtain ⟨count, counted, rfl⟩ := body
    rw [length_registerBytes] at counted
    simp only [function, decodeBody, Parser.bind_ok, registers_ok, Parser.pure_ok]
    exact ⟨values, [], ⟨count, rfl, counted, rfl⟩, rfl, rfl⟩
  | writeSingleCoil address value =>
    have shape : input = beBytes address.raw ++ beBytes (coilWord value) := body
    simp only [function, decodeBody, Parser.bind_ok, Prod.exists, singleCoil_ok, Parser.pure_ok]
    exact ⟨address, value, [], by simp [shape], rfl, rfl⟩
  | writeSingleRegister address value | writeMultipleCoils address value
  | writeMultipleRegisters address value =>
    have shape : input = beBytes address.raw ++ beBytes value.raw := body
    simp only [function, decodeBody, Parser.bind_ok, Parser.beU16_ok, Parser.pure_ok]
    exact ⟨address.raw, _, shape, value.raw, [], by simp, rfl, rfl⟩
  | maskWriteRegister address andMask orMask =>
    have shape : input = beBytes address.raw ++ (beBytes andMask.raw ++ beBytes orMask.raw) := body
    simp only [function, decodeBody, Parser.bind_ok, Parser.beU16_ok, Parser.pure_ok]
    exact ⟨address.raw, _, shape, andMask.raw, _, rfl, orMask.raw, [], by simp, rfl, rfl⟩
  | readExceptionStatus status =>
    have shape : input = [status.raw] := body
    simp [function, decodeBody, shape]
  | diagnostics subFunction ws =>
    obtain ⟨raw, encoded, rfl⟩ := body
    simp only [function, decodeBody, Parser.bind_ok, Prod.exists, diagnosticBody_ok, Parser.pure_ok]
    exact ⟨subFunction, ws, [], ⟨raw, encoded, rfl, rfl⟩, rfl, rfl⟩
  | getCommEventCounter status eventCount =>
    have shape : input = beBytes status ++ beBytes eventCount := body
    simp only [function, decodeBody, Parser.bind_ok, Parser.beU16_ok, Parser.pure_ok]
    exact ⟨status, _, shape, eventCount, [], by simp, rfl, rfl⟩
  | getCommEventLog status eventCount messageCount events =>
    obtain ⟨count, counted, bound, rfl⟩ := body
    simp only [function, decodeBody, Parser.bind_ok, Parser.beU8_ok, Parser.beU16_ok, Parse.lift_ok,
      checkEventLogBytes_ok, Parser.take_ok, Parser.pure_ok, eventLogFixedBytes]
    exact ⟨count, _, rfl, (), _, ⟨by omega, rfl⟩, status, _, rfl, eventCount, _, rfl, messageCount, _,
      rfl, events, [], ⟨by simp, by omega⟩, rfl, rfl⟩
  | reportServerId data =>
    obtain ⟨count, counted, rfl⟩ := body
    simp only [function, decodeBody, Parser.bind_ok, countedBytes_ok, Parser.pure_ok]
    exact ⟨data, [], ⟨count, rfl, counted, rfl⟩, rfl, rfl⟩
  | readFileRecord records =>
    simp only [function, decodeBody, Parser.bind_ok, decodeReadResponses_ok, Parser.pure_ok]
    exact ⟨records, [], ⟨input, body, by simp⟩, rfl, rfl⟩
  | writeFileRecord records =>
    simp only [function, decodeBody, Parser.bind_ok, decodeWriteRecords_ok, Parser.pure_ok]
    exact ⟨records, [], ⟨input, body, by simp⟩, rfl, rfl⟩
  | readFifoQueue values =>
    obtain ⟨count, counted, bound, rfl⟩ := body
    simp only [function, decodeBody, Parser.bind_ok, fifoValues_ok, Parser.pure_ok]
    exact ⟨values, [], ⟨count, counted, bound, by simp⟩, rfl, rfl⟩
  | encapsulatedInterfaceTransport response =>
    simp only [function, decodeBody, Parser.bind_ok, Parser.pure_ok]
    exact ⟨response, [], Mei.decodeResponse_ok.mpr ⟨body.1, body.2, canonical⟩, rfl, rfl⟩
  | custom byte data =>
    have shape : input = data := body
    simp [function, decodeBody, shape]
  | exception response => simp [isException] at plain

/-- An exception's wire format is its flagged function code and its body. -/
theorem exception_wire {response : ExceptionResponse} {data : Bytes} :
    (exception response).Wire data ↔ response.Wire data := by
  simp only [Wire, Leads, Body, ExceptionResponse.Wire]
  constructor
  · rintro ⟨_, _, ⟨function, encoded, rfl⟩, ⟨code, raised, rfl⟩, rfl⟩
    exact ⟨function, code, encoded, raised, rfl⟩
  · rintro ⟨function, code, encoded, raised, rfl⟩
    exact ⟨_, _, ⟨function, encoded, rfl⟩, ⟨code, raised, rfl⟩, rfl⟩

theorem clear_below : ∀ byte : UInt8, byte < 0x80 → byte &&& 0x80 = 0 := by decide +kernel

/-- The first byte tells an exception from every other response. -/
theorem wire_flag {response : ResponsePdu} {data : Bytes} (wire : response.Wire data) :
    data.head?.any (fun byte => byte &&& 0x80 != 0) = response.isException := by
  obtain ⟨code, body, leads, _, rfl⟩ := wire
  by_cases plain : response.isException = false
  · have encoded := (leads_iff plain).mp leads
    have clear := clear_below code (FunctionCode.encode_lt encoded).2
    simp [plain, clear]
  · cases response with
    | exception response =>
      obtain ⟨function, encoded, rfl⟩ := leads
      obtain ⟨set, _⟩ := ExceptionResponse.flagged function (FunctionCode.encode_lt encoded).2
      simpa [isException] using set
    | _ => exact absurd rfl plain

theorem decode_ok {data : Bytes} {response : ResponsePdu} :
    decode data = .ok response ↔
      response.Wire data ∧ data.length ≤ maxPduLen ∧ response.Canonical := by
  have parsed : (Parse.run data do
        let byte ← Parser.beU8
        let code ← Parse.lift (FunctionCode.decode byte)
        decodeBody code) = .ok response ↔
      response.isException = false ∧ response.Wire data ∧ response.Canonical := by
    simp only [Parse.run_ok, Parser.bind_ok, Parser.beU8_ok, Parse.lift_ok, FunctionCode.decode_ok]
    constructor
    · rintro ⟨byte, _, rfl, code, _, ⟨encoded, rfl⟩, read⟩
      obtain ⟨plain, rfl, body, canonical⟩ := decodeBody_sound read
      exact ⟨plain, ⟨byte, _, (leads_iff plain).mpr encoded, body, rfl⟩, canonical⟩
    · rintro ⟨plain, ⟨byte, body, leads, fits, rfl⟩, canonical⟩
      exact ⟨byte, body, rfl, _, _, ⟨(leads_iff plain).mp leads, rfl⟩,
        decodeBody_complete plain fits canonical⟩
  refine sized_ok.trans ?_
  rw [and_left_comm]
  apply and_congr_right
  intro _
  by_cases flag : data.head?.any (fun byte => byte &&& 0x80 != 0) = true
  · rw [if_pos flag]
    constructor
    · intro decoded
      cases read : ExceptionResponse.decode data with
      | error e => simp [read] at decoded
      | ok inner =>
        simp only [read, Except.ok.injEq] at decoded
        subst decoded
        exact ⟨exception_wire.mpr (ExceptionResponse.decode_ok.mp read), trivial⟩
    · intro accepted
      obtain ⟨wire, canonical⟩ := accepted
      have flagged := wire_flag wire
      rw [flag] at flagged
      cases response with
      | exception inner =>
        simp [ExceptionResponse.decode_ok.mpr (exception_wire.mp wire)]
      | _ => simp [isException] at flagged
  · rw [if_neg flag, parsed]
    constructor
    · exact fun found => found.2
    · intro accepted
      obtain ⟨wire, canonical⟩ := accepted
      have flagged := wire_flag wire
      exact ⟨by rw [← flagged]; simpa using flag, wire, canonical⟩

/-- A counted encoder writes exactly the counted bytes. -/
theorem counted_meets {code : UInt8} {bytes : Bytes} {count : Nat} {writeData : ByteWriter Error Unit}
    (written : Meets writeData (· = bytes)) (sized : count = bytes.length) :
    Meets (encodeCounted code count writeData) fun data =>
      (∃ body, CountedBytes bytes body ∧ data = code :: body) ∧ data.length ≤ maxPduLen := by
  subst sized
  refine (encodeCounted_meets code written).congr fun data => ?_
  refine and_congr_left fun _ => ?_
  constructor
  · rintro ⟨count, counted, rfl⟩
    exact ⟨_, ⟨count, counted, rfl⟩, rfl⟩
  · rintro ⟨_, ⟨count, counted, rfl⟩, rfl⟩
    exact ⟨count, counted, rfl⟩

theorem write_meets (response : ResponsePdu) :
    Meets response.write fun data => response.Wire data ∧ data.length ≤ maxPduLen := by
  cases response with
  | readCoils bits | readDiscreteInputs bits =>
    refine (counted_meets (pushBits_meets bits) (length_packBits bits).symm).congr fun data => ?_
    simp [Wire, Leads, Body, function, FunctionCode.encode]
  | readHoldingRegisters values | readInputRegisters values | readWriteMultipleRegisters values =>
    refine (counted_meets (pushRegisters_meets values)
      (by rw [length_registerBytes, Nat.mul_comm])).congr fun data => ?_
    simp [Wire, Leads, Body, function, FunctionCode.encode]
  | writeSingleCoil address value =>
    exact (encodeSingle_meets 5 address (coilWord value)).congr fun data => by
      simp [Wire, Leads, Body, function, FunctionCode.encode]
  | writeSingleRegister address value =>
    exact (encodeSingle_meets 6 address value.raw).congr fun data => by
      simp [Wire, Leads, Body, function, FunctionCode.encode]
  | writeMultipleCoils address quantity | writeMultipleRegisters address quantity =>
    exact (encodeEchoQuantity_meets _ address quantity).congr fun data => by
      simp [Wire, Leads, Body, function, FunctionCode.encode]
  | maskWriteRegister address andMask orMask =>
    refine (sized_meets (.push_seq 22 (.extend_seq _ (.extend_seq _ (.extend _))))).congr fun data => ?_
    simp [Wire, Leads, Body, function, FunctionCode.encode]
  | readExceptionStatus status =>
    refine (sized_meets (.push_seq 7 (.push _))).congr fun data => ?_
    simp [Wire, Leads, Body, function, FunctionCode.encode]
  | diagnostics subFunction ws =>
    refine (encodeDiagnostics_meets 8 subFunction ws).congr fun data => ?_
    simp [Wire, Leads, Body, function, FunctionCode.encode]
  | getCommEventCounter status eventCount =>
    refine (sized_meets (.push_seq 11 (.extend_seq _ (.extend _)))).congr fun data => ?_
    simp [Wire, Leads, Body, function, FunctionCode.encode]
  | getCommEventLog status eventCount messageCount events =>
    refine (Meets.check (sized_meets (.push_seq 12 (.push_seq _ (.extend_seq _ (.extend_seq _
      (.extend_seq _ (.extend _)))))))).congr fun data => ?_
    simp only [checkEventLogBytes_ok, exists_eq_left, Wire, Leads, Body, function,
      FunctionCode.encode, Except.ok.injEq, eventLogFixedBytes, asU32]
    constructor
    · rintro ⟨range, rfl, size⟩
      have exactly : min (6 + min events.length 4294967295) 4294967295 = events.length + 6 := by omega
      rw [exactly] at range ⊢
      exact ⟨⟨_, _, rfl, ⟨_, asU8_toNat (by omega), by omega, rfl⟩, rfl⟩, by simpa [exactly] using size⟩
    · rintro ⟨⟨_, _, rfl, ⟨count, counted, bound, rfl⟩, rfl⟩, size⟩
      have exactly : min (6 + min events.length 4294967295) 4294967295 = events.length + 6 := by omega
      have same : asU8 (events.length + 6) = count := by
        apply UInt8.toNat_inj.mp
        rw [asU8_toNat (by omega), counted]
      rw [exactly, same]
      exact ⟨by omega, rfl, size⟩
  | reportServerId data =>
    refine (counted_meets (.extend data) rfl).congr fun data => ?_
    simp [Wire, Leads, Body, function, FunctionCode.encode]
  | readFileRecord records =>
    refine (encodeBody_meets 20 (encodeReadResponsesInto_meets records)).congr fun data => ?_
    simp [Wire, Leads, Body, function, FunctionCode.encode]
  | writeFileRecord records =>
    refine (encodeBody_meets 21 (encodeWriteRecordsInto_meets records)).congr fun data => ?_
    simp [Wire, Leads, Body, function, FunctionCode.encode]
  | readFifoQueue values =>
    refine (Meets.guard fun count _ => sized_meets (.push_seq 24 (.extend_seq _ (.extend_seq _
      (pushRegisters_meets values))))).congr fun data => ?_
    simp only [quantityOf_ok (show maxFifoCount < 65535 by decide), exists_eq_left, Wire, Leads, Body,
      function, FunctionCode.encode, Except.ok.injEq]
    constructor
    · rintro ⟨count, ⟨counted, _, bound⟩, rfl, size⟩
      exact ⟨⟨24, _, rfl, ⟨count, counted, bound, rfl⟩, rfl⟩, size⟩
    · rintro ⟨⟨_, _, rfl, ⟨count, counted, bound, rfl⟩, rfl⟩, size⟩
      exact ⟨count, ⟨counted, by simp, bound⟩, rfl, size⟩
  | encapsulatedInterfaceTransport response =>
    refine (encodeBody_meets 43 (Mei.encodeResponseInto_meets response)).congr fun data => ?_
    simp [Wire, Leads, Body, function, FunctionCode.encode]
  | custom code body =>
    refine (encodeCustom_meets code body).congr fun data => ?_
    simp [Wire, Leads, Body, function]
  | exception response =>
    refine response.encodeInto_meets.congr fun data => ?_
    rw [exception_wire]
    refine (and_iff_left_of_imp ?_).symm
    rintro ⟨_, _, _, _, rfl⟩
    simp [maxPduLen]

theorem encode_ok {data : Bytes} {response : ResponsePdu} :
    encode response = .ok data ↔ response.Wire data ∧ data.length ≤ maxPduLen :=
  (write_meets response).restoring.allocating data

end ResponsePdu

end Modbus
