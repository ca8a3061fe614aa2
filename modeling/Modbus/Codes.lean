import Modbus.Values

/-! Function, exception and diagnostic codes. Decoding looks a byte up in a
table, encoding is a match of its own; a general value holding a named code is
refused, so every wire value keeps exactly one representation. -/
namespace Modbus

/-- A table lookup by key finds an entry with that key, or the key is absent. -/
theorem lookup_cases [DecidableEq κ] (table : List (κ × ν)) (key : κ) :
    (∃ value, (key, value) ∈ table ∧ table.find? (fun entry => entry.1 == key) = some (key, value)) ∨
    (table.any (fun entry => entry.1 == key) = false ∧
      table.find? (fun entry => entry.1 == key) = none) := by
  cases found : table.find? (fun entry => entry.1 == key) with
  | none =>
    refine .inr ⟨?_, rfl⟩
    simpa using found
  | some entry =>
    have same : entry.1 = key := by simpa using List.find?_some found
    refine .inl ⟨entry.2, ?_, ?_⟩
    · rw [← same]
      exact List.mem_of_find?_eq_some found
    · rw [← same]

theorem lookup_none [DecidableEq κ] {table : List (κ × ν)} {key : κ}
    (absent : ¬table.any (fun entry => entry.1 == key) = true) :
    table.find? (fun entry => entry.1 == key) = none := by
  rcases lookup_cases table key with ⟨value, member, _⟩ | ⟨_, missing⟩
  · exact absurd (List.any_eq_true.mpr ⟨_, member, by simp⟩) absent
  · exact missing

namespace FunctionCode

def named : List (UInt8 × FunctionCode) := [
  (1, readCoils), (2, readDiscreteInputs), (3, readHoldingRegisters), (4, readInputRegisters),
  (5, writeSingleCoil), (6, writeSingleRegister), (7, readExceptionStatus), (8, diagnostics),
  (11, getCommEventCounter), (12, getCommEventLog), (15, writeMultipleCoils),
  (16, writeMultipleRegisters), (17, reportServerId), (20, readFileRecord),
  (21, writeFileRecord), (22, maskWriteRegister), (23, readWriteMultipleRegisters),
  (24, readFifoQueue), (43, encapsulatedInterfaceTransport)]

def decode (byte : UInt8) : Result FunctionCode :=
  if byte = 0 ∨ byte ≥ 0x80 then .error (.invalidFunctionCode byte)
  else .ok (match named.find? (fun entry => entry.1 == byte) with
    | some (_, code) => code
    | none => custom byte)

def encode : FunctionCode → Result UInt8
  | readCoils => .ok 1
  | readDiscreteInputs => .ok 2
  | readHoldingRegisters => .ok 3
  | readInputRegisters => .ok 4
  | writeSingleCoil => .ok 5
  | writeSingleRegister => .ok 6
  | readExceptionStatus => .ok 7
  | diagnostics => .ok 8
  | getCommEventCounter => .ok 11
  | getCommEventLog => .ok 12
  | writeMultipleCoils => .ok 15
  | writeMultipleRegisters => .ok 16
  | reportServerId => .ok 17
  | readFileRecord => .ok 20
  | writeFileRecord => .ok 21
  | maskWriteRegister => .ok 22
  | readWriteMultipleRegisters => .ok 23
  | readFifoQueue => .ok 24
  | encapsulatedInterfaceTransport => .ok 43
  | custom byte =>
    if byte = 0 ∨ byte ≥ 0x80 then .error (.invalidFunctionCode byte)
    else if named.any (fun entry => entry.1 == byte) then .error (.reservedCode byte)
    else .ok byte

theorem named_encode : ∀ entry ∈ named, encode entry.2 = .ok entry.1 := by decide

/-- One byte, one code: the two directions are inverse wherever either succeeds. -/
theorem decode_ok {byte : UInt8} {code : FunctionCode} :
    decode byte = .ok code ↔ encode code = .ok byte := by
  constructor
  · intro decoded
    unfold decode at decoded
    split at decoded
    · contradiction
    next valid =>
      rcases lookup_cases named byte with ⟨value, member, found⟩ | ⟨absent, missing⟩
      · simp only [found, Except.ok.injEq] at decoded
        subst decoded
        exact named_encode _ member
      · simp only [missing, Except.ok.injEq] at decoded
        subst decoded
        simp only [encode]
        rw [if_neg valid, if_neg (by simp [absent])]
  · intro encoded
    cases code with
    | custom raw =>
      simp only [encode] at encoded
      split at encoded
      · contradiction
      next valid =>
        split at encoded
        · contradiction
        next absent =>
          obtain rfl := Except.ok.inj encoded
          unfold decode
          rw [if_neg valid, lookup_none absent]
    | _ =>
      obtain rfl := Except.ok.inj encoded
      rfl

/-- Encoded function codes leave the exception flag clear. -/
theorem encode_lt {code : FunctionCode} {byte : UInt8} (encoded : encode code = .ok byte) :
    byte ≠ 0 ∧ byte < 0x80 := by
  have decoded := decode_ok.mpr encoded
  unfold decode at decoded
  split at decoded
  · contradiction
  next valid => simpa using valid

end FunctionCode

namespace ExceptionCode

def named : List (UInt8 × ExceptionCode) := [
  (1, illegalFunction), (2, illegalDataAddress), (3, illegalDataValue),
  (4, serverDeviceFailure), (5, acknowledge), (6, serverDeviceBusy), (8, memoryParityError),
  (10, gatewayPathUnavailable), (11, gatewayTargetDeviceFailedToRespond)]

def decode (byte : UInt8) : ExceptionCode :=
  match named.find? (fun entry => entry.1 == byte) with
  | some (_, code) => code
  | none => other byte

def encode : ExceptionCode → Result UInt8
  | illegalFunction => .ok 1
  | illegalDataAddress => .ok 2
  | illegalDataValue => .ok 3
  | serverDeviceFailure => .ok 4
  | acknowledge => .ok 5
  | serverDeviceBusy => .ok 6
  | memoryParityError => .ok 8
  | gatewayPathUnavailable => .ok 10
  | gatewayTargetDeviceFailedToRespond => .ok 11
  | other byte =>
    if named.any (fun entry => entry.1 == byte) then .error (.reservedCode byte) else .ok byte

theorem named_encode : ∀ entry ∈ named, encode entry.2 = .ok entry.1 := by decide

theorem decode_eq {byte : UInt8} {code : ExceptionCode} :
    decode byte = code ↔ encode code = .ok byte := by
  constructor
  · intro decoded
    unfold decode at decoded
    rcases lookup_cases named byte with ⟨value, member, found⟩ | ⟨absent, missing⟩
    · simp only [found] at decoded
      subst decoded
      exact named_encode _ member
    · simp only [missing] at decoded
      subst decoded
      simp [encode, absent]
  · intro encoded
    cases code with
    | other raw =>
      simp only [encode] at encoded
      split at encoded
      · contradiction
      next absent =>
        obtain rfl := Except.ok.inj encoded
        simp [decode, lookup_none absent]
    | _ =>
      obtain rfl := Except.ok.inj encoded
      rfl

end ExceptionCode

inductive DiagnosticSubFunction where
  | returnQueryData | restartCommunicationsOption | returnDiagnosticRegister
  | changeAsciiInputDelimiter | forceListenOnlyMode | clearCountersAndDiagnosticRegister
  | returnBusMessageCount | returnBusCommunicationErrorCount | returnBusExceptionErrorCount
  | returnServerMessageCount | returnServerNoResponseCount | returnServerNakCount
  | returnServerBusyCount | returnBusCharacterOverrunCount | clearOverrunCounterAndFlag
  | other (code : UInt16)
  deriving DecidableEq, Repr

namespace DiagnosticSubFunction

def named : List (UInt16 × DiagnosticSubFunction) := [
  (0, returnQueryData), (1, restartCommunicationsOption), (2, returnDiagnosticRegister),
  (3, changeAsciiInputDelimiter), (4, forceListenOnlyMode),
  (10, clearCountersAndDiagnosticRegister), (11, returnBusMessageCount),
  (12, returnBusCommunicationErrorCount), (13, returnBusExceptionErrorCount),
  (14, returnServerMessageCount), (15, returnServerNoResponseCount), (16, returnServerNakCount),
  (17, returnServerBusyCount), (18, returnBusCharacterOverrunCount),
  (20, clearOverrunCounterAndFlag)]

def decode (raw : UInt16) : DiagnosticSubFunction :=
  match named.find? (fun entry => entry.1 == raw) with
  | some (_, code) => code
  | none => other raw

/-- A named code held as a general value is reported in the 8-bit `reservedCode`. -/
def encode : DiagnosticSubFunction → Result UInt16
  | returnQueryData => .ok 0
  | restartCommunicationsOption => .ok 1
  | returnDiagnosticRegister => .ok 2
  | changeAsciiInputDelimiter => .ok 3
  | forceListenOnlyMode => .ok 4
  | clearCountersAndDiagnosticRegister => .ok 10
  | returnBusMessageCount => .ok 11
  | returnBusCommunicationErrorCount => .ok 12
  | returnBusExceptionErrorCount => .ok 13
  | returnServerMessageCount => .ok 14
  | returnServerNoResponseCount => .ok 15
  | returnServerNakCount => .ok 16
  | returnServerBusyCount => .ok 17
  | returnBusCharacterOverrunCount => .ok 18
  | clearOverrunCounterAndFlag => .ok 20
  | other raw =>
    if named.any (fun entry => entry.1 == raw) then .error (.reservedCode (asU8 raw.toNat))
    else .ok raw

theorem named_encode : ∀ entry ∈ named, encode entry.2 = .ok entry.1 := by decide

theorem decode_eq {raw : UInt16} {code : DiagnosticSubFunction} :
    decode raw = code ↔ encode code = .ok raw := by
  constructor
  · intro decoded
    unfold decode at decoded
    rcases lookup_cases named raw with ⟨value, member, found⟩ | ⟨absent, missing⟩
    · simp only [found] at decoded
      subst decoded
      exact named_encode _ member
    · simp only [missing] at decoded
      subst decoded
      simp [encode, absent]
  · intro encoded
    cases code with
    | other raw =>
      simp only [encode] at encoded
      split at encoded
      · contradiction
      next absent =>
        obtain rfl := Except.ok.inj encoded
        simp [decode, lookup_none absent]
    | _ =>
      obtain rfl := Except.ok.inj encoded
      rfl

end DiagnosticSubFunction

/-- An exception response: the function it answers and the exception raised. -/
structure ExceptionResponse where
  function : FunctionCode
  exception : ExceptionCode
  deriving DecidableEq, Repr

namespace ExceptionResponse

open Bytes

def decode : Bytes → Result ExceptionResponse
  | [raw, code] =>
    if raw &&& 0x80 = 0 then .error (.invalidFunctionCode raw)
    else match FunctionCode.decode (raw &&& ~~~0x80) with
      | .error e => .error e
      | .ok function => .ok ⟨function, ExceptionCode.decode code⟩
  | pdu => .error (.invalidLength 2 pdu.length)

/-- Both fields are validated before either byte is written. -/
def encodeInto (response : ExceptionResponse) : ByteWriter Error Unit := do
  let function ← ByteWriter.lift response.function.encode
  let exception ← ByteWriter.lift response.exception.encode
  ByteWriter.push (function ||| 0x80)
  ByteWriter.push exception

end ExceptionResponse

end Modbus
