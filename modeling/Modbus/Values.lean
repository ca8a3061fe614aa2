import Modbus.ByteParser
import Modbus.ByteWriter

/-! Domain values and the crate's error type. Lengths that the source keeps in
`usize` or `u32` are natural numbers; the wire widths stay fixed-width. -/
namespace Modbus

structure UnitId where
  raw : UInt8
  deriving DecidableEq, Repr

structure TransactionId where
  raw : UInt16
  deriving DecidableEq, Repr

structure Address where
  raw : UInt16
  deriving DecidableEq, Repr

structure Quantity where
  raw : UInt16
  deriving DecidableEq, Repr

structure RegisterValue where
  raw : UInt16
  deriving DecidableEq, Repr

structure Mask where
  raw : UInt16
  deriving DecidableEq, Repr

structure FileNumber where
  raw : UInt16
  deriving DecidableEq, Repr

structure RecordNumber where
  raw : UInt16
  deriving DecidableEq, Repr

structure RecordLength where
  raw : UInt16
  deriving DecidableEq, Repr

structure ExceptionStatus where
  raw : UInt8
  deriving DecidableEq, Repr

/-- The address every server on a serial line acts on and none answers. -/
def broadcastUnit : UnitId := ⟨0⟩

/-- The nineteen public codes by name, every other code in 1–127 verbatim. -/
inductive FunctionCode where
  | readCoils | readDiscreteInputs | readHoldingRegisters | readInputRegisters
  | writeSingleCoil | writeSingleRegister | readExceptionStatus | diagnostics
  | getCommEventCounter | getCommEventLog | writeMultipleCoils | writeMultipleRegisters
  | reportServerId | readFileRecord | writeFileRecord | maskWriteRegister
  | readWriteMultipleRegisters | readFifoQueue | encapsulatedInterfaceTransport
  | custom (code : UInt8)
  deriving DecidableEq, Repr

inductive ExceptionCode where
  | illegalFunction | illegalDataAddress | illegalDataValue | serverDeviceFailure
  | acknowledge | serverDeviceBusy | memoryParityError | gatewayPathUnavailable
  | gatewayTargetDeviceFailedToRespond
  | other (code : UInt8)
  deriving DecidableEq, Repr

/-- `std::io::ErrorKind`. -/
inductive ErrorKind where
  | notFound | permissionDenied | connectionRefused | connectionReset | hostUnreachable
  | networkUnreachable | connectionAborted | notConnected | addrInUse | addrNotAvailable
  | networkDown | brokenPipe | alreadyExists | wouldBlock | notADirectory | isADirectory
  | directoryNotEmpty | readOnlyFilesystem | staleNetworkFileHandle | invalidInput
  | invalidData | timedOut | writeZero | storageFull | notSeekable | quotaExceeded
  | fileTooLarge | resourceBusy | executableFileBusy | deadlock | crossesDevices
  | tooManyLinks | invalidFilename | argumentListTooLong | interrupted | unsupported
  | unexpectedEof | outOfMemory | other
  deriving DecidableEq, Repr

/-- The failures of the modelled code. Configuration, TLS and RS-485 failures and
the blocking client's refusal belong to code outside the model. -/
inductive Error where
  | truncated (expected supplied : Nat)
  | trailingBytes (extra : Nat)
  | invalidFunctionCode (code : UInt8)
  | reservedCode (code : UInt8)
  | invalidLength (expected actual : Nat)
  | outOfRange (field : String) (value min max : Nat)
  | checksum (expected actual : UInt16)
  | framing (element : String)
  | invalidCharacter (byte : UInt8)
  | protocolIdentifier (value : UInt16)
  | aduTooLarge (len max : Nat)
  | referenceType (value : UInt8)
  | illegalValue (field : String) (value : UInt16)
  | byteCountMismatch (expected actual : Nat)
  | pduTooLarge (len max : Nat)
  | malformed
  | io (kind : ErrorKind) (rawOsError : Option Int32)
  | timeout (what : String)
  | connectionClosed
  | exception (function : FunctionCode) (exception : ExceptionCode)
  | unexpectedFunction (expected actual : FunctionCode)
  | indeterminateLength (function : UInt8)
  | desynchronized
  | tooManyInFlight
  deriving DecidableEq, Repr

def Error.endsStream : Error → Bool
  | .io _ _ | .connectionClosed | .timeout _ => true
  | _ => false

/-- What a codec may report: a failure neither of the stream nor of the client. -/
def Error.ofFrame : Error → Bool
  | .io _ _ | .connectionClosed | .timeout _ | .desynchronized | .tooManyInFlight => false
  | _ => true

theorem Error.ofFrame_endsStream {e : Error} (frame : e.ofFrame = true) : e.endsStream = false := by
  cases e with
  | io | connectionClosed | timeout => cases frame
  | _ => rfl

abbrev Result := Except Error

/-- `u16::try_from(len).unwrap_or(u16::MAX)`. -/
def asU16 (len : Nat) : UInt16 := if len < 65536 then UInt16.ofNat len else 65535

/-- `u32::try_from(len).unwrap_or(u32::MAX)`. -/
def asU32 (len : Nat) : Nat := min len 4294967295

/-- `u8::try_from(len)`, with the error a caller maps the failure to. -/
def tryU8 (len : Nat) (e : Error) : Result UInt8 :=
  if len < 256 then .ok (UInt8.ofNat len) else .error e

def tryU16 (len : Nat) (e : Error) : Result UInt16 :=
  if len < 65536 then .ok (UInt16.ofNat len) else .error e

/-- `u8::try_from(len).unwrap_or(u8::MAX)`. -/
def asU8 (len : Nat) : UInt8 := if len < 256 then UInt8.ofNat len else 255

theorem tryU8_ok {len : Nat} {e : Error} {byte : UInt8} :
    tryU8 len e = .ok byte ↔ byte.toNat = len := by
  have bound := byte.toNat_lt
  unfold tryU8
  split
  case isTrue small =>
    simp only [Except.ok.injEq, ← UInt8.toNat_inj, UInt8.toNat_ofNat']
    omega
  case isFalse large =>
    simp only [reduceCtorEq, false_iff]
    omega

theorem tryU16_ok {len : Nat} {e : Error} {word : UInt16} :
    tryU16 len e = .ok word ↔ word.toNat = len := by
  have bound := word.toNat_lt
  unfold tryU16
  split
  case isTrue small =>
    simp only [Except.ok.injEq, ← UInt16.toNat_inj, UInt16.toNat_ofNat']
    omega
  case isFalse large =>
    simp only [reduceCtorEq, false_iff]
    omega

theorem asU16_toNat {len : Nat} (small : len < 65536) : (asU16 len).toNat = len := by
  simp [asU16, small]

theorem asU8_toNat {len : Nat} (small : len < 256) : (asU8 len).toNat = len := by
  simp [asU8, small]

end Modbus
