import Modbus.FileRecord
import Modbus.Mei

/-! Request and response PDUs. The two directions are separate types, since the
same function code carries different layouts in each. -/
namespace Modbus

open Bytes ByteWriter

inductive RequestPdu where
  | readCoils (address : Address) (quantity : Quantity)
  | readDiscreteInputs (address : Address) (quantity : Quantity)
  | readHoldingRegisters (address : Address) (quantity : Quantity)
  | readInputRegisters (address : Address) (quantity : Quantity)
  | writeSingleCoil (address : Address) (value : Bool)
  | writeSingleRegister (address : Address) (value : RegisterValue)
  | writeMultipleCoils (address : Address) (coils : List Bool)
  | writeMultipleRegisters (address : Address) (registers : List RegisterValue)
  | maskWriteRegister (address : Address) (andMask orMask : Mask)
  | readWriteMultipleRegisters (readAddress : Address) (readQuantity : Quantity)
      (writeAddress : Address) (registers : List RegisterValue)
  | readExceptionStatus
  | diagnostics (subFunction : DiagnosticSubFunction) (data : List UInt16)
  | getCommEventCounter
  | getCommEventLog
  | reportServerId
  | readFileRecord (records : List FileRecordRead)
  | writeFileRecord (records : List FileRecordWrite)
  | readFifoQueue (address : Address)
  | encapsulatedInterfaceTransport (request : MeiRequest)
  | custom (code : UInt8) (data : Bytes)
  deriving DecidableEq, Repr

inductive ResponsePdu where
  | readCoils (coils : List Bool)
  | readDiscreteInputs (inputs : List Bool)
  | readHoldingRegisters (registers : List RegisterValue)
  | readInputRegisters (registers : List RegisterValue)
  | writeSingleCoil (address : Address) (value : Bool)
  | writeSingleRegister (address : Address) (value : RegisterValue)
  | writeMultipleCoils (address : Address) (quantity : Quantity)
  | writeMultipleRegisters (address : Address) (quantity : Quantity)
  | maskWriteRegister (address : Address) (andMask orMask : Mask)
  | readWriteMultipleRegisters (registers : List RegisterValue)
  | readExceptionStatus (status : ExceptionStatus)
  | diagnostics (subFunction : DiagnosticSubFunction) (data : List UInt16)
  | getCommEventCounter (status eventCount : UInt16)
  | getCommEventLog (status eventCount messageCount : UInt16) (events : Bytes)
  | reportServerId (data : Bytes)
  | readFileRecord (records : List FileRecordReadResponse)
  | writeFileRecord (records : List FileRecordWrite)
  | readFifoQueue (values : List RegisterValue)
  | encapsulatedInterfaceTransport (response : MeiResponse)
  | custom (code : UInt8) (data : Bytes)
  | exception (exception : ExceptionResponse)
  deriving DecidableEq, Repr

namespace RequestPdu

/-- What follows the function code, by function. -/
def decodeBody : FunctionCode → Decoder RequestPdu
  | .readCoils => do
    let (address, quantity) ← readRequest 1 maxReadBits
    pure (.readCoils address quantity)
  | .readDiscreteInputs => do
    let (address, quantity) ← readRequest 1 maxReadBits
    pure (.readDiscreteInputs address quantity)
  | .readHoldingRegisters => do
    let (address, quantity) ← readRequest 1 maxReadRegisters
    pure (.readHoldingRegisters address quantity)
  | .readInputRegisters => do
    let (address, quantity) ← readRequest 1 maxReadRegisters
    pure (.readInputRegisters address quantity)
  | .writeSingleCoil => do
    let (address, value) ← singleCoil
    pure (.writeSingleCoil address value)
  | .writeSingleRegister => do
    let address ← Parser.beU16
    let value ← Parser.beU16
    pure (.writeSingleRegister ⟨address⟩ ⟨value⟩)
  | .writeMultipleCoils => do
    let address ← Parser.beU16
    let (quantity, data) ← quantifiedBytes "quantity" 1 maxWriteBits bitWidth
    let coils ← Parse.lift (packedBits data quantity.toNat)
    pure (.writeMultipleCoils ⟨address⟩ coils)
  | .writeMultipleRegisters => do
    let address ← Parser.beU16
    let (_, data) ← quantifiedBytes "quantity" 1 maxWriteRegisters registerWidth
    pure (.writeMultipleRegisters ⟨address⟩ (registersFromBytes data))
  | .maskWriteRegister => do
    let address ← Parser.beU16
    let andMask ← Parser.beU16
    let orMask ← Parser.beU16
    pure (.maskWriteRegister ⟨address⟩ ⟨andMask⟩ ⟨orMask⟩)
  | .readWriteMultipleRegisters => do
    let readAddress ← Parser.beU16
    let readQuantity ← Parser.beU16
    Parse.lift (checkRange "read quantity" readQuantity 1 maxReadRegisters)
    let writeAddress ← Parser.beU16
    let (_, data) ← quantifiedBytes "write quantity" 1 maxRwWriteRegisters registerWidth
    pure (.readWriteMultipleRegisters ⟨readAddress⟩ ⟨readQuantity⟩ ⟨writeAddress⟩
      (registersFromBytes data))
  | .readExceptionStatus => pure .readExceptionStatus
  | .diagnostics => do
    let (subFunction, data) ← diagnosticBody
    pure (.diagnostics subFunction data)
  | .getCommEventCounter => pure .getCommEventCounter
  | .getCommEventLog => pure .getCommEventLog
  | .reportServerId => pure .reportServerId
  | .readFileRecord => do
    let records ← decodeReadRequests
    pure (.readFileRecord records)
  | .writeFileRecord => do
    let records ← decodeWriteRecords
    pure (.writeFileRecord records)
  | .readFifoQueue => do
    let address ← Parser.beU16
    pure (.readFifoQueue ⟨address⟩)
  | .encapsulatedInterfaceTransport => do
    let request ← Mei.decodeRequest
    pure (.encapsulatedInterfaceTransport request)
  | .custom code => do
    let data ← Parser.rest
    pure (.custom code data)

def decode (pdu : Bytes) : Result RequestPdu :=
  match checkSize pdu with
  | .error e => .error e
  | .ok () => Parse.run pdu do
    let byte ← Parser.beU8
    let code ← Parse.lift (FunctionCode.decode byte)
    decodeBody code

def function : RequestPdu → FunctionCode
  | readCoils .. => .readCoils
  | readDiscreteInputs .. => .readDiscreteInputs
  | readHoldingRegisters .. => .readHoldingRegisters
  | readInputRegisters .. => .readInputRegisters
  | writeSingleCoil .. => .writeSingleCoil
  | writeSingleRegister .. => .writeSingleRegister
  | writeMultipleCoils .. => .writeMultipleCoils
  | writeMultipleRegisters .. => .writeMultipleRegisters
  | maskWriteRegister .. => .maskWriteRegister
  | readWriteMultipleRegisters .. => .readWriteMultipleRegisters
  | readExceptionStatus => .readExceptionStatus
  | diagnostics .. => .diagnostics
  | getCommEventCounter => .getCommEventCounter
  | getCommEventLog => .getCommEventLog
  | reportServerId => .reportServerId
  | readFileRecord .. => .readFileRecord
  | writeFileRecord .. => .writeFileRecord
  | readFifoQueue .. => .readFifoQueue
  | encapsulatedInterfaceTransport _ => .encapsulatedInterfaceTransport
  | custom code _ => .custom code

/-- The encoding itself; `encodeInto` owns the failure contract. -/
def write : RequestPdu → ByteWriter Error Unit
  | readCoils address quantity => encodeRead 1 address quantity 1 maxReadBits
  | readDiscreteInputs address quantity => encodeRead 2 address quantity 1 maxReadBits
  | readHoldingRegisters address quantity => encodeRead 3 address quantity 1 maxReadRegisters
  | readInputRegisters address quantity => encodeRead 4 address quantity 1 maxReadRegisters
  | writeSingleCoil address value => encodeSingle 5 address (if value then coilOn else coilOff)
  | writeSingleRegister address value => encodeSingle 6 address value.raw
  | writeMultipleCoils address coils => do
    let quantity ← lift (quantityOf "quantity" coils.length 1 maxWriteBits)
    encodeQuantified 15 address ⟨quantity⟩ (packedLen coils.length) (pushBits coils)
  | writeMultipleRegisters address registers => do
    let quantity ← lift (quantityOf "quantity" registers.length 1 maxWriteRegisters)
    encodeQuantified 16 address ⟨quantity⟩ (registers.length * 2) (pushRegisters registers)
  | maskWriteRegister address andMask orMask => sized do
    push 22
    extend (beBytes address.raw)
    extend (beBytes andMask.raw)
    extend (beBytes orMask.raw)
  | readWriteMultipleRegisters readAddress readQuantity writeAddress registers => do
    lift (checkRange "read quantity" readQuantity.raw 1 maxReadRegisters)
    let writeQuantity ← lift (quantityOf "write quantity" registers.length 1 maxRwWriteRegisters)
    sized do
      push 23
      extend (beBytes readAddress.raw)
      extend (beBytes readQuantity.raw)
      extend (beBytes writeAddress.raw)
      extend (beBytes writeQuantity)
      push (asU8 (registers.length * 2))
      pushRegisters registers
  | readExceptionStatus => encodeBare 7
  | diagnostics subFunction data => encodeDiagnostics 8 subFunction data
  | getCommEventCounter => encodeBare 11
  | getCommEventLog => encodeBare 12
  | reportServerId => encodeBare 17
  | readFileRecord records => encodeBody 20 (encodeReadRequestsInto records)
  | writeFileRecord records => encodeBody 21 (encodeWriteRecordsInto records)
  | readFifoQueue address => sized do
    push 24
    extend (beBytes address.raw)
  | encapsulatedInterfaceTransport request => encodeBody 43 (Mei.encodeRequestInto request)
  | custom code data => encodeCustom code data

def encodeInto (request : RequestPdu) : ByteWriter Error Unit := restoring request.write

def encode (request : RequestPdu) : Result Bytes := allocating request.encodeInto

end RequestPdu

namespace ResponsePdu

def decodeBody : FunctionCode → Decoder ResponsePdu
  | .readCoils => do
    let data ← countedBytes
    pure (.readCoils (bitsFromBytes data))
  | .readDiscreteInputs => do
    let data ← countedBytes
    pure (.readDiscreteInputs (bitsFromBytes data))
  | .readHoldingRegisters => do
    let values ← registers
    pure (.readHoldingRegisters values)
  | .readInputRegisters => do
    let values ← registers
    pure (.readInputRegisters values)
  | .writeSingleCoil => do
    let (address, value) ← singleCoil
    pure (.writeSingleCoil address value)
  | .writeSingleRegister => do
    let address ← Parser.beU16
    let value ← Parser.beU16
    pure (.writeSingleRegister ⟨address⟩ ⟨value⟩)
  | .writeMultipleCoils => do
    let address ← Parser.beU16
    let quantity ← Parser.beU16
    pure (.writeMultipleCoils ⟨address⟩ ⟨quantity⟩)
  | .writeMultipleRegisters => do
    let address ← Parser.beU16
    let quantity ← Parser.beU16
    pure (.writeMultipleRegisters ⟨address⟩ ⟨quantity⟩)
  | .maskWriteRegister => do
    let address ← Parser.beU16
    let andMask ← Parser.beU16
    let orMask ← Parser.beU16
    pure (.maskWriteRegister ⟨address⟩ ⟨andMask⟩ ⟨orMask⟩)
  | .readWriteMultipleRegisters => do
    let values ← registers
    pure (.readWriteMultipleRegisters values)
  | .readExceptionStatus => do
    let status ← Parser.beU8
    pure (.readExceptionStatus ⟨status⟩)
  | .diagnostics => do
    let (subFunction, data) ← diagnosticBody
    pure (.diagnostics subFunction data)
  | .getCommEventCounter => do
    let status ← Parser.beU16
    let eventCount ← Parser.beU16
    pure (.getCommEventCounter status eventCount)
  | .getCommEventLog => do
    let byteCount ← Parser.beU8
    Parse.lift (checkEventLogBytes byteCount.toNat)
    let status ← Parser.beU16
    let eventCount ← Parser.beU16
    let messageCount ← Parser.beU16
    let events ← Parser.take (byteCount.toNat - eventLogFixedBytes)
    pure (.getCommEventLog status eventCount messageCount events)
  | .reportServerId => do
    let data ← countedBytes
    pure (.reportServerId data)
  | .readFileRecord => do
    let records ← decodeReadResponses
    pure (.readFileRecord records)
  | .writeFileRecord => do
    let records ← decodeWriteRecords
    pure (.writeFileRecord records)
  | .readFifoQueue => do
    let values ← fifoValues
    pure (.readFifoQueue values)
  | .encapsulatedInterfaceTransport => do
    let response ← Mei.decodeResponse
    pure (.encapsulatedInterfaceTransport response)
  | .custom code => do
    let data ← Parser.rest
    pure (.custom code data)

/-- The exception flag in the first byte selects the exception layout. -/
def decode (pdu : Bytes) : Result ResponsePdu :=
  match checkSize pdu with
  | .error e => .error e
  | .ok () =>
    if pdu.head?.any (fun byte => byte &&& 0x80 != 0) then
      match ExceptionResponse.decode pdu with
      | .error e => .error e
      | .ok response => .ok (.exception response)
    else Parse.run pdu do
      let byte ← Parser.beU8
      let code ← Parse.lift (FunctionCode.decode byte)
      decodeBody code

/-- For an exception this is the function the exception is to. -/
def function : ResponsePdu → FunctionCode
  | readCoils .. => .readCoils
  | readDiscreteInputs .. => .readDiscreteInputs
  | readHoldingRegisters .. => .readHoldingRegisters
  | readInputRegisters .. => .readInputRegisters
  | writeSingleCoil .. => .writeSingleCoil
  | writeSingleRegister .. => .writeSingleRegister
  | writeMultipleCoils .. => .writeMultipleCoils
  | writeMultipleRegisters .. => .writeMultipleRegisters
  | maskWriteRegister .. => .maskWriteRegister
  | readWriteMultipleRegisters .. => .readWriteMultipleRegisters
  | readExceptionStatus .. => .readExceptionStatus
  | diagnostics .. => .diagnostics
  | getCommEventCounter .. => .getCommEventCounter
  | getCommEventLog .. => .getCommEventLog
  | reportServerId .. => .reportServerId
  | readFileRecord .. => .readFileRecord
  | writeFileRecord .. => .writeFileRecord
  | readFifoQueue .. => .readFifoQueue
  | encapsulatedInterfaceTransport _ => .encapsulatedInterfaceTransport
  | custom code _ => .custom code
  | exception response => response.function

def write : ResponsePdu → ByteWriter Error Unit
  | readCoils coils => encodeCounted 1 (packedLen coils.length) (pushBits coils)
  | readDiscreteInputs inputs => encodeCounted 2 (packedLen inputs.length) (pushBits inputs)
  | readHoldingRegisters registers =>
    encodeCounted 3 (registers.length * 2) (pushRegisters registers)
  | readInputRegisters registers =>
    encodeCounted 4 (registers.length * 2) (pushRegisters registers)
  | writeSingleCoil address value => encodeSingle 5 address (if value then coilOn else coilOff)
  | writeSingleRegister address value => encodeSingle 6 address value.raw
  | writeMultipleCoils address quantity => encodeEchoQuantity 15 address quantity
  | writeMultipleRegisters address quantity => encodeEchoQuantity 16 address quantity
  | maskWriteRegister address andMask orMask => sized do
    push 22
    extend (beBytes address.raw)
    extend (beBytes andMask.raw)
    extend (beBytes orMask.raw)
  | readWriteMultipleRegisters registers =>
    encodeCounted 23 (registers.length * 2) (pushRegisters registers)
  | readExceptionStatus status => sized do
    push 7
    push status.raw
  | diagnostics subFunction data => encodeDiagnostics 8 subFunction data
  | getCommEventCounter status eventCount => sized do
    push 11
    extend (beBytes status)
    extend (beBytes eventCount)
  | getCommEventLog status eventCount messageCount events => do
    let byteCount := min (eventLogFixedBytes + asU32 events.length) 4294967295
    lift (checkEventLogBytes byteCount)
    sized do
      push 12
      push (asU8 byteCount)
      extend (beBytes status)
      extend (beBytes eventCount)
      extend (beBytes messageCount)
      extend events
  | reportServerId data => encodeCounted 17 data.length (extend data)
  | readFileRecord records => encodeBody 20 (encodeReadResponsesInto records)
  | writeFileRecord records => encodeBody 21 (encodeWriteRecordsInto records)
  | readFifoQueue values => do
    let count ← lift (quantityOf "FIFO count" values.length 0 maxFifoCount)
    sized do
      push 24
      extend (beBytes (count * 2 + 2))
      extend (beBytes count)
      pushRegisters values
  | encapsulatedInterfaceTransport response => encodeBody 43 (Mei.encodeResponseInto response)
  | custom code data => encodeCustom code data
  | exception response => response.encodeInto

def encodeInto (response : ResponsePdu) : ByteWriter Error Unit := restoring response.write

def encode (response : ResponsePdu) : Result Bytes := allocating response.encodeInto

end ResponsePdu

end Modbus
