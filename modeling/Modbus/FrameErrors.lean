import Modbus.AduRoundTrip

/-! Which failures are a frame's and which the stream's. No codec reports a failure
of the stream or of the client: whatever bytes are decoded and whatever PDU is
encoded, an error costs one frame. -/
namespace Modbus

open Bytes

/-- A failure, if any, that costs one frame and not the stream. -/
def CostsFrame (r : Result α) : Prop := ∀ e, r = .error e → e.ofFrame = true

namespace CostsFrame

theorem endsStream {r : Result α} (costs : CostsFrame r) {e : Error} (failed : r = .error e) :
    e.endsStream = false :=
  Error.ofFrame_endsStream (costs e failed)

theorem ok (a : α) : CostsFrame (.ok a : Result α) := by
  intro e failed
  cases failed

theorem error {e : Error} (frame : e.ofFrame = true) : CostsFrame (.error e : Result α) := by
  intro other failed
  cases failed
  exact frame

theorem ite {c : Prop} [Decidable c] {r s : Result α} (first : CostsFrame r) (second : CostsFrame s) :
    CostsFrame (if c then r else s) := by
  split
  · exact first
  · exact second

theorem bind {r : Result α} {f : α → Result β} (first : CostsFrame r) (second : ∀ a, CostsFrame (f a)) :
    CostsFrame (r >>= f) := by
  intro e failed
  cases r with
  | error other =>
    cases failed
    exact first e rfl
  | ok a => exact second a e failed

/-- A check that ends an encoder or a decoder early. -/
theorem check {r : Result Unit} {s : Result α} (first : CostsFrame r) (second : CostsFrame s) :
    CostsFrame (match r with
      | .error e => .error e
      | .ok () => s) := by
  cases r with
  | error e => exact .error (first e rfl)
  | ok u => exact second

end CostsFrame

section Checks

theorem checkRange_costs (field : String) (value min max : UInt16) :
    CostsFrame (checkRange field value min max) := .ite (.error rfl) (.ok ())

theorem checkBounds_costs (field : String) (value min max : Nat) :
    CostsFrame (checkBounds field value min max) := .ite (.error rfl) (.ok ())

theorem checkSize_costs (pdu : Bytes) : CostsFrame (checkSize pdu) := .ite (.error rfl) (.ok ())

theorem checkEventLogBytes_costs (byteCount : Nat) : CostsFrame (checkEventLogBytes byteCount) :=
  .ite (.error rfl) (.ok ())

theorem checkNumbers_costs (fileNumber : FileNumber) (recordNumber : RecordNumber) :
    CostsFrame (checkNumbers fileNumber recordNumber) :=
  .check (checkBounds_costs _ _ _ _) (checkBounds_costs _ _ _ _)

theorem packedBits_costs (data : Bytes) (quantity : Nat) : CostsFrame (packedBits data quantity) :=
  .ite (.error rfl) (.ok _)

theorem tryU8_costs (len : Nat) {e : Error} (frame : e.ofFrame = true) : CostsFrame (tryU8 len e) :=
  .ite (.ok _) (.error frame)

theorem tryU16_costs (len : Nat) {e : Error} (frame : e.ofFrame = true) : CostsFrame (tryU16 len e) :=
  .ite (.ok _) (.error frame)

theorem quantityOf_costs (field : String) (len : Nat) (min max : UInt16) :
    CostsFrame (quantityOf field len min max) := .check (checkRange_costs _ _ _ _) (.ok _)

theorem FunctionCode.decode_costs (byte : UInt8) : CostsFrame (FunctionCode.decode byte) :=
  .ite (.error rfl) (.ok _)

theorem ReadDeviceIdCode.decode_costs (raw : UInt8) : CostsFrame (ReadDeviceIdCode.decode raw) :=
  .ite (.ok _) (.ite (.ok _) (.ite (.ok _) (.ite (.ok _) (.error rfl))))

theorem FunctionCode.encode_costs (code : FunctionCode) : CostsFrame code.encode := by
  cases code with
  | custom byte => exact .ite (.error rfl) (.ite (.error rfl) (.ok _))
  | _ => exact .ok _

theorem ExceptionCode.encode_costs (code : ExceptionCode) : CostsFrame code.encode := by
  cases code with
  | other byte => exact .ite (.error rfl) (.ok _)
  | _ => exact .ok _

theorem DiagnosticSubFunction.encode_costs (code : DiagnosticSubFunction) : CostsFrame code.encode := by
  cases code with
  | other raw => exact .ite (.error rfl) (.ok _)
  | _ => exact .ok _

theorem ExceptionResponse.decode_costs (pdu : Bytes) : CostsFrame (ExceptionResponse.decode pdu) := by
  unfold ExceptionResponse.decode
  split
  · apply CostsFrame.ite (.error rfl)
    split
    · next e failed => exact .error (FunctionCode.decode_costs _ e failed)
    · exact .ok _
  · exact .error rfl

end Checks

/-- A decoder whose failures cost the frame it reads. -/
def DecodesFrame (p : Decoder α) : Prop :=
  Parser.Fails (fun failure => ∀ supplied, (Parse.convert failure supplied).ofFrame = true) p

namespace DecodesFrame

theorem short (needed : Needed) (supplied : Nat) :
    (Parse.convert (.incomplete needed) supplied).ofFrame = true := rfl

theorem pure (a : α) : DecodesFrame (Pure.pure a : Decoder α) := Parser.Fails.pure a

theorem rest : DecodesFrame (Parser.rest : Decoder Bytes) := Parser.Fails.rest

theorem remaining : DecodesFrame (Parser.remaining : Decoder Nat) := Parser.Fails.remaining

theorem beU8 : DecodesFrame (Parser.beU8 : Decoder UInt8) := Parser.Fails.beU8 short

theorem beU16 : DecodesFrame (Parser.beU16 : Decoder UInt16) := Parser.Fails.beU16 short

theorem take (count : Nat) : DecodesFrame (Parser.take count : Decoder Bytes) :=
  Parser.Fails.take short count

theorem bind {p : Decoder α} {f : α → Decoder β} (first : DecodesFrame p)
    (second : ∀ a, DecodesFrame (f a)) : DecodesFrame (p >>= f) := Parser.Fails.bind first second

theorem ite {c : Prop} [Decidable c] {p q : Decoder α} (first : DecodesFrame p) (second : DecodesFrame q) :
    DecodesFrame (if c then p else q) := Parser.Fails.ite first second

theorem lift {r : Result α} (costs : CostsFrame r) : DecodesFrame (Parse.lift r) := by
  cases r with
  | error e => exact Parser.Fails.fail fun _ => costs e rfl
  | ok a => exact .pure a

theorem fail {e : Error} (frame : e.ofFrame = true) : DecodesFrame (Parse.fail e : Decoder α) :=
  .lift (.error frame)

theorem run {p : Decoder α} (decodes : DecodesFrame p) (bytes : Bytes) : CostsFrame (Parse.run bytes p) := by
  unfold Parse.run
  split
  · exact .ite (.ok _) (.error rfl)
  · next failure failed => exact .error (decodes bytes failure failed _)

theorem runAll {p : Decoder α} (decodes : DecodesFrame p) (bytes : Bytes) :
    CostsFrame (Parse.runAll bytes p) := by
  have items (supplied turns : Nat) (input : Bytes) :
      CostsFrame (Parse.runItems p supplied turns input) := by
    induction turns generalizing input with
    | zero =>
      cases input with
      | nil => exact .ok _
      | cons => exact .error rfl
    | succ turns ih =>
      cases input with
      | nil => exact .ok _
      | cons byte rest =>
        unfold Parse.runItems
        split
        · next failure failed => exact .error (decodes _ failure failed _)
        · next item rest _ =>
          split
          · next e failed => exact .error (ih rest e failed)
          · exact .ok _
  exact items _ _ bytes

end DecodesFrame

section Decoders

open DecodesFrame

theorem quantifiedBytes_decodes (field : String) (min max : UInt16) (width : Nat → Nat) :
    DecodesFrame (quantifiedBytes field min max width) :=
  .bind beU16 fun _ => .bind (.lift (checkRange_costs _ _ _ _)) fun _ => .bind beU8 fun _ =>
    .ite (.fail rfl) (.bind remaining fun _ => .ite (.fail rfl) (.bind (take _) fun _ => .pure _))

theorem countedBytes_decodes : DecodesFrame countedBytes :=
  .bind beU8 fun _ => .bind remaining fun _ => .ite (.fail rfl) (take _)

theorem readRequest_decodes (min max : UInt16) : DecodesFrame (readRequest min max) :=
  .bind beU16 fun _ => .bind beU16 fun _ => .bind (.lift (checkRange_costs _ _ _ _)) fun _ => .pure _

theorem singleCoil_decodes : DecodesFrame singleCoil :=
  .bind beU16 fun _ => .bind beU16 fun _ => .ite (.pure _) (.ite (.pure _) (.fail rfl))

theorem registers_decodes : DecodesFrame registers :=
  .bind countedBytes_decodes fun _ => .ite (.fail rfl) (.pure _)

theorem diagnosticBody_decodes : DecodesFrame diagnosticBody :=
  .bind beU16 fun _ => .bind rest fun _ => .ite (.fail rfl) (.pure _)

theorem fifoValues_decodes : DecodesFrame fifoValues :=
  .bind beU16 fun _ => .bind beU16 fun _ => .bind (.lift (checkRange_costs _ _ _ _)) fun _ =>
    .ite (.fail rfl) (.bind (take _) fun _ => .pure _)

theorem referenceType_decodes : DecodesFrame referenceType :=
  .bind beU8 fun _ => .ite (.pure _) (.fail rfl)

theorem region_decodes {check : Nat → Result Unit} (checks : ∀ count, CostsFrame (check count)) :
    DecodesFrame (region check) :=
  .bind beU8 fun _ => .bind (.lift (checks _)) fun _ => take _

theorem FileRecordRead.parse_decodes : DecodesFrame FileRecordRead.parse :=
  .bind referenceType_decodes fun _ => .bind beU16 fun _ => .bind beU16 fun _ => .bind beU16 fun _ =>
    .bind (.lift (checkNumbers_costs _ _)) fun _ => .pure _

theorem FileRecordReadResponse.parse_decodes : DecodesFrame FileRecordReadResponse.parse :=
  .bind beU8 fun _ => .ite (.fail rfl)
    (.bind referenceType_decodes fun _ => .bind (take _) fun _ => .pure _)

theorem FileRecordWrite.parse_decodes : DecodesFrame FileRecordWrite.parse :=
  .bind referenceType_decodes fun _ => .bind beU16 fun _ => .bind beU16 fun _ => .bind beU16 fun _ =>
    .bind (.lift (checkNumbers_costs _ _)) fun _ => .bind (take _) fun _ => .pure _

theorem decodeReadRequests_decodes : DecodesFrame decodeReadRequests :=
  .bind (region_decodes fun _ => .check (checkBounds_costs _ _ _ _) (.ite (.error rfl) (.ok ())))
    fun _ => .lift (FileRecordRead.parse_decodes.runAll _)

theorem decodeReadResponses_decodes : DecodesFrame decodeReadResponses :=
  .bind (region_decodes fun _ => checkBounds_costs _ _ _ _)
    fun _ => .lift (FileRecordReadResponse.parse_decodes.runAll _)

theorem decodeWriteRecords_decodes : DecodesFrame decodeWriteRecords :=
  .bind (region_decodes fun _ => checkBounds_costs _ _ _ _)
    fun _ => .lift (FileRecordWrite.parse_decodes.runAll _)

theorem Mei.parseObject_decodes : DecodesFrame Mei.parseObject :=
  .bind beU8 fun _ => .bind beU8 fun _ => .bind (take _) fun _ => .pure _

theorem Mei.decodeDeviceIdentification_decodes : DecodesFrame Mei.decodeDeviceIdentification :=
  .bind beU8 fun _ => .bind (.lift (ReadDeviceIdCode.decode_costs _)) fun _ => .bind beU8 fun _ =>
    .bind beU8 fun _ => .bind (.lift (.ite (.ok _) (.ite (.ok _) (.error rfl)))) fun _ =>
    .bind beU8 fun _ => .bind beU8 fun _ => .bind rest fun _ =>
    .bind (.lift (Mei.parseObject_decodes.runAll _)) fun _ => .ite (.fail rfl) (.pure _)

theorem Mei.decodeRequest_decodes : DecodesFrame Mei.decodeRequest :=
  .bind beU8 fun _ => .ite (.bind rest fun _ => .pure _)
    (.ite (.bind beU8 fun _ => .bind (.lift (ReadDeviceIdCode.decode_costs _)) fun _ =>
      .bind beU8 fun _ => .pure _) (.bind rest fun _ => .pure _))

theorem Mei.decodeResponse_decodes : DecodesFrame Mei.decodeResponse :=
  .bind beU8 fun _ => .ite (.bind rest fun _ => .pure _)
    (.ite Mei.decodeDeviceIdentification_decodes (.bind rest fun _ => .pure _))

theorem RequestPdu.decodeBody_decodes (code : FunctionCode) : DecodesFrame (RequestPdu.decodeBody code) := by
  cases code with
  | readCoils | readDiscreteInputs | readHoldingRegisters | readInputRegisters =>
    exact .bind (readRequest_decodes _ _) fun _ => .pure _
  | writeSingleCoil => exact .bind singleCoil_decodes fun _ => .pure _
  | writeSingleRegister => exact .bind beU16 fun _ => .bind beU16 fun _ => .pure _
  | writeMultipleCoils =>
    exact .bind beU16 fun _ => .bind (quantifiedBytes_decodes _ _ _ _) fun _ =>
      .bind (.lift (packedBits_costs _ _)) fun _ => .pure _
  | writeMultipleRegisters =>
    exact .bind beU16 fun _ => .bind (quantifiedBytes_decodes _ _ _ _) fun _ => .pure _
  | maskWriteRegister => exact .bind beU16 fun _ => .bind beU16 fun _ => .bind beU16 fun _ => .pure _
  | readWriteMultipleRegisters =>
    exact .bind beU16 fun _ => .bind beU16 fun _ => .bind (.lift (checkRange_costs _ _ _ _)) fun _ =>
      .bind beU16 fun _ => .bind (quantifiedBytes_decodes _ _ _ _) fun _ => .pure _
  | readExceptionStatus | getCommEventCounter | getCommEventLog | reportServerId => exact .pure _
  | diagnostics => exact .bind diagnosticBody_decodes fun _ => .pure _
  | readFileRecord => exact .bind decodeReadRequests_decodes fun _ => .pure _
  | writeFileRecord => exact .bind decodeWriteRecords_decodes fun _ => .pure _
  | readFifoQueue => exact .bind beU16 fun _ => .pure _
  | encapsulatedInterfaceTransport => exact .bind Mei.decodeRequest_decodes fun _ => .pure _
  | custom => exact .bind rest fun _ => .pure _

theorem ResponsePdu.decodeBody_decodes (code : FunctionCode) : DecodesFrame (ResponsePdu.decodeBody code) := by
  cases code with
  | readCoils | readDiscreteInputs | reportServerId => exact .bind countedBytes_decodes fun _ => .pure _
  | readHoldingRegisters | readInputRegisters | readWriteMultipleRegisters =>
    exact .bind registers_decodes fun _ => .pure _
  | writeSingleCoil => exact .bind singleCoil_decodes fun _ => .pure _
  | writeSingleRegister | writeMultipleCoils | writeMultipleRegisters | getCommEventCounter =>
    exact .bind beU16 fun _ => .bind beU16 fun _ => .pure _
  | maskWriteRegister => exact .bind beU16 fun _ => .bind beU16 fun _ => .bind beU16 fun _ => .pure _
  | readExceptionStatus => exact .bind beU8 fun _ => .pure _
  | diagnostics => exact .bind diagnosticBody_decodes fun _ => .pure _
  | getCommEventLog =>
    exact .bind beU8 fun _ => .bind (.lift (checkEventLogBytes_costs _)) fun _ => .bind beU16 fun _ =>
      .bind beU16 fun _ => .bind beU16 fun _ => .bind (take _) fun _ => .pure _
  | readFileRecord => exact .bind decodeReadResponses_decodes fun _ => .pure _
  | writeFileRecord => exact .bind decodeWriteRecords_decodes fun _ => .pure _
  | readFifoQueue => exact .bind fifoValues_decodes fun _ => .pure _
  | encapsulatedInterfaceTransport => exact .bind Mei.decodeResponse_decodes fun _ => .pure _
  | custom => exact .bind rest fun _ => .pure _

theorem RequestPdu.decode_costs (pdu : Bytes) : CostsFrame (RequestPdu.decode pdu) := by
  apply CostsFrame.check (checkSize_costs pdu)
  apply DecodesFrame.run
  exact .bind beU8 fun _ => .bind (.lift (FunctionCode.decode_costs _)) fun _ =>
    RequestPdu.decodeBody_decodes _

theorem ResponsePdu.decode_costs (pdu : Bytes) : CostsFrame (ResponsePdu.decode pdu) := by
  apply CostsFrame.check (checkSize_costs pdu)
  apply CostsFrame.ite
  · split
    · next e failed => exact .error (ExceptionResponse.decode_costs pdu e failed)
    · exact .ok _
  · apply DecodesFrame.run
    exact .bind beU8 fun _ => .bind (.lift (FunctionCode.decode_costs _)) fun _ =>
      ResponsePdu.decodeBody_decodes _

end Decoders

/-- An encoder whose failures cost the frame it writes. -/
def EncodesFrame (w : ByteWriter Error α) : Prop := ByteWriter.Fails (·.ofFrame = true) w

section Encoders

open ByteWriter ByteWriter.Fails

theorem finish_encodes (start : Nat) : EncodesFrame (finish start) :=
  .bind .length fun _ => .lift (CostsFrame.ite (.error rfl) (.ok ()))

theorem sized_encodes {w : ByteWriter Error Unit} (body : EncodesFrame w) : EncodesFrame (sized w) :=
  .bind .length fun _ => .bind body fun _ => finish_encodes _

theorem pushRegisters_encodes (registers : List RegisterValue) : EncodesFrame (pushRegisters registers) :=
  .forEach (fun _ => .extend _) registers

theorem pushWords_encodes (ws : List UInt16) : EncodesFrame (pushWords ws) :=
  .forEach (fun _ => .extend _) ws

theorem pushBits_encodes (bits : List Bool) : EncodesFrame (pushBits bits) :=
  .forEach (fun _ => .push _) _

/-- A function code and fields that can always be written. -/
theorem encodeSingle_encodes (code : UInt8) (address : Address) (value : UInt16) :
    EncodesFrame (encodeSingle code address value) :=
  sized_encodes (.bind (.push _) fun _ => .bind (.extend _) fun _ => .extend _)

theorem encodeRead_encodes (code : UInt8) (address : Address) (quantity : Quantity) (min max : UInt16) :
    EncodesFrame (encodeRead code address quantity min max) :=
  .bind (.lift (checkRange_costs _ _ _ _)) fun _ => encodeSingle_encodes code address quantity.raw

theorem encodeQuantified_encodes (code : UInt8) (address : Address) (quantity : Quantity) (dataLen : Nat)
    {writeData : ByteWriter Error Unit} (data : EncodesFrame writeData) :
    EncodesFrame (encodeQuantified code address quantity dataLen writeData) :=
  .bind (.lift (tryU8_costs _ rfl)) fun _ => sized_encodes (.bind (.push _) fun _ =>
    .bind (.extend _) fun _ => .bind (.extend _) fun _ => .bind (.push _) fun _ => data)

theorem encodeDiagnostics_encodes (code : UInt8) (subFunction : DiagnosticSubFunction) (data : List UInt16) :
    EncodesFrame (encodeDiagnostics code subFunction data) :=
  sized_encodes (.bind (.push _) fun _ => .bind (.lift subFunction.encode_costs) fun _ =>
    .bind (.extend _) fun _ => pushWords_encodes data)

theorem encodeCustom_encodes (code : UInt8) (data : Bytes) : EncodesFrame (encodeCustom code data) :=
  sized_encodes (.bind (.lift (FunctionCode.encode_costs _)) fun _ => .bind (.push _) fun _ => .extend _)

theorem encodeBody_encodes (code : UInt8) {write : ByteWriter Error Unit} (body : EncodesFrame write) :
    EncodesFrame (encodeBody code write) := sized_encodes (.bind (.push _) fun _ => body)

theorem encodeBare_encodes (code : UInt8) : EncodesFrame (encodeBare code) := sized_encodes (.push _)

theorem encodeCounted_encodes (code : UInt8) (dataLen : Nat) {writeData : ByteWriter Error Unit}
    (data : EncodesFrame writeData) : EncodesFrame (encodeCounted code dataLen writeData) :=
  .bind (.lift (tryU8_costs _ rfl)) fun _ => sized_encodes (.bind (.push _) fun _ =>
    .bind (.push _) fun _ => data)

theorem body_encodes (field : String) (min max : Nat) (records : List α) {encode : α → ByteWriter Error Unit}
    (element : ∀ a, EncodesFrame (encode a)) : EncodesFrame (body field min max records encode) :=
  .bind .length fun _ => .bind (.push _) fun _ => .bind (.forEach element records) fun _ =>
    .bind .length fun _ => .bind (.lift (checkBounds_costs _ _ _ _)) fun _ => .patch _ _

theorem FileRecordRead.encodeInto_encodes (record : FileRecordRead) : EncodesFrame record.encodeInto :=
  .bind (.lift (checkNumbers_costs _ _)) fun _ => .bind (.push _) fun _ => .bind (.extend _) fun _ =>
    .bind (.extend _) fun _ => .extend _

theorem FileRecordReadResponse.encodeInto_encodes (record : FileRecordReadResponse) :
    EncodesFrame record.encodeInto :=
  .bind (.lift (tryU8_costs _ rfl)) fun _ => .bind (.push _) fun _ => .bind (.push _) fun _ =>
    pushRegisters_encodes _

theorem FileRecordWrite.encodeInto_encodes (record : FileRecordWrite) : EncodesFrame record.encodeInto :=
  .bind (.lift (checkNumbers_costs _ _)) fun _ => .bind (.lift (tryU16_costs _ rfl)) fun _ =>
    .bind (.push _) fun _ => .bind (.extend _) fun _ => .bind (.extend _) fun _ => .bind (.extend _) fun _ =>
    pushRegisters_encodes _

theorem Mei.encodeRequestInto_encodes (request : MeiRequest) : EncodesFrame (Mei.encodeRequestInto request) := by
  cases request with
  | canOpen | other => exact .bind (.push _) fun _ => .extend _
  | readDeviceIdentification => exact .bind (.push _) fun _ => .bind (.push _) fun _ => .push _

theorem Mei.encodeObjectInto_encodes (object : DeviceIdObject) : EncodesFrame (Mei.encodeObjectInto object) :=
  .bind (.lift (tryU8_costs _ rfl)) fun _ => .bind (.push _) fun _ => .bind (.push _) fun _ => .extend _

theorem Mei.encodeResponseInto_encodes (response : MeiResponse) :
    EncodesFrame (Mei.encodeResponseInto response) := by
  cases response with
  | canOpen | other => exact .bind (.push _) fun _ => .extend _
  | readDeviceIdentification =>
    exact .bind (.lift (tryU8_costs _ rfl)) fun _ => .bind (.push _) fun _ => .bind (.push _) fun _ =>
      .bind (.push _) fun _ => .bind (.push _) fun _ => .bind (.push _) fun _ => .bind (.push _) fun _ =>
      .forEach Mei.encodeObjectInto_encodes _

theorem ExceptionResponse.encodeInto_encodes (response : ExceptionResponse) : EncodesFrame response.encodeInto :=
  .bind (.lift response.function.encode_costs) fun _ => .bind (.lift response.exception.encode_costs) fun _ =>
    .bind (.push _) fun _ => .push _

theorem RequestPdu.encodeInto_encodes (request : RequestPdu) : EncodesFrame request.encodeInto := by
  apply ByteWriter.Fails.restoring
  cases request with
  | readCoils | readDiscreteInputs | readHoldingRegisters | readInputRegisters =>
    exact encodeRead_encodes _ _ _ _ _
  | writeSingleCoil | writeSingleRegister => exact encodeSingle_encodes _ _ _
  | writeMultipleCoils =>
    exact .bind (.lift (quantityOf_costs _ _ _ _)) fun _ => encodeQuantified_encodes _ _ _ _ (pushBits_encodes _)
  | writeMultipleRegisters =>
    exact .bind (.lift (quantityOf_costs _ _ _ _)) fun _ =>
      encodeQuantified_encodes _ _ _ _ (pushRegisters_encodes _)
  | maskWriteRegister =>
    exact sized_encodes (.bind (.push _) fun _ => .bind (.extend _) fun _ => .bind (.extend _) fun _ => .extend _)
  | readWriteMultipleRegisters =>
    exact .bind (.lift (checkRange_costs _ _ _ _)) fun _ => .bind (.lift (quantityOf_costs _ _ _ _)) fun _ =>
      sized_encodes (.bind (.push _) fun _ => .bind (.extend _) fun _ => .bind (.extend _) fun _ =>
        .bind (.extend _) fun _ => .bind (.extend _) fun _ => .bind (.push _) fun _ => pushRegisters_encodes _)
  | readExceptionStatus | getCommEventCounter | getCommEventLog | reportServerId => exact encodeBare_encodes _
  | diagnostics => exact encodeDiagnostics_encodes _ _ _
  | readFileRecord =>
    exact encodeBody_encodes _ (body_encodes _ _ _ _ FileRecordRead.encodeInto_encodes)
  | writeFileRecord =>
    exact encodeBody_encodes _ (body_encodes _ _ _ _ FileRecordWrite.encodeInto_encodes)
  | readFifoQueue => exact sized_encodes (.bind (.push _) fun _ => .extend _)
  | encapsulatedInterfaceTransport => exact encodeBody_encodes _ (Mei.encodeRequestInto_encodes _)
  | custom => exact encodeCustom_encodes _ _

theorem ResponsePdu.encodeInto_encodes (response : ResponsePdu) : EncodesFrame response.encodeInto := by
  apply ByteWriter.Fails.restoring
  cases response with
  | readCoils | readDiscreteInputs => exact encodeCounted_encodes _ _ (pushBits_encodes _)
  | readHoldingRegisters | readInputRegisters | readWriteMultipleRegisters =>
    exact encodeCounted_encodes _ _ (pushRegisters_encodes _)
  | writeSingleCoil | writeSingleRegister | writeMultipleCoils | writeMultipleRegisters =>
    exact encodeSingle_encodes _ _ _
  | maskWriteRegister =>
    exact sized_encodes (.bind (.push _) fun _ => .bind (.extend _) fun _ => .bind (.extend _) fun _ => .extend _)
  | readExceptionStatus => exact sized_encodes (.bind (.push _) fun _ => .push _)
  | diagnostics => exact encodeDiagnostics_encodes _ _ _
  | getCommEventCounter => exact sized_encodes (.bind (.push _) fun _ => .bind (.extend _) fun _ => .extend _)
  | getCommEventLog =>
    exact .bind (.lift (checkEventLogBytes_costs _)) fun _ => sized_encodes (.bind (.push _) fun _ =>
      .bind (.push _) fun _ => .bind (.extend _) fun _ => .bind (.extend _) fun _ => .bind (.extend _) fun _ =>
      .extend _)
  | reportServerId => exact encodeCounted_encodes _ _ (.extend _)
  | readFileRecord =>
    exact encodeBody_encodes _ (body_encodes _ _ _ _ FileRecordReadResponse.encodeInto_encodes)
  | writeFileRecord =>
    exact encodeBody_encodes _ (body_encodes _ _ _ _ FileRecordWrite.encodeInto_encodes)
  | readFifoQueue =>
    exact .bind (.lift (quantityOf_costs _ _ _ _)) fun _ => sized_encodes (.bind (.push _) fun _ =>
      .bind (.extend _) fun _ => .bind (.extend _) fun _ => pushRegisters_encodes _)
  | encapsulatedInterfaceTransport => exact encodeBody_encodes _ (Mei.encodeResponseInto_encodes _)
  | custom => exact encodeCustom_encodes _ _
  | exception response => exact response.encodeInto_encodes

end Encoders

section Framings

variable {Header : Type}

/-- A framing none of whose codecs reports a failure of the stream. -/
structure Framing.CostsFrames (framing : Framing Header) : Prop where
  decodeRequest : ∀ adu, CostsFrame (framing.decodeRequest adu)
  decodeResponse : ∀ adu, CostsFrame (framing.decodeResponse adu)
  encodeRequest : ∀ header request, CostsFrame (framing.encodeRequest header request)
  encodeResponse : ∀ header response, CostsFrame (framing.encodeResponse header response)

theorem Framing.costsFrames {maxAduLen : Nat} {split : Bytes → Result (Header × Bytes)}
    {wrapInto : Header → ByteWriter Error Unit → ByteWriter Error Unit} {boundary : AduBoundary}
    (opens : ∀ bytes, CostsFrame (split bytes))
    (seals : ∀ header w, EncodesFrame w → EncodesFrame (wrapInto header w)) :
    (enveloping maxAduLen split wrapInto boundary).CostsFrames where
  decodeRequest adu := .bind (opens adu) fun _ => .bind (RequestPdu.decode_costs _) fun _ => .ok _
  decodeResponse adu := .bind (opens adu) fun _ => .bind (ResponsePdu.decode_costs _) fun _ => .ok _
  encodeRequest header request := by
    intro e failed
    exact ByteWriter.Fails.allocating (seals header _ request.encodeInto_encodes) failed
  encodeResponse header response := by
    intro e failed
    exact ByteWriter.Fails.allocating (seals header _ response.encodeInto_encodes) failed

theorem Rtu.split_costs (crc16 : Bytes → UInt16) (bytes : Bytes) : CostsFrame (Rtu.split crc16 bytes) := by
  apply CostsFrame.ite (.error rfl)
  apply CostsFrame.ite (.error rfl)
  dsimp only
  split
  · exact .ite (.error rfl) (.ok _)
  · exact .error rfl

theorem Rtu.wrapInto_encodes (crc16 : Bytes → UInt16) (address : UnitId) (w : ByteWriter Error Unit)
    (body : EncodesFrame w) : EncodesFrame (Rtu.wrapInto crc16 address w) :=
  .bind .length fun _ => .bind (.restoring (.bind (.push _) fun _ => body)) fun _ =>
    .bind (.since _) fun _ => .extend _

theorem Tcp.checkLength_costs (length : Nat) : CostsFrame (Tcp.checkLength length) :=
  .ite (.error rfl) (.ok ())

theorem Tcp.split_costs (bytes : Bytes) : CostsFrame (Tcp.split bytes) := by
  apply CostsFrame.ite (.error rfl)
  apply CostsFrame.ite (.error rfl)
  split
  · exact .ite (.error rfl) (.bind (Tcp.checkLength_costs _) fun _ => .ite (.error rfl) (.ok _))
  · exact .error rfl

theorem Tcp.wrapInto_encodes (header : MbapHeader) (w : ByteWriter Error Unit) (body : EncodesFrame w) :
    EncodesFrame (Tcp.wrapInto header w) :=
  .restoring (.bind .length fun _ => .bind (.extend _) fun _ => .bind (.extend _) fun _ =>
    .bind (.extend _) fun _ => .bind .length fun _ => .bind body fun _ => .bind .length fun _ =>
    .bind (.lift (Tcp.checkLength_costs _)) fun _ => .patch _ _)

theorem Ascii.nibble_costs (character : UInt8) : CostsFrame (Ascii.nibble character) :=
  .ite (.ok _) (.ite (.ok _) (.ite (.ok _) (.error rfl)))

theorem Ascii.decodeHex_costs (chars : Bytes) : CostsFrame (Ascii.decodeHex chars) := by
  induction chars using Ascii.decodeHex.induct with
  | case1 high low rest ih =>
    exact .bind (Ascii.nibble_costs _) fun _ => .bind (Ascii.nibble_costs _) fun _ => .bind ih fun _ => .ok _
  | case2 chars short =>
    unfold Ascii.decodeHex
    split
    · next high low rest => exact absurd rfl (short high low rest)
    · exact .ok _

theorem Ascii.split_costs (bytes : Bytes) : CostsFrame (Ascii.split bytes) := by
  apply CostsFrame.ite (.error rfl)
  apply CostsFrame.ite (.error rfl)
  split
  · exact .error rfl
  · apply CostsFrame.ite (.error rfl)
    apply CostsFrame.ite (.error rfl)
    apply CostsFrame.ite (.error rfl)
    apply CostsFrame.bind (Ascii.decodeHex_costs _)
    intro decoded
    split
    · exact .error rfl
    · apply CostsFrame.ite (.error rfl)
      split
      · exact .error rfl
      · exact .ok _

theorem Ascii.wrapInto_encodes (address : UnitId) (w : ByteWriter Error Unit) (body : EncodesFrame w) :
    EncodesFrame (Ascii.wrapInto address w) := by
  have hex (byte : UInt8) : EncodesFrame (Ascii.encodeHex byte) := .bind (.push _) fun _ => .push _
  have covered : EncodesFrame (do ByteWriter.push address.raw; w) := .bind (.push _) fun _ => body
  exact .bind (.lift fun _ failed => covered.allocating failed) fun _ => .bind (.push _) fun _ =>
    .bind (.forEach hex _) fun _ => .bind (hex _) fun _ => .extend _

theorem tcp_costsFrames : tcp.CostsFrames := Framing.costsFrames Tcp.split_costs Tcp.wrapInto_encodes

theorem rtu_costsFrames (crc16 : Bytes → UInt16) : (rtu crc16).CostsFrames :=
  Framing.costsFrames (Rtu.split_costs crc16) (Rtu.wrapInto_encodes crc16)

theorem rtuOverTcp_costsFrames (crc16 : Bytes → UInt16) : (rtuOverTcp crc16).CostsFrames :=
  Framing.costsFrames (Rtu.split_costs crc16) (Rtu.wrapInto_encodes crc16)

theorem ascii_costsFrames : ascii.CostsFrames := Framing.costsFrames Ascii.split_costs Ascii.wrapInto_encodes

end Framings

end Modbus
