import Modbus.Panic
import Modbus.Pdu

/-! The PDU decoders with every operation that can fail: multiplications, subtractions and
shifts of a fixed width, and the loop over a region of items, which must come to an end.
`bits` is the width of a `usize`. Parts of the decoders without such an operation are used
as they are. -/
namespace Modbus.Checked

open Bytes CheckedParser

abbrev CheckedDecoder (α : Type) := CheckedParser (Option Error) α

/-- Unpacking shifts a byte by the number of each bit. -/
def bitsFromBytes (bytes : Bytes) : Option (List Bool) :=
  (bytes.mapM fun byte => (List.range 8).mapM fun bit =>
    (Panic.shl 8 1 bit).map fun mask => byte &&& UInt8.ofNat mask != 0).map List.flatten

def packedBits (data : Bytes) (quantity : Nat) : Option (Result (List Bool)) := do
  let bits ← bitsFromBytes data
  if quantity ≤ bits.length ∧ (bits.drop quantity).any id then
    some (.error (.illegalValue "coil padding" (data.getLast?.getD 0).toUInt16))
  else some (.ok (bits.take quantity))

def registerWidth (bits quantity : Nat) : Option Nat := Panic.mul bits quantity 2

def quantifiedBytes (field : String) (min max : UInt16) (width : Nat → Option Nat) :
    CheckedDecoder (UInt16 × Bytes) := do
  let quantity ← total Parser.beU16
  total (Parse.lift (checkRange field quantity min max))
  let expected ← expect (width quantity.toNat)
  let count ← total Parser.beU8
  if count.toNat ≠ expected then
    total (Parse.fail (.byteCountMismatch expected count.toNat))
  else
    let available ← total Parser.remaining
    if available < expected then
      total (Parse.fail (.byteCountMismatch expected available))
    else
      let data ← total (Parser.take expected)
      pure (quantity, data)

/-- The byte count is computed in 16 bits, the size of the data in a `usize`. -/
def fifoValues (bits : Nat) : CheckedDecoder (List RegisterValue) := do
  let byteCount ← total Parser.beU16
  let count ← total Parser.beU16
  total (Parse.lift (checkRange "FIFO count" count 0 maxFifoCount))
  let doubled ← expect (Panic.mul 16 count.toNat 2)
  let sum ← expect (Panic.add 16 doubled 2)
  let expected := UInt16.ofNat sum
  if byteCount ≠ expected then
    total (Parse.fail (.byteCountMismatch expected.toNat byteCount.toNat))
  else
    let size ← expect (Panic.mul bits count.toNat 2)
    let data ← total (Parser.take size)
    pure (registersFromBytes data)

/-- `length - 1` in 8 bits. -/
def parseReadResponse : CheckedDecoder FileRecordReadResponse := do
  let length ← total Parser.beU8
  if length = 0 ∨ length % 2 = 0 then
    total (Parse.fail (.illegalValue "file response length" length.toUInt16))
  else
    total referenceType
    let size ← expect (Panic.sub length.toNat 1)
    let data ← total (Parser.take size)
    pure ⟨registersFromBytes data⟩

/-- The loop of `run_all`; one that would go on for ever has no value. -/
def runItems (parser : CheckedDecoder α) (supplied : Nat) : Nat → Bytes → Option (Result (List α))
  | _, [] => some (.ok [])
  | 0, _ :: _ => none
  | turns + 1, input@(_ :: _) => do
    match ← parser.run input with
    | .error failure => some (.error (Parse.convert failure supplied))
    | .ok (item, rest) =>
      match ← runItems parser supplied turns rest with
      | .error e => some (.error e)
      | .ok items => some (.ok (item :: items))

def runAll (bytes : Bytes) (parser : CheckedDecoder α) : CheckedDecoder (List α) := do
  let items ← expect (runItems parser bytes.length bytes.length bytes)
  total (Parse.lift items)

def run (bytes : Bytes) (parser : CheckedDecoder α) : Option (Result α) := do
  match ← parser.run bytes with
  | .ok (value, rest) =>
    if rest.length = 0 then some (.ok value) else some (.error (.trailingBytes rest.length))
  | .error failure => some (.error (Parse.convert failure bytes.length))

def decodeReadRequests : CheckedDecoder (List FileRecordRead) := do
  let bytes ← total (region fun count =>
    match checkBounds "request byte count" count minReadByteCount maxReadByteCount with
    | .error e => .error e
    | .ok () =>
      if count % readSubrequestLen ≠ 0 then .error (.illegalValue "request byte count" (asU16 count))
      else .ok ())
  runAll bytes (total FileRecordRead.parse)

def decodeReadResponses : CheckedDecoder (List FileRecordReadResponse) := do
  let bytes ← total (region fun length =>
    checkBounds "response data length" length minReadDataLen maxReadDataLen)
  runAll bytes parseReadResponse

def decodeWriteRecords : CheckedDecoder (List FileRecordWrite) := do
  let bytes ← total (region fun length =>
    checkBounds "request data length" length minWriteDataLen maxWriteDataLen)
  runAll bytes (total FileRecordWrite.parse)

def decodeDeviceIdentification : CheckedDecoder MeiResponse := do
  let raw ← total Parser.beU8
  let readDeviceIdCode ← total (Parse.lift (ReadDeviceIdCode.decode raw))
  let conformityLevel ← total Parser.beU8
  let follows ← total Parser.beU8
  let moreFollows ← total (Parse.lift (
    if follows = moreFollowsNo then .ok false
    else if follows = moreFollowsYes then .ok true
    else .error (.illegalValue "more follows" follows.toUInt16)))
  let nextObjectId ← total Parser.beU8
  let objectCount ← total Parser.beU8
  let body ← total Parser.rest
  let objects ← runAll body (total Mei.parseObject)
  if objects.length ≠ objectCount.toNat then
    total (Parse.fail (.byteCountMismatch objectCount.toNat objects.length))
  else
    pure (.readDeviceIdentification readDeviceIdCode conformityLevel moreFollows nextObjectId objects)

def decodeMeiResponse : CheckedDecoder MeiResponse := do
  let meiType ← total Parser.beU8
  if meiType = meiCanopen then
    let data ← total Mei.opaqueData
    pure (.canOpen data)
  else if meiType = meiReadDeviceId then
    decodeDeviceIdentification
  else
    let data ← total Mei.opaqueData
    pure (.other meiType data)

def decodeRequestBody (bits : Nat) : FunctionCode → CheckedDecoder RequestPdu
  | .writeMultipleCoils => do
    let address ← total Parser.beU16
    let (quantity, data) ← quantifiedBytes "quantity" 1 maxWriteBits fun quantity => some (bitWidth quantity)
    let unpacked ← expect (packedBits data quantity.toNat)
    let coils ← total (Parse.lift unpacked)
    pure (.writeMultipleCoils ⟨address⟩ coils)
  | .writeMultipleRegisters => do
    let address ← total Parser.beU16
    let (_, data) ← quantifiedBytes "quantity" 1 maxWriteRegisters (registerWidth bits)
    pure (.writeMultipleRegisters ⟨address⟩ (registersFromBytes data))
  | .readWriteMultipleRegisters => do
    let readAddress ← total Parser.beU16
    let readQuantity ← total Parser.beU16
    total (Parse.lift (checkRange "read quantity" readQuantity 1 maxReadRegisters))
    let writeAddress ← total Parser.beU16
    let (_, data) ← quantifiedBytes "write quantity" 1 maxRwWriteRegisters (registerWidth bits)
    pure (.readWriteMultipleRegisters ⟨readAddress⟩ ⟨readQuantity⟩ ⟨writeAddress⟩
      (registersFromBytes data))
  | .readFileRecord => do
    let records ← decodeReadRequests
    pure (.readFileRecord records)
  | .writeFileRecord => do
    let records ← decodeWriteRecords
    pure (.writeFileRecord records)
  | code => total (RequestPdu.decodeBody code)

def decodeRequest (bits : Nat) (pdu : Bytes) : Option (Result RequestPdu) :=
  match checkSize pdu with
  | .error e => some (.error e)
  | .ok () => run pdu do
    let byte ← total Parser.beU8
    let code ← total (Parse.lift (FunctionCode.decode byte))
    decodeRequestBody bits code

def decodeResponseBody (bits : Nat) : FunctionCode → CheckedDecoder ResponsePdu
  | .readCoils => do
    let data ← total countedBytes
    let coils ← expect (bitsFromBytes data)
    pure (.readCoils coils)
  | .readDiscreteInputs => do
    let data ← total countedBytes
    let inputs ← expect (bitsFromBytes data)
    pure (.readDiscreteInputs inputs)
  | .readFileRecord => do
    let records ← decodeReadResponses
    pure (.readFileRecord records)
  | .writeFileRecord => do
    let records ← decodeWriteRecords
    pure (.writeFileRecord records)
  | .readFifoQueue => do
    let values ← fifoValues bits
    pure (.readFifoQueue values)
  | .encapsulatedInterfaceTransport => do
    let response ← decodeMeiResponse
    pure (.encapsulatedInterfaceTransport response)
  | code => total (ResponsePdu.decodeBody code)

def decodeResponse (bits : Nat) (pdu : Bytes) : Option (Result ResponsePdu) :=
  match checkSize pdu with
  | .error e => some (.error e)
  | .ok () =>
    if pdu.head?.any (fun byte => byte &&& 0x80 != 0) then
      match ExceptionResponse.decode pdu with
      | .error e => some (.error e)
      | .ok response => some (.ok (.exception response))
    else run pdu do
      let byte ← total Parser.beU8
      let code ← total (Parse.lift (FunctionCode.decode byte))
      decodeResponseBody bits code

section Fields

theorem byteBits_checked (byte : UInt8) :
    ((List.range 8).mapM fun bit => (Panic.shl 8 1 bit).map fun mask => byte &&& UInt8.ofNat mask != 0) =
      some (byteBits byte) := by
  have masked (bit : Nat) (inside : bit ∈ List.range 8) :
      ((Panic.shl 8 1 bit).map fun mask => byte &&& UInt8.ofNat mask != 0) =
        some (byte &&& UInt8.ofNat (1 <<< bit % 2 ^ 8) != 0) := by
    rw [Panic.shl_eq (List.mem_range.mp inside)]
    rfl
  rw [Panic.mapM_eq masked]
  rfl

theorem bitsFromBytes_checked (bytes : Bytes) : bitsFromBytes bytes = some (Modbus.bitsFromBytes bytes) := by
  rw [bitsFromBytes, Panic.mapM_eq fun byte _ => byteBits_checked byte]
  rfl

theorem packedBits_checked (data : Bytes) (quantity : Nat) :
    packedBits data quantity = some (Modbus.packedBits data quantity) := by
  refine Panic.bind_eq (bitsFromBytes_checked data) ?_
  exact Panic.ite_eq (fun _ => rfl) fun _ => rfl

theorem quantifiedBytes_checked (field : String) (min max : UInt16) {width : Nat → Option Nat} {size : Nat → Nat}
    (has : ∀ quantity : UInt16, width quantity.toNat = some (size quantity.toNat)) :
    Agrees (quantifiedBytes field min max width) (Modbus.quantifiedBytes field min max size) := by
  refine .bind (.total _) fun quantity _ _ _ => .bind (.total _) fun _ _ _ _ => .expect (has quantity) ?_
  refine .bind (.total _) fun count _ _ _ => .ite (fun _ => .total _) fun _ => ?_
  refine .bind (.total _) fun available _ _ _ => .ite (fun _ => .total _) fun _ => ?_
  exact .bind (.total _) fun data _ _ _ => .pure _

variable {bits : Nat} (wide : 16 < bits)
include wide

/-- Twice a 16-bit number fits in a word of more than 16 bits. -/
theorem double_checked (n : UInt16) : Panic.mul bits n.toNat 2 = some (n.toNat * 2) := by
  have bound := n.toNat_lt
  have room : 2 ^ 17 ≤ 2 ^ bits := Nat.pow_le_pow_right (by decide) wide
  exact Panic.mul_eq (by omega)

theorem fifoValues_checked : Agrees (fifoValues bits) Modbus.fifoValues := by
  refine .bind (.total _) fun byteCount _ _ _ => .bind (.total _) fun count _ _ _ => ?_
  refine .bind (.total _) fun _ input rest checked => ?_
  have small : count ≤ maxFifoCount := (checkRange_ok.mp (Parse.lift_ok.mp checked).1).2
  have bound : count.toNat ≤ 31 := small
  refine .expect (Panic.mul_eq (by omega)) (.expect (Panic.add_eq (by omega)) ?_)
  have same : UInt16.ofNat (count.toNat * 2 + 2) = count * 2 + 2 := by
    rw [UInt16.ofNat_add, UInt16.ofNat_mul, UInt16.ofNat_toNat]
    rfl
  simp only [same]
  refine .ite (fun _ => .total _) fun _ => .expect (double_checked wide count) ?_
  exact .bind (.total _) fun data _ _ _ => .pure _

end Fields

section Records

theorem parseReadResponse_checked : Agrees parseReadResponse FileRecordReadResponse.parse := by
  refine .bind (.total _) fun length _ _ _ => .ite (fun _ => .total _) fun odd => ?_
  have nonzero : length.toNat ≠ 0 := fun zero => odd (.inl (UInt8.toNat_inj.mp zero))
  have positive : 1 ≤ length := UInt8.le_iff_toNat_le.mpr (Nat.one_le_iff_ne_zero.mpr nonzero)
  have size : Panic.sub length.toNat 1 = some (length - 1).toNat := by
    rw [UInt8.toNat_sub_of_le _ _ positive]
    exact Panic.sub_eq positive
  refine .bind (.total _) fun _ _ _ _ => .expect size ?_
  exact .bind (.total _) fun data _ _ _ => .pure _

/-- The loop over a region ends by its own length. -/
theorem runItems_checked {checked : CheckedDecoder α} {parser : Decoder α} (agrees : Agrees checked parser)
    (consumes : ∀ input item rest, parser.run input = .ok (item, rest) → rest.length + 1 ≤ input.length)
    (supplied turns : Nat) (input : Bytes) (enough : input.length ≤ turns) :
    runItems checked supplied turns input = some (Parse.runItems parser supplied turns input) := by
  induction turns generalizing input with
  | zero =>
    obtain rfl := List.eq_nil_of_length_eq_zero (Nat.le_zero.mp enough)
    rfl
  | succ turns ih =>
    cases input with
    | nil => rfl
    | cons byte tail =>
      simp only [runItems, Parse.runItems, agrees (byte :: tail)]
      rcases parsed : parser.run (byte :: tail) with failure | ⟨item, rest⟩
      · rfl
      · have shorter := consumes _ _ _ parsed
        simp only [ih rest (by omega), Option.bind_eq_bind, Option.bind_some]
        cases Parse.runItems parser supplied turns rest <;> rfl

theorem runAll_checked {checked : CheckedDecoder α} {parser : Decoder α} (agrees : Agrees checked parser)
    (consumes : ∀ input item rest, parser.run input = .ok (item, rest) → rest.length + 1 ≤ input.length)
    (bytes : Bytes) :
    Agrees (runAll bytes checked) (Parse.lift (Parse.runAll bytes parser)) :=
  .expect (runItems_checked agrees consumes _ _ bytes (Nat.le_refl _)) (.total _)

theorem decodeReadRequests_checked : Agrees decodeReadRequests Modbus.decodeReadRequests :=
  .bind (.total _) fun bytes _ _ _ => runAll_checked (.total _)
    (Parse.consumes_of_layout FileRecordRead.parse_ok fun _ => by simp [FileRecordRead.layout]) bytes

theorem decodeReadResponses_checked : Agrees decodeReadResponses Modbus.decodeReadResponses :=
  .bind (.total _) fun bytes _ _ _ => runAll_checked parseReadResponse_checked
    (Parse.consumes_of_layout FileRecordReadResponse.parse_ok fun _ => by simp [FileRecordReadResponse.layout]) bytes

theorem decodeWriteRecords_checked : Agrees decodeWriteRecords Modbus.decodeWriteRecords :=
  .bind (.total _) fun bytes _ _ _ => runAll_checked (.total _)
    (Parse.consumes_of_layout FileRecordWrite.parse_ok fun _ => by simp [FileRecordWrite.layout]) bytes

theorem decodeDeviceIdentification_checked :
    Agrees decodeDeviceIdentification Mei.decodeDeviceIdentification := by
  refine .bind (.total _) fun raw _ _ _ => .bind (.total _) fun code _ _ _ => ?_
  refine .bind (.total _) fun level _ _ _ => .bind (.total _) fun follows _ _ _ => ?_
  refine .bind (.total _) fun more _ _ _ => .bind (.total _) fun next _ _ _ => ?_
  refine .bind (.total _) fun count _ _ _ => .bind (.total _) fun body _ _ _ => ?_
  refine .bind (runAll_checked (.total _)
    (Parse.consumes_of_layout Mei.parseObject_ok fun _ => by simp [DeviceIdObject.layout]) body) fun objects _ _ _ => ?_
  exact .ite (fun _ => .total _) fun _ => .pure _

theorem decodeMeiResponse_checked : Agrees decodeMeiResponse Mei.decodeResponse := by
  refine .bind (.total _) fun meiType _ _ _ => .ite (fun _ => ?_) fun _ => .ite (fun _ => ?_) fun _ => ?_
  · exact .bind (.total _) fun data _ _ _ => .pure _
  · exact decodeDeviceIdentification_checked
  · exact .bind (.total _) fun data _ _ _ => .pure _

end Records

theorem run_checked {checked : CheckedDecoder α} {parser : Decoder α} (agrees : Agrees checked parser)
    (bytes : Bytes) : run bytes checked = some (Parse.run bytes parser) := by
  refine Panic.bind_eq (agrees bytes) ?_
  unfold Parse.run
  rcases parser.run bytes with failure | ⟨value, rest⟩
  · rfl
  · exact Panic.ite_eq (fun _ => rfl) fun _ => rfl

variable {bits : Nat} (wide : 16 < bits)
include wide

theorem decodeRequestBody_checked (code : FunctionCode) :
    Agrees (decodeRequestBody bits code) (RequestPdu.decodeBody code) := by
  cases code with
  | writeMultipleCoils =>
    refine .bind (.total _) fun address _ _ _ => ?_
    refine .bind (quantifiedBytes_checked _ _ _ fun _ => rfl) fun counted _ _ _ => ?_
    obtain ⟨quantity, data⟩ := counted
    refine .expect (packedBits_checked data quantity.toNat) ?_
    exact .bind (.total _) fun coils _ _ _ => .pure _
  | writeMultipleRegisters =>
    refine .bind (.total _) fun address _ _ _ => ?_
    exact .bind (quantifiedBytes_checked _ _ _ (double_checked wide)) fun counted _ _ _ => .pure _
  | readWriteMultipleRegisters =>
    refine .bind (.total _) fun readAddress _ _ _ => .bind (.total _) fun readQuantity _ _ _ => ?_
    refine .bind (.total _) fun _ _ _ _ => .bind (.total _) fun writeAddress _ _ _ => ?_
    exact .bind (quantifiedBytes_checked _ _ _ (double_checked wide)) fun counted _ _ _ => .pure _
  | readFileRecord => exact .bind decodeReadRequests_checked fun records _ _ _ => .pure _
  | writeFileRecord => exact .bind decodeWriteRecords_checked fun records _ _ _ => .pure _
  | _ => exact .total _

theorem decodeRequest_checked (pdu : Bytes) : decodeRequest bits pdu = some (RequestPdu.decode pdu) := by
  unfold decodeRequest RequestPdu.decode
  cases checkSize pdu with
  | error e => rfl
  | ok =>
    refine run_checked ?_ pdu
    refine .bind (.total _) fun byte _ _ _ => .bind (.total _) fun code _ _ _ => ?_
    exact decodeRequestBody_checked wide code

theorem decodeResponseBody_checked (code : FunctionCode) :
    Agrees (decodeResponseBody bits code) (ResponsePdu.decodeBody code) := by
  cases code with
  | readCoils | readDiscreteInputs =>
    exact .bind (.total _) fun data _ _ _ => .expect (bitsFromBytes_checked data) (.pure _)
  | readFileRecord => exact .bind decodeReadResponses_checked fun records _ _ _ => .pure _
  | writeFileRecord => exact .bind decodeWriteRecords_checked fun records _ _ _ => .pure _
  | readFifoQueue => exact .bind (fifoValues_checked wide) fun values _ _ _ => .pure _
  | encapsulatedInterfaceTransport => exact .bind decodeMeiResponse_checked fun response _ _ _ => .pure _
  | _ => exact .total _

theorem decodeResponse_checked (pdu : Bytes) : decodeResponse bits pdu = some (ResponsePdu.decode pdu) := by
  unfold decodeResponse ResponsePdu.decode
  cases checkSize pdu with
  | error e => rfl
  | ok =>
    refine Panic.ite_eq (fun _ => ?_) fun _ => run_checked ?_ pdu
    · cases ExceptionResponse.decode pdu <;> rfl
    · refine .bind (.total _) fun byte _ _ _ => .bind (.total _) fun code _ _ _ => ?_
      exact decodeResponseBody_checked wide code

end Modbus.Checked
