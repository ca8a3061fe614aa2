import Modbus.PduEncoders

/-! File record bodies: one length byte and exactly that many bytes of records.
A record's layout and the numbers it may hold are stated once; parsing and
encoding are both exact for them. -/
namespace Modbus

open Bytes ByteWriter

def referenceTypeByte : UInt8 := 6
def maxRecordNumber : Nat := 9999
def readSubrequestLen : Nat := 7
def minReadByteCount : Nat := 7
def maxReadByteCount : Nat := 245
def minReadDataLen : Nat := 7
def maxReadDataLen : Nat := 245
def minWriteDataLen : Nat := 9
def maxWriteDataLen : Nat := 251

structure FileRecordRead where
  fileNumber : FileNumber
  recordNumber : RecordNumber
  recordLength : RecordLength
  deriving DecidableEq, Repr

structure FileRecordReadResponse where
  values : List RegisterValue
  deriving DecidableEq, Repr

structure FileRecordWrite where
  fileNumber : FileNumber
  recordNumber : RecordNumber
  values : List RegisterValue
  deriving DecidableEq, Repr

def checkBounds (field : String) (value min max : Nat) : Result Unit :=
  if value < min ∨ value > max then .error (.outOfRange field value min max) else .ok ()

def checkNumbers (fileNumber : FileNumber) (recordNumber : RecordNumber) : Result Unit :=
  match checkBounds "file number" fileNumber.raw.toNat 1 65535 with
  | .error e => .error e
  | .ok () => checkBounds "record number" recordNumber.raw.toNat 0 maxRecordNumber

def referenceType : Decoder Unit := do
  let byte ← Parser.beU8
  if byte = referenceTypeByte then pure () else Parse.fail (.referenceType byte)

/-- The length byte, checked, and the region it describes. -/
def region (check : Nat → Result Unit) : Decoder Bytes := do
  let length ← Parser.beU8
  Parse.lift (check length.toNat)
  Parser.take length.toNat

/-- Records behind a placeholder that is patched with their length. -/
def body (field : String) (min max : Nat) (records : List α) (encode : α → ByteWriter Error Unit) :
    ByteWriter Error Unit := do
  let start ← length
  push 0
  forEach encode records
  let stop ← length
  lift (checkBounds field (asU32 (stop - start - 1)) min max)
  patch start [asU8 (asU32 (stop - start - 1))]

namespace FileRecordRead

def parse : Decoder FileRecordRead := do
  referenceType
  let fileNumber ← Parser.beU16
  let recordNumber ← Parser.beU16
  let recordLength ← Parser.beU16
  Parse.lift (checkNumbers ⟨fileNumber⟩ ⟨recordNumber⟩)
  pure ⟨⟨fileNumber⟩, ⟨recordNumber⟩, ⟨recordLength⟩⟩

def encodeInto (record : FileRecordRead) : ByteWriter Error Unit := do
  lift (checkNumbers record.fileNumber record.recordNumber)
  push referenceTypeByte
  extend (beBytes record.fileNumber.raw)
  extend (beBytes record.recordNumber.raw)
  extend (beBytes record.recordLength.raw)

end FileRecordRead

namespace FileRecordReadResponse

/-- The length counts the reference type byte, so an even one holds no whole registers. -/
def parse : Decoder FileRecordReadResponse := do
  let length ← Parser.beU8
  if length = 0 ∨ length % 2 = 0 then
    Parse.fail (.illegalValue "file response length" length.toUInt16)
  else
    referenceType
    let data ← Parser.take (length - 1).toNat
    pure ⟨registersFromBytes data⟩

def encodeInto (record : FileRecordReadResponse) : ByteWriter Error Unit := do
  let dataLen := record.values.length * 2
  let length ← lift (tryU8 (dataLen + 1)
    (.outOfRange "file response length" (asU32 (dataLen + 1)) 1 maxReadDataLen))
  push length
  push referenceTypeByte
  pushRegisters record.values

end FileRecordReadResponse

namespace FileRecordWrite

def parse : Decoder FileRecordWrite := do
  referenceType
  let fileNumber ← Parser.beU16
  let recordNumber ← Parser.beU16
  let recordLength ← Parser.beU16
  Parse.lift (checkNumbers ⟨fileNumber⟩ ⟨recordNumber⟩)
  let data ← Parser.take (recordLength.toNat * 2)
  pure ⟨⟨fileNumber⟩, ⟨recordNumber⟩, registersFromBytes data⟩

def encodeInto (record : FileRecordWrite) : ByteWriter Error Unit := do
  lift (checkNumbers record.fileNumber record.recordNumber)
  let recordLength ← lift (tryU16 record.values.length
    (.outOfRange "record length" (asU32 record.values.length) 0 maxWriteDataLen))
  push referenceTypeByte
  extend (beBytes record.fileNumber.raw)
  extend (beBytes record.recordNumber.raw)
  extend (beBytes recordLength)
  pushRegisters record.values

end FileRecordWrite

def decodeReadRequests : Decoder (List FileRecordRead) := do
  let bytes ← region fun count =>
    match checkBounds "request byte count" count minReadByteCount maxReadByteCount with
    | .error e => .error e
    | .ok () =>
      if count % readSubrequestLen ≠ 0 then .error (.illegalValue "request byte count" (asU16 count))
      else .ok ()
  Parse.lift (Parse.runAll bytes FileRecordRead.parse)

def encodeReadRequestsInto (records : List FileRecordRead) : ByteWriter Error Unit :=
  body "request byte count" minReadByteCount maxReadByteCount records FileRecordRead.encodeInto

def decodeReadResponses : Decoder (List FileRecordReadResponse) := do
  let bytes ← region fun length =>
    checkBounds "response data length" length minReadDataLen maxReadDataLen
  Parse.lift (Parse.runAll bytes FileRecordReadResponse.parse)

def encodeReadResponsesInto (records : List FileRecordReadResponse) : ByteWriter Error Unit :=
  body "response data length" minReadDataLen maxReadDataLen records FileRecordReadResponse.encodeInto

def decodeWriteRecords : Decoder (List FileRecordWrite) := do
  let bytes ← region fun length =>
    checkBounds "request data length" length minWriteDataLen maxWriteDataLen
  Parse.lift (Parse.runAll bytes FileRecordWrite.parse)

def encodeWriteRecordsInto (records : List FileRecordWrite) : ByteWriter Error Unit :=
  body "request data length" minWriteDataLen maxWriteDataLen records FileRecordWrite.encodeInto

/-- Record numbers the protocol allows. -/
def NumbersInRange (fileNumber : FileNumber) (recordNumber : RecordNumber) : Prop :=
  1 ≤ fileNumber.raw.toNat ∧ recordNumber.raw.toNat ≤ maxRecordNumber

theorem checkBounds_ok {field : String} {value min max : Nat} {u : Unit} :
    checkBounds field value min max = .ok u ↔ min ≤ value ∧ value ≤ max := by
  unfold checkBounds
  by_cases outside : value < min ∨ value > max
  · rw [if_pos outside]
    simp
    omega
  · rw [if_neg outside]
    simp
    omega

theorem checkNumbers_ok {fileNumber : FileNumber} {recordNumber : RecordNumber} {u : Unit} :
    checkNumbers fileNumber recordNumber = .ok u ↔ NumbersInRange fileNumber recordNumber := by
  have bound := fileNumber.raw.toNat_lt
  have first := @checkBounds_ok "file number" fileNumber.raw.toNat 1 65535 ()
  have second := @checkBounds_ok "record number" recordNumber.raw.toNat 0 maxRecordNumber u
  unfold checkNumbers NumbersInRange
  cases checked : checkBounds "file number" fileNumber.raw.toNat 1 65535 with
  | error e =>
    rw [checked] at first
    simp only [reduceCtorEq, false_iff] at first ⊢
    omega
  | ok =>
    rw [checked] at first
    simp only [true_iff] at first
    simp only [second]
    omega

theorem referenceType_ok {input output : Bytes} {u : Unit} :
    referenceType.run input = .ok (u, output) ↔ input = referenceTypeByte :: output := by
  simp only [referenceType, Parser.bind_ok, Parser.beU8_ok]
  constructor
  · rintro ⟨byte, _, rfl, body⟩
    by_cases known : byte = referenceTypeByte
    · rw [if_pos known] at body
      obtain ⟨_, rfl⟩ := Parser.pure_ok.mp body
      rw [known]
    · rw [if_neg known] at body
      exact absurd body Parse.fail_ok
  · rintro rfl
    exact ⟨_, _, rfl, by simp⟩

theorem region_ok {check : Nat → Result Unit} {data input output : Bytes} :
    (region check).run input = .ok (data, output) ↔ ∃ count : UInt8,
      count.toNat = data.length ∧ check data.length = .ok () ∧ input = count :: (data ++ output) := by
  simp only [region, Parser.bind_ok, Parser.beU8_ok, Parse.lift_ok, Parser.take_ok]
  constructor
  · rintro ⟨count, _, rfl, _, _, ⟨passed, rfl⟩, rfl, taken⟩
    exact ⟨count, taken.symm, by rwa [taken], rfl⟩
  · rintro ⟨count, counted, passed, rfl⟩
    exact ⟨count, _, rfl, (), _, ⟨by rwa [counted], rfl⟩, rfl, counted.symm⟩

/-- A length byte within bounds and the records it covers. -/
def Counted (min max : Nat) (layout : α → Bytes) (valid : α → Prop) (records : List α)
    (data : Bytes) : Prop :=
  ∃ count : UInt8, count.toNat = (records.flatMap layout).length ∧
    (min ≤ count.toNat ∧ count.toNat ≤ max) ∧ (∀ record ∈ records, valid record) ∧
    data = count :: records.flatMap layout

theorem counted_decode {check : Nat → Result Unit} {min max : Nat} {parser : Decoder α}
    {layout : α → Bytes} {valid : α → Prop} {records : List α} {input output : Bytes}
    (exact_layout : ∀ input a output, parser.run input = .ok (a, output) ↔
      input = layout a ++ output ∧ valid a)
    (consumes : ∀ a, layout a ≠ [])
    (bounds : check (records.flatMap layout).length = .ok () ↔
      min ≤ (records.flatMap layout).length ∧ (records.flatMap layout).length ≤ max) :
    (do let bytes ← region check; Parse.lift (Parse.runAll bytes parser)).run input =
      .ok (records, output) ↔ ∃ data, Counted min max layout valid records data ∧
        input = data ++ output := by
  simp only [Parser.bind_ok, region_ok, Parse.lift_ok, Parse.runAll_ok exact_layout consumes]
  constructor
  · rintro ⟨_, _, ⟨count, counted, passed, rfl⟩, ⟨rfl, good⟩, rfl⟩
    exact ⟨_, ⟨count, counted, by rw [counted]; exact bounds.mp passed, good, rfl⟩, by simp⟩
  · rintro ⟨_, ⟨count, counted, inside, good, rfl⟩, rfl⟩
    rw [counted] at inside
    exact ⟨_, _, ⟨count, counted, bounds.mpr inside, by simp⟩, ⟨rfl, good⟩, rfl⟩

theorem body_meets {field : String} {min max : Nat} {encode : α → ByteWriter Error Unit}
    {layout : α → Bytes} {valid : α → Prop} (small : max < 256)
    (element : ∀ a, Meets (encode a) fun data => data = layout a ∧ valid a) (records : List α) :
    Meets (body field min max records encode) (Counted min max layout valid records) := by
  have counted := (Meets.forEach layout valid element records).counted
    (fun len => checkBounds field (asU32 len) min max) (fun len => asU8 (asU32 len))
  refine counted.congr fun data => ?_
  simp only [checkBounds_ok]
  constructor
  · rintro ⟨_, ⟨rfl, good⟩, inside, rfl⟩
    have narrow : asU32 (records.flatMap layout).length = (records.flatMap layout).length := by
      unfold asU32 at inside ⊢
      omega
    rw [narrow] at inside ⊢
    have fits : (records.flatMap layout).length < 256 := by omega
    exact ⟨_, asU8_toNat fits, by rwa [asU8_toNat fits], good, rfl⟩
  · rintro ⟨count, length, inside, good, rfl⟩
    have narrow : asU32 (records.flatMap layout).length = (records.flatMap layout).length := by
      unfold asU32
      omega
    refine ⟨_, ⟨rfl, good⟩, by rw [narrow, ← length]; exact inside, ?_⟩
    rw [narrow]
    congr 1
    apply UInt8.toNat_inj.mp
    rw [asU8_toNat (by omega), length]

namespace FileRecordRead

def layout (record : FileRecordRead) : Bytes :=
  referenceTypeByte :: (beBytes record.fileNumber.raw ++
    (beBytes record.recordNumber.raw ++ beBytes record.recordLength.raw))

def Valid (record : FileRecordRead) : Prop :=
  NumbersInRange record.fileNumber record.recordNumber

theorem parse_ok (input : Bytes) (record : FileRecordRead) (output : Bytes) :
    parse.run input = .ok (record, output) ↔ input = record.layout ++ output ∧ record.Valid := by
  simp only [parse, Parser.bind_ok, referenceType_ok, Parser.beU16_ok, Parse.lift_ok,
    Parser.pure_ok, checkNumbers_ok]
  constructor
  · rintro ⟨_, _, rfl, _, _, rfl, _, _, rfl, _, _, rfl, _, _, ⟨numbers, rfl⟩, rfl, rfl⟩
    exact ⟨by simp [layout], numbers⟩
  · rintro ⟨rfl, numbers⟩
    exact ⟨(), _, rfl, record.fileNumber.raw, beBytes record.recordNumber.raw ++
      (beBytes record.recordLength.raw ++ output), by simp, _, _, rfl, _, _, rfl, (), _,
      ⟨numbers, rfl⟩, rfl, rfl⟩

theorem encodeInto_meets (record : FileRecordRead) :
    Meets record.encodeInto fun data => data = record.layout ∧ record.Valid :=
  (Meets.check (.push_seq _ (.extend_seq _ (.extend_seq _ (.extend _))))).congr
    fun data => by simp [checkNumbers_ok, layout, Valid, and_comm]

end FileRecordRead

namespace FileRecordReadResponse

def layout (record : FileRecordReadResponse) : Bytes :=
  UInt8.ofNat (2 * record.values.length + 1) :: referenceTypeByte :: registerBytes record.values

def Valid (record : FileRecordReadResponse) : Prop := 2 * record.values.length + 1 < 256

theorem parse_ok (input : Bytes) (record : FileRecordReadResponse) (output : Bytes) :
    parse.run input = .ok (record, output) ↔ input = record.layout ++ output ∧ record.Valid := by
  simp only [parse, Parser.bind_ok, Parser.beU8_ok]
  constructor
  · rintro ⟨length, _, rfl, rest⟩
    have bound := length.toNat_lt
    by_cases even : length = 0 ∨ length % 2 = 0
    · rw [if_pos even] at rest
      exact absurd rest Parse.fail_ok
    · rw [if_neg even] at rest
      simp only [Parser.bind_ok, referenceType_ok, Parser.take_ok, Parser.pure_ok] at rest
      obtain ⟨_, _, rfl, data, _, ⟨rfl, taken⟩, rfl, rfl⟩ := rest
      have odd : length.toNat % 2 = 1 := by
        simp only [not_or, ← UInt8.toNat_inj, UInt8.toNat_mod] at even
        simp at even
        omega
      have counted : (length - 1).toNat = length.toNat - 1 := by
        rw [UInt8.toNat_sub_of_le _ _ (UInt8.le_iff_toNat_le.mpr (by simp; omega))]
        rfl
      rw [counted] at taken
      have same : registerBytes (registersFromBytes data) = data :=
        registerBytes_registersFromBytes (by omega)
      have size := length_registerBytes (registersFromBytes data)
      rw [same] at size
      refine ⟨?_, by simp only [Valid]; omega⟩
      simp only [layout, same, List.cons_append, List.cons.injEq, and_true]
      apply UInt8.toNat_inj.mp
      simp
      omega
  · rintro ⟨rfl, small⟩
    have small : 2 * record.values.length + 1 < 256 := small
    have value : (UInt8.ofNat (2 * record.values.length + 1)).toNat = 2 * record.values.length + 1 := by
      simp
      omega
    refine ⟨_, _, rfl, ?_⟩
    rw [if_neg]
    · simp only [Parser.bind_ok, referenceType_ok, Parser.take_ok, Parser.pure_ok]
      refine ⟨(), _, rfl, registerBytes record.values, output, ⟨rfl, ?_⟩, by simp, rfl⟩
      rw [UInt8.toNat_sub_of_le _ _ (UInt8.le_iff_toNat_le.mpr (by rw [value]; simp)), value]
      simp
    · simp only [← UInt8.toNat_inj, UInt8.toNat_mod, value]
      simp

theorem encodeInto_meets (record : FileRecordReadResponse) :
    Meets record.encodeInto fun data => data = record.layout ∧ record.Valid := by
  refine (Meets.guard fun length _ =>
    .push_seq length (.push_seq _ (pushRegisters_meets record.values))).congr fun data => ?_
  simp only [tryU8_ok, exists_eq_left, layout, Valid]
  constructor
  · rintro ⟨length, value, rfl⟩
    have bound := length.toNat_lt
    refine ⟨?_, by omega⟩
    have same : UInt8.ofNat (2 * record.values.length + 1) = length := by
      apply UInt8.toNat_inj.mp
      simp
      omega
    rw [same]
  · rintro ⟨rfl, small⟩
    exact ⟨_, by simp; omega, rfl⟩

end FileRecordReadResponse

namespace FileRecordWrite

def layout (record : FileRecordWrite) : Bytes :=
  referenceTypeByte :: (beBytes record.fileNumber.raw ++ (beBytes record.recordNumber.raw ++
    (beBytes (UInt16.ofNat record.values.length) ++ registerBytes record.values)))

def Valid (record : FileRecordWrite) : Prop :=
  NumbersInRange record.fileNumber record.recordNumber ∧ record.values.length < 65536

theorem parse_ok (input : Bytes) (record : FileRecordWrite) (output : Bytes) :
    parse.run input = .ok (record, output) ↔ input = record.layout ++ output ∧ record.Valid := by
  simp only [parse, Parser.bind_ok, referenceType_ok, Parser.beU16_ok, Parse.lift_ok,
    Parser.pure_ok, Parser.take_ok, checkNumbers_ok]
  constructor
  · rintro ⟨_, _, rfl, _, _, rfl, _, _, rfl, count, _, rfl, _, _, ⟨numbers, rfl⟩, data, _,
      ⟨rfl, taken⟩, rfl, rfl⟩
    have bound := count.toNat_lt
    have same : registerBytes (registersFromBytes data) = data :=
      registerBytes_registersFromBytes (by omega)
    have size := length_registerBytes (registersFromBytes data)
    rw [same] at size
    have counted : UInt16.ofNat (registersFromBytes data).length = count := by
      apply UInt16.toNat_inj.mp
      simp
      omega
    refine ⟨?_, numbers, by simp only; omega⟩
    simp [layout, counted, same]
  · rintro ⟨rfl, numbers, small⟩
    have value : (UInt16.ofNat record.values.length).toNat = record.values.length := by
      simp
      omega
    refine ⟨(), _, rfl, record.fileNumber.raw, _, ?_, record.recordNumber.raw, _, rfl,
      UInt16.ofNat record.values.length, _, rfl, (), _, ⟨numbers, rfl⟩, registerBytes record.values,
      output, ⟨rfl, ?_⟩, by simp, rfl⟩
    · simp
    · rw [value, length_registerBytes, Nat.mul_comm]

theorem encodeInto_meets (record : FileRecordWrite) :
    Meets record.encodeInto fun data => data = record.layout ∧ record.Valid := by
  refine (Meets.check (.guard fun length _ => .push_seq _ (.extend_seq _ (.extend_seq _
    (.extend_seq _ (pushRegisters_meets record.values)))))).congr fun data => ?_
  simp only [checkNumbers_ok, tryU16_ok, exists_eq_left, layout, Valid]
  constructor
  · rintro ⟨numbers, length, value, rfl⟩
    have bound := length.toNat_lt
    refine ⟨?_, numbers, by omega⟩
    rw [← value, UInt16.ofNat_toNat]
  · rintro ⟨rfl, numbers, small⟩
    exact ⟨numbers, _, by simp; omega, rfl⟩

end FileRecordWrite

/-- Records of seven bytes leave nothing for the divisibility check to refuse. -/
theorem length_flatMap_read (records : List FileRecordRead) :
    (records.flatMap FileRecordRead.layout).length = 7 * records.length := by
  induction records with
  | nil => rfl
  | cons record records ih =>
    simp only [List.flatMap_cons, List.length_append, ih, FileRecordRead.layout, List.length_cons,
      length_beBytes]
    omega

theorem decodeReadRequests_ok {records : List FileRecordRead} {input output : Bytes} :
    decodeReadRequests.run input = .ok (records, output) ↔ ∃ data,
      Counted minReadByteCount maxReadByteCount FileRecordRead.layout FileRecordRead.Valid records data ∧
        input = data ++ output := by
  refine counted_decode FileRecordRead.parse_ok (fun a => by simp [FileRecordRead.layout]) ?_
  have whole : (records.flatMap FileRecordRead.layout).length % readSubrequestLen = 0 := by
    rw [length_flatMap_read]
    exact Nat.mul_mod_right 7 _
  have inside := @checkBounds_ok "request byte count" (records.flatMap FileRecordRead.layout).length
    minReadByteCount maxReadByteCount ()
  rw [← inside]
  cases checkBounds "request byte count" (records.flatMap FileRecordRead.layout).length
    minReadByteCount maxReadByteCount with
  | error e => simp
  | ok => simp only [whole, ne_eq, not_true_eq_false, ↓reduceIte]

theorem decodeReadResponses_ok {records : List FileRecordReadResponse} {input output : Bytes} :
    decodeReadResponses.run input = .ok (records, output) ↔ ∃ data,
      Counted minReadDataLen maxReadDataLen FileRecordReadResponse.layout
        FileRecordReadResponse.Valid records data ∧ input = data ++ output :=
  counted_decode FileRecordReadResponse.parse_ok
    (fun a => by simp [FileRecordReadResponse.layout]) checkBounds_ok

theorem decodeWriteRecords_ok {records : List FileRecordWrite} {input output : Bytes} :
    decodeWriteRecords.run input = .ok (records, output) ↔ ∃ data,
      Counted minWriteDataLen maxWriteDataLen FileRecordWrite.layout FileRecordWrite.Valid records data ∧
        input = data ++ output :=
  counted_decode FileRecordWrite.parse_ok (fun a => by simp [FileRecordWrite.layout]) checkBounds_ok

theorem encodeReadRequestsInto_meets (records : List FileRecordRead) :
    Meets (encodeReadRequestsInto records)
      (Counted minReadByteCount maxReadByteCount FileRecordRead.layout FileRecordRead.Valid records) :=
  body_meets (by decide) FileRecordRead.encodeInto_meets records

theorem encodeReadResponsesInto_meets (records : List FileRecordReadResponse) :
    Meets (encodeReadResponsesInto records)
      (Counted minReadDataLen maxReadDataLen FileRecordReadResponse.layout
        FileRecordReadResponse.Valid records) :=
  body_meets (by decide) FileRecordReadResponse.encodeInto_meets records

theorem encodeWriteRecordsInto_meets (records : List FileRecordWrite) :
    Meets (encodeWriteRecordsInto records)
      (Counted minWriteDataLen maxWriteDataLen FileRecordWrite.layout FileRecordWrite.Valid records) :=
  body_meets (by decide) FileRecordWrite.encodeInto_meets records

end Modbus
