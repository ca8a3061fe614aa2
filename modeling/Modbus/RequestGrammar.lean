import Modbus.PduRequest

/-! The published grammar of request PDUs, stated over bytes alone, one rule for
each row of the table of layouts. The request decoder accepts exactly its words. -/
namespace Modbus.RequestGrammar

open Bytes

/-- File sub-requests one after the other: reference type 6, a file number from 1, a record number
up to 9999, a length and the data it stands for. -/
inductive SubRequests (carried : UInt16 → Nat) : Bytes → Prop
  | none : SubRequests carried []
  | next {rest : Bytes} (file record length : UInt16) (data : Bytes) (first : 1 ≤ file.toNat)
      (last : record.toNat ≤ 9999) (whole : data.length = carried length) :
      SubRequests carried rest →
      SubRequests carried (6 :: (beBytes file ++ (beBytes record ++ (beBytes length ++ (data ++ rest)))))

/-- Codes with a layout of their own. -/
def namedCodes : List UInt8 := [1, 2, 3, 4, 5, 6, 7, 8, 11, 12, 15, 16, 17, 20, 21, 22, 23, 24, 43]

inductive Body : UInt8 → Bytes → Prop
  | readBits {code : UInt8} (named : code = 1 ∨ code = 2) (address quantity : UInt16)
      (range : 1 ≤ quantity.toNat ∧ quantity.toNat ≤ 2000) :
      Body code (beBytes address ++ beBytes quantity)
  | readRegisters {code : UInt8} (named : code = 3 ∨ code = 4) (address quantity : UInt16)
      (range : 1 ≤ quantity.toNat ∧ quantity.toNat ≤ 125) :
      Body code (beBytes address ++ beBytes quantity)
  | writeCoil (address value : UInt16) (onOff : value = 0xFF00 ∨ value = 0x0000) :
      Body 5 (beBytes address ++ beBytes value)
  | writeRegister (address value : UInt16) : Body 6 (beBytes address ++ beBytes value)
  | bare {code : UInt8} (named : code = 7 ∨ code = 11 ∨ code = 12 ∨ code = 17) : Body code []
  | diagnostics (subFunction : UInt16) (data : Bytes) (whole : data.length % 2 = 0) :
      Body 8 (beBytes subFunction ++ data)
  | writeCoils (address quantity : UInt16) (count : UInt8) (data : Bytes)
      (range : 1 ≤ quantity.toNat ∧ quantity.toNat ≤ 1968)
      (counted : count.toNat = (quantity.toNat + 7) / 8) (held : data.length = count.toNat)
      (clear : ∀ bit, quantity.toNat ≤ bit →
        (data.getD (bit / 8) 0).toNat.testBit (bit % 8) = false) :
      Body 15 (beBytes address ++ (beBytes quantity ++ count :: data))
  | writeRegisters (address quantity : UInt16) (count : UInt8) (data : Bytes)
      (range : 1 ≤ quantity.toNat ∧ quantity.toNat ≤ 123)
      (counted : count.toNat = 2 * quantity.toNat) (held : data.length = count.toNat) :
      Body 16 (beBytes address ++ (beBytes quantity ++ count :: data))
  | readRecords (count : UInt8) (data : Bytes) (range : 7 ≤ count.toNat ∧ count.toNat ≤ 245)
      (multiple : count.toNat % 7 = 0) (held : data.length = count.toNat)
      (split : SubRequests (fun _ => 0) data) : Body 20 (count :: data)
  | writeRecords (count : UInt8) (data : Bytes) (range : 9 ≤ count.toNat ∧ count.toNat ≤ 251)
      (held : data.length = count.toNat)
      (split : SubRequests (fun length => 2 * length.toNat) data) : Body 21 (count :: data)
  | maskWrite (address andMask orMask : UInt16) :
      Body 22 (beBytes address ++ (beBytes andMask ++ beBytes orMask))
  | readWrite (readAddress readQuantity writeAddress writeQuantity : UInt16) (count : UInt8)
      (data : Bytes) (readRange : 1 ≤ readQuantity.toNat ∧ readQuantity.toNat ≤ 125)
      (writeRange : 1 ≤ writeQuantity.toNat ∧ writeQuantity.toNat ≤ 121)
      (counted : count.toNat = 2 * writeQuantity.toNat) (held : data.length = count.toNat) :
      Body 23 (beBytes readAddress ++ (beBytes readQuantity ++ (beBytes writeAddress ++
        (beBytes writeQuantity ++ count :: data))))
  | readFifo (address : UInt16) : Body 24 (beBytes address)
  | identification (readCode objectId : UInt8) (range : 1 ≤ readCode.toNat ∧ readCode.toNat ≤ 4) :
      Body 43 [14, readCode, objectId]
  | transport (meiType : UInt8) (data : Bytes) (differs : meiType ≠ 14) : Body 43 (meiType :: data)
  | custom {code : UInt8} (unnamed : code ∉ namedCodes) (data : Bytes) : Body code data

/-- The words of the grammar. -/
def Accepts (pdu : Bytes) : Prop :=
  (1 ≤ pdu.length ∧ pdu.length ≤ 253) ∧
    ∃ code body, pdu = code :: body ∧ (1 ≤ code.toNat ∧ code.toNat ≤ 127) ∧ Body code body

section Parts

theorem subRequests_read {data : Bytes} :
    SubRequests (fun _ => 0) data ↔
      ∃ records : List FileRecordRead, data = records.flatMap FileRecordRead.layout ∧
        ∀ record ∈ records, record.Valid := by
  constructor
  · intro split
    induction split with
    | none => exact ⟨[], rfl, by simp⟩
    | next file record length data first last whole _ ih =>
      obtain ⟨records, rfl, valid⟩ := ih
      have empty : data = [] := List.eq_nil_of_length_eq_zero whole
      refine ⟨⟨⟨file⟩, ⟨record⟩, ⟨length⟩⟩ :: records, ?_, List.forall_mem_cons.mpr ⟨⟨first, last⟩, valid⟩⟩
      simp [FileRecordRead.layout, referenceTypeByte, empty]
  · rintro ⟨records, rfl, valid⟩
    induction records with
    | nil => exact .none
    | cons record records ih =>
      obtain ⟨⟨first, last⟩, valid⟩ := List.forall_mem_cons.mp valid
      have further := SubRequests.next record.fileNumber.raw record.recordNumber.raw
        record.recordLength.raw [] first last rfl (ih valid)
      simpa [FileRecordRead.layout, referenceTypeByte] using further

theorem subRequests_write {data : Bytes} :
    SubRequests (fun length => 2 * length.toNat) data ↔
      ∃ records : List FileRecordWrite, data = records.flatMap FileRecordWrite.layout ∧
        ∀ record ∈ records, record.Valid := by
  constructor
  · intro split
    induction split with
    | none => exact ⟨[], rfl, by simp⟩
    | next file record length data first last whole _ ih =>
      obtain ⟨records, rfl, valid⟩ := ih
      have bound := length.toNat_lt
      have same : registerBytes (registersFromBytes data) = data :=
        registerBytes_registersFromBytes (by omega)
      have held : (registersFromBytes data).length = length.toNat := by
        have size := length_registerBytes (registersFromBytes data)
        rw [same] at size
        omega
      refine ⟨⟨⟨file⟩, ⟨record⟩, registersFromBytes data⟩ :: records, ?_,
        List.forall_mem_cons.mpr ⟨⟨⟨first, last⟩, by simp only [held]; exact bound⟩, valid⟩⟩
      simp [FileRecordWrite.layout, referenceTypeByte, same, held]
  · rintro ⟨records, rfl, valid⟩
    induction records with
    | nil => exact .none
    | cons record records ih =>
      obtain ⟨⟨⟨first, last⟩, small⟩, valid⟩ := List.forall_mem_cons.mp valid
      have value : (UInt16.ofNat record.values.length).toNat = record.values.length := by
        simp
        omega
      have further := SubRequests.next record.fileNumber.raw record.recordNumber.raw
        (UInt16.ofNat record.values.length) (registerBytes record.values) first last
        (by rw [length_registerBytes, value]) (ih valid)
      simpa [FileRecordWrite.layout, referenceTypeByte] using further

theorem within_iff {max quantity : UInt16} :
    1 ≤ quantity ∧ quantity ≤ max ↔ 1 ≤ quantity.toNat ∧ quantity.toNat ≤ max.toNat := by
  simp only [UInt16.le_iff_toNat_le]
  rfl

theorem quantified_iff {max quantity : UInt16} {rest : Bytes} :
    (∃ registers, RequestPdu.Quantified max quantity registers rest) ↔
      (1 ≤ quantity.toNat ∧ quantity.toNat ≤ max.toNat) ∧ ∃ (count : UInt8) (data : Bytes),
        count.toNat = 2 * quantity.toNat ∧ data.length = count.toNat ∧
          rest = beBytes quantity ++ count :: data := by
  simp only [RequestPdu.Quantified, within_iff]
  constructor
  · rintro ⟨registers, length, range, count, counted, rfl⟩
    exact ⟨range, count, _, by omega, by rw [length_registerBytes, counted], rfl⟩
  · rintro ⟨range, count, data, counted, held, rfl⟩
    have same : registerBytes (registersFromBytes data) = data :=
      registerBytes_registersFromBytes (by omega)
    have size := length_registerBytes (registersFromBytes data)
    rw [same] at size
    exact ⟨registersFromBytes data, by omega, range, count, by omega, by rw [same]⟩

theorem custom_encodes {code : UInt8} :
    (FunctionCode.custom code).encode = .ok code ↔
      (1 ≤ code.toNat ∧ code.toNat ≤ 127) ∧ code ∉ namedCodes := by
  have table : FunctionCode.named.any (fun entry => entry.1 == code) = true ↔ code ∈ namedCodes := by
    have names : namedCodes = FunctionCode.named.map Prod.fst := rfl
    rw [names, List.mem_map, List.any_eq_true]
    simp only [beq_iff_eq]
  have bounds : code = 0 ∨ code ≥ 0x80 ↔ ¬(1 ≤ code.toNat ∧ code.toNat ≤ 127) := by
    rw [ge_iff_le, UInt8.le_iff_toNat_le, ← UInt8.toNat_inj]
    simp
    omega
  simp only [FunctionCode.encode, table, bounds]
  by_cases inside : 1 ≤ code.toNat ∧ code.toNat ≤ 127
  · by_cases known : code ∈ namedCodes
    · simp [inside, known]
    · simp [inside, known]
  · simp [inside]

end Parts

theorem body_of_request {request : RequestPdu} {code : UInt8} {data : Bytes}
    (encoded : request.function.encode = .ok code) (layout : request.Body data)
    (canonical : request.Canonical) : Body code data := by
  cases request with
  | readCoils address quantity | readDiscreteInputs address quantity =>
    cases encoded
    obtain ⟨range, rfl⟩ := layout
    exact .readBits (by decide) _ _ (within_iff.mp range)
  | readHoldingRegisters address quantity | readInputRegisters address quantity =>
    cases encoded
    obtain ⟨range, rfl⟩ := layout
    exact .readRegisters (by decide) _ _ (within_iff.mp range)
  | writeSingleCoil address value =>
    cases encoded
    cases layout
    refine .writeCoil _ _ ?_
    cases value
    · exact .inr rfl
    · exact .inl rfl
  | writeSingleRegister address value =>
    cases encoded
    cases layout
    exact .writeRegister _ _
  | writeMultipleCoils address coils =>
    cases encoded
    obtain ⟨quantity, count, length, range, counted, rfl⟩ := layout
    obtain ⟨size, clear⟩ := packed_iff.mp ⟨coils, rfl, length.symm⟩
    exact .writeCoils _ quantity count _ (within_iff.mp range) (counted.trans size) counted.symm clear
  | writeMultipleRegisters address registers =>
    cases encoded
    obtain ⟨quantity, rest, quantified, rfl⟩ := layout
    obtain ⟨range, count, data, counted, held, rfl⟩ := quantified_iff.mp ⟨registers, quantified⟩
    exact .writeRegisters _ quantity count data range counted held
  | maskWriteRegister address andMask orMask =>
    cases encoded
    cases layout
    exact .maskWrite _ _ _
  | readWriteMultipleRegisters readAddress readQuantity writeAddress registers =>
    cases encoded
    obtain ⟨readRange, quantity, rest, quantified, rfl⟩ := layout
    obtain ⟨range, count, data, counted, held, rfl⟩ := quantified_iff.mp ⟨registers, quantified⟩
    exact .readWrite _ _ _ quantity count data (within_iff.mp readRange) range counted held
  | readExceptionStatus | getCommEventCounter | getCommEventLog | reportServerId =>
    cases encoded
    cases layout
    exact .bare (by decide)
  | diagnostics subFunction ws =>
    cases encoded
    obtain ⟨raw, _, rfl⟩ := layout
    refine .diagnostics raw _ ?_
    simp [List.length_flatMap]
  | readFileRecord records =>
    cases encoded
    obtain ⟨count, counted, range, valid, rfl⟩ := layout
    refine .readRecords count _ range ?_ counted.symm (subRequests_read.mpr ⟨records, rfl, valid⟩)
    rw [counted, length_flatMap_read, Nat.mul_mod_right]
  | writeFileRecord records =>
    cases encoded
    obtain ⟨count, counted, range, valid, rfl⟩ := layout
    exact .writeRecords count _ range counted.symm (subRequests_write.mpr ⟨records, rfl, valid⟩)
  | readFifoQueue address =>
    cases encoded
    cases layout
    exact .readFifo _
  | encapsulatedInterfaceTransport inner =>
    cases encoded
    cases layout
    cases inner with
    | canOpen data => exact .transport 13 data (by decide)
    | readDeviceIdentification readCode objectId =>
      refine .identification _ objectId ?_
      cases readCode <;> decide
    | other meiType data => exact .transport meiType data canonical.2
  | custom byte data =>
    cases layout
    have same : byte = code := by
      simp only [RequestPdu.function, FunctionCode.encode] at encoded
      split at encoded
      · cases encoded
      · split at encoded
        · cases encoded
        · exact Except.ok.inj encoded
    subst same
    exact .custom (custom_encodes.mp encoded).2 data

/-- Every word of the grammar is the wire form of some request. -/
theorem request_of_body {code : UInt8} {data : Bytes} (valid : 1 ≤ code.toNat ∧ code.toNat ≤ 127)
    (layout : Body code data) :
    ∃ request : RequestPdu, request.function.encode = .ok code ∧ request.Body data ∧
      request.Canonical := by
  cases layout with
  | readBits named address quantity range =>
    have within : 1 ≤ quantity ∧ quantity ≤ maxReadBits := within_iff.mpr range
    obtain rfl | rfl := named
    · exact ⟨.readCoils ⟨address⟩ ⟨quantity⟩, rfl, ⟨within, rfl⟩, trivial⟩
    · exact ⟨.readDiscreteInputs ⟨address⟩ ⟨quantity⟩, rfl, ⟨within, rfl⟩, trivial⟩
  | readRegisters named address quantity range =>
    have within : 1 ≤ quantity ∧ quantity ≤ maxReadRegisters := within_iff.mpr range
    obtain rfl | rfl := named
    · exact ⟨.readHoldingRegisters ⟨address⟩ ⟨quantity⟩, rfl, ⟨within, rfl⟩, trivial⟩
    · exact ⟨.readInputRegisters ⟨address⟩ ⟨quantity⟩, rfl, ⟨within, rfl⟩, trivial⟩
  | writeCoil address value onOff =>
    obtain rfl | rfl := onOff
    · exact ⟨.writeSingleCoil ⟨address⟩ true, rfl, rfl, trivial⟩
    · exact ⟨.writeSingleCoil ⟨address⟩ false, rfl, rfl, trivial⟩
  | writeRegister address value => exact ⟨.writeSingleRegister ⟨address⟩ ⟨value⟩, rfl, rfl, trivial⟩
  | bare named =>
    obtain rfl | rfl | rfl | rfl := named
    · exact ⟨.readExceptionStatus, rfl, rfl, trivial⟩
    · exact ⟨.getCommEventCounter, rfl, rfl, trivial⟩
    · exact ⟨.getCommEventLog, rfl, rfl, trivial⟩
    · exact ⟨.reportServerId, rfl, rfl, trivial⟩
  | diagnostics subFunction data whole =>
    refine ⟨.diagnostics (DiagnosticSubFunction.decode subFunction) (words data), rfl,
      ⟨subFunction, DiagnosticSubFunction.decode_eq.mp rfl, ?_⟩, trivial⟩
    rw [flatMap_words data whole]
  | writeCoils address quantity count data range counted held clear =>
    have within : 1 ≤ quantity ∧ quantity ≤ maxWriteBits := within_iff.mpr range
    obtain ⟨coils, rfl, length⟩ := packed_iff.mpr ⟨held.trans counted, clear⟩
    exact ⟨.writeMultipleCoils ⟨address⟩ coils, rfl,
      ⟨quantity, count, length.symm, within, held.symm, rfl⟩, trivial⟩
  | writeRegisters address quantity count data range counted held =>
    obtain ⟨registers, quantified⟩ := (@quantified_iff maxWriteRegisters quantity _).mpr
      ⟨range, count, data, counted, held, rfl⟩
    exact ⟨.writeMultipleRegisters ⟨address⟩ registers, rfl, ⟨quantity, _, quantified, rfl⟩, trivial⟩
  | readRecords count data range multiple held split =>
    obtain ⟨records, rfl, good⟩ := subRequests_read.mp split
    exact ⟨.readFileRecord records, rfl, ⟨count, held.symm, range, good, rfl⟩, trivial⟩
  | writeRecords count data range held split =>
    obtain ⟨records, rfl, good⟩ := subRequests_write.mp split
    exact ⟨.writeFileRecord records, rfl, ⟨count, held.symm, range, good, rfl⟩, trivial⟩
  | maskWrite address andMask orMask =>
    exact ⟨.maskWriteRegister ⟨address⟩ ⟨andMask⟩ ⟨orMask⟩, rfl, rfl, trivial⟩
  | readWrite readAddress readQuantity writeAddress quantity count data readRange range counted held =>
    have within : 1 ≤ readQuantity ∧ readQuantity ≤ maxReadRegisters := within_iff.mpr readRange
    obtain ⟨registers, quantified⟩ := (@quantified_iff maxRwWriteRegisters quantity _).mpr
      ⟨range, count, data, counted, held, rfl⟩
    exact ⟨.readWriteMultipleRegisters ⟨readAddress⟩ ⟨readQuantity⟩ ⟨writeAddress⟩ registers, rfl,
      ⟨within, quantity, _, quantified, rfl⟩, trivial⟩
  | readFifo address => exact ⟨.readFifoQueue ⟨address⟩, rfl, rfl, trivial⟩
  | identification readCode objectId range =>
    obtain ⟨code, rfl⟩ : ∃ code : ReadDeviceIdCode, code.encode = readCode := by
      have known : ∀ raw : UInt8, 1 ≤ raw.toNat → raw.toNat ≤ 4 →
          raw = 1 ∨ raw = 2 ∨ raw = 3 ∨ raw = 4 := by decide +kernel
      obtain rfl | rfl | rfl | rfl := known readCode range.1 range.2
      · exact ⟨.basic, rfl⟩
      · exact ⟨.regular, rfl⟩
      · exact ⟨.extended, rfl⟩
      · exact ⟨.individual, rfl⟩
    exact ⟨.encapsulatedInterfaceTransport (.readDeviceIdentification code objectId), rfl, rfl, trivial⟩
  | transport meiType data differs =>
    by_cases canopen : meiType = meiCanopen
    · subst canopen
      exact ⟨.encapsulatedInterfaceTransport (.canOpen data), rfl, rfl, trivial⟩
    · exact ⟨.encapsulatedInterfaceTransport (.other meiType data), rfl, rfl, canopen, differs⟩
  | custom unnamed data =>
    exact ⟨.custom code data, custom_encodes.mpr ⟨valid, unnamed⟩, rfl, trivial⟩

theorem request_decodes_iff_grammatical (pdu : Bytes) :
    (∃ request, RequestPdu.decode pdu = .ok request) ↔ Accepts pdu := by
  constructor
  · intro ⟨request, decoded⟩
    obtain ⟨⟨code, body, encoded, layout, rfl⟩, size, canonical⟩ := RequestPdu.decode_ok.mp decoded
    obtain ⟨positive, plain⟩ := FunctionCode.encode_lt encoded
    rw [UInt8.lt_iff_toNat_lt] at plain
    rw [ne_eq, ← UInt8.toNat_inj] at positive
    refine ⟨⟨Nat.le_add_left _ _, size⟩, code, body, rfl, ⟨Nat.pos_of_ne_zero positive, ?_⟩,
      body_of_request encoded layout canonical⟩
    exact Nat.le_of_lt_succ plain
  · intro ⟨⟨_, size⟩, code, body, shape, valid, grammatical⟩
    obtain ⟨request, encoded, layout, canonical⟩ := request_of_body valid grammatical
    exact ⟨request, RequestPdu.decode_ok.mpr ⟨⟨code, body, encoded, layout, shape⟩, size, canonical⟩⟩

end Modbus.RequestGrammar
