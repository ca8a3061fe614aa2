import Modbus.BitPacking
import Modbus.Parse

/-! Field decoders shared by the request and response PDUs. The rule after each
decoder states the exact layout it accepts and what it leaves unread. -/
namespace Modbus

open Bytes

def maxPduLen : Nat := 253

def coilOn : UInt16 := 0xFF00
def coilOff : UInt16 := 0x0000

def maxReadBits : UInt16 := 2000
def maxReadRegisters : UInt16 := 125
def maxWriteBits : UInt16 := 1968
def maxWriteRegisters : UInt16 := 123
def maxRwWriteRegisters : UInt16 := 121
def maxFifoCount : UInt16 := 31

def eventLogFixedBytes : Nat := 6
def maxEventBytes : Nat := 64

def bitsFromBytes (bytes : Bytes) : List Bool := bitsOf bytes

def wordsFromBytes (data : Bytes) : List UInt16 := words data

def registersFromBytes (data : Bytes) : List RegisterValue := (words data).map RegisterValue.mk

def bitWidth (quantity : Nat) : Nat := (quantity + 7) / 8

def registerWidth (quantity : Nat) : Nat := quantity * 2

def checkRange (field : String) (value min max : UInt16) : Result Unit :=
  if value < min ∨ value > max then .error (.outOfRange field value.toNat min.toNat max.toNat)
  else .ok ()

def checkSize (pdu : Bytes) : Result Unit :=
  if pdu.length > maxPduLen then .error (.pduTooLarge pdu.length maxPduLen) else .ok ()

def checkEventLogBytes (byteCount : Nat) : Result Unit :=
  if byteCount < eventLogFixedBytes ∨ byteCount > eventLogFixedBytes + maxEventBytes then
    .error (.outOfRange "byte count" byteCount eventLogFixedBytes (eventLogFixedBytes + maxEventBytes))
  else .ok ()

/-- The first `quantity` bits; a set bit beyond them is refused. -/
def packedBits (data : Bytes) (quantity : Nat) : Result (List Bool) :=
  let bits := bitsFromBytes data
  if quantity ≤ bits.length ∧ (bits.drop quantity).any id then
    .error (.illegalValue "coil padding" (data.getLast?.getD 0).toUInt16)
  else .ok (bits.take quantity)

def quantifiedBytes (field : String) (min max : UInt16) (width : Nat → Nat) :
    Decoder (UInt16 × Bytes) := do
  let quantity ← Parser.beU16
  Parse.lift (checkRange field quantity min max)
  let expected := width quantity.toNat
  let count ← Parser.beU8
  if count.toNat ≠ expected then
    Parse.fail (.byteCountMismatch expected count.toNat)
  else
    let available ← Parser.remaining
    if available < expected then
      Parse.fail (.byteCountMismatch expected available)
    else
      let data ← Parser.take expected
      pure (quantity, data)

def countedBytes : Decoder Bytes := do
  let expected ← Parser.beU8
  let available ← Parser.remaining
  if available ≠ expected.toNat then
    Parse.fail (.byteCountMismatch expected.toNat available)
  else
    Parser.take expected.toNat

def readRequest (min max : UInt16) : Decoder (Address × Quantity) := do
  let address ← Parser.beU16
  let quantity ← Parser.beU16
  Parse.lift (checkRange "quantity" quantity min max)
  pure (⟨address⟩, ⟨quantity⟩)

def singleCoil : Decoder (Address × Bool) := do
  let address ← Parser.beU16
  let raw ← Parser.beU16
  if raw = coilOn then pure (⟨address⟩, true)
  else if raw = coilOff then pure (⟨address⟩, false)
  else Parse.fail (.illegalValue "coil value" raw)

def registers : Decoder (List RegisterValue) := do
  let data ← countedBytes
  if data.length % 2 ≠ 0 then
    Parse.fail (.illegalValue "byte count" (asU16 data.length))
  else pure (registersFromBytes data)

def diagnosticBody : Decoder (DiagnosticSubFunction × List UInt16) := do
  let raw ← Parser.beU16
  let data ← Parser.rest
  if data.length % 2 ≠ 0 then
    Parse.fail (.illegalValue "diagnostic data length" (asU16 data.length))
  else pure (DiagnosticSubFunction.decode raw, wordsFromBytes data)

def fifoValues : Decoder (List RegisterValue) := do
  let byteCount ← Parser.beU16
  let count ← Parser.beU16
  Parse.lift (checkRange "FIFO count" count 0 maxFifoCount)
  let expected := count * 2 + 2
  if byteCount ≠ expected then
    Parse.fail (.byteCountMismatch expected.toNat byteCount.toNat)
  else
    let data ← Parser.take (count.toNat * 2)
    pure (registersFromBytes data)

/-- Registers on the wire. -/
def registerBytes (registers : List RegisterValue) : Bytes :=
  registers.flatMap fun register => beBytes register.raw

/-- A coil state on the wire. -/
def coilWord (value : Bool) : UInt16 := if value then coilOn else coilOff

@[simp] theorem length_registerBytes (registers : List RegisterValue) :
    (registerBytes registers).length = 2 * registers.length := by
  induction registers with
  | nil => rfl
  | cons register registers ih =>
    simp only [registerBytes, List.flatMap_cons, List.length_append, length_beBytes,
      List.length_cons] at ih ⊢
    omega

theorem registerBytes_eq (registers : List RegisterValue) :
    registerBytes registers = (registers.map RegisterValue.raw).flatMap beBytes := by
  simp [registerBytes, List.flatMap_map]

@[simp] theorem registersFromBytes_registerBytes (registers : List RegisterValue) :
    registersFromBytes (registerBytes registers) = registers := by
  rw [registersFromBytes, registerBytes_eq, words_flatMap, List.map_map]
  exact List.map_id _

theorem registerBytes_registersFromBytes {data : Bytes} (even : data.length % 2 = 0) :
    registerBytes (registersFromBytes data) = data := by
  have raws : (registersFromBytes data).map RegisterValue.raw = words data := by
    rw [registersFromBytes, List.map_map]
    exact List.map_id _
  rw [registerBytes_eq, raws, flatMap_words data even]

theorem registersFromBytes_eq {data : Bytes} {registers : List RegisterValue}
    (even : data.length % 2 = 0) :
    registersFromBytes data = registers ↔ data = registerBytes registers := by
  constructor
  · rintro rfl
    exact (registerBytes_registersFromBytes even).symm
  · rintro rfl
    simp

theorem wordsFromBytes_eq {data : Bytes} {ws : List UInt16} (even : data.length % 2 = 0) :
    wordsFromBytes data = ws ↔ data = ws.flatMap beBytes := by
  constructor
  · rintro rfl
    exact (flatMap_words data even).symm
  · rintro rfl
    exact words_flatMap ws

theorem checkRange_ok {field : String} {value min max : UInt16} {u : Unit} :
    checkRange field value min max = .ok u ↔ min ≤ value ∧ value ≤ max := by
  simp only [checkRange, ite_eq_right_iff, reduceCtorEq, imp_false, not_or, UInt16.not_lt]

theorem checkSize_ok {pdu : Bytes} {u : Unit} : checkSize pdu = .ok u ↔ pdu.length ≤ maxPduLen := by
  simp [checkSize]

theorem sized_ok {pdu : Bytes} {rest : Result α} {value : α} :
    (match checkSize pdu with
      | .error e => Except.error e
      | .ok () => rest) = .ok value ↔ pdu.length ≤ maxPduLen ∧ rest = .ok value := by
  rw [← @checkSize_ok pdu ()]
  cases checkSize pdu <;> simp

theorem checkEventLogBytes_ok {byteCount : Nat} {u : Unit} :
    checkEventLogBytes byteCount = .ok u ↔ 6 ≤ byteCount ∧ byteCount ≤ 70 := by
  unfold checkEventLogBytes eventLogFixedBytes maxEventBytes
  split
  case isTrue outside => simp; omega
  case isFalse inside => simp; omega

/-- Accepted bits are exactly those packing into the data at hand. -/
theorem packedBits_ok {data : Bytes} {quantity : Nat} {bits : List Bool}
    (sized : data.length = bitWidth quantity) :
    packedBits data quantity = .ok bits ↔ data = packBits bits ∧ bits.length = quantity := by
  have enough : quantity ≤ (bitsOf data).length := by
    simp only [length_bitsOf, sized, bitWidth]
    omega
  simp only [packedBits, bitsFromBytes, enough, true_and]
  constructor
  · intro accepted
    split at accepted
    · contradiction
    next clear =>
      obtain rfl := Except.ok.inj accepted
      have length : ((bitsOf data).take quantity).length = quantity := by
        rw [List.length_take]
        omega
      refine ⟨?_, length⟩
      apply bitsOf_inj
      rw [bitsOf_packBits, length]
      nth_rewrite 1 [← List.take_append_drop quantity (bitsOf data)]
      congr 1
      refine List.eq_replicate_iff.mpr ⟨?_, ?_⟩
      · simp only [List.length_drop, length_bitsOf, sized, bitWidth]
        omega
      · simpa using clear
  · rintro ⟨rfl, rfl⟩
    simp [bitsOf_packBits, padding]

theorem quantifiedBytes_ok {field : String} {min max quantity : UInt16} {width : Nat → Nat}
    {data input output : Bytes} :
    (quantifiedBytes field min max width).run input = .ok ((quantity, data), output) ↔
      (min ≤ quantity ∧ quantity ≤ max) ∧ ∃ count : UInt8,
        input = beBytes quantity ++ count :: (data ++ output) ∧
        count.toNat = width quantity.toNat ∧ data.length = width quantity.toNat := by
  simp only [quantifiedBytes, Parser.bind_ok, Parser.beU16_ok, Parse.lift_ok, Parser.beU8_ok]
  constructor
  · rintro ⟨raw, _, rfl, _, _, ⟨range, rfl⟩, count, _, rfl, body⟩
    split at body
    · simp at body
    next counted =>
      simp only [ne_eq, not_not] at counted
      simp only [Parser.bind_ok, Parser.remaining_ok] at body
      obtain ⟨available, _, ⟨rfl, rfl⟩, body⟩ := body
      split at body
      · simp at body
      next enough =>
        simp only [Parser.bind_ok, Parser.take_ok, Parser.pure_ok, Prod.mk.injEq] at body
        obtain ⟨_, _, ⟨rfl, taken⟩, ⟨rfl, rfl⟩, rfl⟩ := body
        exact ⟨checkRange_ok.mp range, count, rfl, counted, taken⟩
  · rintro ⟨range, count, rfl, counted, taken⟩
    refine ⟨quantity, _, rfl, (), _, ⟨checkRange_ok.mpr range, rfl⟩, count, _, rfl, ?_⟩
    rw [if_neg (by simp [counted])]
    simp only [Parser.bind_ok, Parser.remaining_ok]
    refine ⟨_, _, ⟨rfl, rfl⟩, ?_⟩
    rw [if_neg (by simp only [List.length_append]; omega)]
    simp [taken]

theorem countedBytes_ok {data input output : Bytes} :
    countedBytes.run input = .ok (data, output) ↔
      ∃ count : UInt8, input = count :: data ∧ count.toNat = data.length ∧ output = [] := by
  simp only [countedBytes, Parser.bind_ok, Parser.beU8_ok, Parser.remaining_ok]
  constructor
  · rintro ⟨count, _, rfl, available, _, ⟨rfl, rfl⟩, body⟩
    split at body
    · simp at body
    next counted =>
      simp only [ne_eq, not_not] at counted
      obtain ⟨rfl, taken⟩ := Parser.take_ok.mp body
      have empty : output = [] := by
        apply List.eq_nil_of_length_eq_zero
        simp only [List.length_append] at counted
        omega
      exact ⟨count, by simp [empty], taken.symm, empty⟩
  · rintro ⟨count, rfl, counted, rfl⟩
    refine ⟨count, _, rfl, _, _, ⟨rfl, rfl⟩, ?_⟩
    rw [if_neg (by simp [counted])]
    simp [counted]

theorem readRequest_ok {min max : UInt16} {address : Address} {quantity : Quantity}
    {input output : Bytes} :
    (readRequest min max).run input = .ok ((address, quantity), output) ↔
      (min ≤ quantity.raw ∧ quantity.raw ≤ max) ∧
        input = beBytes address.raw ++ (beBytes quantity.raw ++ output) := by
  simp only [readRequest, Parser.bind_ok, Parser.beU16_ok, Parse.lift_ok, Parser.pure_ok,
    Prod.mk.injEq]
  constructor
  · rintro ⟨_, _, rfl, _, _, rfl, _, _, ⟨range, rfl⟩, ⟨rfl, rfl⟩, rfl⟩
    exact ⟨checkRange_ok.mp range, rfl⟩
  · rintro ⟨range, rfl⟩
    exact ⟨_, _, rfl, _, _, rfl, (), _, ⟨checkRange_ok.mpr range, rfl⟩, ⟨rfl, rfl⟩, rfl⟩

theorem singleCoil_ok {address : Address} {value : Bool} {input output : Bytes} :
    singleCoil.run input = .ok ((address, value), output) ↔
      input = beBytes address.raw ++ (beBytes (coilWord value) ++ output) := by
  simp only [singleCoil, Parser.bind_ok, Parser.beU16_ok]
  constructor
  · rintro ⟨_, _, rfl, raw, _, rfl, body⟩
    split at body
    case isTrue on =>
      simp only [Parser.pure_ok, Prod.mk.injEq] at body
      obtain ⟨⟨rfl, rfl⟩, rfl⟩ := body
      simp [coilWord, on]
    case isFalse =>
      split at body
      case isTrue off =>
        simp only [Parser.pure_ok, Prod.mk.injEq] at body
        obtain ⟨⟨rfl, rfl⟩, rfl⟩ := body
        simp [coilWord, off]
      case isFalse => simp at body
  · rintro rfl
    refine ⟨_, _, rfl, _, _, rfl, ?_⟩
    cases value <;> simp [coilWord, coilOn, coilOff]

theorem registers_ok {values : List RegisterValue} {input output : Bytes} :
    registers.run input = .ok (values, output) ↔ ∃ count : UInt8,
      input = count :: registerBytes values ∧ count.toNat = 2 * values.length ∧ output = [] := by
  simp only [registers, Parser.bind_ok, countedBytes_ok]
  constructor
  · rintro ⟨data, _, ⟨count, rfl, counted, rfl⟩, body⟩
    split at body
    · simp at body
    next even =>
      simp only [ne_eq, not_not] at even
      obtain ⟨decoded, rfl⟩ := Parser.pure_ok.mp body
      obtain rfl := (registersFromBytes_eq even).mp decoded
      exact ⟨count, rfl, by simpa using counted, rfl⟩
  · rintro ⟨count, rfl, counted, rfl⟩
    refine ⟨_, _, ⟨count, rfl, by simpa using counted, rfl⟩, ?_⟩
    simp

theorem diagnosticBody_ok {subFunction : DiagnosticSubFunction} {ws : List UInt16}
    {input output : Bytes} :
    diagnosticBody.run input = .ok ((subFunction, ws), output) ↔ ∃ raw,
      subFunction.encode = .ok raw ∧ input = beBytes raw ++ ws.flatMap beBytes ∧ output = [] := by
  simp only [diagnosticBody, Parser.bind_ok, Parser.beU16_ok, Parser.rest_ok]
  constructor
  · rintro ⟨raw, _, rfl, data, _, ⟨rfl, rfl⟩, body⟩
    split at body
    · simp at body
    next even =>
      simp only [ne_eq, not_not] at even
      simp only [Parser.pure_ok, Prod.mk.injEq] at body
      obtain ⟨⟨code, decoded⟩, rfl⟩ := body
      obtain rfl := (wordsFromBytes_eq even).mp decoded
      exact ⟨raw, DiagnosticSubFunction.decode_eq.mp code, rfl, rfl⟩
  · rintro ⟨raw, code, rfl, rfl⟩
    refine ⟨raw, _, rfl, _, _, ⟨rfl, rfl⟩, ?_⟩
    rw [if_neg (by simp)]
    simp [DiagnosticSubFunction.decode_eq.mpr code, wordsFromBytes]

/-- The byte count of a queue within bounds does not wrap. -/
theorem fifo_byteCount {count : UInt16} (bound : count ≤ maxFifoCount) :
    (count * 2 + 2).toNat = 2 * count.toNat + 2 := by
  have small : count.toNat ≤ 31 := UInt16.le_iff_toNat_le.mp bound
  simp
  omega

theorem fifoValues_ok {values : List RegisterValue} {input output : Bytes} :
    fifoValues.run input = .ok (values, output) ↔ ∃ count : UInt16,
      count.toNat = values.length ∧ count ≤ maxFifoCount ∧
      input = beBytes (count * 2 + 2) ++ (beBytes count ++ (registerBytes values ++ output)) := by
  simp only [fifoValues, Parser.bind_ok, Parser.beU16_ok, Parse.lift_ok]
  constructor
  · rintro ⟨byteCount, _, rfl, count, _, rfl, _, _, ⟨range, rfl⟩, body⟩
    split at body
    · simp at body
    next same =>
      simp only [ne_eq, not_not] at same
      simp only [Parser.bind_ok, Parser.take_ok, Parser.pure_ok] at body
      obtain ⟨data, _, ⟨rfl, taken⟩, decoded, rfl⟩ := body
      obtain rfl := (registersFromBytes_eq (by omega)).mp decoded
      rw [length_registerBytes] at taken
      exact ⟨count, by omega, (checkRange_ok.mp range).2, by rw [same]⟩
  · rintro ⟨count, counted, bound, rfl⟩
    refine ⟨_, _, rfl, count, _, rfl, (), _, ⟨checkRange_ok.mpr ⟨by simp, bound⟩, rfl⟩, ?_⟩
    simp
    omega

end Modbus
