import Modbus.Framing

/-! RTU framing: an address, the PDU and a checksum over both. The framing takes the
checksum as a parameter; nothing about it depends on which function of the covered
bytes it is. On a stream the extent of an ADU is derived from its own bytes. -/
namespace Modbus.Rtu

open Bytes ByteWriter

def maxAduLen : Nat := 256

/-- Address and checksum around a PDU. -/
def overhead : Nat := 3

/-- Shift one bit out of the checksum register. -/
def crcShift (register : UInt16) : UInt16 :=
  if register &&& 1 = 1 then register >>> 1 ^^^ 0xA001 else register >>> 1

/-- CRC-16 with the reversed polynomial A001 and initial value FFFF. -/
def crc16Modbus (data : Bytes) : UInt16 :=
  data.foldl (fun register byte => Nat.repeat crcShift 8 (register ^^^ byte.toUInt16)) 0xFFFF

variable (crc16 : Bytes → UInt16)

def split (bytes : Bytes) : Result (UnitId × Bytes) :=
  if bytes.length > maxAduLen then .error (.aduTooLarge bytes.length maxAduLen)
  else if bytes.length < overhead + 1 then .error (.truncated (overhead + 1) bytes.length)
  else
    let body := bytes.take (bytes.length - 2)
    match body, bytes.drop (bytes.length - 2) with
    | address :: pdu, [low, high] =>
      let actual := ofLe low high
      let expected := crc16 body
      if expected ≠ actual then .error (.checksum expected actual) else .ok (⟨address⟩, pdu)
    | _, _ => .error .malformed

def wrapInto (address : UnitId) (encodePdu : ByteWriter Error Unit) : ByteWriter Error Unit := do
  let start ← length
  restoring do
    push address.raw
    encodePdu
  let covered ← since start
  extend (leBytes (crc16 covered))

def addressLen : Nat := 1
def crcLen : Nat := 2
def headerPduBytes : Nat := 7

/-- The loop over the object list: the offset behind it, or `none` where the bytes
end before an object's length. -/
def walkObjects (bytes : Bytes) : Nat → Nat → Option Nat
  | 0, pduOffset => some pduOffset
  | objects + 1, pduOffset =>
    if addressLen + pduOffset + 2 > bytes.length then none
    else walkObjects bytes objects (pduOffset + (2 + (bytes.getD (addressLen + pduOffset + 1) 0).toNat))

/-- Bounds and availability of a derived length. -/
def checkExtent (bytes : Bytes) (totalLen : Nat) : Result Extent :=
  if totalLen > maxAduLen then .error (.aduTooLarge totalLen maxAduLen)
  else if bytes.length < totalLen then .ok .needMore
  else .ok (.complete totalLen)

def deriveFc43Mei14ResponseLength (bytes : Bytes) : Result Extent :=
  if bytes.length < addressLen + headerPduBytes + crcLen then .ok .needMore
  else match walkObjects bytes (bytes.getD (addressLen + 6) 0).toNat headerPduBytes with
    | none => .ok .needMore
    | some pduOffset => checkExtent bytes (addressLen + pduOffset + crcLen)

/-- The PDU length a request's leading bytes announce; `none` asks for more bytes. -/
def requestPduLen (fc : UInt8) (bytes : Bytes) : Result (Option Nat) :=
  if 0x01 ≤ fc ∧ fc ≤ 0x06 then .ok (some 5)
  else if fc = 0x07 ∨ fc = 0x0B ∨ fc = 0x0C ∨ fc = 0x11 then .ok (some 1)
  else if fc = 0x16 then .ok (some 7)
  else if fc = 0x18 then .ok (some 3)
  else if fc = 0x0F ∨ fc = 0x10 then
    if bytes.length < 8 then .ok none else .ok (some (6 + (bytes.getD 6 0).toNat))
  else if fc = 0x14 ∨ fc = 0x15 then
    if bytes.length < 4 then .ok none else .ok (some (2 + (bytes.getD 2 0).toNat))
  else if fc = 0x17 then
    if bytes.length < 11 then .ok none else .ok (some (10 + (bytes.getD 10 0).toNat))
  else if fc = 0x2B then
    if bytes.length < 3 then .ok none
    else if bytes.getD 2 0 = 0x0E then .ok (some 4)
    else .error (.indeterminateLength fc)
  else .error (.indeterminateLength fc)

/-- The PDU length of a response, device identification apart. -/
def responsePduLen (fc : UInt8) (bytes : Bytes) : Result (Option Nat) :=
  if fc = 0x05 ∨ fc = 0x06 ∨ fc = 0x0F ∨ fc = 0x10 ∨ fc = 0x0B then .ok (some 5)
  else if fc = 0x07 then .ok (some 2)
  else if fc = 0x16 then .ok (some 7)
  else if fc = 0x01 ∨ fc = 0x02 ∨ fc = 0x03 ∨ fc = 0x04 ∨ fc = 0x0C ∨ fc = 0x11 ∨ fc = 0x14 ∨
      fc = 0x15 ∨ fc = 0x17 then
    if bytes.length < 4 then .ok none else .ok (some (2 + (bytes.getD 2 0).toNat))
  else if fc = 0x18 then
    if bytes.length < 5 then .ok none
    else .ok (some (3 + (ofBe (bytes.getD 2 0) (bytes.getD 3 0)).toNat))
  else .error (.indeterminateLength fc)

/-- The total length check that ends the derivation. -/
def finishExtent (bytes : Bytes) : Result (Option Nat) → Result Extent
  | .error e => .error e
  | .ok none => .ok .needMore
  | .ok (some pduLen) => checkExtent bytes (addressLen + pduLen + crcLen)

def deriveExtent (direction : Direction) (bytes : Bytes) : Result Extent :=
  if bytes.length < 4 then .ok .needMore
  else
    let fc := bytes.getD 1 0
    if fc &&& 0x80 ≠ 0 then finishExtent bytes (.ok (some 2))
    else match direction with
      | .request => finishExtent bytes (requestPduLen fc bytes)
      | .response =>
        if fc = 0x2B then
          if bytes.length < 3 then .ok .needMore
          else if bytes.getD 2 0 = 0x0E then deriveFc43Mei14ResponseLength bytes
          else .error (.indeterminateLength fc)
        else finishExtent bytes (responsePduLen fc bytes)

/-- What the front of an ADU can announce: a length, that more bytes are needed, or nothing. -/
inductive Announced (fc : UInt8) : Result (Option Nat) → Prop
  | known {pduLen : Nat} (positive : 1 ≤ pduLen) (small : pduLen ≤ 65538) : Announced fc (.ok (some pduLen))
  | more : Announced fc (.ok none)
  | unknown : Announced fc (.error (.indeterminateLength fc))

namespace Announced

variable {fc : UInt8}

theorem ite {c : Prop} [Decidable c] {found found' : Result (Option Nat)} (first : Announced fc found)
    (second : Announced fc found') : Announced fc (if c then found else found') := by
  split
  · exact first
  · exact second

theorem counted {bytes : Bytes} {limit index base : Nat} (positive : 1 ≤ base) (low : base ≤ 10) :
    Announced fc (if bytes.length < limit then .ok none else .ok (some (base + (bytes.getD index 0).toNat))) := by
  have bound := (bytes.getD index 0).toNat_lt
  exact .ite .more (.known (by omega) (by omega))

theorem request (fc : UInt8) (bytes : Bytes) : Announced fc (requestPduLen fc bytes) := by
  refine .ite (.known (by omega) (by omega)) (.ite (.known (by omega) (by omega)) ?_)
  refine .ite (.known (by omega) (by omega)) (.ite (.known (by omega) (by omega)) ?_)
  refine .ite (.counted (by omega) (by omega)) (.ite (.counted (by omega) (by omega)) ?_)
  refine .ite (.counted (by omega) (by omega)) (.ite (.ite .more ?_) .unknown)
  exact .ite (.known (by omega) (by omega)) .unknown

theorem response (fc : UInt8) (bytes : Bytes) : Announced fc (responsePduLen fc bytes) := by
  have both := (ofBe (bytes.getD 2 0) (bytes.getD 3 0)).toNat_lt
  refine .ite (.known (by omega) (by omega)) (.ite (.known (by omega) (by omega)) ?_)
  refine .ite (.known (by omega) (by omega)) (.ite (.counted (by omega) (by omega)) ?_)
  exact .ite (.ite .more (.known (by omega) (by omega))) .unknown

end Announced

theorem walkObjects_range {bytes : Bytes} {objects pduOffset stop : Nat}
    (walked : walkObjects bytes objects pduOffset = some stop) :
    pduOffset ≤ stop ∧ stop ≤ pduOffset + 257 * objects := by
  induction objects generalizing pduOffset with
  | zero =>
    cases walked
    omega
  | succ objects ih =>
    have bound := (bytes.getD (addressLen + pduOffset + 1) 0).toNat_lt
    rw [walkObjects] at walked
    split at walked
    · cases walked
    · have further := ih walked
      omega

/-- A complete extent is a length of the bytes at hand that an ADU can have. -/
theorem checkExtent_complete {bytes : Bytes} {totalLen n : Nat}
    (complete : checkExtent bytes totalLen = .ok (.complete n)) :
    n = totalLen ∧ n ≤ bytes.length ∧ n ≤ maxAduLen := by
  unfold checkExtent at complete
  split at complete
  · cases complete
  · split at complete
    · cases complete
    · cases complete
      exact ⟨rfl, by omega, by omega⟩

theorem finishExtent_complete {fc : UInt8} {bytes : Bytes} {found : Result (Option Nat)} {n : Nat}
    (announced : Announced fc found) (complete : finishExtent bytes found = .ok (.complete n)) :
    4 ≤ n ∧ n ≤ bytes.length ∧ n ≤ maxAduLen := by
  cases announced with
  | known positive =>
    obtain ⟨rfl, inside, small⟩ := checkExtent_complete complete
    refine ⟨?_, inside, small⟩
    simp only [addressLen, crcLen]
    omega
  | more => cases complete
  | unknown => cases complete

theorem deriveFc43Mei14ResponseLength_complete {bytes : Bytes} {n : Nat}
    (complete : deriveFc43Mei14ResponseLength bytes = .ok (.complete n)) :
    4 ≤ n ∧ n ≤ bytes.length ∧ n ≤ maxAduLen := by
  unfold deriveFc43Mei14ResponseLength at complete
  split at complete
  · cases complete
  · split at complete
    · cases complete
    next last walked =>
      obtain ⟨rfl, inside, small⟩ := checkExtent_complete complete
      have further := (walkObjects_range walked).1
      refine ⟨?_, inside, small⟩
      simp only [headerPduBytes, addressLen, crcLen] at further ⊢
      omega

theorem deriveExtent_complete {direction : Direction} {bytes : Bytes} {n : Nat}
    (complete : deriveExtent direction bytes = .ok (.complete n)) :
    4 ≤ n ∧ n ≤ bytes.length ∧ n ≤ maxAduLen := by
  unfold deriveExtent at complete
  split at complete
  · cases complete
  simp only at complete
  split at complete
  · exact finishExtent_complete (Announced.known (by omega) (by omega) : Announced (bytes.getD 1 0) _) complete
  split at complete
  · exact finishExtent_complete (.request _ bytes) complete
  split at complete
  · split at complete
    · cases complete
    split at complete
    · exact deriveFc43Mei14ResponseLength_complete complete
    · cases complete
  · exact finishExtent_complete (.response _ bytes) complete

/-- An RTU ADU on the wire. -/
def layout (address : UnitId) (pdu : Bytes) : Bytes :=
  address.raw :: pdu ++ leBytes (crc16 (address.raw :: pdu))

@[simp] theorem length_layout (address : UnitId) (pdu : Bytes) :
    (layout crc16 address pdu).length = pdu.length + 3 := by
  simp [layout]

theorem split_layout (address : UnitId) (pdu : Bytes) (nonempty : 1 ≤ pdu.length)
    (small : pdu.length ≤ maxPduLen) : split crc16 (layout crc16 address pdu) = .ok (address, pdu) := by
  have size := length_layout crc16 address pdu
  have body : (layout crc16 address pdu).take ((layout crc16 address pdu).length - 2) =
      address.raw :: pdu := by
    rw [size]
    exact List.take_left' (by simp)
  have trailer : (layout crc16 address pdu).drop ((layout crc16 address pdu).length - 2) =
      leBytes (crc16 (address.raw :: pdu)) := by
    rw [size]
    exact List.drop_left' (by simp)
  unfold maxPduLen at small
  rw [split, if_neg (by rw [size, maxAduLen]; omega), if_neg (by rw [size, overhead]; omega)]
  simp only [body, trailer, leBytes]
  simp

theorem layout_split {data : Bytes} {address : UnitId} {pdu : Bytes}
    (opened : split crc16 data = .ok (address, pdu)) :
    layout crc16 address pdu = data ∧ 1 ≤ pdu.length ∧ pdu.length ≤ maxPduLen := by
  unfold split at opened
  by_cases large : data.length > maxAduLen
  · rw [if_pos large] at opened
    contradiction
  by_cases short : data.length < overhead + 1
  · rw [if_neg large, if_pos short] at opened
    contradiction
  rw [if_neg large, if_neg short] at opened
  have whole := List.take_append_drop (data.length - 2) data
  have size : (data.take (data.length - 2)).length = data.length - 2 := by
    rw [List.length_take]
    omega
  generalize data.take (data.length - 2) = body at opened whole size
  generalize data.drop (data.length - 2) = trailer at opened whole
  simp only at opened
  split at opened
  next raw rest low high =>
    by_cases differs : crc16 (raw :: rest) ≠ ofLe low high
    · rw [if_pos differs] at opened
      contradiction
    · rw [if_neg differs] at opened
      simp only [Except.ok.injEq, Prod.mk.injEq] at opened
      obtain ⟨rfl, rfl⟩ := opened
      simp only [ne_eq, not_not] at differs
      refine ⟨?_, ?_, ?_⟩
      · rw [layout, differs, leBytes_ofLe]
        exact whole
      · simp only [overhead, List.length_cons] at short size
        omega
      · simp only [maxAduLen, maxPduLen, List.length_cons] at large size ⊢
        omega
  · contradiction

theorem seals : Framing.Seals maxAduLen (split crc16) (wrapInto crc16) (layout crc16) id where
  opens := split_layout crc16
  spelled _ _ _ opened := (layout_split crc16 opened).1
  fits address pdu small := by
    simp only [length_layout, maxPduLen, maxAduLen] at small ⊢
    omega
  wraps address encodePdu P written _ := by
    have covered := (Meets.push_seq address.raw written).restoring
    refine (covered.trailed fun bytes => leBytes (crc16 bytes)).congr fun data => ?_
    constructor
    · rintro ⟨_, ⟨pdu, fits, rfl⟩, rfl⟩
      exact ⟨pdu, fits, rfl⟩
    · rintro ⟨pdu, fits, rfl⟩
      exact ⟨_, ⟨pdu, fits, rfl⟩, rfl⟩

end Modbus.Rtu

namespace Modbus

def rtu (crc16 : Bytes → UInt16) : Framing UnitId :=
  .enveloping Rtu.maxAduLen (Rtu.split crc16) (Rtu.wrapInto crc16) .silence

def rtuOverTcp (crc16 : Bytes → UInt16) : Framing UnitId :=
  .enveloping Rtu.maxAduLen (Rtu.split crc16) (Rtu.wrapInto crc16) (.contentLength 4 Rtu.deriveExtent)

end Modbus
