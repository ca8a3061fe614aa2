import Modbus.Ascii
import Modbus.CheckedDecoders
import Modbus.Rtu
import Modbus.Tcp

/-! How the framings open an envelope, and how an RTU frame measures itself, with every
operation that can fail: expected parts of a slice, indices, and sums of a fixed width.
Sums and differences that saturate cannot fail and are taken as they are. -/
namespace Modbus.Checked

open Bytes

namespace Rtu

open Modbus.Rtu (maxAduLen overhead addressLen crcLen headerPduBytes)

variable (crc16 : Bytes → UInt16) (bits : Nat)

def split (bytes : Bytes) : Option (Result (UnitId × Bytes)) :=
  if bytes.length > maxAduLen then some (.error (.aduTooLarge bytes.length maxAduLen))
  else if bytes.length < overhead + 1 then some (.error (.truncated (overhead + 1) bytes.length))
  else do
    let (body, trailer) ← Panic.splitAt bytes (bytes.length - 2)
    let (address, pdu) ← Panic.splitFirst body
    let trailer ← Panic.array 2 trailer
    let low ← trailer[0]?
    let high ← trailer[1]?
    let actual := ofLe low high
    let expected := crc16 body
    if expected ≠ actual then some (.error (.checksum expected actual)) else some (.ok (⟨address⟩, pdu))

/-- A byte count at an index, and what comes before the bytes it counts. -/
def announced (bytes : Bytes) (index base : Nat) : Option (Result (Option Nat)) := do
  let count ← bytes[index]?
  let len ← Panic.add bits base count.toNat
  some (.ok (some len))

def requestPduLen (fc : UInt8) (bytes : Bytes) : Option (Result (Option Nat)) :=
  if 0x01 ≤ fc ∧ fc ≤ 0x06 then some (.ok (some 5))
  else if fc = 0x07 ∨ fc = 0x0B ∨ fc = 0x0C ∨ fc = 0x11 then some (.ok (some 1))
  else if fc = 0x16 then some (.ok (some 7))
  else if fc = 0x18 then some (.ok (some 3))
  else if fc = 0x0F ∨ fc = 0x10 then
    if bytes.length < 8 then some (.ok none) else announced bits bytes 6 6
  else if fc = 0x14 ∨ fc = 0x15 then
    if bytes.length < 4 then some (.ok none) else announced bits bytes 2 2
  else if fc = 0x17 then
    if bytes.length < 11 then some (.ok none) else announced bits bytes 10 10
  else if fc = 0x2B then
    if bytes.length < 3 then some (.ok none)
    else do
      let meiType ← bytes[2]?
      if meiType = 0x0E then some (.ok (some 4)) else some (.error (.indeterminateLength fc))
  else some (.error (.indeterminateLength fc))

def responsePduLen (fc : UInt8) (bytes : Bytes) : Option (Result (Option Nat)) :=
  if fc = 0x05 ∨ fc = 0x06 ∨ fc = 0x0F ∨ fc = 0x10 ∨ fc = 0x0B then some (.ok (some 5))
  else if fc = 0x07 then some (.ok (some 2))
  else if fc = 0x16 then some (.ok (some 7))
  else if fc = 0x01 ∨ fc = 0x02 ∨ fc = 0x03 ∨ fc = 0x04 ∨ fc = 0x0C ∨ fc = 0x11 ∨ fc = 0x14 ∨
      fc = 0x15 ∨ fc = 0x17 then
    if bytes.length < 4 then some (.ok none) else announced bits bytes 2 2
  else if fc = 0x18 then
    if bytes.length < 5 then some (.ok none)
    else do
      let high ← bytes[2]?
      let low ← bytes[3]?
      let len ← Panic.add bits 3 (ofBe high low).toNat
      some (.ok (some len))
  else some (.error (.indeterminateLength fc))

/-- `ADDRESS_LEN + pdu_len + CRC_LEN`, and the checks that follow it. -/
def totalExtent (bytes : Bytes) (pduLen : Nat) : Option (Result Extent) := do
  let sum ← Panic.add bits addressLen pduLen
  let totalLen ← Panic.add bits sum crcLen
  some (Modbus.Rtu.checkExtent bytes totalLen)

def finishExtent (bytes : Bytes) : Option (Result (Option Nat)) → Option (Result Extent)
  | none => none
  | some (.error e) => some (.error e)
  | some (.ok none) => some (.ok .needMore)
  | some (.ok (some pduLen)) => totalExtent bits bytes pduLen

def walkObjects (bytes : Bytes) : Nat → Nat → Option (Option Nat)
  | 0, pduOffset => some (some pduOffset)
  | objects + 1, pduOffset => do
    let sum ← Panic.add bits addressLen pduOffset
    let reach ← Panic.add bits sum 2
    if reach > bytes.length then some none
    else
      let index ← Panic.add bits sum 1
      let objLength ← bytes[index]?
      let step ← Panic.add bits 2 objLength.toNat
      let pduOffset ← Panic.add bits pduOffset step
      walkObjects bytes objects pduOffset

def deriveFc43Mei14ResponseLength (bytes : Bytes) : Option (Result Extent) :=
  if bytes.length < addressLen + headerPduBytes + crcLen then some (.ok .needMore)
  else do
    let objCount ← bytes[addressLen + 6]?
    match ← walkObjects bits bytes objCount.toNat headerPduBytes with
    | none => some (.ok .needMore)
    | some pduOffset => totalExtent bits bytes pduOffset

def deriveExtent (direction : Direction) (bytes : Bytes) : Option (Result Extent) :=
  if bytes.length < 4 then some (.ok .needMore)
  else do
    let fc ← bytes[1]?
    if fc &&& 0x80 ≠ 0 then finishExtent bits bytes (some (.ok (some 2)))
    else match direction with
      | .request => finishExtent bits bytes (requestPduLen bits fc bytes)
      | .response =>
        if fc = 0x2B then
          if bytes.length < 3 then some (.ok .needMore)
          else
            let meiType ← bytes[2]?
            if meiType = 0x0E then deriveFc43Mei14ResponseLength bits bytes
            else some (.error (.indeterminateLength fc))
        else finishExtent bits bytes (responsePduLen bits fc bytes)

end Rtu

namespace Tcp

open Modbus.Tcp (maxAduLen headerLen lengthOverhead protocolModbus checkLength)

def split (bytes : Bytes) : Option (Result (MbapHeader × Bytes)) :=
  if bytes.length > maxAduLen then some (.error (.aduTooLarge bytes.length maxAduLen))
  else if bytes.length < headerLen + 1 then some (.error (.truncated (headerLen + 1) bytes.length))
  else do
    let (head, pdu) ← Panic.splitAt bytes headerLen
    let head ← Panic.array headerLen head
    let protocol := ofBe (← head[2]?) (← head[3]?)
    if protocol ≠ protocolModbus then some (.error (.protocolIdentifier protocol))
    else
      let length := (ofBe (← head[4]?) (← head[5]?)).toNat
      match checkLength length with
      | .error e => some (.error e)
      | .ok () =>
        let supplied := pdu.length + lengthOverhead
        if length ≠ supplied then some (.error (.invalidLength length supplied))
        else
          let transaction := ofBe (← head[0]?) (← head[1]?)
          let unit ← head[6]?
          some (.ok (⟨⟨transaction⟩, ⟨unit⟩⟩, pdu))

end Tcp

namespace Ascii

open Modbus.Ascii (maxAduLen overhead start terminator lrc)

/-- A letter's distance from the first of its case, raised by ten. -/
def letter (character first : UInt8) : Option (Result UInt8) := do
  let distance ← Panic.sub character.toNat first.toNat
  let value ← Panic.add 8 distance 10
  some (.ok (UInt8.ofNat value))

def nibble (character : UInt8) : Option (Result UInt8) :=
  if 0x30 ≤ character ∧ character ≤ 0x39 then do
    let value ← Panic.sub character.toNat 0x30
    some (.ok (UInt8.ofNat value))
  else if 0x41 ≤ character ∧ character ≤ 0x46 then letter character 0x41
  else if 0x61 ≤ character ∧ character ≤ 0x66 then letter character 0x61
  else some (.error (.invalidCharacter character))

def decodeHex : Bytes → Option (Result Bytes)
  | high :: low :: rest => do
    match ← nibble high with
    | .error e => some (.error e)
    | .ok h =>
      let shifted ← Panic.shl 8 h.toNat 4
      match ← nibble low with
      | .error e => some (.error e)
      | .ok l =>
        match ← decodeHex rest with
        | .error e => some (.error e)
        | .ok bytes => some (.ok ((UInt8.ofNat shifted ||| l) :: bytes))
  | _ => some (.ok [])

def split (bytes : Bytes) : Option (Result (UnitId × Bytes)) :=
  let minimum := overhead + 2
  if bytes.length > maxAduLen then some (.error (.aduTooLarge bytes.length maxAduLen))
  else if bytes.length < minimum then some (.error (.truncated minimum bytes.length))
  else match bytes with
    | [] => some (.error (.framing "start character"))
    | first :: rest =>
      if first ≠ start then some (.error (.framing "start character"))
      else do
        let (body, closing) ← Panic.splitAt rest (rest.length - terminator.length)
        if closing ≠ terminator then some (.error (.framing "terminator"))
        else if body.length % 2 ≠ 0 then some (.error (.framing "hexadecimal character count"))
        else
          match ← decodeHex body with
          | .error e => some (.error e)
          | .ok decoded =>
            match decoded.getLast? with
            | none => some (.error (.framing "hexadecimal character count"))
            | some actual =>
              let covered := decoded.dropLast
              let expected := lrc covered
              if expected ≠ actual then some (.error (.checksum expected.toUInt16 actual.toUInt16))
              else match covered with
                | [] => some (.error (.truncated minimum bytes.length))
                | address :: pdu => some (.ok (⟨address⟩, pdu))

end Ascii

namespace Rtu

section Split

variable (crc16 : Bytes → UInt16)

theorem split_checked (bytes : Bytes) : split crc16 bytes = some (Modbus.Rtu.split crc16 bytes) := by
  refine Panic.ite_eq (fun _ => rfl) fun _ => Panic.ite_eq (fun _ => rfl) fun long => ?_
  refine Panic.bind_eq (Panic.splitAt_eq (Nat.sub_le _ 2)) ?_
  unfold Modbus.Rtu.overhead at long
  have front : (bytes.take (bytes.length - 2)).length = bytes.length - 2 := by
    rw [List.length_take]
    omega
  have back : (bytes.drop (bytes.length - 2)).length = 2 := by
    rw [List.length_drop]
    omega
  generalize bytes.take (bytes.length - 2) = body at front
  generalize bytes.drop (bytes.length - 2) = trailer at back
  obtain ⟨low, high, rfl⟩ := List.length_eq_two.mp back
  obtain ⟨address, pdu, rfl⟩ := List.exists_cons_of_length_pos (l := body) (by omega)
  exact Panic.ite_eq (fun _ => rfl) fun _ => rfl

end Split

section Extent

theorem get_checked {bytes : Bytes} {index : Nat} (inside : index < bytes.length) :
    bytes[index]? = some (bytes.getD index 0) := by
  rw [List.getD_eq_getElem?_getD, List.getElem?_eq_getElem inside, Option.getD_some]

variable {bits : Nat} (wide : 16 < bits)
include wide

theorem add_checked {a b : Nat} (small : a + b < 131072) : Panic.add bits a b = some (a + b) :=
  Panic.add_eq (Nat.lt_of_lt_of_le small (Nat.pow_le_pow_right (n := 2) (by omega) wide))

theorem announced_checked {bytes : Bytes} {index base : Nat} (inside : index < bytes.length) (low : base ≤ 10) :
    announced bits bytes index base = some (.ok (some (base + (bytes.getD index 0).toNat))) := by
  have bound := (bytes.getD index 0).toNat_lt
  exact Panic.bind_eq (get_checked inside) (Panic.bind_eq (add_checked wide (by omega)) rfl)

theorem requestPduLen_checked (fc : UInt8) (bytes : Bytes) :
    requestPduLen bits fc bytes = some (Modbus.Rtu.requestPduLen fc bytes) := by
  refine Panic.ite_eq (fun _ => rfl) fun _ => Panic.ite_eq (fun _ => rfl) fun _ => ?_
  refine Panic.ite_eq (fun _ => rfl) fun _ => Panic.ite_eq (fun _ => rfl) fun _ => ?_
  refine Panic.ite_eq (fun _ => ?_) fun _ => Panic.ite_eq (fun _ => ?_) fun _ =>
    Panic.ite_eq (fun _ => ?_) fun _ => Panic.ite_eq (fun _ => ?_) fun _ => rfl
  · exact Panic.ite_eq (fun _ => rfl) fun _ => announced_checked wide (by omega) (by omega)
  · exact Panic.ite_eq (fun _ => rfl) fun _ => announced_checked wide (by omega) (by omega)
  · exact Panic.ite_eq (fun _ => rfl) fun _ => announced_checked wide (by omega) (by omega)
  · refine Panic.ite_eq (fun _ => rfl) fun _ => Panic.bind_eq (get_checked (by omega)) ?_
    exact Panic.ite_eq (fun _ => rfl) fun _ => rfl

theorem responsePduLen_checked (fc : UInt8) (bytes : Bytes) :
    responsePduLen bits fc bytes = some (Modbus.Rtu.responsePduLen fc bytes) := by
  refine Panic.ite_eq (fun _ => rfl) fun _ => Panic.ite_eq (fun _ => rfl) fun _ => ?_
  refine Panic.ite_eq (fun _ => rfl) fun _ => Panic.ite_eq (fun _ => ?_) fun _ =>
    Panic.ite_eq (fun _ => ?_) fun _ => rfl
  · exact Panic.ite_eq (fun _ => rfl) fun _ => announced_checked wide (by omega) (by omega)
  · refine Panic.ite_eq (fun _ => rfl) fun _ => ?_
    refine Panic.bind_eq (get_checked (by omega)) (Panic.bind_eq (get_checked (by omega)) ?_)
    have bound := (ofBe (bytes.getD 2 0) (bytes.getD 3 0)).toNat_lt
    exact Panic.bind_eq (add_checked wide (by omega)) rfl

theorem totalExtent_checked (bytes : Bytes) {pduLen : Nat} (small : pduLen ≤ 65542) :
    totalExtent bits bytes pduLen =
      some (Modbus.Rtu.checkExtent bytes (Modbus.Rtu.addressLen + pduLen + Modbus.Rtu.crcLen)) := by
  unfold totalExtent Modbus.Rtu.addressLen Modbus.Rtu.crcLen
  exact Panic.bind_eq (add_checked wide (by omega)) (Panic.bind_eq (add_checked wide (by omega)) rfl)

/-- Every object moves the offset by at most 257 bytes. -/
theorem walkObjects_checked (bytes : Bytes) (objects pduOffset : Nat) (small : pduOffset + 257 * objects ≤ 65542) :
    walkObjects bits bytes objects pduOffset = some (Modbus.Rtu.walkObjects bytes objects pduOffset) := by
  induction objects generalizing pduOffset with
  | zero => rfl
  | succ objects ih =>
    have bound := (bytes.getD (Modbus.Rtu.addressLen + pduOffset + 1) 0).toNat_lt
    have one : Modbus.Rtu.addressLen = 1 := rfl
    refine Panic.bind_eq (add_checked wide (by omega)) (Panic.bind_eq (add_checked wide (by omega)) ?_)
    refine Panic.ite_eq (fun _ => rfl) fun reached => ?_
    refine Panic.bind_eq (add_checked wide (by omega)) (Panic.bind_eq (get_checked (by omega)) ?_)
    refine Panic.bind_eq (add_checked wide (by omega)) (Panic.bind_eq (add_checked wide (by omega)) ?_)
    exact ih _ (by omega)

theorem deriveFc43Mei14ResponseLength_checked (bytes : Bytes) :
    deriveFc43Mei14ResponseLength bits bytes = some (Modbus.Rtu.deriveFc43Mei14ResponseLength bytes) := by
  refine Panic.ite_eq (fun _ => rfl) fun long => ?_
  unfold Modbus.Rtu.addressLen Modbus.Rtu.headerPduBytes Modbus.Rtu.crcLen at long
  have count := (bytes.getD (Modbus.Rtu.addressLen + 6) 0).toNat_lt
  have small : Modbus.Rtu.headerPduBytes + 257 * (bytes.getD (Modbus.Rtu.addressLen + 6) 0).toNat ≤ 65542 := by
    unfold Modbus.Rtu.headerPduBytes
    omega
  have inside : Modbus.Rtu.addressLen + 6 < bytes.length := by
    unfold Modbus.Rtu.addressLen
    omega
  refine Panic.bind_eq (get_checked inside) (Panic.bind_eq (walkObjects_checked wide _ _ _ small) ?_)
  cases walked : Modbus.Rtu.walkObjects bytes (bytes.getD (Modbus.Rtu.addressLen + 6) 0).toNat
      Modbus.Rtu.headerPduBytes with
  | none => rfl
  | some stop =>
    have near := (Modbus.Rtu.walkObjects_range walked).2
    exact totalExtent_checked wide bytes (by omega)

theorem finishExtent_checked (bytes : Bytes) {fc : UInt8} {found : Result (Option Nat)}
    (announced : Modbus.Rtu.Announced fc found) :
    finishExtent bits bytes (some found) = some (Modbus.Rtu.finishExtent bytes found) := by
  cases announced with
  | known _ small => exact totalExtent_checked wide bytes (by omega)
  | more => rfl
  | unknown => rfl

theorem deriveExtent_checked (direction : Direction) (bytes : Bytes) :
    deriveExtent bits direction bytes = some (Modbus.Rtu.deriveExtent direction bytes) := by
  refine Panic.ite_eq (fun _ => rfl) fun long => Panic.bind_eq (get_checked (by omega)) ?_
  refine Panic.ite_eq (fun _ => totalExtent_checked wide bytes (by omega)) fun _ => ?_
  cases direction with
  | request =>
    simp only [requestPduLen_checked wide]
    exact finishExtent_checked wide bytes (.request _ bytes)
  | response =>
    refine Panic.ite_eq (fun _ => Panic.ite_eq (fun _ => rfl) fun _ => ?_) fun _ => ?_
    · refine Panic.bind_eq (get_checked (by omega)) ?_
      exact Panic.ite_eq (fun _ => deriveFc43Mei14ResponseLength_checked wide bytes) fun _ => rfl
    · rw [responsePduLen_checked wide]
      exact finishExtent_checked wide bytes (.response _ bytes)

end Extent

/-- In words of 16 bits the length of a queue's answer would not fit. -/
theorem deriveExtent_narrow : deriveExtent 16 .response [0x01, 0x18, 0xFF, 0xFF, 0x00] = none := by decide

end Rtu

namespace Tcp

theorem header_shape {bytes : Bytes} (long : ¬bytes.length < 8) :
    ∃ t1 t0 p1 p0 l1 l0 unit pdu, bytes = t1 :: t0 :: p1 :: p0 :: l1 :: l0 :: unit :: pdu := by
  rcases bytes with _ | ⟨_, _ | ⟨_, _ | ⟨_, _ | ⟨_, _ | ⟨_, _ | ⟨_, _ | ⟨_, _⟩⟩⟩⟩⟩⟩⟩
  on_goal 8 => exact ⟨_, _, _, _, _, _, _, _, rfl⟩
  all_goals simp at long

theorem split_checked (bytes : Bytes) : split bytes = some (Modbus.Tcp.split bytes) := by
  refine Panic.ite_eq (fun _ => rfl) fun _ => Panic.ite_eq (fun _ => rfl) fun long => ?_
  obtain ⟨t1, t0, p1, p0, l1, l0, unit, pdu, rfl⟩ := header_shape long
  have whole : Modbus.Tcp.headerLen ≤ (t1 :: t0 :: p1 :: p0 :: l1 :: l0 :: unit :: pdu).length := by
    simp only [Modbus.Tcp.headerLen, List.length_cons]
    omega
  refine Panic.bind_eq (Panic.splitAt_eq whole) (Panic.bind_eq rfl ?_)
  refine Panic.bind_eq rfl (Panic.bind_eq rfl (Panic.ite_eq (fun _ => rfl) fun _ => ?_))
  refine Panic.bind_eq rfl (Panic.bind_eq rfl ?_)
  dsimp only
  cases Modbus.Tcp.checkLength (ofBe l1 l0).toNat with
  | error e => rfl
  | ok => exact Panic.ite_eq (fun _ => rfl) fun _ => rfl

end Tcp

namespace Ascii

theorem letter_checked {character first : UInt8} (above : first ≤ character) (near : character.toNat - first.toNat ≤ 5) :
    letter character first = some (.ok (character - first + 10)) := by
  have value : UInt8.ofNat (character.toNat - first.toNat + 10) = character - first + 10 := by
    rw [← UInt8.toNat_sub_of_le _ _ above, UInt8.ofNat_add, UInt8.ofNat_toNat]
    rfl
  refine Panic.bind_eq (Panic.sub_eq above) (Panic.bind_eq (Panic.add_eq ?_) ?_)
  · omega
  · rw [value]

theorem nibble_checked (character : UInt8) : nibble character = some (Modbus.Ascii.nibble character) := by
  refine Panic.ite_eq (fun digit => ?_) fun _ => Panic.ite_eq (fun upper => ?_) fun _ =>
    Panic.ite_eq (fun lower => ?_) fun _ => rfl
  · have value : UInt8.ofNat (character.toNat - 0x30) = character - 0x30 := by
      rw [← UInt8.ofNat_toNat (x := character - 0x30), UInt8.toNat_sub_of_le _ _ digit.1]
      rfl
    exact Panic.bind_eq (Panic.sub_eq digit.1) (by rw [value])
  · obtain ⟨above, below⟩ := upper
    exact letter_checked above (Nat.sub_le_of_le_add below)
  · obtain ⟨above, below⟩ := lower
    exact letter_checked above (Nat.sub_le_of_le_add below)

theorem high_checked (value : UInt8) : UInt8.ofNat (value.toNat <<< 4 % 2 ^ 8) = value <<< 4 := by
  apply UInt8.toNat_inj.mp
  rw [UInt8.toNat_shiftLeft, UInt8.toNat_ofNat']
  exact Nat.mod_mod _ _

theorem decodeHex_checked (characters : Bytes) :
    decodeHex characters = some (Modbus.Ascii.decodeHex characters) := by
  fun_induction Modbus.Ascii.decodeHex characters with
  | case1 high low rest ih =>
    refine Panic.bind_eq (nibble_checked high) ?_
    cases Modbus.Ascii.nibble high with
    | error e => rfl
    | ok h =>
      refine Panic.bind_eq (Panic.shl_eq (by omega) _) (Panic.bind_eq (nibble_checked low) ?_)
      cases Modbus.Ascii.nibble low with
      | error e => rfl
      | ok l =>
        refine Panic.bind_eq ih ?_
        cases Modbus.Ascii.decodeHex rest with
        | error e => rfl
        | ok bytes =>
          rw [high_checked]
          rfl
  | case2 characters other => exact decodeHex.eq_2 characters other

theorem split_checked (bytes : Bytes) : split bytes = some (Modbus.Ascii.split bytes) := by
  refine Panic.ite_eq (fun _ => rfl) fun _ => Panic.ite_eq (fun _ => rfl) fun _ => ?_
  cases bytes with
  | nil => rfl
  | cons first rest =>
    refine Panic.ite_eq (fun _ => rfl) fun _ => Panic.bind_eq (Panic.splitAt_eq (Nat.sub_le _ _)) ?_
    refine Panic.ite_eq (fun _ => rfl) fun _ => Panic.ite_eq (fun _ => rfl) fun _ => ?_
    refine Panic.bind_eq (decodeHex_checked _) ?_
    cases Modbus.Ascii.decodeHex (rest.take (rest.length - Modbus.Ascii.terminator.length)) with
    | error e => rfl
    | ok decoded =>
      show (match decoded.getLast? with
        | none => _
        | some actual => _) = some (match decoded.getLast? with
          | none => _
          | some actual => _)
      cases decoded.getLast? with
      | none => rfl
      | some actual =>
        refine Panic.ite_eq (fun _ => rfl) fun _ => ?_
        cases decoded.dropLast <;> rfl

end Ascii

end Modbus.Checked
