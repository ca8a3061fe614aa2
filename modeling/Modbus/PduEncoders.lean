import Modbus.PduDecoders

/-! Field encoders shared by the request and response PDUs. Each is given its
meaning by the bytes it may write; the size check covers what the encoder itself
wrote, whatever the buffer held before. -/
namespace Modbus

open Bytes ByteWriter

/-- The size check at the end of every encoder. -/
def finish (start : Nat) : ByteWriter Error Unit := do
  let stop ← length
  lift (if stop - start > maxPduLen then .error (.pduTooLarge (stop - start) maxPduLen) else .ok ())

/-- `let at = out.len(); …; finish(out, at)`. -/
def sized (write : ByteWriter Error Unit) : ByteWriter Error Unit := do
  let start ← length
  write
  finish start

def packedLen (count : Nat) : Nat := (count + 7) / 8

def pushRegisters (registers : List RegisterValue) : ByteWriter Error Unit :=
  forEach (fun register => extend (beBytes register.raw)) registers

def pushWords (ws : List UInt16) : ByteWriter Error Unit :=
  forEach (fun word => extend (beBytes word)) ws

def pushBits (bits : List Bool) : ByteWriter Error Unit :=
  forEach (fun chunk => push (ofBits chunk)) (octets bits)

def quantityOf (field : String) (len : Nat) (min max : UInt16) : Result UInt16 :=
  let quantity := asU16 len
  match checkRange field quantity min max with
  | .error e => .error e
  | .ok () => .ok quantity

def encodeRead (code : UInt8) (address : Address) (quantity : Quantity) (min max : UInt16) :
    ByteWriter Error Unit := do
  lift (checkRange "quantity" quantity.raw min max)
  sized do
    push code
    extend (beBytes address.raw)
    extend (beBytes quantity.raw)

def encodeSingle (code : UInt8) (address : Address) (value : UInt16) : ByteWriter Error Unit :=
  sized do
    push code
    extend (beBytes address.raw)
    extend (beBytes value)

def encodeQuantified (code : UInt8) (address : Address) (quantity : Quantity) (dataLen : Nat)
    (writeData : ByteWriter Error Unit) : ByteWriter Error Unit := do
  let count ← lift (tryU8 dataLen (.pduTooLarge (dataLen + 6) maxPduLen))
  sized do
    push code
    extend (beBytes address.raw)
    extend (beBytes quantity.raw)
    push count
    writeData

def encodeEchoQuantity (code : UInt8) (address : Address) (quantity : Quantity) :
    ByteWriter Error Unit :=
  sized do
    push code
    extend (beBytes address.raw)
    extend (beBytes quantity.raw)

/-- The function code is written before the sub-function is validated. -/
def encodeDiagnostics (code : UInt8) (subFunction : DiagnosticSubFunction) (data : List UInt16) :
    ByteWriter Error Unit :=
  sized do
    push code
    let raw ← lift subFunction.encode
    extend (beBytes raw)
    pushWords data

def encodeCustom (code : UInt8) (data : Bytes) : ByteWriter Error Unit :=
  sized do
    let byte ← lift (FunctionCode.custom code).encode
    push byte
    extend data

def encodeBody (code : UInt8) (write : ByteWriter Error Unit) : ByteWriter Error Unit :=
  sized do
    push code
    write

def encodeBare (code : UInt8) : ByteWriter Error Unit := sized (push code)

def encodeCounted (code : UInt8) (dataLen : Nat) (writeData : ByteWriter Error Unit) :
    ByteWriter Error Unit := do
  let count ← lift (tryU8 dataLen (.pduTooLarge (dataLen + 2) maxPduLen))
  sized do
    push code
    push count
    writeData

theorem sized_meets {w : ByteWriter Error Unit} {P : Bytes → Prop} (body : Meets w P) :
    Meets (sized w) fun data => P data ∧ data.length ≤ maxPduLen := by
  have measured := body.measured fun len =>
    if len > maxPduLen then .error (Error.pduTooLarge len maxPduLen) else .ok ()
  exact measured.congr fun data => by simp

theorem pushRegisters_meets (registers : List RegisterValue) :
    Meets (pushRegisters registers) (· = registerBytes registers) :=
  (Meets.forEach (fun register : RegisterValue => beBytes register.raw) (fun _ => True)
    (fun _ => (Meets.extend _).congr (by simp)) registers).congr
    fun data => by simp [registerBytes]

theorem pushWords_meets (ws : List UInt16) : Meets (pushWords ws) (· = ws.flatMap beBytes) :=
  (Meets.forEach beBytes (fun _ => True) (fun _ => (Meets.extend _).congr (by simp)) ws).congr
    fun data => by simp

theorem pushBits_meets (bits : List Bool) : Meets (pushBits bits) (· = packBits bits) :=
  (Meets.forEach (fun chunk => [ofBits chunk]) (fun _ => True)
    (fun _ => (Meets.push _).congr (by simp)) (octets bits)).congr
    fun data => by simp [packBits, List.map_eq_flatMap]

theorem quantityOf_ok {field : String} {len : Nat} {min max quantity : UInt16} (bound : max < 65535) :
    quantityOf field len min max = .ok quantity ↔
      quantity.toNat = len ∧ min ≤ quantity ∧ quantity ≤ max := by
  have inRange : quantityOf field len min max = .ok quantity ↔
      asU16 len = quantity ∧ min ≤ quantity ∧ quantity ≤ max := by
    cases checked : checkRange field (asU16 len) min max with
    | error e =>
      have outside : ¬(min ≤ asU16 len ∧ asU16 len ≤ max) := by
        intro inside
        have passed : checkRange field (asU16 len) min max = .ok () := checkRange_ok.mpr inside
        rw [checked] at passed
        contradiction
      simp only [quantityOf, checked, reduceCtorEq, false_iff]
      rintro ⟨rfl, inside⟩
      exact outside inside
    | ok =>
      have inside := checkRange_ok.mp checked
      simp only [quantityOf, checked, Except.ok.injEq, iff_self_and]
      rintro rfl
      exact inside
  rw [inRange]
  have small := quantity.toNat_lt
  by_cases fits : len < 65536
  · rw [← UInt16.toNat_inj, asU16_toNat fits]
    simp [eq_comm]
  · constructor
    · rintro ⟨rfl, _, le⟩
      simp only [asU16, if_neg fits] at le
      exact absurd (UInt16.lt_of_le_of_lt le bound) (by decide)
    · rintro ⟨rfl, _⟩
      exact absurd small fits

theorem encodeRead_meets (code : UInt8) (address : Address) (quantity : Quantity)
    (min max : UInt16) :
    Meets (encodeRead code address quantity min max) fun data =>
      (min ≤ quantity.raw ∧ quantity.raw ≤ max) ∧
        data = code :: (beBytes address.raw ++ beBytes quantity.raw) ∧ data.length ≤ maxPduLen :=
  (Meets.check (sized_meets (.push_seq _ (.extend_seq _ (.extend _))))).congr
    fun data => by simp [checkRange_ok]

theorem encodeSingle_meets (code : UInt8) (address : Address) (value : UInt16) :
    Meets (encodeSingle code address value) fun data =>
      data = code :: (beBytes address.raw ++ beBytes value) ∧ data.length ≤ maxPduLen :=
  (sized_meets (.push_seq _ (.extend_seq _ (.extend _)))).congr fun data => by simp

theorem encodeQuantified_meets (code : UInt8) (address : Address) (quantity : Quantity)
    {writeData : ByteWriter Error Unit} {body : Bytes} (written : Meets writeData (· = body)) :
    Meets (encodeQuantified code address quantity body.length writeData) fun data =>
      (∃ count : UInt8, count.toNat = body.length ∧
        data = code :: (beBytes address.raw ++ (beBytes quantity.raw ++ count :: body))) ∧
      data.length ≤ maxPduLen := by
  refine (Meets.guard fun count _ => sized_meets
    (.push_seq _ (.extend_seq _ (.extend_seq _ (.push_seq count written))))).congr fun data => ?_
  simp only [tryU8_ok, exists_eq_left, ← and_assoc, exists_and_right]

theorem encodeEchoQuantity_meets (code : UInt8) (address : Address) (quantity : Quantity) :
    Meets (encodeEchoQuantity code address quantity) fun data =>
      data = code :: (beBytes address.raw ++ beBytes quantity.raw) ∧ data.length ≤ maxPduLen :=
  (sized_meets (.push_seq _ (.extend_seq _ (.extend _)))).congr fun data => by simp

theorem encodeDiagnostics_meets (code : UInt8) (subFunction : DiagnosticSubFunction)
    (ws : List UInt16) :
    Meets (encodeDiagnostics code subFunction ws) fun data =>
      (∃ body, (∃ raw, subFunction.encode = .ok raw ∧ body = beBytes raw ++ ws.flatMap beBytes) ∧
        data = code :: body) ∧ data.length ≤ maxPduLen :=
  (sized_meets (.push_seq _ (.guard fun raw _ => .extend_seq _ (pushWords_meets ws)))).congr
    fun data => by simp

theorem encodeCustom_meets (code : UInt8) (body : Bytes) :
    Meets (encodeCustom code body) fun data =>
      (∃ byte, (FunctionCode.custom code).encode = .ok byte ∧ data = byte :: body) ∧
        data.length ≤ maxPduLen :=
  (sized_meets (.guard fun byte _ => .push_seq byte (.extend body))).congr fun data => by simp

theorem encodeBody_meets (code : UInt8) {write : ByteWriter Error Unit} {P : Bytes → Prop}
    (written : Meets write P) :
    Meets (encodeBody code write) fun data =>
      (∃ body, P body ∧ data = code :: body) ∧ data.length ≤ maxPduLen :=
  sized_meets (.push_seq code written)

theorem encodeBare_meets (code : UInt8) :
    Meets (encodeBare code) fun data => data = [code] ∧ data.length ≤ maxPduLen :=
  sized_meets (.push code)

theorem encodeCounted_meets (code : UInt8) {writeData : ByteWriter Error Unit} {body : Bytes}
    (written : Meets writeData (· = body)) :
    Meets (encodeCounted code body.length writeData) fun data =>
      (∃ count : UInt8, count.toNat = body.length ∧ data = code :: count :: body) ∧
        data.length ≤ maxPduLen := by
  refine (Meets.guard fun count _ => sized_meets (.push_seq _ (.push_seq count written))).congr
    fun data => ?_
  simp only [tryU8_ok, exists_eq_left, ← and_assoc, exists_and_right]

/-- Bit `n` of data on the wire: bit `n mod 8` of byte `n / 8`. -/
def wireBit (data : Bytes) (n : Nat) : Bool := (data.getD (n / 8) 0).toNat.testBit (n % 8)

theorem pushBits_appends (bits : List Bool) : Appends (pushBits bits) (.ok (packBits bits)) :=
  (pushBits_meets bits).appends

/-- A body of the right size is accepted unless a bit beyond the quantity is set. -/
theorem packedBits_iff {data : Bytes} {quantity : Nat} (sized : data.length = packedLen quantity) :
    (∃ bits, packedBits data quantity = .ok bits) ↔ ∀ n, quantity ≤ n → wireBit data n = false := by
  simp only [packedBits_ok sized]
  exact packed_iff.trans (and_iff_right sized)

/-- Bits go onto the wire and come off it least significant first, and the two directions undo
each other up to the padding, which must be clear. -/
theorem bits_follow_wire_order :
    (∀ bits, ∃ data, Appends (pushBits bits) (.ok data) ∧ data.length = packedLen bits.length ∧
      (∀ n, wireBit data n = bits.getD n false) ∧
      bitsFromBytes data = bits ++ List.replicate ((8 - bits.length % 8) % 8) false) ∧
    (∀ data, Appends (pushBits (bitsFromBytes data)) (.ok data)) ∧
    ∀ data quantity, data.length = packedLen quantity →
      ((∃ bits, packedBits data quantity = .ok bits) ↔ ∀ n, quantity ≤ n → wireBit data n = false) ∧
      ∀ bits, packedBits data quantity = .ok bits → Appends (pushBits bits) (.ok data) := by
  refine ⟨fun bits => ?_, fun data => ?_, fun data quantity sized => ⟨packedBits_iff sized, fun bits accepted => ?_⟩⟩
  · exact ⟨packBits bits, pushBits_appends bits, length_packBits bits, packBits_getD bits, bitsOf_packBits bits⟩
  · have appends := pushBits_appends (bitsFromBytes data)
    rwa [bitsFromBytes, packBits_bitsOf] at appends
  · obtain ⟨rfl, _⟩ := (packedBits_ok sized).mp accepted
    exact pushBits_appends bits

/-- Ten coils and their padding. -/
theorem ten_coils_accepted : ∃ bits, packedBits [0xCD, 0x01] 10 = .ok bits :=
  ((bits_follow_wire_order.2.2 [0xCD, 0x01] 10 (by decide)).1).mpr fun n beyond => by
    by_cases inside : n < 16
    · exact (by decide : ∀ n < 16, 10 ≤ n → wireBit [0xCD, 0x01] n = false) n inside beyond
    · rw [wireBit, List.getD_eq_default _ _ (by simp; omega)]
      simp

end Modbus
