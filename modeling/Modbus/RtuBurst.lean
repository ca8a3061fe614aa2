import Modbus.ShiftRegister
import Modbus.Rtu

/-! Burst errors on an RTU line. The checksum is a shift register fed the bits of a frame
in the order of their transmission; a whole frame, its checksum included, empties it. -/
namespace Modbus.Rtu

open Bytes

def polynomial : BitVec 16 := 0xA001#16

theorem crcShift_toBitVec (register : UInt16) :
    (crcShift register).toBitVec = ShiftRegister.shift polynomial register.toBitVec := by
  have low : register &&& 1 = 1 ↔ register.toBitVec.getLsbD 0 = true := by
    have masked : (register &&& 1).toBitVec =
        BitVec.setWidth 16 (BitVec.ofBool (register.toBitVec.getLsbD 0)) := by
      rw [UInt16.toBitVec_and]
      exact BitVec.and_one_eq_setWidth_ofBool_getLsbD
    rw [← UInt16.toBitVec_inj, masked]
    cases register.toBitVec.getLsbD 0 <;> decide
  unfold crcShift ShiftRegister.shift
  by_cases leaves : register &&& 1 = 1
  · rw [if_pos leaves, if_pos (low.mp leaves)]
    rfl
  · rw [if_neg leaves, if_neg (mt low.mpr leaves)]
    rfl

theorem getLsbD_ofBits_bitsOf (data : Bytes) {i : Nat} (inside : i < 16) :
    (ShiftRegister.ofBits (bitsOf data) : BitVec 16).getLsbD i =
      (data.getD (i / 8) 0).toNat.testBit (i % 8) := by
  rw [ShiftRegister.getLsbD_ofBits inside, bitsOf_getD]

theorem ofBits_byteBits16 (byte : UInt8) :
    (ShiftRegister.ofBits (byteBits byte) : BitVec 16) = byte.toUInt16.toBitVec := by
  apply BitVec.eq_of_getLsbD_eq
  intro i inside
  have fed := getLsbD_ofBits_bitsOf [byte] inside
  rw [show bitsOf [byte] = byteBits byte from List.append_nil _] at fed
  rw [fed, BitVec.getLsbD, UInt16.toNat_toBitVec, UInt8.toNat_toUInt16]
  by_cases low : i < 8
  · rw [Nat.div_eq_of_lt low, Nat.mod_eq_of_lt low]
    rfl
  · have clear : byte.toNat.testBit i = false :=
      Nat.testBit_lt_two_pow (Nat.lt_of_lt_of_le byte.toNat_lt (Nat.pow_le_pow_right (by decide) (by omega)))
    rw [clear, show i / 8 = 1 by omega]
    simp

theorem ofBits_leBytes (word : UInt16) :
    (ShiftRegister.ofBits (bitsOf (leBytes word)) : BitVec 16) = word.toBitVec := by
  apply BitVec.eq_of_getLsbD_eq
  intro i inside
  obtain ⟨high, low⟩ := toNat_halves word
  rw [getLsbD_ofBits_bitsOf _ inside, BitVec.getLsbD, UInt16.toNat_toBitVec]
  by_cases first : i < 8
  · rw [Nat.div_eq_of_lt first, Nat.mod_eq_of_lt first]
    change word.toUInt8.toNat.testBit i = _
    rw [low, show (256 : Nat) = 2 ^ 8 from rfl, Nat.testBit_mod_two_pow]
    simp [first]
  · rw [show i / 8 = 1 by omega]
    change (word >>> 8).toUInt8.toNat.testBit (i % 8) = _
    rw [high, show (256 : Nat) = 2 ^ 8 from rfl, Nat.testBit_div_two_pow]
    congr 1
    omega

/-- A byte at a time is its bits one at a time. -/
theorem crc_feed (register : UInt16) (data : Bytes) :
    (data.foldl (fun register byte => Nat.repeat crcShift 8 (register ^^^ byte.toUInt16)) register).toBitVec =
      ShiftRegister.feed polynomial register.toBitVec (bitsOf data) := by
  induction data generalizing register with
  | nil => rfl
  | cons byte data ih =>
    have eight : (Nat.repeat crcShift 8 (register ^^^ byte.toUInt16)).toBitVec =
        ShiftRegister.feed polynomial register.toBitVec (byteBits byte) := by
      rw [ShiftRegister.feed_eq_iterate _ _ (by simp), ofBits_byteBits16]
      simp only [Nat.repeat, crcShift_toBitVec]
      rfl
    rw [List.foldl_cons, ih, eight, ← ShiftRegister.feed_append]
    rfl

theorem crc16Modbus_feed (data : Bytes) :
    (crc16Modbus data).toBitVec = ShiftRegister.feed polynomial 0xFFFF#16 (bitsOf data) :=
  crc_feed 0xFFFF data

theorem crc16Modbus_layout (address : UnitId) (pdu : Bytes) :
    crc16Modbus (layout crc16Modbus address pdu) = 0 := by
  apply UInt16.toBitVec_inj.mp
  have whole : bitsOf (layout crc16Modbus address pdu) = bitsOf (address.raw :: pdu) ++
      bitsOf (leBytes (crc16Modbus (address.raw :: pdu))) := List.flatMap_append
  rw [crc16Modbus_feed, whole, ShiftRegister.feed_append, ← crc16Modbus_feed]
  exact ShiftRegister.feed_self _ rfl (ofBits_leBytes _)

/-- A frame of acceptable length is opened or its checksum is refused. -/
theorem split_sized (crc16 : Bytes → UInt16) {data : Bytes} (long : overhead + 1 ≤ data.length)
    (short : data.length ≤ maxAduLen) :
    (∃ opened, split crc16 data = .ok opened) ∨
      ∃ expected actual, split crc16 data = .error (.checksum expected actual) := by
  have front : (data.take (data.length - 2)).length = data.length - 2 := by
    rw [List.length_take]
    omega
  have back : (data.drop (data.length - 2)).length = 2 := by
    rw [List.length_drop]
    simp only [overhead] at long
    omega
  obtain ⟨low, high, trailer⟩ := List.length_eq_two.mp back
  obtain ⟨address, pdu, body⟩ : ∃ address pdu, data.take (data.length - 2) = address :: pdu := by
    apply List.exists_cons_of_length_pos
    simp only [overhead] at long
    omega
  rw [split, if_neg (by omega), if_neg (by omega)]
  simp only [body, trailer]
  by_cases differs : crc16 (address :: pdu) ≠ ofLe low high
  · exact .inr ⟨_, _, if_pos differs⟩
  · exact .inl ⟨_, if_neg differs⟩

/-- An error pattern within sixteen consecutive bits, in the order of transmission. -/
structure Burst (error : Bytes) : Prop where
  some_error : true ∈ bitsOf error
  confined : ∃ first, ∀ i, (bitsOf error)[i]? = some true → first ≤ i ∧ i < first + 16

theorem split_burst {address : UnitId} {pdu error : Bytes} (nonempty : 1 ≤ pdu.length)
    (small : pdu.length ≤ maxPduLen) (burst : Burst error)
    (sized : error.length = (layout crc16Modbus address pdu).length) :
    ∃ expected actual, split crc16Modbus
      (List.zipWith (· ^^^ ·) (layout crc16Modbus address pdu) error) = .error (.checksum expected actual) := by
  have size : (List.zipWith (· ^^^ ·) (layout crc16Modbus address pdu) error).length = pdu.length + 3 := by
    rw [List.length_zipWith, sized, length_layout, Nat.min_self]
  simp only [maxPduLen] at small
  rcases split_sized crc16Modbus (by rw [size, overhead]; omega) (by rw [size, maxAduLen]; omega) with
    ⟨⟨address', pdu'⟩, opened⟩ | refused
  · obtain ⟨first, confined⟩ := burst.confined
    have trace := ShiftRegister.feed_burst polynomial (by decide) burst.some_error confined
    refine absurd ?_ trace
    have clean := crc16Modbus_layout address pdu
    have accepted := crc16Modbus_layout address' pdu'
    rw [(layout_split crc16Modbus opened).1] at accepted
    rw [← UInt16.toBitVec_inj, crc16Modbus_feed] at clean accepted
    have bits : (bitsOf error).length = (bitsOf (layout crc16Modbus address pdu)).length := by
      rw [length_bitsOf, length_bitsOf, sized]
    have linear := ShiftRegister.feed_xor polynomial 0xFFFF#16 0#16 bits
    rw [BitVec.xor_zero, ← bitsOf_xor sized, accepted, clean] at linear
    simpa using linear.symm
  · exact refused

end Modbus.Rtu

namespace Modbus

open Bytes

/-- Whatever RTU sends, a burst of at most sixteen wrong bits is refused for its checksum. -/
theorem bursts_refused (header : UnitId) (adu error : Bytes)
    (sent : (∃ request, (rtu Rtu.crc16Modbus).encodeRequest header request = .ok adu) ∨
      ∃ response, (rtu Rtu.crc16Modbus).encodeResponse header response = .ok adu)
    (sized : error.length = adu.length) (burst : Rtu.Burst error) :
    (∃ expected actual, (rtu Rtu.crc16Modbus).decodeRequest (List.zipWith (· ^^^ ·) adu error) =
      .error (.checksum expected actual)) ∧
    ∃ expected actual, (rtu Rtu.crc16Modbus).decodeResponse (List.zipWith (· ^^^ ·) adu error) =
      .error (.checksum expected actual) := by
  have wrapped : ∃ pdu, adu = Rtu.layout Rtu.crc16Modbus header pdu ∧ 1 ≤ pdu.length ∧
      pdu.length ≤ maxPduLen := by
    rcases sent with ⟨request, encoded⟩ | ⟨response, encoded⟩
    · obtain ⟨pdu, written, rfl⟩ := (Framing.encodeRequest_ok (Rtu.seals _)).mp encoded
      obtain ⟨⟨code, body, _, _, rfl⟩, size⟩ := RequestPdu.encode_ok.mp written
      exact ⟨_, rfl, by simp, size⟩
    · obtain ⟨pdu, written, rfl⟩ := (Framing.encodeResponse_ok (Rtu.seals _)).mp encoded
      obtain ⟨⟨code, body, _, _, rfl⟩, size⟩ := ResponsePdu.encode_ok.mp written
      exact ⟨_, rfl, by simp, size⟩
  obtain ⟨pdu, rfl, nonempty, small⟩ := wrapped
  obtain ⟨expected, actual, refused⟩ := Rtu.split_burst nonempty small burst sized
  have requests : (rtu Rtu.crc16Modbus).decodeRequest
      (List.zipWith (· ^^^ ·) (Rtu.layout Rtu.crc16Modbus header pdu) error) =
      .error (.checksum expected actual) := by
    simp only [rtu, Framing.enveloping, refused, bind, Except.bind]
  have responses : (rtu Rtu.crc16Modbus).decodeResponse
      (List.zipWith (· ^^^ ·) (Rtu.layout Rtu.crc16Modbus header pdu) error) =
      .error (.checksum expected actual) := by
    simp only [rtu, Framing.enveloping, refused, bind, Except.bind]
  exact ⟨⟨expected, actual, requests⟩, expected, actual, responses⟩

/-- A burst from the last bit of the PDU across the checksum's bytes. -/
theorem burst_into_checksum_refused :
    ∃ expected actual, (rtu Rtu.crc16Modbus).decodeRequest
      (List.zipWith (· ^^^ ·) [1, 7, 0x41, 0xE2] [0, 0x80, 0xFF, 0x01]) =
      .error (.checksum expected actual) := by
  have confined : ∀ i : Fin 32, (bitsOf [0, 0x80, 0xFF, 0x01])[i.val]? = some true →
      15 ≤ i.val ∧ i.val < 15 + 16 := by decide
  have checksum : Rtu.crc16Modbus [1, 7] = 0xE241 := by decide +kernel
  have sent : (rtu Rtu.crc16Modbus).encodeRequest ⟨1⟩ .readExceptionStatus = .ok [1, 7, 0x41, 0xE2] := by
    refine (Framing.encodeRequest_ok (Rtu.seals _)).mpr ⟨[7], rfl, ?_⟩
    rw [Rtu.layout, checksum]
    rfl
  refine (bursts_refused ⟨1⟩ [1, 7, 0x41, 0xE2] [0, 0x80, 0xFF, 0x01] (.inl ⟨_, sent⟩) rfl
    ⟨by decide, 15, ?_⟩).1
  intro i here
  have inside := (List.getElem?_eq_some_iff.mp here).1
  rw [length_bitsOf] at inside
  exact confined ⟨i, inside⟩ here

end Modbus
