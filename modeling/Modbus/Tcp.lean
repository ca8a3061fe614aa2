import Modbus.Framing

/-! Modbus TCP framing: a header with transaction, protocol and length fields and
the unit identifier. The length counts the unit identifier and the PDU; it is
patched in once the PDU is written. -/
namespace Modbus

open Bytes ByteWriter

structure MbapHeader where
  transactionId : TransactionId
  unitId : UnitId
  deriving DecidableEq, Repr

namespace Tcp

def maxAduLen : Nat := 260
def headerLen : Nat := 7
def lengthOverhead : Nat := 1
def protocolModbus : UInt16 := 0
def minLength : Nat := 1
def maxLength : Nat := 254
def lengthPrefixLen : Nat := 6
def lengthFieldOffset : Nat := 4

def checkLength (length : Nat) : Result Unit :=
  if ¬(minLength ≤ length ∧ length ≤ maxLength) then
    .error (.outOfRange "MBAP length" length minLength maxLength)
  else .ok ()

/-- The whole ADU's length, from its first bytes. -/
def aduLen (bytes : Bytes) : Result Nat :=
  match bytes with
  | _ :: _ :: _ :: _ :: high :: low :: _ => do
    let length := (ofBe high low).toNat
    checkLength length
    pure (lengthPrefixLen + length)
  | _ => .error (.truncated lengthPrefixLen bytes.length)

def split (bytes : Bytes) : Result (MbapHeader × Bytes) :=
  if bytes.length > maxAduLen then .error (.aduTooLarge bytes.length maxAduLen)
  else if bytes.length < headerLen + 1 then .error (.truncated (headerLen + 1) bytes.length)
  else match bytes with
    | t1 :: t0 :: p1 :: p0 :: l1 :: l0 :: unit :: pdu =>
      let protocol := ofBe p1 p0
      if protocol ≠ protocolModbus then .error (.protocolIdentifier protocol)
      else do
        let length := (ofBe l1 l0).toNat
        checkLength length
        let supplied := pdu.length + lengthOverhead
        if length ≠ supplied then .error (.invalidLength length supplied)
        else .ok (⟨⟨ofBe t1 t0⟩, ⟨unit⟩⟩, pdu)
    | _ => .error .malformed

def wrapInto (header : MbapHeader) (encodePdu : ByteWriter Error Unit) : ByteWriter Error Unit :=
  restoring do
    let start ← length
    extend (beBytes header.transactionId.raw ++ beBytes protocolModbus)
    extend (beBytes 0)
    extend [header.unitId.raw]
    let pduAt ← length
    encodePdu
    let stop ← length
    lift (checkLength (asU16 (stop - pduAt + lengthOverhead)).toNat)
    patch (start + lengthFieldOffset) (beBytes (asU16 (stop - pduAt + lengthOverhead)))

/-- A Modbus TCP ADU on the wire. -/
def layout (header : MbapHeader) (pdu : Bytes) : Bytes :=
  beBytes header.transactionId.raw ++ beBytes protocolModbus ++
    (beBytes (asU16 (pdu.length + lengthOverhead)) ++ ([header.unitId.raw] ++ pdu))

@[simp] theorem length_layout (header : MbapHeader) (pdu : Bytes) :
    (layout header pdu).length = pdu.length + 7 := by
  simp [layout]
  omega

theorem checkLength_ok {length : Nat} {u : Unit} :
    checkLength length = .ok u ↔ 1 ≤ length ∧ length ≤ 254 := by
  unfold checkLength minLength maxLength
  by_cases inside : 1 ≤ length ∧ length ≤ 254 <;> simp [inside]

theorem aduLen_ok {bytes : Bytes} {len : Nat} :
    aduLen bytes = .ok len ↔ ∃ t1 t0 p1 p0 l1 l0 rest,
      bytes = t1 :: t0 :: p1 :: p0 :: l1 :: l0 :: rest ∧
      (1 ≤ (ofBe l1 l0).toNat ∧ (ofBe l1 l0).toNat ≤ 254) ∧ len = 6 + (ofBe l1 l0).toNat := by
  constructor
  · intro announced
    unfold aduLen at announced
    split at announced
    next t1 t0 p1 p0 l1 l0 rest =>
      obtain ⟨_, checked, same⟩ := Framing.bind_ok.mp announced
      exact ⟨t1, t0, p1, p0, l1, l0, rest, rfl, checkLength_ok.mp checked, (Except.ok.inj same).symm⟩
    · cases announced
  · rintro ⟨t1, t0, p1, p0, l1, l0, rest, rfl, inside, rfl⟩
    exact Framing.bind_ok.mpr ⟨(), checkLength_ok.mpr inside, rfl⟩

/-- The length field of a frame counts the unit identifier and the PDU. -/
theorem lengthField_toNat {pdu : Bytes} (small : pdu.length ≤ maxPduLen) :
    (asU16 (pdu.length + lengthOverhead)).toNat = pdu.length + 1 := by
  unfold maxPduLen at small
  exact asU16_toNat (by simp only [lengthOverhead]; omega)

theorem split_layout (header : MbapHeader) (pdu : Bytes) (nonempty : 1 ≤ pdu.length)
    (small : pdu.length ≤ maxPduLen) : split (layout header pdu) = .ok (header, pdu) := by
  have size := length_layout header pdu
  have counted := lengthField_toNat small
  unfold maxPduLen at small
  have inside : checkLength (pdu.length + 1) = .ok () := checkLength_ok.mpr (by omega)
  unfold split
  rw [if_neg (by rw [size, maxAduLen]; omega), if_neg (by rw [size, headerLen]; omega)]
  simp only [layout, beBytes, List.cons_append, List.nil_append, ofBe_halves, counted, inside]
  simp [lengthOverhead, bind, Except.bind]

/-- A header that announces as many bytes as it comes with. -/
theorem layout_of_announced {t1 t0 p1 p0 l1 l0 unit : UInt8} {pdu : Bytes}
    (modbus : ofBe p1 p0 = protocolModbus) (counted : (ofBe l1 l0).toNat = pdu.length + 1) :
    t1 :: t0 :: p1 :: p0 :: l1 :: l0 :: unit :: pdu = layout ⟨⟨ofBe t1 t0⟩, ⟨unit⟩⟩ pdu := by
  have field : asU16 (pdu.length + lengthOverhead) = ofBe l1 l0 := by
    apply UInt16.toNat_inj.mp
    have bound := (ofBe l1 l0).toNat_lt
    rw [asU16_toNat (by simp only [lengthOverhead]; omega), counted, lengthOverhead]
  simp only [layout, field, ← modbus, beBytes_ofBe]
  rfl

theorem layout_split {data : Bytes} {header : MbapHeader} {pdu : Bytes}
    (opened : split data = .ok (header, pdu)) :
    layout header pdu = data ∧ 1 ≤ pdu.length ∧ pdu.length ≤ maxPduLen := by
  unfold split at opened
  by_cases large : data.length > maxAduLen
  · rw [if_pos large] at opened
    contradiction
  by_cases short : data.length < headerLen + 1
  · rw [if_neg large, if_pos short] at opened
    contradiction
  rw [if_neg large, if_neg short] at opened
  split at opened
  next t1 t0 p1 p0 l1 l0 unit rest =>
    by_cases other : ofBe p1 p0 ≠ protocolModbus
    · rw [if_pos other] at opened
      contradiction
    rw [if_neg other] at opened
    simp only [ne_eq, not_not] at other
    simp only [Framing.bind_ok] at opened
    obtain ⟨_, checked, opened⟩ := opened
    by_cases differs : (ofBe l1 l0).toNat ≠ rest.length + lengthOverhead
    · rw [if_pos differs] at opened
      contradiction
    rw [if_neg differs] at opened
    simp only [ne_eq, not_not] at differs
    simp only [Except.ok.injEq, Prod.mk.injEq] at opened
    obtain ⟨rfl, rfl⟩ := opened
    refine ⟨(layout_of_announced other differs).symm, ?_, ?_⟩
    · simp only [headerLen, List.length_cons] at short
      omega
    · simp only [maxAduLen, maxPduLen, List.length_cons] at large ⊢
      omega
  · contradiction

/-- Whatever completes these bytes to the given length, the decoder finds a unit identifier and a
PDU in it. -/
def Delimits (head : Bytes) (len : Nat) : Prop :=
  ∀ rest, (head ++ rest).length = len →
    ∃ header pdu, split (head ++ rest) = .ok (header, pdu) ∧ 1 ≤ pdu.length ∧ pdu.length ≤ maxPduLen

theorem layout_announced {header : MbapHeader} {pdu : Bytes} (nonempty : 1 ≤ pdu.length)
    (small : pdu.length ≤ maxPduLen) :
    aduLen ((layout header pdu).take lengthPrefixLen) = .ok (layout header pdu).length := by
  refine aduLen_ok.mpr ⟨_, _, _, _, _, _, [], rfl, ?_⟩
  rw [ofBe_halves, lengthField_toNat small, length_layout]
  unfold maxPduLen at small
  omega

theorem delimits_iff {t1 t0 l1 l0 : UInt8} {len : Nat}
    (announced : aduLen [t1, t0, 0, 0, l1, l0] = .ok len) :
    Delimits [t1, t0, 0, 0, l1, l0] len ↔ 8 ≤ len := by
  obtain ⟨_, _, _, _, _, _, _, same, inside, rfl⟩ := aduLen_ok.mp announced
  obtain ⟨rfl, rfl, rfl, rfl, rfl, rfl, rfl⟩ : _ ∧ _ ∧ _ ∧ _ ∧ _ ∧ _ ∧ _ := by simpa using same
  constructor
  · intro delimits
    apply Nat.le_of_not_lt
    intro short
    obtain ⟨header, pdu, opened, nonempty, _⟩ := delimits [0] (by simp; omega)
    obtain ⟨spelled, _⟩ := layout_split opened
    have size := congrArg List.length spelled
    rw [length_layout] at size
    simp only [List.length_append, List.length_cons, List.length_nil] at size
    omega
  · intro long rest complete
    simp only [List.cons_append, List.nil_append, List.length_cons] at complete ⊢
    cases rest with
    | nil => simp at complete; omega
    | cons unit pdu =>
      rw [List.length_cons] at complete
      have counted : (ofBe l1 l0).toNat = pdu.length + 1 := by omega
      have small : pdu.length ≤ maxPduLen := by
        unfold maxPduLen
        omega
      rw [layout_of_announced rfl counted]
      exact ⟨_, pdu, split_layout _ pdu (by omega) small, by omega, small⟩

/-- The reader's length and the decoder agree on every frame and every header, but for one length
that the reader lets through. -/
theorem announced_frames_decode_iff (adu : Bytes) (t1 t0 l1 l0 : UInt8) (len : Nat) :
    (∀ header pdu, split adu = .ok (header, pdu) → aduLen (adu.take lengthPrefixLen) = .ok adu.length) ∧
      (aduLen [t1, t0, 0, 0, l1, l0] = .ok len →
        (Delimits [t1, t0, 0, 0, l1, l0] len ↔ 8 ≤ len)) := by
  refine ⟨?_, delimits_iff⟩
  intro header pdu opened
  obtain ⟨rfl, nonempty, small⟩ := layout_split opened
  exact layout_announced nonempty small

/-- The shortest frame there is. -/
theorem two_byte_length_delimits : Delimits [0x00, 0x01, 0x00, 0x00, 0x00, 0x02] 8 :=
  ((announced_frames_decode_iff [] 0x00 0x01 0x00 0x02 8).2 (by decide)).mpr (by decide)

/-- The reader takes seven bytes for a frame, and the decoder wants eight. -/
theorem one_byte_length_never_decodes :
    aduLen [0x00, 0x01, 0x00, 0x00, 0x00, 0x01] = .ok 7 ∧
      split ([0x00, 0x01, 0x00, 0x00, 0x00, 0x01] ++ [0x11]) = .error (.truncated 8 7) := by
  decide

theorem seals : Framing.Seals maxAduLen split wrapInto layout id where
  opens := split_layout
  spelled _ _ _ opened := (layout_split opened).1
  fits header pdu small := by
    simp only [length_layout, maxPduLen, maxAduLen] at small ⊢
    omega
  wraps header encodePdu P written bounded := by
    have headed := (written.headed (fun len => checkLength (asU16 (len + lengthOverhead)).toNat)
      (fun len => beBytes (asU16 (len + lengthOverhead)))
      (beBytes header.transactionId.raw ++ beBytes protocolModbus) (beBytes 0) [header.unitId.raw]
      (fun _ => rfl)).restoring
    refine headed.congr fun data => ?_
    constructor
    · rintro ⟨pdu, fits, _, rfl⟩
      exact ⟨pdu, fits, rfl⟩
    · rintro ⟨pdu, fits, rfl⟩
      have small := bounded pdu fits
      unfold maxPduLen at small
      have counted : (asU16 (pdu.length + lengthOverhead)).toNat = pdu.length + 1 :=
        asU16_toNat (by simp only [lengthOverhead]; omega)
      exact ⟨pdu, fits, checkLength_ok.mpr (by omega), rfl⟩

end Tcp

def tcp : Framing MbapHeader :=
  .enveloping Tcp.maxAduLen Tcp.split Tcp.wrapInto (.prefixed Tcp.lengthPrefixLen Tcp.aduLen)

end Modbus
