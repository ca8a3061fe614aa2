import Mathlib.Data.Nat.Bitwise
import Mathlib.Data.List.GetD
import Modbus.ByteWords

/-! Bits packed eight to a byte, least significant first. The last byte is
filled up with clear bits, so unpacking returns the bits and their padding. -/
namespace Bytes

/-- The eight bits of a byte, least significant first. -/
def byteBits (byte : UInt8) : List Bool :=
  [0, 1, 2, 3, 4, 5, 6, 7].map fun bit : UInt8 => byte &&& (1 <<< bit) != 0

def bitsOf (data : Bytes) : List Bool := data.flatMap byteBits

/-- Each set bit is or-ed in at its index. -/
def ofBits (bits : List Bool) : UInt8 :=
  (bits.zipIdx.filter fun entry => entry.1).foldl
    (fun byte entry => byte ||| (1 <<< UInt8.ofNat entry.2)) 0

/-- Consecutive groups of eight; the last one may be shorter. -/
def octets (bits : List Bool) : List (List Bool) :=
  (List.range ((bits.length + 7) / 8)).map fun i => (bits.drop (8 * i)).take 8

def packBits (bits : List Bool) : Bytes := (octets bits).map ofBits

/-- Clear bits that complete the last byte. -/
def padding (count : Nat) : List Bool := List.replicate ((8 - count % 8) % 8) false

@[simp] theorem length_byteBits (byte : UInt8) : (byteBits byte).length = 8 := rfl

@[simp] theorem length_bitsOf (data : Bytes) : (bitsOf data).length = 8 * data.length := by
  induction data with
  | nil => rfl
  | cons byte data ih =>
    simp only [bitsOf, List.flatMap_cons, List.length_append, length_byteBits, List.length_cons] at ih ⊢
    omega

@[simp] theorem length_packBits (bits : List Bool) :
    (packBits bits).length = (bits.length + 7) / 8 := by
  simp [packBits, octets]

theorem octets_cons {bits : List Bool} (nonempty : bits ≠ []) :
    octets bits = bits.take 8 :: octets (bits.drop 8) := by
  have positive := List.length_pos_iff.mpr nonempty
  have count : (bits.length + 7) / 8 = ((bits.drop 8).length + 7) / 8 + 1 := by
    simp only [List.length_drop]
    omega
  unfold octets
  rw [count, List.range_succ_eq_map]
  simp only [List.map_cons, Nat.mul_zero, List.drop_zero, List.map_map, List.cons.injEq, true_and,
    List.map_inj_left, Function.comp_apply, List.drop_drop]
  intro i _
  rw [Nat.add_comm 8 (8 * i), Nat.mul_succ]

theorem packBits_cons {bits : List Bool} (nonempty : bits ≠ []) :
    packBits bits = ofBits (bits.take 8) :: packBits (bits.drop 8) := by
  simp [packBits, octets_cons nonempty]

theorem bit_of_mask {byte mask : UInt8} {bit : Nat} (power : mask.toNat = 2 ^ bit) :
    (byte &&& mask != 0) = byte.toNat.testBit bit := by
  have masked : (byte &&& mask).toNat = (byte.toNat.testBit bit).toNat * 2 ^ bit := by
    rw [UInt8.toNat_and, power, Nat.and_two_pow]
  cases set : byte.toNat.testBit bit with
  | false =>
    rw [set, Bool.toNat_false, Nat.zero_mul] at masked
    simpa using UInt8.toNat_inj.mp masked
  | true =>
    rw [set, Bool.toNat_true, Nat.one_mul] at masked
    have positive := Nat.two_pow_pos bit
    refine bne_iff_ne.mpr fun zero => ?_
    rw [zero] at masked
    exact absurd masked.symm (Nat.ne_of_gt positive)

theorem byteBits_getD (byte : UInt8) : ∀ bit : Fin 8,
    (byteBits byte).getD bit false = byte.toNat.testBit bit
  | 0 | 1 | 2 | 3 | 4 | 5 | 6 | 7 => bit_of_mask rfl

theorem byteBits_inj {a b : UInt8} (same : byteBits a = byteBits b) : a = b := by
  apply UInt8.toNat_inj.mp
  apply Nat.eq_of_testBit_eq
  intro bit
  by_cases low : bit < 8
  · have first := byteBits_getD a ⟨bit, low⟩
    have second := byteBits_getD b ⟨bit, low⟩
    rw [same] at first
    exact first.symm.trans second
  · have high (byte : UInt8) : byte.toNat.testBit bit = false :=
      Nat.testBit_lt_two_pow (Nat.lt_of_lt_of_le byte.toNat_lt
        (Nat.pow_le_pow_right Nat.two_pos (Nat.le_of_not_lt low)))
    rw [high a, high b]

/-- A clear bit on top leaves the byte as it is. -/
theorem ofBits_snoc_false (bits : List Bool) : ofBits (bits ++ [false]) = ofBits bits := by
  simp [ofBits, List.zipIdx_append]

theorem ofBits_append_clear (bits : List Bool) (count : Nat) :
    ofBits (bits ++ List.replicate count false) = ofBits bits := by
  induction count with
  | zero => simp
  | succ count ih => rw [List.replicate_succ', ← List.append_assoc, ofBits_snoc_false, ih]

theorem byteBits_ofBits_full (bits : List Bool) (full : bits.length = 8) :
    byteBits (ofBits bits) = bits := by
  have octet : ∀ a b c d e f g h : Bool,
      byteBits (ofBits [a, b, c, d, e, f, g, h]) = [a, b, c, d, e, f, g, h] := by decide +kernel
  match bits, full with
  | [a, b, c, d, e, f, g, h], _ => exact octet a b c d e f g h

theorem ofBits_byteBits (byte : UInt8) : ofBits (byteBits byte) = byte :=
  byteBits_inj (byteBits_ofBits_full _ (length_byteBits byte))

theorem byteBits_ofBits (bits : List Bool) (short : bits.length ≤ 8) :
    byteBits (ofBits bits) = bits ++ List.replicate (8 - bits.length) false := by
  rw [← ofBits_append_clear bits (8 - bits.length)]
  apply byteBits_ofBits_full
  simp
  omega

/-- Unpacking undoes packing up to the padding. -/
theorem bitsOf_packBits (bits : List Bool) : bitsOf (packBits bits) = bits ++ padding bits.length := by
  induction count : (bits.length + 7) / 8 generalizing bits with
  | zero =>
    have : bits = [] := List.eq_nil_of_length_eq_zero (by omega)
    subst this
    rfl
  | succ count ih =>
    have nonempty : bits ≠ [] := by
      rintro rfl
      simp at count
    have head := byteBits_ofBits (bits.take 8) (List.length_take_le 8 bits)
    have tail := ih (bits.drop 8) (by simp; omega)
    rw [packBits_cons nonempty]
    simp only [bitsOf, List.flatMap_cons] at tail ⊢
    rw [head, tail]
    by_cases long : 8 ≤ bits.length
    · have padded : padding (bits.drop 8).length = padding bits.length := by
        simp only [padding, List.length_drop]
        rw [← Nat.mod_eq_sub_mod long]
      rw [padded, ← List.append_assoc]
      simp [Nat.min_eq_left long]
    · have rest : bits.drop 8 = [] := List.drop_eq_nil_of_le (by omega)
      have positive := List.length_pos_iff.mpr nonempty
      rw [rest, List.take_of_length_le (by omega)]
      simp only [padding, List.length_nil, Nat.zero_mod, Nat.sub_zero, Nat.mod_self,
        List.replicate_zero, List.append_nil]
      rw [Nat.mod_eq_of_lt (by omega : bits.length < 8), Nat.mod_eq_of_lt (by omega : 8 - bits.length < 8)]

@[simp] theorem packBits_bitsOf (data : Bytes) : packBits (bitsOf data) = data := by
  induction data with
  | nil => rfl
  | cons byte data ih =>
    have split : bitsOf (byte :: data) = byteBits byte ++ bitsOf data := by simp [bitsOf]
    have full := length_byteBits byte
    rw [split, packBits_cons (by simp [byteBits]), List.take_left' full, List.drop_left' full,
      ofBits_byteBits, ih]

theorem bitsOf_inj {a b : Bytes} (same : bitsOf a = bitsOf b) : a = b := by
  rw [← packBits_bitsOf a, same, packBits_bitsOf]

/-- Bit `n` of the data is bit `n mod 8` of byte `n / 8`. -/
theorem bitsOf_getD (data : Bytes) (bit : Nat) :
    (bitsOf data).getD bit false = (data.getD (bit / 8) 0).toNat.testBit (bit % 8) := by
  induction data generalizing bit with
  | nil => simp [bitsOf]
  | cons byte data ih =>
    have split : bitsOf (byte :: data) = byteBits byte ++ bitsOf data := by simp [bitsOf]
    rw [split]
    by_cases first : bit < 8
    · rw [List.getD_append _ _ _ _ (by simpa using first), Nat.div_eq_of_lt first, Nat.mod_eq_of_lt first]
      exact byteBits_getD byte ⟨bit, first⟩
    · have later : bit / 8 = (bit - 8) / 8 + 1 := by omega
      have same : bit % 8 = (bit - 8) % 8 := by omega
      rw [List.getD_append_right _ _ _ _ (by simp; omega), length_byteBits, ih, later, same,
        List.getD_cons_succ]

theorem byteBits_xor (a b : UInt8) : byteBits (a ^^^ b) = List.zipWith (· ^^ ·) (byteBits a) (byteBits b) := by
  apply List.ext_getElem (by simp)
  intro i here there
  have inside : i < 8 := by simpa using here
  have bits (byte : UInt8) (bound : i < (byteBits byte).length) :
      (byteBits byte)[i] = byte.toNat.testBit i := by
    rw [← byteBits_getD byte ⟨i, inside⟩]
    exact (List.getD_eq_getElem _ _ bound).symm
  rw [List.getElem_zipWith, bits _ here, bits a, bits b, UInt8.toNat_xor, Nat.testBit_xor]

theorem bitsOf_xor {a b : Bytes} (sized : b.length = a.length) :
    bitsOf (List.zipWith (· ^^^ ·) a b) = List.zipWith (· ^^ ·) (bitsOf a) (bitsOf b) := by
  induction a generalizing b with
  | nil => rfl
  | cons first a ih =>
    cases b with
    | nil => cases sized
    | cons second b =>
      simp only [bitsOf, List.zipWith_cons_cons, List.flatMap_cons] at ih ⊢
      rw [List.zipWith_append (by simp), byteBits_xor, ih (Nat.succ.inj sized)]

/-- Packing puts bit `n` where unpacking looks for it, and clear bits behind the last. -/
theorem packBits_getD (bits : List Bool) (bit : Nat) :
    ((packBits bits).getD (bit / 8) 0).toNat.testBit (bit % 8) = bits.getD bit false := by
  rw [← bitsOf_getD, bitsOf_packBits]
  by_cases inside : bit < bits.length
  · exact List.getD_append _ _ _ _ inside
  · rw [List.getD_append_right _ _ _ _ (by omega), List.getD_eq_default bits false (by omega), padding]
    simp

/-- What packing a list of this many bits can produce. -/
theorem packed_iff {data : Bytes} {count : Nat} :
    (∃ bits, data = packBits bits ∧ bits.length = count) ↔
      data.length = (count + 7) / 8 ∧
        ∀ bit, count ≤ bit → (data.getD (bit / 8) 0).toNat.testBit (bit % 8) = false := by
  constructor
  · rintro ⟨bits, rfl, rfl⟩
    refine ⟨length_packBits bits, fun bit beyond => ?_⟩
    rw [packBits_getD, List.getD_eq_default _ _ beyond]
  · simp only [← bitsOf_getD]
    rintro ⟨length, clear⟩
    have fits : count ≤ (bitsOf data).length := by
      rw [length_bitsOf]
      omega
    refine ⟨(bitsOf data).take count, bitsOf_inj ?_, List.length_take_of_le fits⟩
    have rest : (bitsOf data).drop count = padding count := by
      apply List.eq_replicate_iff.mpr
      refine ⟨by rw [List.length_drop, length_bitsOf]; omega, fun bit inside => ?_⟩
      obtain ⟨place, bound, rfl⟩ := List.getElem_of_mem inside
      have unset := clear (count + place) (Nat.le_add_right _ _)
      rw [List.length_drop] at bound
      rwa [List.getD_eq_getElem _ _ (by omega), ← List.getElem_drop] at unset
    rw [bitsOf_packBits, List.length_take_of_le fits, ← rest, List.take_append_drop]

end Bytes
