import Mathlib.Data.FinEnum

/-! Sixteen-bit words as byte pairs. The two directions are stated separately:
every word has one byte pair, and every byte pair is some word's. -/
abbrev Bytes := List UInt8

namespace Bytes

def ofBe (hi lo : UInt8) : UInt16 := hi.toUInt16 <<< 8 ||| lo.toUInt16

/-- Most significant byte first. -/
def beBytes (w : UInt16) : Bytes := [(w >>> 8).toUInt8, w.toUInt8]

def ofLe (lo hi : UInt8) : UInt16 := ofBe hi lo

/-- Least significant byte first. -/
def leBytes (w : UInt16) : Bytes := [w.toUInt8, (w >>> 8).toUInt8]

theorem toNat_ofBe (hi lo : UInt8) : (ofBe hi lo).toNat = 256 * hi.toNat + lo.toNat := by
  have high := hi.toNat_lt
  have low := lo.toNat_lt
  rw [ofBe, UInt16.toNat_or, UInt16.toNat_shiftLeft]
  simp only [UInt8.toNat_toUInt16, UInt16.reduceToNat, Nat.reduceMod]
  rw [Nat.shiftLeft_eq, Nat.mod_eq_of_lt (by omega), Nat.mul_comm]
  rw [← Nat.two_pow_add_eq_or_of_lt (by omega : lo.toNat < 2^8)]

theorem toNat_halves (w : UInt16) :
    (w >>> 8).toUInt8.toNat = w.toNat / 256 ∧ w.toUInt8.toNat = w.toNat % 256 := by
  have bound := w.toNat_lt
  constructor
  · rw [UInt16.toNat_toUInt8, UInt16.toNat_shiftRight]
    simp [Nat.shiftRight_eq_div_pow]
    omega
  · simp

@[simp] theorem ofBe_halves (w : UInt16) : ofBe (w >>> 8).toUInt8 w.toUInt8 = w := by
  apply UInt16.toNat_inj.mp
  rw [toNat_ofBe, (toNat_halves w).1, (toNat_halves w).2]
  omega

@[simp] theorem beBytes_ofBe (hi lo : UInt8) : beBytes (ofBe hi lo) = [hi, lo] := by
  have high := hi.toNat_lt
  have low := lo.toNat_lt
  obtain ⟨upper, lower⟩ := toNat_halves (ofBe hi lo)
  rw [toNat_ofBe] at upper lower
  simp only [beBytes, List.cons.injEq, and_true]
  exact ⟨UInt8.toNat_inj.mp (by omega), UInt8.toNat_inj.mp (by omega)⟩

@[simp] theorem length_beBytes (w : UInt16) : (beBytes w).length = 2 := rfl

@[simp] theorem length_leBytes (w : UInt16) : (leBytes w).length = 2 := rfl

@[simp] theorem ofLe_halves (w : UInt16) : ofLe w.toUInt8 (w >>> 8).toUInt8 = w := ofBe_halves w

@[simp] theorem leBytes_ofLe (lo hi : UInt8) : leBytes (ofLe lo hi) = [lo, hi] := by
  have h := beBytes_ofBe hi lo
  simp only [beBytes, List.cons.injEq, and_true] at h
  simp only [leBytes, ofLe, h.1, h.2]

/-- Whole words only; a trailing odd byte belongs to none. -/
def words : Bytes → List UInt16
  | hi :: lo :: rest => ofBe hi lo :: words rest
  | _ => []

@[simp] theorem words_flatMap (ws : List UInt16) : words (ws.flatMap beBytes) = ws := by
  induction ws with
  | nil => rfl
  | cons w ws ih => simp [beBytes, words] at ih ⊢; exact ih

theorem flatMap_words (data : Bytes) (even : data.length % 2 = 0) :
    (words data).flatMap beBytes = data := by
  fun_induction words data with
  | case1 hi lo rest ih =>
    have tail : rest.length % 2 = 0 := by simp at even; omega
    simp [ih tail]
  | case2 data short =>
    match data, short with
    | [], _ => rfl
    | [_], _ => simp at even
    | a :: b :: rest, short => exact absurd rfl (short a b rest)

end Bytes
