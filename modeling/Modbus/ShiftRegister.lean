import Mathlib.Data.List.GetD
import Mathlib.Algebra.Group.Nat.Defs
import Mathlib.Logic.Function.Iterate

/-! A shift register with feedback, the lowest bit leaving first. Shifting is linear over
exclusive or, and where the polynomial has its top bit no register is lost; so a
burst no longer than the register always leaves a trace. -/
namespace ShiftRegister

variable {w : Nat} (poly : BitVec w)

def shift (register : BitVec w) : BitVec w :=
  if register.getLsbD 0 then register >>> 1 ^^^ poly else register >>> 1

/-- A bit in the place where it is fed. -/
def bit (b : Bool) : BitVec w := if b then 1#w else 0#w

def feed (register : BitVec w) (bits : List Bool) : BitVec w :=
  bits.foldl (fun register b => shift poly (register ^^^ bit b)) register

/-- Bits as a register, the first one lowest. -/
def ofBits : List Bool → BitVec w
  | [] => 0#w
  | b :: bits => bit b ^^^ ofBits bits <<< 1

theorem shift_xor (a b : BitVec w) : shift poly (a ^^^ b) = shift poly a ^^^ shift poly b := by
  unfold shift
  rw [BitVec.getLsbD_xor, BitVec.ushiftRight_xor_distrib]
  generalize a >>> 1 = x, b >>> 1 = y
  have twice : x ^^^ poly ^^^ (y ^^^ poly) = x ^^^ y := by
    rw [show x ^^^ poly ^^^ (y ^^^ poly) = x ^^^ y ^^^ (poly ^^^ poly) by ac_rfl, BitVec.xor_self,
      BitVec.xor_zero]
  cases a.getLsbD 0 <;> cases b.getLsbD 0
  · rfl
  · exact BitVec.xor_assoc x y poly
  · exact (by ac_rfl : x ^^^ y ^^^ poly = x ^^^ poly ^^^ y)
  · exact twice.symm

@[simp] theorem shift_zero : shift poly 0#w = 0#w := by simp [shift]

theorem bit_xor (a b : Bool) : (bit (a ^^ b) : BitVec w) = bit a ^^^ bit b := by
  cases a <;> cases b <;> simp [bit]

@[simp] theorem feed_nil (register : BitVec w) : feed poly register [] = register := rfl

@[simp] theorem feed_cons (register : BitVec w) (b : Bool) (bits : List Bool) :
    feed poly register (b :: bits) = feed poly (shift poly (register ^^^ bit b)) bits := rfl

theorem feed_append (register : BitVec w) (front back : List Bool) :
    feed poly register (front ++ back) = feed poly (feed poly register front) back :=
  List.foldl_append

/-- Feeding is linear in the register and the bits together. -/
theorem feed_xor (a b : BitVec w) {bits errors : List Bool} (sized : errors.length = bits.length) :
    feed poly (a ^^^ b) (List.zipWith (· ^^ ·) bits errors) = feed poly a bits ^^^ feed poly b errors := by
  induction bits generalizing a b errors with
  | nil =>
    obtain rfl := List.length_eq_zero_iff.mp sized
    rfl
  | cons first bits ih =>
    cases errors with
    | nil => cases sized
    | cons error errors =>
      rw [List.zipWith_cons_cons, feed_cons, feed_cons, feed_cons, ← ih _ _ (Nat.succ.inj sized),
        ← shift_xor, bit_xor]
      congr 2
      ac_rfl

theorem feed_silence (register : BitVec w) (count : Nat) :
    feed poly register (List.replicate count false) = (shift poly)^[count] register := by
  induction count generalizing register with
  | zero => rfl
  | succ count ih =>
    rw [List.replicate_succ, feed_cons, ih, bit, if_neg (by simp), BitVec.xor_zero]
    rfl

/-- What was moved up one place is shifted back unchanged. -/
theorem shift_shiftLeft {register : BitVec w} (room : register.toNat * 2 < 2 ^ w) :
    shift poly (register <<< 1) = register := by
  rw [shift, if_neg (by simp)]
  apply BitVec.eq_of_toNat_eq
  rw [BitVec.toNat_ushiftRight, BitVec.toNat_shiftLeft, Nat.shiftLeft_eq, Nat.shiftRight_eq_div_pow,
    Nat.pow_one, Nat.mod_eq_of_lt room, Nat.mul_div_cancel _ (by decide)]

theorem toNat_ofBits_lt {bits : List Bool} (short : bits.length ≤ w) :
    (ofBits bits : BitVec w).toNat < 2 ^ bits.length := by
  induction bits with
  | nil => simp [ofBits]
  | cons b bits ih =>
    rw [List.length_cons] at short ⊢
    have bound := ih (by omega)
    have fed : (bit b : BitVec w).toNat < 2 ^ (bits.length + 1) := by
      have positive := Nat.two_pow_pos bits.length
      have small : (bit b : BitVec w).toNat ≤ 1 := by
        cases b
        · simp [bit]
        · simpa [bit] using Nat.mod_le 1 (2 ^ w)
      rw [Nat.pow_succ]
      omega
    have moved : (ofBits bits <<< 1 : BitVec w).toNat < 2 ^ (bits.length + 1) := by
      rw [BitVec.toNat_shiftLeft, Nat.shiftLeft_eq, Nat.pow_one, Nat.pow_succ]
      exact Nat.lt_of_le_of_lt (Nat.mod_le _ _) (by omega)
    rw [ofBits, BitVec.toNat_xor]
    exact Nat.xor_lt_two_pow fed moved

theorem ofBits_room {bits : List Bool} (short : bits.length + 1 ≤ w) :
    (ofBits bits : BitVec w).toNat * 2 < 2 ^ w := by
  have bound : (ofBits bits : BitVec w).toNat < 2 ^ bits.length := toNat_ofBits_lt (by omega)
  have widths : 2 ^ (bits.length + 1) ≤ 2 ^ w := Nat.pow_le_pow_right (by decide) short
  rw [Nat.pow_succ] at widths
  omega

/-- So feeding no more bits than the register holds is shifting a register with them. -/
theorem feed_eq_iterate (register : BitVec w) {bits : List Bool} (short : bits.length ≤ w) :
    feed poly register bits = (shift poly)^[bits.length] (register ^^^ ofBits bits) := by
  induction bits generalizing register with
  | nil => simp [ofBits]
  | cons b bits ih =>
    rw [List.length_cons] at short
    rw [feed_cons, ih _ (by omega), List.length_cons, Function.iterate_succ_apply, ofBits,
      ← BitVec.xor_assoc, shift_xor poly _ (ofBits bits <<< 1), shift_shiftLeft poly (ofBits_room short)]

theorem getLsbD_ofBits {bits : List Bool} {i : Nat} (inside : i < w) :
    (ofBits bits : BitVec w).getLsbD i = bits.getD i false := by
  induction bits generalizing i with
  | nil => simp [ofBits]
  | cons b bits ih =>
    rw [ofBits, BitVec.getLsbD_xor, BitVec.getLsbD_shiftLeft]
    cases i with
    | zero => cases b <;> simp [bit, inside]
    | succ i =>
      rw [List.getD_cons_succ, ← ih (by omega)]
      cases b <;> simp [bit, inside]

/-- A register fed its own bits is empty. -/
theorem feed_self {register : BitVec w} {bits : List Bool} (sized : bits.length = w)
    (own : ofBits bits = register) : feed poly register bits = 0#w := by
  rw [feed_eq_iterate poly register (by omega), own, BitVec.xor_self,
    Function.iterate_fixed (shift_zero poly)]

theorem ofBits_ne_zero {bits : List Bool} (short : bits.length ≤ w) (some_bit : true ∈ bits) :
    (ofBits bits : BitVec w) ≠ 0#w := by
  intro empty
  obtain ⟨i, inside, here⟩ := List.getElem_of_mem some_bit
  have clear : (ofBits bits : BitVec w).getLsbD i = _ := getLsbD_ofBits (by omega)
  rw [empty, List.getD_eq_getElem _ _ inside, here] at clear
  simp at clear

section Lossless

variable (top : poly.msb = true)
include top

theorem shift_ne_zero {register : BitVec w} (nonzero : register ≠ 0#w) : shift poly register ≠ 0#w := by
  intro lost
  unfold shift at lost
  split at lost
  next low =>
    rw [← BitVec.xor_eq_zero_iff.mp lost] at top
    simp [BitVec.msb_ushiftRight] at top
  next low =>
    apply nonzero
    apply BitVec.eq_of_getLsbD_eq
    intro i _
    cases i with
    | zero => simpa using low
    | succ i =>
      have later := congrArg (·.getLsbD i) lost
      simpa [Nat.add_comm] using later

theorem iterate_ne_zero {register : BitVec w} (nonzero : register ≠ 0#w) (count : Nat) :
    (shift poly)^[count] register ≠ 0#w := by
  induction count generalizing register with
  | zero => exact nonzero
  | succ count ih => exact ih (shift_ne_zero poly top nonzero)

omit top in
theorem silent {bits : List Bool} (quiet : true ∉ bits) : bits = List.replicate bits.length false := by
  refine List.eq_replicate_iff.mpr ⟨rfl, ?_⟩
  intro b inside
  cases b with
  | false => rfl
  | true => exact absurd inside quiet

/-- Errors within as many consecutive bits as the register holds leave it non-zero,
however many bits there are before and behind them. -/
theorem feed_burst {errors : List Bool} {first : Nat} (some_error : true ∈ errors)
    (confined : ∀ i, errors[i]? = some true → first ≤ i ∧ i < first + w) :
    feed poly 0#w errors ≠ 0#w := by
  have before : true ∉ errors.take first := by
    intro inside
    obtain ⟨i, here⟩ := List.mem_iff_getElem?.mp inside
    have bound := (List.getElem?_eq_some_iff.mp here).1
    rw [List.length_take] at bound
    rw [List.getElem?_take_of_lt (by omega)] at here
    have late := (confined i here).1
    omega
  have after : true ∉ (errors.drop first).drop w := by
    intro inside
    obtain ⟨i, here⟩ := List.mem_iff_getElem?.mp inside
    rw [List.drop_drop, List.getElem?_drop] at here
    have early := (confined _ here).2
    omega
  have burst : true ∈ (errors.drop first).take w := by
    rw [← List.take_append_drop first errors, ← List.take_append_drop w (errors.drop first)] at some_error
    simpa only [List.mem_append, before, after, false_or, or_false] using some_error
  have short : ((errors.drop first).take w).length ≤ w := List.length_take_le _ _
  rw [← List.take_append_drop first errors, ← List.take_append_drop w (errors.drop first),
    silent before, silent after, feed_append, feed_append, feed_silence, feed_silence,
    Function.iterate_fixed (shift_zero poly), feed_eq_iterate poly _ short, BitVec.zero_xor]
  have trace := iterate_ne_zero poly top (ofBits_ne_zero short burst) ((errors.drop first).take w).length
  exact iterate_ne_zero poly top trace _

end Lossless

end ShiftRegister
