import Modbus.Ascii

/-! One wrong character on an ASCII line. The line's own characters are fixed, and a
digit that changes moves one byte of a message whose bytes must sum to zero; only
the case of a letter is free. -/
namespace Modbus.Ascii

open Bytes

/-- The sum that the checksum brings to zero. -/
def sum (bytes : Bytes) : UInt8 := bytes.foldl (fun sum byte => sum + byte) 0

theorem sum_from (start : UInt8) (bytes : Bytes) :
    bytes.foldl (fun sum byte => sum + byte) start = start + sum bytes := by
  induction bytes generalizing start with
  | nil => simp [sum]
  | cons byte bytes ih =>
    rw [sum, List.foldl_cons, List.foldl_cons, ih, ih (0 + byte), UInt8.zero_add, UInt8.add_assoc]

theorem sum_cons (byte : UInt8) (bytes : Bytes) : sum (byte :: bytes) = byte + sum bytes := by
  rw [sum, List.foldl_cons, sum_from, UInt8.zero_add]

/-- The bytes a line spells. -/
def spelled (address : UnitId) (pdu : Bytes) : Bytes := address.raw :: pdu ++ [lrc (address.raw :: pdu)]

theorem sum_spelled (address : UnitId) (pdu : Bytes) : sum (spelled address pdu) = 0 := by
  rw [spelled, sum, List.foldl_append]
  exact UInt8.add_right_neg _

theorem hexPair_inj {a b : UInt8} (same : hexPair a = hexPair b) : a = b := by
  have once : [a].flatMap hexPair = [b].flatMap hexPair := by simpa using same
  have decoded := decodeHex_flatMap [a]
  rw [once, decodeHex_flatMap] at decoded
  simpa using decoded.symm

theorem flatMap_hexPair_inj {a b : Bytes} (same : a.flatMap hexPair = b.flatMap hexPair) : a = b := by
  have decoded := decodeHex_flatMap a
  rw [same, decodeHex_flatMap] at decoded
  exact (Except.ok.inj decoded).symm

theorem eq_of_moved_digit {before after : Bytes} {i : Nat} {character : UInt8}
    (sums : sum after = sum before)
    (moved : after.flatMap hexPair = (before.flatMap hexPair).set i character) : after = before := by
  induction before generalizing after i with
  | nil => exact flatMap_hexPair_inj (by simpa using moved)
  | cons old before ih =>
    cases after with
    | nil =>
      have size := congrArg List.length moved
      rw [List.length_set, length_flatMap_hexPair, length_flatMap_hexPair] at size
      cases size
    | cons new after =>
      rw [List.flatMap_cons, List.flatMap_cons] at moved
      rw [sum_cons, sum_cons] at sums
      by_cases here : i < (hexPair old).length
      · rw [List.set_append_left _ _ here] at moved
        obtain ⟨_, rest⟩ := List.append_inj moved (by simp [hexPair])
        obtain rfl := flatMap_hexPair_inj rest
        rw [UInt8.add_left_inj] at sums
        rw [sums]
      · rw [List.set_append_right _ _ (by omega)] at moved
        obtain ⟨first, rest⟩ := List.append_inj moved (by simp [hexPair])
        obtain rfl := hexPair_inj first
        rw [UInt8.add_right_inj] at sums
        rw [ih sums rest]

theorem digits_of_lines {before after : Bytes} {i : Nat} {character : UInt8}
    (moved : start :: (after ++ terminator) = (start :: (before ++ terminator)).set i character) :
    ∃ j, after = before.set j character := by
  have same {j : Nat} (line : after ++ terminator = before ++ terminator.set j character) :
      ∃ j, after = before.set j character := by
    obtain ⟨digits, _⟩ := List.append_inj' line (by simp)
    exact ⟨before.length, by rw [digits, List.set_eq_of_length_le (Nat.le_refl _)]⟩
  cases i with
  | zero =>
    rw [List.set_cons_zero] at moved
    refine same (?_ : after ++ terminator = before ++ terminator.set terminator.length character)
    rw [List.set_eq_of_length_le (Nat.le_refl _)]
    exact (List.cons.inj moved).2
  | succ i =>
    rw [List.set_cons_succ] at moved
    have line := (List.cons.inj moved).2
    by_cases inside : i < before.length
    · rw [List.set_append_left _ _ inside] at line
      exact ⟨i, (List.append_inj' line rfl).1⟩
    · rw [List.set_append_right _ _ (by omega)] at line
      exact same line

/-- The same byte, or the same hexadecimal letter in the other case. -/
def SameDigit (old new : UInt8) : Prop :=
  new = old ∨ (0x41 ≤ old ∧ old ≤ 0x46 ∧ new = old + 0x20) ∨ 0x61 ≤ old ∧ old ≤ 0x66 ∧ new = old - 0x20

theorem toNat_upperHex (character : UInt8) : (upperHex character).toNat =
    if 0x61 ≤ character.toNat ∧ character.toNat ≤ 0x66 then character.toNat - 0x20
    else character.toNat := by
  simp only [upperHex, UInt8.le_iff_toNat_le, UInt8.reduceToNat]
  split_ifs with letter
  · simp only [UInt8.toNat_sub, UInt8.reduceToNat]
    omega
  · rfl

theorem sameDigit_of_upperHex {old new : UInt8} (same : upperHex new = upperHex old) :
    SameDigit old new := by
  have codes := congrArg UInt8.toNat same
  rw [toNat_upperHex, toNat_upperHex] at codes
  simp only [SameDigit, UInt8.le_iff_toNat_le, ← UInt8.toNat_inj, UInt8.toNat_add, UInt8.toNat_sub,
    UInt8.reduceToNat]
  split_ifs at codes <;> omega

theorem split_set {data : Bytes} {i : Nat} {old new : UInt8} {opened opened' : UnitId × Bytes}
    (here : data[i]? = some old) (before : split data = .ok opened)
    (after : split (data.set i new) = .ok opened') : opened' = opened ∧ SameDigit old new := by
  obtain ⟨address, pdu⟩ := opened
  obtain ⟨address', pdu'⟩ := opened'
  have spelledBefore := (layout_split before).1
  have spelledAfter := (layout_split after).1
  have moved : layout address' pdu' = (layout address pdu).set i (upperHex new) := by
    rw [spelledBefore, spelledAfter, List.map_set]
  obtain ⟨j, digits⟩ := digits_of_lines moved
  have same := eq_of_moved_digit ((sum_spelled address' pdu').trans (sum_spelled address pdu).symm) digits
  obtain ⟨covered, _⟩ := List.append_inj' same rfl
  obtain ⟨raw, rfl⟩ := List.cons.inj covered
  obtain rfl : address' = address := congrArg UnitId.mk raw
  refine ⟨rfl, ?_⟩
  apply sameDigit_of_upperHex
  rw [spelledBefore] at moved
  have there := congrArg (·[i]?) moved
  obtain ⟨inside, rfl⟩ := List.getElem?_eq_some_iff.mp here
  simpa [inside] using there.symm

end Modbus.Ascii

namespace Modbus

/-- One wrong character never changes an ASCII message. -/
theorem wrong_character_harmless :
    (∀ adu header request, ascii.decodeRequest adu = .ok (header, request) →
      ∀ i old, adu[i]? = some old → ∀ new result, ascii.decodeRequest (adu.set i new) = .ok result →
        result = (header, request) ∧ Ascii.SameDigit old new) ∧
    (∀ adu header response, ascii.decodeResponse adu = .ok (header, response) →
      ∀ i old, adu[i]? = some old → ∀ new result, ascii.decodeResponse (adu.set i new) = .ok result →
        result = (header, response) ∧ Ascii.SameDigit old new) := by
  refine ⟨?_, ?_⟩
  · intro adu header request accepted i old here new result again
    obtain ⟨header', request'⟩ := result
    obtain ⟨pdu, opened, decoded⟩ := Framing.decodeRequest_ok.mp accepted
    obtain ⟨pdu', opened', decoded'⟩ := Framing.decodeRequest_ok.mp again
    obtain ⟨same, digit⟩ := Ascii.split_set here opened opened'
    obtain ⟨rfl, rfl⟩ := Prod.mk.inj same
    rw [decoded] at decoded'
    exact ⟨by rw [Except.ok.inj decoded'], digit⟩
  · intro adu header response accepted i old here new result again
    obtain ⟨header', response'⟩ := result
    obtain ⟨pdu, opened, decoded⟩ := Framing.decodeResponse_ok.mp accepted
    obtain ⟨pdu', opened', decoded'⟩ := Framing.decodeResponse_ok.mp again
    obtain ⟨same, digit⟩ := Ascii.split_set here opened opened'
    obtain ⟨rfl, rfl⟩ := Prod.mk.inj same
    rw [decoded] at decoded'
    exact ⟨by rw [Except.ok.inj decoded'], digit⟩

/-- A digit in the other case reads the same. -/
theorem lower_case_digit_harmless :
    ascii.decodeRequest ([0x3A, 0x30, 0x46, 0x30, 0x37, 0x45, 0x41, 0x0D, 0x0A].set 2 0x66) =
      .ok (⟨0x0F⟩, .readExceptionStatus) ∧ Ascii.SameDigit 0x46 0x66 :=
  ⟨rfl, (wrong_character_harmless.1 [0x3A, 0x30, 0x46, 0x30, 0x37, 0x45, 0x41, 0x0D, 0x0A] ⟨0x0F⟩
    .readExceptionStatus rfl 2 0x46 rfl 0x66 (⟨0x0F⟩, .readExceptionStatus) rfl).2⟩

end Modbus
