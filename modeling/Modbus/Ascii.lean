import Modbus.Framing

/-! ASCII framing: the address, the PDU and a longitudinal checksum as
hexadecimal characters between a colon and a line end. Reading accepts letters
in either case; writing uses upper case. -/
namespace Modbus.Ascii

open Bytes ByteWriter

def maxAduLen : Nat := 513

/-- `:` -/
def start : UInt8 := 0x3A

def terminator : Bytes := [0x0D, 0x0A]

/-- Start, address, checksum and line end around a PDU's characters. -/
def overhead : Nat := 7

def saturatingAdd (a b : UInt8) : UInt8 := if a.toNat + b.toNat < 256 then a + b else 255

def saturatingSub (a b : UInt8) : UInt8 := if b ≤ a then a - b else 0

def lrc (bytes : Bytes) : UInt8 := -bytes.foldl (fun sum byte => sum + byte) 0

def nibble (character : UInt8) : Result UInt8 :=
  if 0x30 ≤ character ∧ character ≤ 0x39 then .ok (character - 0x30)
  else if 0x41 ≤ character ∧ character ≤ 0x46 then .ok (character - 0x41 + 10)
  else if 0x61 ≤ character ∧ character ≤ 0x66 then .ok (character - 0x61 + 10)
  else .error (.invalidCharacter character)

def decodeHex : Bytes → Result Bytes
  | high :: low :: rest => do
    let h ← nibble high
    let l ← nibble low
    let bytes ← decodeHex rest
    pure ((h <<< 4 ||| l) :: bytes)
  | _ => .ok []

def hexDigit (value : UInt8) : UInt8 :=
  if value ≤ 9 then saturatingAdd 0x30 value else saturatingSub (saturatingAdd 0x41 value) 10

def encodeHex (byte : UInt8) : ByteWriter Error Unit := do
  push (hexDigit (byte >>> 4))
  push (hexDigit (byte &&& 0x0F))

def split (bytes : Bytes) : Result (UnitId × Bytes) :=
  let minimum := overhead + 2
  if bytes.length > maxAduLen then .error (.aduTooLarge bytes.length maxAduLen)
  else if bytes.length < minimum then .error (.truncated minimum bytes.length)
  else match bytes with
    | [] => .error (.framing "start character")
    | first :: rest =>
      if first ≠ start then .error (.framing "start character")
      else
        let body := rest.take (rest.length - terminator.length)
        if rest.drop (rest.length - terminator.length) ≠ terminator then
          .error (.framing "terminator")
        else if body.length % 2 ≠ 0 then .error (.framing "hexadecimal character count")
        else do
          let decoded ← decodeHex body
          match decoded.getLast? with
          | none => .error (.framing "hexadecimal character count")
          | some actual =>
            let covered := decoded.dropLast
            let expected := lrc covered
            if expected ≠ actual then .error (.checksum expected.toUInt16 actual.toUInt16)
            else match covered with
              | [] => .error (.truncated minimum bytes.length)
              | address :: pdu => .ok (⟨address⟩, pdu)

/-- The binary form is complete before a character is written. -/
def wrapInto (address : UnitId) (encodePdu : ByteWriter Error Unit) : ByteWriter Error Unit := do
  let covered ← lift (allocating do
    push address.raw
    encodePdu)
  push start
  forEach encodeHex covered
  encodeHex (lrc covered)
  extend terminator

/-- A hexadecimal letter in upper case; any other byte as it is. -/
def upperHex (character : UInt8) : UInt8 :=
  if 0x61 ≤ character ∧ character ≤ 0x66 then character - 0x20 else character

/-- A byte as two characters. -/
def hexPair (byte : UInt8) : Bytes := [hexDigit (byte >>> 4), hexDigit (byte &&& 0x0F)]

def layout (address : UnitId) (pdu : Bytes) : Bytes :=
  start :: ((address.raw :: pdu ++ [lrc (address.raw :: pdu)]).flatMap hexPair ++ terminator)

theorem nibble_hexPair : ∀ byte : UInt8,
    nibble (hexDigit (byte >>> 4)) = .ok (byte >>> 4) ∧
    nibble (hexDigit (byte &&& 0x0F)) = .ok (byte &&& 0x0F) ∧
    byte >>> 4 <<< 4 ||| byte &&& 0x0F = byte := by
  decide +kernel

theorem nibble_upper : ∀ character : UInt8,
    nibble character = .error (.invalidCharacter character) ∨
    ∃ value : Fin 16, nibble character = .ok (UInt8.ofNat value) ∧
      hexDigit (UInt8.ofNat value) = upperHex character := by
  decide +kernel

theorem halves_joined : ∀ h l : Fin 16,
    (UInt8.ofNat h <<< 4 ||| UInt8.ofNat l) >>> 4 = UInt8.ofNat h ∧
    (UInt8.ofNat h <<< 4 ||| UInt8.ofNat l) &&& 0x0F = UInt8.ofNat l := by
  decide +kernel

theorem decodeHex_flatMap (bytes : Bytes) : decodeHex (bytes.flatMap hexPair) = .ok bytes := by
  induction bytes with
  | nil => rfl
  | cons byte bytes ih =>
    obtain ⟨high, low, joined⟩ := nibble_hexPair byte
    have pair : (byte :: bytes).flatMap hexPair =
        hexDigit (byte >>> 4) :: hexDigit (byte &&& 0x0F) :: bytes.flatMap hexPair := rfl
    simp only [pair, decodeHex, high, low, ih, bind, Except.bind, pure, Except.pure, joined]

/-- What decodes is the upper-case spelling's decoding. -/
theorem flatMap_decodeHex {chars bytes : Bytes} (even : chars.length % 2 = 0)
    (decoded : decodeHex chars = .ok bytes) : bytes.flatMap hexPair = chars.map upperHex := by
  induction chars using decodeHex.induct generalizing bytes with
  | case1 high low rest ih =>
    simp only [decodeHex, Framing.bind_ok, pure, Except.pure, Except.ok.injEq] at decoded
    obtain ⟨h, read_high, l, read_low, tail, read_tail, rfl⟩ := decoded
    rcases nibble_upper high with bad | ⟨upper, value_high, digit_high⟩
    · simp [bad] at read_high
    rcases nibble_upper low with bad | ⟨lower, value_low, digit_low⟩
    · simp [bad] at read_low
    obtain rfl := Except.ok.inj (value_high.symm.trans read_high)
    obtain rfl := Except.ok.inj (value_low.symm.trans read_low)
    obtain ⟨first, second⟩ := halves_joined upper lower
    have rest_spelled := ih (by simp only [List.length_cons] at even; omega) read_tail
    simp only [List.flatMap_cons, hexPair, first, second, digit_high, digit_low, List.map_cons]
    simpa using rest_spelled
  | case2 chars short =>
    match chars, short with
    | [], _ =>
      simp only [decodeHex, Except.ok.injEq] at decoded
      subst decoded
      rfl
    | [_], _ => simp at even
    | a :: b :: rest, short => exact absurd rfl (short a b rest)

@[simp] theorem length_flatMap_hexPair (bytes : Bytes) :
    (bytes.flatMap hexPair).length = 2 * bytes.length := by
  induction bytes with
  | nil => rfl
  | cons byte bytes ih =>
    simp only [List.flatMap_cons, List.length_append, hexPair, List.length_cons, List.length_nil] at ih ⊢
    omega

@[simp] theorem length_layout (address : UnitId) (pdu : Bytes) :
    (layout address pdu).length = 2 * pdu.length + 7 := by
  simp only [layout, List.length_cons, List.length_append, length_flatMap_hexPair, List.length_nil,
    terminator]
  omega

theorem split_layout (address : UnitId) (pdu : Bytes) (nonempty : 1 ≤ pdu.length)
    (small : pdu.length ≤ maxPduLen) : split (layout address pdu) = .ok (address, pdu) := by
  have size := length_layout address pdu
  unfold maxPduLen at small
  have characters : ((address.raw :: pdu ++ [lrc (address.raw :: pdu)]).flatMap hexPair ++
      terminator).length - terminator.length =
      ((address.raw :: pdu ++ [lrc (address.raw :: pdu)]).flatMap hexPair).length := by
    rw [List.length_append]
    omega
  unfold split
  simp only
  rw [if_neg (by rw [size, maxAduLen]; omega), if_neg (by rw [size, overhead]; omega)]
  simp only [layout]
  rw [if_neg (by simp), characters, List.drop_left, List.take_left, if_neg (by simp),
    if_neg (by rw [length_flatMap_hexPair]; omega), decodeHex_flatMap]
  simp only [bind, Except.bind, List.getLast?_concat, List.dropLast_concat]
  simp

theorem layout_split {data : Bytes} {address : UnitId} {pdu : Bytes}
    (opened : split data = .ok (address, pdu)) :
    layout address pdu = data.map upperHex ∧ 1 ≤ pdu.length ∧ pdu.length ≤ maxPduLen := by
  unfold split at opened
  simp only at opened
  by_cases large : data.length > maxAduLen
  · rw [if_pos large] at opened
    contradiction
  by_cases short : data.length < overhead + 2
  · rw [if_neg large, if_pos short] at opened
    contradiction
  rw [if_neg large, if_neg short] at opened
  cases data with
  | nil => simp at opened
  | cons first rest =>
    simp only at opened
    by_cases other : first ≠ start
    · rw [if_pos other] at opened
      contradiction
    rw [if_neg other] at opened
    by_cases unterminated : rest.drop (rest.length - terminator.length) ≠ terminator
    · rw [if_pos unterminated] at opened
      contradiction
    rw [if_neg unterminated] at opened
    by_cases odd : (rest.take (rest.length - terminator.length)).length % 2 ≠ 0
    · rw [if_pos odd] at opened
      contradiction
    rw [if_neg odd, Framing.bind_ok] at opened
    obtain ⟨decoded, read, opened⟩ := opened
    simp only [ne_eq, not_not] at other unterminated odd
    cases last : decoded.getLast? with
    | none => simp [last] at opened
    | some actual =>
      simp only [last] at opened
      by_cases differs : lrc decoded.dropLast ≠ actual
      · rw [if_pos differs] at opened
        contradiction
      rw [if_neg differs] at opened
      simp only [ne_eq, not_not] at differs
      split at opened
      · contradiction
      next raw covered found =>
        simp only [Except.ok.injEq, Prod.mk.injEq] at opened
        obtain ⟨rfl, rfl⟩ := opened
        have whole : raw :: covered ++ [lrc (raw :: covered)] = decoded := by
          rw [← found, differs]
          exact List.dropLast_append_getLast? actual last
        have spelled := flatMap_decodeHex odd read
        have size := length_flatMap_hexPair decoded
        rw [spelled, List.length_map, List.length_take, ← whole] at size
        simp only [List.length_append, List.length_cons, List.length_nil, overhead, maxAduLen,
          maxPduLen, terminator] at size short large ⊢
        refine ⟨?_, by omega, by omega⟩
        have line : terminator.map upperHex = terminator := by decide
        have colon : upperHex start = start := by decide
        rw [layout, whole, spelled, List.map_cons, other, colon]
        have parts := congrArg (List.map upperHex)
          (List.take_append_drop (rest.length - terminator.length) rest)
        rw [← parts, List.map_append, unterminated, line]

theorem encodeHex_meets (byte : UInt8) : Meets (encodeHex byte) (· = hexPair byte) :=
  (Meets.push_seq _ (.push _)).congr fun _ => by simp [hexPair]

theorem forEach_encodeHex_meets (bytes : Bytes) :
    Meets (forEach encodeHex bytes) (· = bytes.flatMap hexPair) :=
  (Meets.forEach hexPair (fun _ => True) (fun byte => (encodeHex_meets byte).congr (by simp))
    bytes).congr fun _ => by simp

theorem seals : Framing.Seals maxAduLen split wrapInto layout (List.map upperHex) where
  opens := split_layout
  spelled _ _ _ opened := (layout_split opened).1
  fits address pdu small := by
    simp only [length_layout, maxPduLen, maxAduLen] at small ⊢
    omega
  wraps address encodePdu P written _ := by
    have covered := Meets.push_seq address.raw written
    refine (Meets.guard fun bytes _ => .push_seq start (.seq (forEach_encodeHex_meets bytes)
      (.seq (encodeHex_meets (lrc bytes)) (.extend terminator)))).congr fun data => ?_
    simp only [covered.allocating]
    constructor
    · rintro ⟨_, ⟨pdu, fits, rfl⟩, _, ⟨_, _, rfl, ⟨_, _, rfl, rfl, rfl⟩, rfl⟩, rfl⟩
      exact ⟨pdu, fits, by simp [layout]⟩
    · rintro ⟨pdu, fits, rfl⟩
      exact ⟨_, ⟨pdu, fits, rfl⟩, _, ⟨_, _, rfl, ⟨_, _, rfl, rfl, rfl⟩, rfl⟩, by simp [layout]⟩

end Modbus.Ascii

namespace Modbus

def ascii : Framing UnitId :=
  .enveloping Ascii.maxAduLen Ascii.split Ascii.wrapInto (.delimited Ascii.start Ascii.terminator)

end Modbus
