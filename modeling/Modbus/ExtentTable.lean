import Modbus.Chunking

/-! The length derivation of RTU over a stream on arbitrary bytes: a verdict other
than "more" is final, and the lengths are those of the published table. -/
namespace Modbus.Rtu

open Bytes

/-- The length derivation settles on a length or an error once and for all. -/
theorem derived_extent_final (direction : Direction) (bytes : Bytes) :
    (∀ n, deriveExtent direction bytes = .ok (.complete n) →
      4 ≤ n ∧ n ≤ min bytes.length 256 ∧
        ∀ more, deriveExtent direction (bytes ++ more) = .ok (.complete n)) ∧
    ∀ e, deriveExtent direction bytes = .error e →
      ∀ more, deriveExtent direction (bytes ++ more) = .error e := by
  refine ⟨?_, ?_⟩
  · intro n complete
    obtain ⟨some_bytes, inside, small⟩ := deriveExtent_complete complete
    refine ⟨some_bytes, Nat.le_min.mpr ⟨inside, small⟩, ?_⟩
    intro more
    have agrees := deriveExtent_stable direction bytes more
    rw [complete] at agrees
    exact agrees.1
  · intro e refused more
    have agrees := deriveExtent_stable direction bytes more
    rw [refused] at agrees
    exact agrees

theorem read_extent_settles :
    deriveExtent .request ([1, 3, 0, 0, 0, 1, 0, 0] ++ [9, 9]) = .ok (.complete 8) ∧
    deriveExtent .response ([1, 8, 0, 0] ++ [0]) = .error (.indeterminateLength 8) :=
  ⟨((derived_extent_final .request [1, 3, 0, 0, 0, 1, 0, 0]).1 8 rfl).2.2 [9, 9],
    (derived_extent_final .response [1, 8, 0, 0]).2 _ rfl [0]⟩

/-- Where the table finds the length of a PDU. Places count from the function code. -/
inductive LengthRule where
  | fixed (pduLen : Nat)
  | byteCount (base place : Nat)
  | wordCount (base : Nat)
  | objects

inductive Codes where
  | exception
  | listed (codes : List UInt8)

structure Row where
  direction : Direction
  codes : Codes
  mei : Option UInt8
  rule : LengthRule

/-- The table of extents, row by row. -/
def extents : List Row :=
  [⟨.response, .exception, none, .fixed 2⟩,
   ⟨.request, .listed [1, 2, 3, 4, 5, 6], none, .fixed 5⟩,
   ⟨.request, .listed [7, 11, 12, 17], none, .fixed 1⟩,
   ⟨.request, .listed [22], none, .fixed 7⟩,
   ⟨.request, .listed [24], none, .fixed 3⟩,
   ⟨.request, .listed [15, 16], none, .byteCount 6 5⟩,
   ⟨.request, .listed [20, 21], none, .byteCount 2 1⟩,
   ⟨.request, .listed [23], none, .byteCount 10 9⟩,
   ⟨.request, .listed [43], some 14, .fixed 4⟩,
   ⟨.response, .listed [5, 6, 15, 16, 11], none, .fixed 5⟩,
   ⟨.response, .listed [7], none, .fixed 2⟩,
   ⟨.response, .listed [22], none, .fixed 7⟩,
   ⟨.response, .listed [1, 2, 3, 4, 12, 17, 20, 21, 23], none, .byteCount 2 1⟩,
   ⟨.response, .listed [24], none, .wordCount 3⟩,
   ⟨.response, .listed [43], some 14, .objects⟩]

def Codes.Has : Codes → UInt8 → Prop
  | exception, code => 0x80 ≤ code
  | listed codes, code => code ∈ codes

/-- The row is for this direction, function code and, where it names one, MEI type. -/
def Row.Covers (row : Row) (direction : Direction) (code mei : UInt8) : Prop :=
  row.direction = direction ∧ row.codes.Has code ∧ ∀ type, row.mei = some type → mei = type

/-- So many objects, whose lengths are all in hand, take up so many bytes. -/
inductive Objects : Bytes → Nat → Nat → Prop
  | none {rest : Bytes} : Objects rest 0 0
  | object {id length : UInt8} {rest : Bytes} {objects len : Nat} :
      Objects (rest.drop length.toNat) objects len →
      Objects (id :: length :: rest) (objects + 1) (2 + length.toNat + len)

/-- The length-bearing bytes of the rule are in hand and give this length. -/
def LengthRule.Gives : LengthRule → Bytes → Nat → Prop
  | fixed n, _, pduLen => pduLen = n
  | byteCount base place, pdu, pduLen => ∃ count, pdu[place]? = some count ∧ pduLen = base + count.toNat
  | wordCount base, pdu, pduLen => ∃ high low, pdu[1]? = some high ∧ pdu[2]? = some low ∧
      pduLen = base + (ofBe high low).toNat
  | objects, pdu, pduLen => ∃ count len, pdu[6]? = some count ∧ Objects (pdu.drop 7) count.toNat len ∧
      pduLen = 7 + len

theorem walkObjects_objects {bytes rest : Bytes} {objects len : Nat} (walks : Objects rest objects len)
    {pduOffset : Nat} (here : bytes.drop (addressLen + pduOffset) = rest) :
    walkObjects bytes objects pduOffset = some (pduOffset + len) := by
  induction walks generalizing pduOffset with
  | none => rfl
  | @object id length rest objects len _ ih =>
    have size := congrArg List.length here
    simp only [List.length_drop, List.length_cons] at size
    have count : bytes.getD (addressLen + pduOffset + 1) 0 = length := by
      have second := congrArg (·[1]?) here
      simp only [List.getElem?_drop, List.getElem?_cons_succ, List.getElem?_cons_zero] at second
      rw [List.getD_eq_getElem?_getD, second]
      rfl
    have after : bytes.drop (addressLen + (pduOffset + (2 + length.toNat))) = rest.drop length.toNat := by
      have later := congrArg (·.drop (2 + length.toNat)) here
      simp only [List.drop_drop, Nat.add_comm 2, List.drop_succ_cons] at later
      rw [← later]
      congr 1
      omega
    rw [walkObjects, if_neg (by omega), count, ih after]
    congr 1
    omega

/-- The table has a row for the code and MEI type in this direction. -/
def Listed (direction : Direction) (code mei : UInt8) : Prop :=
  ∃ row ∈ extents, row.Covers direction code mei

theorem listed_request (code mei : UInt8) : Listed .request code mei ↔
    code ∈ [1, 2, 3, 4, 5, 6] ∨ code ∈ [7, 11, 12, 17] ∨ code = 22 ∨ code = 24 ∨ code ∈ [15, 16] ∨
      code ∈ [20, 21] ∨ code = 23 ∨ code = 43 ∧ mei = 14 := by
  simp [Listed, extents, Row.Covers, Codes.Has]

theorem listed_response (code mei : UInt8) : Listed .response code mei ↔
    0x80 ≤ code ∨ code ∈ [5, 6, 15, 16, 11] ∨ code = 7 ∨ code = 22 ∨
      code ∈ [1, 2, 3, 4, 12, 17, 20, 21, 23] ∨ code = 24 ∨ code = 43 ∧ mei = 14 := by
  simp [Listed, extents, Row.Covers, Codes.Has]

theorem first_six : ∀ code : UInt8, 1 ≤ code ∧ code ≤ 6 ↔ code ∈ [1, 2, 3, 4, 5, 6] := by
  intro code
  simp only [UInt8.le_iff_toNat_le, List.mem_cons, List.not_mem_nil, or_false, ← UInt8.toNat_inj,
    UInt8.reduceToNat]
  omega

/-- No length can be told, as the code says it. -/
def Indeterminate (found : Result (Option Nat)) : Prop := ∃ code, found = .error (.indeterminateLength code)

theorem indeterminate_ite {c : Prop} [Decidable c] {found found' : Result (Option Nat)} :
    Indeterminate (if c then found else found') ↔ c ∧ Indeterminate found ∨ ¬c ∧ Indeterminate found' := by
  by_cases holds : c
  · rw [if_pos holds]
    simp only [holds, true_and, not_true_eq_false, false_and, or_false]
  · rw [if_neg holds]
    simp only [holds, false_and, not_false_eq_true, true_and, false_or]

theorem determinate_ok (found : Option Nat) : ¬Indeterminate (.ok found) := by
  rintro ⟨_, same⟩
  cases same

theorem indeterminate_error (fc : UInt8) : Indeterminate (.error (.indeterminateLength fc)) := ⟨fc, rfl⟩

theorem requestPduLen_unlisted (fc : UInt8) {bytes : Bytes} (enough : 4 ≤ bytes.length) :
    (∃ code, requestPduLen fc bytes = .error (.indeterminateLength code)) ↔
      ¬Listed .request fc (bytes.getD 2 0) := by
  have waits : ¬bytes.length < 3 := by omega
  have interface : fc = 43 ∧ ¬bytes.getD 2 0 = 14 ∨ ¬fc = 43 ↔ ¬(fc = 43 ∧ bytes.getD 2 0 = 14) := by
    tauto
  rw [listed_request, ← first_six]
  show Indeterminate (requestPduLen fc bytes) ↔ _
  simp only [requestPduLen, indeterminate_ite, determinate_ok, indeterminate_error, and_false, or_false, false_or,
    and_true, waits, not_false_eq_true, true_and, not_or, List.mem_cons, List.not_mem_nil, interface]

theorem responsePduLen_unlisted {fc : UInt8} (bytes : Bytes) (plain : ¬0x80 ≤ fc) (other : fc ≠ 0x2B) :
    (∃ code, responsePduLen fc bytes = .error (.indeterminateLength code)) ↔
      ¬Listed .response fc (bytes.getD 2 0) := by
  rw [listed_response]
  show Indeterminate (responsePduLen fc bytes) ↔ _
  simp only [responsePduLen, indeterminate_ite, determinate_ok, indeterminate_error, and_false, or_false, false_or,
    and_true, not_or, List.mem_cons, List.not_mem_nil, plain, other, false_and]

theorem getD_of_place {bytes : Bytes} {place : Nat} {value : UInt8}
    (found : (bytes.drop 1)[place]? = some value) : bytes.getD (place + 1) 0 = value := by
  rw [List.getElem?_drop, Nat.add_comm] at found
  rw [List.getD_eq_getElem?_getD, found]
  rfl

/-- A count of one byte, read behind the check of the length as the code does. -/
theorem read_count {bytes : Bytes} {base place needed pduLen : Nat} (enough : needed ≤ bytes.length)
    (gives : (LengthRule.byteCount base place).Gives (bytes.drop 1) pduLen) :
    (if bytes.length < needed then .ok none
      else .ok (some (base + (bytes.getD (place + 1) 0).toNat)) : Result (Option Nat)) = .ok (some pduLen) := by
  obtain ⟨count, found, rfl⟩ := gives
  rw [if_neg (by omega), getD_of_place found]

theorem requestPduLen_row {row : Row} (listed : row ∈ extents) {fc : UInt8} {bytes : Bytes} {pduLen : Nat}
    (covers : row.Covers .request fc (bytes.getD 2 0)) (enough : 11 ≤ bytes.length)
    (gives : row.rule.Gives (bytes.drop 1) pduLen) : requestPduLen fc bytes = .ok (some pduLen) := by
  obtain ⟨direction, has, type⟩ := covers
  simp only [extents, List.mem_cons, List.not_mem_nil, or_false] at listed
  rcases listed with rfl | rfl | rfl | rfl | rfl | rfl | rfl | rfl | rfl | rfl | rfl | rfl | rfl | rfl | rfl
  all_goals try contradiction
  all_goals simp only [Codes.Has, List.mem_cons, List.not_mem_nil, or_false] at has
  · obtain rfl := gives
    rcases has with rfl | rfl | rfl | rfl | rfl | rfl <;> rfl
  · obtain rfl := gives
    rcases has with rfl | rfl | rfl | rfl <;> rfl
  · obtain rfl := gives
    obtain rfl := has
    rfl
  · obtain rfl := gives
    obtain rfl := has
    rfl
  · rcases has with rfl | rfl <;> exact read_count (by omega : 8 ≤ bytes.length) gives
  · rcases has with rfl | rfl <;> exact read_count (by omega : 4 ≤ bytes.length) gives
  · obtain rfl := has
    exact read_count enough gives
  · obtain rfl := gives
    obtain rfl := has
    change (if bytes.length < 3 then Except.ok none
      else if bytes.getD 2 0 = 0x0E then Except.ok (some 4) else Except.error _) = _
    rw [if_neg (by omega), if_pos (type _ rfl)]

theorem responsePduLen_row {row : Row} (listed : row ∈ extents) {fc : UInt8} {bytes : Bytes} {pduLen : Nat}
    (covers : row.Covers .response fc (bytes.getD 2 0)) (plain : ¬0x80 ≤ fc) (other : fc ≠ 0x2B)
    (enough : 11 ≤ bytes.length) (gives : row.rule.Gives (bytes.drop 1) pduLen) :
    responsePduLen fc bytes = .ok (some pduLen) := by
  obtain ⟨direction, has, type⟩ := covers
  simp only [extents, List.mem_cons, List.not_mem_nil, or_false] at listed
  rcases listed with rfl | rfl | rfl | rfl | rfl | rfl | rfl | rfl | rfl | rfl | rfl | rfl | rfl | rfl | rfl
  all_goals try contradiction
  all_goals simp only [Codes.Has, List.mem_cons, List.not_mem_nil, or_false] at has
  · obtain rfl := gives
    rcases has with rfl | rfl | rfl | rfl | rfl <;> rfl
  · obtain rfl := gives
    obtain rfl := has
    rfl
  · obtain rfl := gives
    obtain rfl := has
    rfl
  · rcases has with rfl | rfl | rfl | rfl | rfl | rfl | rfl | rfl | rfl <;>
      exact read_count (by omega : 4 ≤ bytes.length) gives
  · obtain ⟨high, low, first, second, rfl⟩ := gives
    obtain rfl := has
    change (if bytes.length < 5 then Except.ok none
      else Except.ok (some (3 + (ofBe (bytes.getD 2 0) (bytes.getD 3 0)).toNat))) = _
    rw [if_neg (by omega), getD_of_place first, getD_of_place second]
  · contradiction

/-- The object list of a response tells its length once the lengths are in hand. -/
theorem deriveFc43Mei14ResponseLength_row {bytes : Bytes} {pduLen : Nat} (enough : 11 ≤ bytes.length)
    (gives : LengthRule.objects.Gives (bytes.drop 1) pduLen) :
    deriveFc43Mei14ResponseLength bytes = checkExtent bytes (addressLen + pduLen + crcLen) := by
  obtain ⟨count, len, found, walks, rfl⟩ := gives
  have walked : walkObjects bytes count.toNat headerPduBytes = some (headerPduBytes + len) :=
    walkObjects_objects walks List.drop_drop.symm
  refine (if_neg (by simp only [addressLen, headerPduBytes, crcLen]; omega)).trans ?_
  rw [show addressLen + 6 = 6 + 1 from rfl, getD_of_place found, walked]
  rfl

theorem flagged_iff : ∀ code : UInt8, code &&& 0x80 ≠ 0 ↔ 0x80 ≤ code := by
  intro code
  have bit : (code &&& 0x80 != 0) = code.toNat.testBit 7 := bit_of_mask rfl
  have small := code.toNat_lt
  rw [← bne_iff_ne, bit, Nat.testBit_eq_decide_div_mod_eq, decide_eq_true_iff]
  simp only [UInt8.le_iff_toNat_le, UInt8.reduceToNat]
  omega

theorem checkExtent_determinate (bytes : Bytes) (totalLen : Nat) (code : UInt8) :
    checkExtent bytes totalLen ≠ .error (.indeterminateLength code) := by
  unfold checkExtent
  split_ifs <;> simp

theorem finishExtent_indeterminate {bytes : Bytes} {found : Result (Option Nat)} {code : UInt8} :
    finishExtent bytes found = .error (.indeterminateLength code) ↔
      found = .error (.indeterminateLength code) := by
  rcases found with e | _ | pduLen
  · simp [finishExtent]
  · simp [finishExtent]
  · simp [finishExtent, checkExtent_determinate]

theorem deriveFc43Mei14ResponseLength_determinate (bytes : Bytes) (code : UInt8) :
    deriveFc43Mei14ResponseLength bytes ≠ .error (.indeterminateLength code) := by
  unfold deriveFc43Mei14ResponseLength
  split
  · simp
  · split
    · simp
    · exact checkExtent_determinate _ _ _

theorem deriveExtent_exception {bytes : Bytes} (direction : Direction) (enough : 4 ≤ bytes.length)
    (flagged : 0x80 ≤ bytes.getD 1 0) :
    deriveExtent direction bytes = checkExtent bytes (addressLen + 2 + crcLen) := by
  rw [deriveExtent, if_neg (by omega)]
  exact if_pos ((flagged_iff _).mpr flagged)

theorem deriveExtent_plain_request {bytes : Bytes} (enough : 4 ≤ bytes.length)
    (plain : ¬0x80 ≤ bytes.getD 1 0) :
    deriveExtent .request bytes = finishExtent bytes (requestPduLen (bytes.getD 1 0) bytes) := by
  rw [deriveExtent, if_neg (by omega)]
  exact if_neg (mt (flagged_iff _).mp plain)

theorem deriveExtent_identification {bytes : Bytes} (enough : 4 ≤ bytes.length)
    (code : bytes.getD 1 0 = 0x2B) :
    deriveExtent .response bytes =
      if bytes.getD 2 0 = 0x0E then deriveFc43Mei14ResponseLength bytes
      else .error (.indeterminateLength 0x2B) := by
  have waits : ¬bytes.length < 3 := by omega
  rw [deriveExtent, if_neg (by omega), code]
  exact (if_neg (by decide)).trans ((if_pos rfl).trans (if_neg waits))

theorem deriveExtent_plain_response {bytes : Bytes} (enough : 4 ≤ bytes.length)
    (plain : ¬0x80 ≤ bytes.getD 1 0) (other : bytes.getD 1 0 ≠ 0x2B) :
    deriveExtent .response bytes = finishExtent bytes (responsePduLen (bytes.getD 1 0) bytes) := by
  rw [deriveExtent, if_neg (by omega)]
  exact (if_neg (mt (flagged_iff _).mp plain)).trans (if_neg other)

/-- The derivation is indeterminate where the table has no row. -/
def IndeterminateUnlisted (direction : Direction) (bytes : Bytes) : Prop :=
  (∃ code, deriveExtent direction bytes = .error (.indeterminateLength code)) ↔
    ¬Listed direction (bytes.getD 1 0) (bytes.getD 2 0)

/-- A row of the table whose length-bearing bytes are in hand gives the extent. -/
def FollowsRows (direction : Direction) (bytes : Bytes) : Prop :=
  ∀ row ∈ extents, row.Covers direction (bytes.getD 1 0) (bytes.getD 2 0) → 11 ≤ bytes.length →
    ∀ pduLen, row.rule.Gives (bytes.drop 1) pduLen →
      deriveExtent direction bytes =
        if pduLen + 3 > 256 then .error (.aduTooLarge (pduLen + 3) 256)
        else if pduLen + 3 ≤ bytes.length then .ok (.complete (pduLen + 3))
        else .ok .needMore

theorem checkExtent_tabled (bytes : Bytes) (pduLen : Nat) :
    checkExtent bytes (addressLen + pduLen + crcLen) =
      if pduLen + 3 > 256 then .error (.aduTooLarge (pduLen + 3) 256)
      else if pduLen + 3 ≤ bytes.length then .ok (.complete (pduLen + 3))
      else .ok .needMore := by
  rw [checkExtent, show addressLen + pduLen + crcLen = pduLen + 3 by simp only [addressLen, crcLen]; omega,
    show maxAduLen = 256 from rfl]
  by_cases large : pduLen + 3 > 256
  · rw [if_pos large, if_pos large]
  · rw [if_neg large, if_neg large]
    by_cases there : pduLen + 3 ≤ bytes.length
    · rw [if_pos there, if_neg (by omega)]
    · rw [if_neg there, if_pos (by omega)]

theorem row_flagged {row : Row} (listed : row ∈ extents) {code : UInt8} (has : row.codes.Has code)
    (flagged : 0x80 ≤ code) : row.direction = .response ∧ row.rule = .fixed 2 := by
  have plain : ∀ row ∈ extents, row = ⟨.response, .exception, none, .fixed 2⟩ ∨
      ∃ codes, row.codes = .listed codes ∧ ∀ code ∈ codes, code < 0x80 := by
    simp [extents]
  rcases plain row listed with rfl | ⟨codes, listed, below⟩
  · exact ⟨rfl, rfl⟩
  · rw [listed] at has
    exact absurd flagged (UInt8.not_le.mpr (below code has))

theorem row_identification {mei : UInt8} :
    ∀ row ∈ extents, row.Covers .response 0x2B mei → row.rule = .objects ∧ mei = 0x0E := by
  rintro row listed ⟨direction, has, type⟩
  simp only [extents, List.mem_cons, List.not_mem_nil, or_false] at listed
  rcases listed with rfl | rfl | rfl | rfl | rfl | rfl | rfl | rfl | rfl | rfl | rfl | rfl | rfl | rfl | rfl
  all_goals try contradiction
  · exact absurd has (by decide : ¬(0x80 : UInt8) ≤ 0x2B)
  · exact ⟨rfl, type _ rfl⟩

theorem followsRows (direction : Direction) {bytes : Bytes} (enough : 4 ≤ bytes.length) :
    FollowsRows direction bytes := by
  intro row listed covers long pduLen gives
  refine Eq.trans ?_ (checkExtent_tabled bytes pduLen)
  by_cases flagged : 0x80 ≤ bytes.getD 1 0
  · obtain ⟨-, rule⟩ := row_flagged listed covers.2.1 flagged
    rw [rule] at gives
    rw [deriveExtent_exception direction enough flagged, gives]
  cases direction with
  | request =>
    rw [deriveExtent_plain_request enough flagged, requestPduLen_row listed covers long gives]
    rfl
  | response =>
    by_cases code : bytes.getD 1 0 = 0x2B
    · rw [code] at covers
      obtain ⟨rule, type⟩ := row_identification row listed covers
      rw [rule] at gives
      rw [deriveExtent_identification enough code, if_pos type]
      exact deriveFc43Mei14ResponseLength_row long gives
    · rw [deriveExtent_plain_response enough flagged code,
        responsePduLen_row listed covers flagged code long gives]
      rfl

theorem indeterminateUnlisted_plain {direction : Direction} {bytes : Bytes} (enough : 4 ≤ bytes.length)
    (plain : ¬0x80 ≤ bytes.getD 1 0) : IndeterminateUnlisted direction bytes := by
  unfold IndeterminateUnlisted
  cases direction with
  | request =>
    simp only [deriveExtent_plain_request enough plain, finishExtent_indeterminate]
    exact requestPduLen_unlisted _ enough
  | response =>
    by_cases code : bytes.getD 1 0 = 0x2B
    · simp only [deriveExtent_identification enough code, listed_response, code]
      generalize bytes.getD 2 0 = type
      by_cases identification : type = 0x0E
      · simp [identification, deriveFc43Mei14ResponseLength_determinate]
      · simp [identification]
    · simp only [deriveExtent_plain_response enough plain code, finishExtent_indeterminate]
      exact responsePduLen_unlisted bytes plain code

theorem indeterminateUnlisted_flagged {direction : Direction} {bytes : Bytes} (enough : 4 ≤ bytes.length)
    (flagged : 0x80 ≤ bytes.getD 1 0) :
    IndeterminateUnlisted direction bytes ↔ direction = .response := by
  unfold IndeterminateUnlisted
  simp only [deriveExtent_exception direction enough flagged, checkExtent_determinate, exists_false,
    false_iff, not_not]
  constructor
  · intro listed
    obtain ⟨row, inTable, rfl, has, -⟩ := listed
    exact (row_flagged inTable has flagged).1
  · intro response
    rw [response, listed_response]
    exact .inl flagged

/-- The derivation is the table's but for requests whose code has its most significant
bit set: the code takes them for exceptions before it looks at the direction. -/
theorem extents_tabled_iff (direction : Direction) (bytes : Bytes) (enough : 4 ≤ bytes.length) :
    IndeterminateUnlisted direction bytes ∧ FollowsRows direction bytes ↔
      direction = .response ∨ bytes.getD 1 0 < 0x80 := by
  by_cases flagged : 0x80 ≤ bytes.getD 1 0
  · rw [indeterminateUnlisted_flagged enough flagged, and_iff_left (followsRows direction enough),
      or_iff_left (UInt8.not_lt.mpr flagged)]
  · exact iff_of_true ⟨indeterminateUnlisted_plain enough flagged, followsRows direction enough⟩
      (.inr (UInt8.not_le.mp flagged))

theorem extents_tabled_read :
    deriveExtent .response [1, 3, 2, 0, 7, 0, 0, 0, 0, 0, 0] = .ok (.complete 7) :=
  ((extents_tabled_iff .response [1, 3, 2, 0, 7, 0, 0, 0, 0, 0, 0] (by decide)).mpr (.inl rfl)).2
    ⟨.response, .listed [1, 2, 3, 4, 12, 17, 20, 21, 23], none, .byteCount 2 1⟩ (by simp [extents])
    ⟨rfl, by simp [Codes.Has], by simp⟩ (by decide) 4 ⟨2, rfl, rfl⟩

/-- A request whose code has its most significant bit set is taken for a PDU of two
bytes, though the table has no row for it. -/
theorem request_taken_for_exception :
    deriveExtent .request [1, 0x81, 0, 0, 0] = .ok (.complete 5) ∧
    (∀ row ∈ extents, ¬row.Covers .request 0x81 0) ∧
    ¬IndeterminateUnlisted .request [1, 0x81, 0, 0, 0] := by
  have unlisted : ∀ row ∈ extents, ¬row.Covers .request 0x81 0 := by
    simp [extents, Row.Covers, Codes.Has]
  refine ⟨rfl, unlisted, ?_⟩
  intro table
  obtain ⟨code, refused⟩ := table.mpr (by simpa [Listed] using unlisted)
  cases refused

end Modbus.Rtu
