import Modbus.RtuExtent

/-! PDU layouts delimit themselves. RTU over a stream derives the length of a PDU from
its leading bytes; a layout with such a length has room for no other PDU that begins or
continues it. -/
namespace Modbus

open Bytes

namespace Rtu

theorem layout_trailer (pdu : Bytes) {trailer : Bytes} (sized : trailer.length = 2) :
    ∃ crc16, layout crc16 ⟨0⟩ pdu = 0 :: pdu ++ trailer := by
  obtain ⟨low, high, rfl⟩ := List.length_eq_two.mp sized
  refine ⟨fun _ => ofLe low high, ?_⟩
  rw [layout, leBytes_ofLe]

/-- The length derivation follows a decoder: a derivable PDU gives the length of its ADU,
any other has none. -/
structure Follows (direction : Direction) (decode : Bytes → Result α) (Derivable : α → Prop) : Prop where
  derives : ∀ {crc16 address pdu value bytes}, decode pdu = .ok value → Derivable value →
    Overlaps bytes (layout crc16 address pdu) →
    deriveExtent direction bytes = .ok (extentIn bytes (layout crc16 address pdu))
  refuses : ∀ {crc16 address pdu value bytes}, decode pdu = .ok value → ¬Derivable value →
    Overlaps bytes (layout crc16 address pdu) → 4 ≤ bytes.length →
    deriveExtent direction bytes = .error (.indeterminateLength ((layout crc16 address pdu).getD 1 0))
  nonempty : ∀ {pdu value}, decode pdu = .ok value → 1 ≤ pdu.length

section OneExtent

variable {decode : Bytes → Result α} {Derivable : α → Prop} {direction : Direction}

theorem Follows.stream (follows : Follows direction decode Derivable) {pdu : Bytes} {value : α}
    (decoded : decode pdu = .ok value) (rest : Bytes) (enough : 2 ≤ rest.length) :
    (Derivable value ∧
      deriveExtent direction (0 :: (pdu ++ rest)) = .ok (.complete (pdu.length + 3))) ∨
    ¬Derivable value ∧ ∃ code, deriveExtent direction (0 :: (pdu ++ rest)) = .error code := by
  have sized : (rest.take 2).length = 2 := by
    rw [List.length_take]
    omega
  obtain ⟨crc16, shape⟩ := layout_trailer pdu sized
  have overlap : Overlaps (0 :: (pdu ++ rest)) (layout crc16 ⟨0⟩ pdu) := by
    have whole : 0 :: (pdu ++ rest) = layout crc16 ⟨0⟩ pdu ++ rest.drop 2 := by
      rw [shape]
      simp
    rw [whole]
    exact overlaps_append _ _
  by_cases derivable : Derivable value
  · refine .inl ⟨derivable, ?_⟩
    rw [follows.derives decoded derivable overlap, extentIn, length_layout, if_neg]
    simp only [List.length_cons, List.length_append]
    omega
  · refine .inr ⟨derivable, _, follows.refuses decoded derivable overlap ?_⟩
    have nonempty := follows.nonempty decoded
    simp only [List.length_cons, List.length_append]
    omega

theorem Follows.eq_of_isPrefix (follows : Follows direction decode Derivable) {front whole : Bytes}
    {first second : α} (inside : front <+: whole) (short : decode front = .ok first)
    (long : decode whole = .ok second) (derivable : Derivable first ∨ Derivable second) :
    front = whole := by
  obtain ⟨rest, rfl⟩ := inside
  have sayShort := follows.stream short (rest ++ [0, 0]) (by simp)
  have sayLong := follows.stream long [0, 0] (by simp)
  rw [List.append_assoc] at sayLong
  rcases sayShort with ⟨_, here⟩ | ⟨hidden, code, here⟩
  · rcases sayLong with ⟨_, there⟩ | ⟨_, code, there⟩
    · rw [here] at there
      cases rest with
      | nil => rw [List.append_nil]
      | cons byte rest => simp at there
    · rw [here] at there
      cases there
  · rcases sayLong with ⟨_, there⟩ | ⟨hidden', _⟩
    · rw [here] at there
      cases there
    · exact absurd derivable (by simp [hidden, hidden'])

theorem Follows.self_delimiting (follows : Follows direction decode Derivable) {data other : Bytes}
    {value : α} (decoded : decode data = .ok value) (derivable : Derivable value)
    (related : other <+: data ∨ data <+: other) (differs : other ≠ data) :
    ∃ e, decode other = .error e := by
  cases found : decode other with
  | error e => exact ⟨e, rfl⟩
  | ok second =>
    rcases related with inside | beyond
    · exact absurd (follows.eq_of_isPrefix inside found decoded (.inr derivable)) differs
    · exact absurd (follows.eq_of_isPrefix beyond decoded found (.inl derivable)).symm differs

end OneExtent

theorem request_follows : Follows .request RequestPdu.decode RequestPdu.Derivable where
  derives := deriveExtent_request
  refuses := deriveExtent_request_indeterminate
  nonempty decoded := by
    obtain ⟨⟨code, body, _, _, rfl⟩, _⟩ := RequestPdu.decode_ok.mp decoded
    simp

theorem response_follows : Follows .response ResponsePdu.decode ResponsePdu.Derivable where
  derives := deriveExtent_response
  refuses := deriveExtent_response_indeterminate
  nonempty decoded := by
    obtain ⟨⟨code, body, _, _, rfl⟩, _⟩ := ResponsePdu.decode_ok.mp decoded
    simp

end Rtu

/-- A PDU that decodes, one with an open-ended body apart, stops decoding when it is cut
or continued. -/
theorem pdus_self_delimiting :
    (∀ data request, RequestPdu.decode data = .ok request → request.Derivable →
      ∀ other, other <+: data ∨ data <+: other → other ≠ data →
        ∃ e, RequestPdu.decode other = .error e) ∧
    (∀ data response, ResponsePdu.decode data = .ok response → response.Derivable →
      ∀ other, other <+: data ∨ data <+: other → other ≠ data →
        ∃ e, ResponsePdu.decode other = .error e) := by
  refine ⟨?_, ?_⟩
  · intro data request decoded derivable other related differs
    exact Rtu.request_follows.self_delimiting decoded derivable related differs
  · intro data response decoded derivable other related differs
    exact Rtu.response_follows.self_delimiting decoded derivable related differs

/-- A file record read of two records, cut behind the first. -/
theorem records_cut_refused :
    ∃ e, RequestPdu.decode [20, 14, 6, 0, 1, 0, 0, 0, 1] = .error e :=
  pdus_self_delimiting.1 [20, 14, 6, 0, 1, 0, 0, 0, 1, 6, 0, 2, 0, 0, 0, 1]
    (.readFileRecord [⟨⟨1⟩, ⟨0⟩, ⟨1⟩⟩, ⟨⟨2⟩, ⟨0⟩, ⟨1⟩⟩]) rfl trivial _
    (.inl ⟨[6, 0, 2, 0, 0, 0, 1], rfl⟩) (by decide)

end Modbus
