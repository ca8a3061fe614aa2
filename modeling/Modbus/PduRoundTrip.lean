import Modbus.PduRequest
import Modbus.PduResponse

/-! Both directions of the codec meet in the wire format: what was read is what
writing it back produces, and what was written reads back up to the padding of
a bit list. -/
namespace Modbus

open Bytes

/-- A general interface transport body under a type that has a layout of its own. -/
def RequestPdu.HoldsNamedMei : RequestPdu → Prop
  | .encapsulatedInterfaceTransport (.other meiType _) => meiType = 13 ∨ meiType = 14
  | _ => False

def ResponsePdu.HoldsNamedMei : ResponsePdu → Prop
  | .encapsulatedInterfaceTransport (.other meiType _) => meiType = 13 ∨ meiType = 14
  | _ => False

/-- The bits of a read response filled up with clear bits to whole bytes. -/
def ResponsePdu.padded : ResponsePdu → ResponsePdu
  | .readCoils coils => .readCoils (coils ++ padding coils.length)
  | .readDiscreteInputs inputs => .readDiscreteInputs (inputs ++ padding inputs.length)
  | response => response

theorem RequestPdu.canonical_iff {request : RequestPdu} :
    request.Canonical ↔ ¬request.HoldsNamedMei := by
  cases request with
  | encapsulatedInterfaceTransport body =>
    cases body with
    | other meiType data => exact not_or.symm
    | _ => simp [Canonical, MeiRequest.Canonical, HoldsNamedMei]
  | _ => simp [Canonical, HoldsNamedMei]

namespace ResponsePdu

theorem packBits_padded (bits : List Bool) : packBits (bits ++ padding bits.length) = packBits bits := by
  rw [← bitsOf_packBits, packBits_bitsOf]

theorem padded_whole (bits : List Bool) : (bits ++ padding bits.length).length % 8 = 0 := by
  simp only [List.length_append, padding, List.length_replicate]
  omega

/-- Padding does not show on the wire. -/
theorem padded_wire {response : ResponsePdu} {data : Bytes} :
    response.padded.Wire data ↔ response.Wire data := by
  cases response with
  | readCoils bits | readDiscreteInputs bits =>
    simp only [padded, Wire, Leads, Body, function, packBits_padded]
  | _ => exact Iff.rfl

theorem padded_function (response : ResponsePdu) : response.padded.function = response.function := by
  cases response <;> rfl

theorem padded_canonical {response : ResponsePdu} (unnamed : ¬response.HoldsNamedMei) :
    response.padded.Canonical := by
  cases response with
  | readCoils bits | readDiscreteInputs bits => exact padded_whole bits
  | encapsulatedInterfaceTransport body =>
    cases body with
    | other meiType data => exact not_or.mp unnamed
    | _ => trivial
  | _ => trivial

end ResponsePdu

theorem decoded_pdu_reencodes (data : Bytes) :
    (∀ request, RequestPdu.decode data = .ok request → request.encode = .ok data) ∧
    (∀ response, ResponsePdu.decode data = .ok response → response.encode = .ok data) := by
  refine ⟨?_, ?_⟩
  · intro request decoded
    obtain ⟨wire, size, _⟩ := RequestPdu.decode_ok.mp decoded
    exact RequestPdu.encode_ok.mpr ⟨wire, size⟩
  · intro response decoded
    obtain ⟨wire, size, _⟩ := ResponsePdu.decode_ok.mp decoded
    exact ResponsePdu.encode_ok.mpr ⟨wire, size⟩

theorem decoded_coils_reencode :
    (RequestPdu.readCoils ⟨19⟩ ⟨10⟩).encode = .ok [1, 0, 19, 0, 10] ∧
    (ResponsePdu.exception ⟨.readCoils, .illegalDataAddress⟩).encode = .ok [0x81, 2] :=
  ⟨(decoded_pdu_reencodes [1, 0, 19, 0, 10]).1 _ rfl, (decoded_pdu_reencodes [0x81, 2]).2 _ rfl⟩

theorem RequestPdu.decode_encoded {request : RequestPdu} {data : Bytes} (unnamed : ¬request.HoldsNamedMei)
    (encoded : request.encode = .ok data) :
    (1 ≤ data.length ∧ data.length ≤ 253) ∧ RequestPdu.decode data = .ok request := by
  obtain ⟨wire, size⟩ := RequestPdu.encode_ok.mp encoded
  have nonempty : 1 ≤ data.length := by
    obtain ⟨code, body, _, _, rfl⟩ := wire
    simp
  have canonical := RequestPdu.canonical_iff.mpr unnamed
  exact ⟨⟨nonempty, size⟩, RequestPdu.decode_ok.mpr ⟨wire, size, canonical⟩⟩

theorem ResponsePdu.decode_encoded {response : ResponsePdu} {data : Bytes} (unnamed : ¬response.HoldsNamedMei)
    (encoded : response.encode = .ok data) :
    (1 ≤ data.length ∧ data.length ≤ 253) ∧ ResponsePdu.decode data = .ok response.padded := by
  obtain ⟨wire, size⟩ := ResponsePdu.encode_ok.mp encoded
  have nonempty : 1 ≤ data.length := by
    obtain ⟨code, body, _, _, rfl⟩ := wire
    simp
  have padded := ResponsePdu.padded_wire.mpr wire
  have canonical := ResponsePdu.padded_canonical unnamed
  exact ⟨⟨nonempty, size⟩, ResponsePdu.decode_ok.mpr ⟨padded, size, canonical⟩⟩

theorem encoded_pdu_decodes :
    (∀ request data, ¬RequestPdu.HoldsNamedMei request → request.encode = .ok data →
      (1 ≤ data.length ∧ data.length ≤ 253) ∧ RequestPdu.decode data = .ok request) ∧
    (∀ response data, ¬ResponsePdu.HoldsNamedMei response → response.encode = .ok data →
      (1 ≤ data.length ∧ data.length ≤ 253) ∧ ResponsePdu.decode data = .ok response.padded) :=
  ⟨fun _ _ => RequestPdu.decode_encoded, fun _ _ => ResponsePdu.decode_encoded⟩

theorem encoded_coils_decode_padded :
    ResponsePdu.decode [1, 1, 5] =
      .ok (.readCoils [true, false, true, false, false, false, false, false]) ∧
    RequestPdu.decode [15, 0, 19, 0, 3, 1, 5] = .ok (.writeMultipleCoils ⟨19⟩ [true, false, true]) :=
  ⟨(encoded_pdu_decodes.2 (.readCoils [true, false, true]) _ not_false rfl).2,
    (encoded_pdu_decodes.1 (.writeMultipleCoils ⟨19⟩ [true, false, true]) _ not_false rfl).2⟩

/-- Equal, or two lists of read bits that fill their bytes alike. -/
def ResponsePdu.Alike (first second : ResponsePdu) : Prop :=
  first = second ∨
    (∃ bits others, first = .readCoils bits ∧ second = .readCoils others ∧
      bits ++ padding bits.length = others ++ padding others.length) ∨
    (∃ bits others, first = .readDiscreteInputs bits ∧ second = .readDiscreteInputs others ∧
      bits ++ padding bits.length = others ++ padding others.length)

/-- A general transport body is read off its own bytes, whatever its type. -/
theorem RequestPdu.named_wire {request : RequestPdu} {data : Bytes} (named : request.HoldsNamedMei)
    (wire : request.Wire data) :
    ∃ meiType body, request = .encapsulatedInterfaceTransport (.other meiType body) ∧
      data = 43 :: meiType :: body := by
  cases request with
  | encapsulatedInterfaceTransport inner =>
    cases inner with
    | other meiType body =>
      obtain ⟨code, rest, encoded, layout, rfl⟩ := wire
      have leads : code = 43 := (Except.ok.inj encoded).symm
      have follows : rest = meiType :: body := layout
      exact ⟨meiType, body, rfl, by rw [leads, follows]⟩
    | _ => exact absurd named not_false
  | _ => exact absurd named not_false

theorem ResponsePdu.named_wire {response : ResponsePdu} {data : Bytes} (named : response.HoldsNamedMei)
    (wire : response.Wire data) :
    ∃ meiType body, response = .encapsulatedInterfaceTransport (.other meiType body) ∧
      data = 43 :: meiType :: body := by
  cases response with
  | encapsulatedInterfaceTransport inner =>
    cases inner with
    | other meiType body =>
      obtain ⟨code, rest, encoded, layout, rfl⟩ := wire
      have leads : code = 43 := (Except.ok.inj encoded).symm
      have follows : rest = meiType :: body := layout.1
      exact ⟨meiType, body, rfl, by rw [leads, follows]⟩
    | _ => exact absurd named not_false
  | _ => exact absurd named not_false

theorem RequestPdu.encode_inj {first second : RequestPdu} {data : Bytes}
    (same : first.HoldsNamedMei ↔ second.HoldsNamedMei) (one : first.encode = .ok data)
    (other : second.encode = .ok data) : first = second := by
  by_cases named : first.HoldsNamedMei
  · obtain ⟨_, _, rfl, shape⟩ := named_wire named (encode_ok.mp one).1
    obtain ⟨_, _, rfl, again⟩ := named_wire (same.mp named) (encode_ok.mp other).1
    cases shape.symm.trans again
    rfl
  · have read := (decode_encoded named one).2
    have again := (decode_encoded (fun held => named (same.mpr held)) other).2
    exact Except.ok.inj (read.symm.trans again)

/-- Padding tells apart all that is not a list of read bits. -/
theorem ResponsePdu.alike_of_padded {first second : ResponsePdu} (same : first.padded = second.padded) :
    first.Alike second := by
  cases first with
  | readCoils bits =>
    cases second with
    | readCoils others => exact .inr (.inl ⟨bits, others, rfl, rfl, readCoils.inj same⟩)
    | _ => cases same
  | readDiscreteInputs bits =>
    cases second with
    | readDiscreteInputs others => exact .inr (.inr ⟨bits, others, rfl, rfl, readDiscreteInputs.inj same⟩)
    | _ => cases same
  | _ =>
    cases second with
    | readCoils | readDiscreteInputs => cases same
    | _ => exact .inl same

theorem ResponsePdu.Alike.named {first second : ResponsePdu} (alike : first.Alike second) :
    first.HoldsNamedMei ↔ second.HoldsNamedMei := by
  obtain rfl | ⟨_, _, rfl, rfl, _⟩ | ⟨_, _, rfl, rfl, _⟩ := alike
  all_goals rfl

theorem ResponsePdu.encode_alike {first second : ResponsePdu} {data : Bytes}
    (same : first.HoldsNamedMei ↔ second.HoldsNamedMei) (one : first.encode = .ok data)
    (other : second.encode = .ok data) : first.Alike second := by
  by_cases named : first.HoldsNamedMei
  · obtain ⟨_, _, rfl, shape⟩ := named_wire named (encode_ok.mp one).1
    obtain ⟨_, _, rfl, again⟩ := named_wire (same.mp named) (encode_ok.mp other).1
    cases shape.symm.trans again
    exact .inl rfl
  · have read := (decode_encoded named one).2
    have again := (decode_encoded (fun held => named (same.mpr held)) other).2
    exact alike_of_padded (Except.ok.inj (read.symm.trans again))

theorem equal_encodings_one_value (data : Bytes) :
    (∀ first second : RequestPdu, first.encode = .ok data → second.encode = .ok data →
      (first = second ↔ (first.HoldsNamedMei ↔ second.HoldsNamedMei))) ∧
    (∀ first second : ResponsePdu, first.encode = .ok data → second.encode = .ok data →
      (first.Alike second ↔ (first.HoldsNamedMei ↔ second.HoldsNamedMei))) := by
  refine ⟨?_, ?_⟩
  · intro first second one other
    refine ⟨?_, fun same => RequestPdu.encode_inj same one other⟩
    intro equal
    rw [equal]
  · intro first second one other
    exact ⟨ResponsePdu.Alike.named, fun same => ResponsePdu.encode_alike same one other⟩

theorem short_coils_fill_alike :
    ResponsePdu.Alike (.readCoils [true]) (.readCoils [true, false]) ∧
      RequestPdu.reportServerId = .reportServerId :=
  ⟨((equal_encodings_one_value [1, 1, 1]).2 (.readCoils [true]) (.readCoils [true, false]) rfl rfl).mpr
      Iff.rfl,
    ((equal_encodings_one_value [17]).1 .reportServerId .reportServerId rfl rfl).mpr Iff.rfl⟩

/-- A general body under a named type is written as the named body. -/
theorem general_body_written_as_named :
    (∃ first second : RequestPdu, first ≠ second ∧
      first.encode = .ok [43, 14, 1, 0] ∧ second.encode = .ok [43, 14, 1, 0]) ∧
    (∃ first second : ResponsePdu, ¬first.Alike second ∧
      first.encode = .ok [43, 13, 7] ∧ second.encode = .ok [43, 13, 7]) := by
  refine ⟨⟨.encapsulatedInterfaceTransport (.other 14 [1, 0]),
    .encapsulatedInterfaceTransport (.readDeviceIdentification .basic 0), by decide, rfl, rfl⟩,
    ⟨.encapsulatedInterfaceTransport (.other 13 [7]), .encapsulatedInterfaceTransport (.canOpen [7]),
      fun alike => ?_, rfl, rfl⟩⟩
  obtain same | ⟨_, _, same, _⟩ | ⟨_, _, same, _⟩ := alike
  all_goals cases same

end Modbus
