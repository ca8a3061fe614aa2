import Modbus.AduRoundTrip

/-! The length derivation of RTU over a stream against the PDU codec. Bytes that
overlap an ADU, whether they stop inside it or run past it, announce the ADU's
own length or ask for more. -/
namespace Modbus.Rtu

open Bytes

/-- Wherever both have a byte, it is the same byte. -/
def Overlaps (bytes adu : Bytes) : Prop :=
  ∀ i, i < bytes.length → i < adu.length → bytes.getD i 0 = adu.getD i 0

theorem overlaps_append (adu rest : Bytes) : Overlaps (adu ++ rest) adu := by
  intro i _ inside
  simp [List.getD_eq_getElem?_getD, List.getElem?_append_left inside]

theorem overlaps_of_isPrefix {front adu : Bytes} (inside : front <+: adu) : Overlaps front adu := by
  obtain ⟨rest, rfl⟩ := inside
  intro i within _
  simp [List.getD_eq_getElem?_getD, List.getElem?_append_left within]

/-- A length read off overlapping bytes is the PDU's, or the bytes stop inside the ADU. -/
def Announces (found : Result (Option Nat)) (bytes adu : Bytes) (pduLen : Nat) : Prop :=
  (found = .ok none ∧ bytes.length < adu.length) ∨ found = .ok (some pduLen)

/-- The extent of overlapping bytes that announce the ADU's length. -/
def extentIn (bytes adu : Bytes) : Extent :=
  if bytes.length < adu.length then .needMore else .complete adu.length

theorem extentIn_inside {bytes adu : Bytes} (inside : bytes.length < adu.length) :
    extentIn bytes adu = .needMore := if_pos inside

theorem checkExtent_eq {bytes adu : Bytes} (small : adu.length ≤ maxAduLen) :
    checkExtent bytes adu.length = .ok (extentIn bytes adu) := by
  unfold checkExtent extentIn
  rw [if_neg (by omega)]
  split <;> rfl

theorem finishExtent_announces {found : Result (Option Nat)} {bytes adu : Bytes} {pduLen : Nat}
    (announced : Announces found bytes adu pduLen) (whole : adu.length = pduLen + 3)
    (small : adu.length ≤ maxAduLen) : finishExtent bytes found = .ok (extentIn bytes adu) := by
  rcases announced with ⟨rfl, short⟩ | rfl
  · simp only [finishExtent, extentIn_inside short]
  · have total : addressLen + pduLen + crcLen = adu.length := by
      simp only [addressLen, crcLen]
      omega
    simp only [finishExtent, total]
    exact checkExtent_eq small

end Modbus.Rtu

namespace Modbus

open Bytes

/-- Requests whose length the function code and the leading bytes fix. -/
def RequestPdu.Derivable : RequestPdu → Prop
  | .diagnostics .. | .custom .. => False
  | .encapsulatedInterfaceTransport (.readDeviceIdentification ..) => True
  | .encapsulatedInterfaceTransport _ => False
  | _ => True

def ResponsePdu.Derivable : ResponsePdu → Prop
  | .diagnostics .. | .custom .. => False
  | .encapsulatedInterfaceTransport (.readDeviceIdentification ..) => True
  | .encapsulatedInterfaceTransport _ => False
  | _ => True

theorem ResponsePdu.Derivable.padded {response : ResponsePdu} (derivable : response.Derivable) :
    response.padded.Derivable := by
  cases response <;> exact derivable

namespace Rtu

section Requests

variable {bytes body trailer : Bytes} {address code : UInt8}

/-- A count byte at a fixed offset announces the data behind it. -/
theorem announces_count (limit offset base : Nat) {count : UInt8} {adu : Bytes}
    (overlap : Overlaps bytes adu) (here : adu.getD offset 0 = count)
    (reach : limit ≤ adu.length) (covered : offset < limit) :
    Announces (if bytes.length < limit then .ok none
      else .ok (some (base + (bytes.getD offset 0).toNat))) bytes adu (base + count.toNat) := by
  by_cases short : bytes.length < limit
  · exact .inl ⟨by rw [if_pos short], by omega⟩
  · rw [if_neg short, overlap offset (by omega) (by omega), here]
    exact .inr rfl

theorem counted_announces {min max : Nat} {layout : α → Bytes} {valid : α → Prop} {records : List α}
    (counted : Counted min max layout valid records body) (sized : trailer.length = 2)
    (overlap : Overlaps bytes (address :: code :: (body ++ trailer))) :
    Announces (if bytes.length < 4 then .ok none else .ok (some (2 + (bytes.getD 2 0).toNat))) bytes
      (address :: code :: (body ++ trailer)) (body.length + 1) := by
  obtain ⟨count, value, _, _, rfl⟩ := counted
  have total : 2 + count.toNat = (count :: records.flatMap layout).length + 1 := by
    rw [List.length_cons, ← value]
    omega
  rw [← total]
  exact announces_count 4 2 2 overlap rfl (by simp [sized]) (by decide)

theorem requestPduLen_announces {request : RequestPdu}
    (encoded : request.function.encode = .ok code) (layout : request.Body body)
    (derivable : request.Derivable) (sized : trailer.length = 2)
    (overlap : Overlaps bytes (address :: code :: (body ++ trailer))) (enough : 4 ≤ bytes.length) :
    Announces (requestPduLen code bytes) bytes (address :: code :: (body ++ trailer))
      (body.length + 1) := by
  cases request with
  | readCoils start quantity | readDiscreteInputs start quantity
  | readHoldingRegisters start quantity | readInputRegisters start quantity =>
    obtain rfl := Except.ok.inj encoded
    obtain ⟨_, rfl⟩ := layout
    exact .inr rfl
  | writeSingleCoil start value | writeSingleRegister start value | maskWriteRegister start _ value
  | readFifoQueue start | readExceptionStatus | getCommEventCounter | getCommEventLog
  | reportServerId =>
    obtain rfl := Except.ok.inj encoded
    have shape : body = _ := layout
    subst shape
    exact .inr rfl
  | writeMultipleCoils start coils =>
    obtain rfl := Except.ok.inj encoded
    obtain ⟨quantity, count, _, _, counted, rfl⟩ := layout
    have total : 6 + count.toNat =
        (beBytes start.raw ++ (beBytes quantity ++ count :: packBits coils)).length + 1 := by
      simp only [List.length_append, length_beBytes, List.length_cons, counted]
      omega
    rw [← total]
    exact announces_count 8 6 6 overlap rfl (by simp [sized]; omega) (by decide)
  | writeMultipleRegisters start registers =>
    obtain rfl := Except.ok.inj encoded
    obtain ⟨quantity, _, ⟨_, _, count, counted, rfl⟩, rfl⟩ := layout
    have total : 6 + count.toNat =
        (beBytes start.raw ++ (beBytes quantity ++ count :: registerBytes registers)).length + 1 := by
      simp only [List.length_append, length_beBytes, List.length_cons, length_registerBytes, counted]
      omega
    rw [← total]
    exact announces_count 8 6 6 overlap rfl (by simp [sized]; omega) (by decide)
  | readWriteMultipleRegisters readAddress readQuantity writeAddress registers =>
    obtain rfl := Except.ok.inj encoded
    obtain ⟨_, quantity, _, ⟨_, _, count, counted, rfl⟩, rfl⟩ := layout
    have total : 10 + count.toNat = (beBytes readAddress.raw ++ (beBytes readQuantity.raw ++
        (beBytes writeAddress.raw ++ (beBytes quantity ++ count :: registerBytes registers)))).length + 1 := by
      simp only [List.length_append, length_beBytes, List.length_cons, length_registerBytes, counted]
      omega
    rw [← total]
    exact announces_count 11 10 10 overlap rfl (by simp [sized]; omega) (by decide)
  | readFileRecord records =>
    obtain rfl := Except.ok.inj encoded
    exact counted_announces layout sized overlap
  | writeFileRecord records =>
    obtain rfl := Except.ok.inj encoded
    exact counted_announces layout sized overlap
  | encapsulatedInterfaceTransport request =>
    obtain rfl := Except.ok.inj encoded
    cases request with
    | readDeviceIdentification readCode objectId =>
      have shape : body = [meiReadDeviceId, readCode.encode, objectId] := layout
      subst shape
      have here : bytes.getD 2 0 = 0x0E := overlap 2 (by omega) (by simp)
      refine .inr ?_
      show (if bytes.length < 3 then Except.ok none
        else if bytes.getD 2 0 = 0x0E then .ok (some 4) else .error _) = _
      rw [if_neg (by omega), if_pos here]
      rfl
    | canOpen | other => exact derivable.elim
  | diagnostics | custom => exact derivable.elim

/-- A custom code is none of those with a known layout. -/
theorem custom_unnamed : ∀ code byte : UInt8, (FunctionCode.custom byte).encode = .ok code →
    code ∉ ([1, 2, 3, 4, 5, 6, 7, 11, 12, 15, 16, 17, 20, 21, 22, 23, 24, 43] : List UInt8) ∧
      ¬(1 ≤ code ∧ code ≤ 6) := by
  intro code byte encoded
  have same : code = byte := by
    simp only [FunctionCode.encode] at encoded
    split at encoded
    · contradiction
    split at encoded
    · contradiction
    exact (Except.ok.inj encoded).symm
  subst same
  revert code
  decide +kernel

/-- Requests without a derivable length are refused as soon as the type is seen. -/
theorem requestPduLen_indeterminate {request : RequestPdu}
    (encoded : request.function.encode = .ok code) (layout : request.Body body)
    (canonical : request.Canonical) (hidden : ¬request.Derivable)
    (overlap : Overlaps bytes (address :: code :: (body ++ trailer))) (enough : 4 ≤ bytes.length) :
    requestPduLen code bytes = .error (.indeterminateLength code) := by
  cases request with
  | diagnostics subFunction data =>
    obtain rfl := Except.ok.inj encoded
    rfl
  | custom byte data =>
    obtain ⟨unlisted, outside⟩ := custom_unnamed code byte encoded
    simp only [List.mem_cons, List.not_mem_nil, or_false, not_or] at unlisted
    simp [requestPduLen, outside, unlisted]
  | encapsulatedInterfaceTransport request =>
    obtain rfl := Except.ok.inj encoded
    have other : bytes.getD 2 0 ≠ 0x0E := by
      have shape : body = request.layout := layout
      subst shape
      cases request with
      | readDeviceIdentification => exact absurd trivial hidden
      | canOpen data =>
        rw [overlap 2 (by omega) (by simp [MeiRequest.layout])]
        exact (by decide : meiCanopen ≠ 0x0E)
      | other meiType data =>
        rw [overlap 2 (by omega) (by simp [MeiRequest.layout])]
        exact canonical.2
    show (if bytes.length < 3 then Except.ok none
      else if bytes.getD 2 0 = 0x0E then .ok (some 4) else .error _) = _
    rw [if_neg (by omega), if_neg other]
  | _ => exact absurd trivial hidden

end Requests

section Responses

variable {bytes body trailer : Bytes} {address code : UInt8}

theorem countedBytes_announces {data : Bytes} (counted : ResponsePdu.CountedBytes data body)
    (sized : trailer.length = 2) (overlap : Overlaps bytes (address :: code :: (body ++ trailer))) :
    Announces (if bytes.length < 4 then .ok none else .ok (some (2 + (bytes.getD 2 0).toNat))) bytes
      (address :: code :: (body ++ trailer)) (body.length + 1) := by
  obtain ⟨count, value, rfl⟩ := counted
  have total : 2 + count.toNat = (count :: data).length + 1 := by
    rw [List.length_cons, ← value]
    omega
  rw [← total]
  exact announces_count 4 2 2 overlap rfl (by simp [sized]) (by decide)

/-- Every response but exceptions and interface transport. -/
def IsPlain : ResponsePdu → Prop
  | .exception _ | .encapsulatedInterfaceTransport _ | .diagnostics .. | .custom .. => False
  | _ => True

theorem responsePduLen_announces {response : ResponsePdu} (plain : IsPlain response)
    (encoded : response.function.encode = .ok code) (layout : response.Body body)
    (sized : trailer.length = 2) (overlap : Overlaps bytes (address :: code :: (body ++ trailer))) :
    Announces (responsePduLen code bytes) bytes (address :: code :: (body ++ trailer))
      (body.length + 1) := by
  cases response with
  | readCoils | readDiscreteInputs | readHoldingRegisters | readInputRegisters
  | readWriteMultipleRegisters | reportServerId =>
    obtain rfl := Except.ok.inj encoded
    exact countedBytes_announces layout sized overlap
  | writeSingleCoil | writeSingleRegister | writeMultipleCoils | writeMultipleRegisters
  | maskWriteRegister | readExceptionStatus | getCommEventCounter =>
    obtain rfl := Except.ok.inj encoded
    have shape : body = _ := layout
    subst shape
    exact .inr rfl
  | getCommEventLog status eventCount messageCount events =>
    obtain rfl := Except.ok.inj encoded
    obtain ⟨count, value, _, rfl⟩ := layout
    refine countedBytes_announces ⟨count, ?_, rfl⟩ sized overlap
    simp only [List.length_append, length_beBytes, value]
    omega
  | readFileRecord records =>
    obtain rfl := Except.ok.inj encoded
    exact counted_announces layout sized overlap
  | writeFileRecord records =>
    obtain rfl := Except.ok.inj encoded
    exact counted_announces layout sized overlap
  | readFifoQueue values =>
    obtain rfl := Except.ok.inj encoded
    obtain ⟨count, value, bound, rfl⟩ := layout
    show Announces (if bytes.length < 5 then .ok none
      else .ok (some (3 + (ofBe (bytes.getD 2 0) (bytes.getD 3 0)).toNat))) _ _ _
    by_cases short : bytes.length < 5
    · rw [if_pos short]
      exact .inl ⟨rfl, by simp; omega⟩
    · rw [if_neg short,
        overlap 2 (by omega) (by simp only [List.length_append, List.length_cons]; omega),
        overlap 3 (by omega) (by simp only [List.length_append, List.length_cons]; omega)]
      have field : ofBe ((count * 2 + 2) >>> 8).toUInt8 (count * 2 + 2).toUInt8 = count * 2 + 2 :=
        ofBe_halves _
      refine .inr ?_
      simp only [beBytes, List.cons_append, List.nil_append, List.getD_cons_succ, List.getD_cons_zero,
        field, fifo_byteCount bound, value]
      simp
      omega
  | exception | encapsulatedInterfaceTransport | diagnostics | custom => exact plain.elim

/-- The walk over the objects ends behind the last one, or where the bytes stop. -/
theorem walkObjects_announces (objects : List DeviceIdObject) (pduOffset : Nat) (front : Bytes)
    (placed : front.length = addressLen + pduOffset) (sized : trailer.length = 2)
    (good : ∀ object ∈ objects, object.Valid)
    (overlap : Overlaps bytes (front ++ (objects.flatMap DeviceIdObject.layout ++ trailer))) :
    (walkObjects bytes objects.length pduOffset = none ∧
      bytes.length < (front ++ (objects.flatMap DeviceIdObject.layout ++ trailer)).length) ∨
    walkObjects bytes objects.length pduOffset =
      some (pduOffset + (objects.flatMap DeviceIdObject.layout).length) := by
  induction objects generalizing pduOffset front with
  | nil => exact .inr rfl
  | cons object objects ih =>
    have within : object.value.length < 256 := good object (by simp)
    simp only [List.length_cons, walkObjects]
    by_cases short : addressLen + pduOffset + 2 > bytes.length
    · refine .inl ⟨by rw [if_pos short], ?_⟩
      simp only [List.flatMap_cons, DeviceIdObject.layout, List.length_append, List.length_cons, sized]
      omega
    · have count : (bytes.getD (addressLen + pduOffset + 1) 0).toNat = object.value.length := by
        rw [overlap _ (by omega) (by
          simp only [List.flatMap_cons, DeviceIdObject.layout, List.length_append, List.length_cons]
          omega), ← placed]
        simp only [List.flatMap_cons, DeviceIdObject.layout, List.getD_eq_getElem?_getD,
          List.getElem?_append_right (Nat.le_add_right front.length 1), Nat.add_sub_cancel_left]
        simp
        omega
      rw [if_neg short, count]
      have rest := ih (pduOffset + (2 + object.value.length)) (front ++ object.layout)
        (by simp only [List.length_append, DeviceIdObject.layout, List.length_cons]; omega)
        (fun other member => good other (by simp [member]))
        (by simpa [List.flatMap_cons] using overlap)
      rcases rest with ⟨stopped, before⟩ | ended
      · exact .inl ⟨stopped, by simpa [List.flatMap_cons] using before⟩
      · refine .inr ?_
        rw [ended]
        simp only [List.flatMap_cons, List.length_append, DeviceIdObject.layout, List.length_cons,
          Option.some.injEq]
        omega

theorem deviceIdentification_extent {response : MeiResponse} {readCode : ReadDeviceIdCode}
    {level nextObjectId : UInt8} {moreFollows : Bool} {objects : List DeviceIdObject}
    (shape : response = .readDeviceIdentification readCode level moreFollows nextObjectId objects)
    (valid : response.Valid) (sized : trailer.length = 2)
    (overlap : Overlaps bytes (address :: code :: (response.layout ++ trailer)))
    (small : (address :: code :: (response.layout ++ trailer)).length ≤ maxAduLen) :
    deriveFc43Mei14ResponseLength bytes =
      .ok (extentIn bytes (address :: code :: (response.layout ++ trailer))) := by
  subst shape
  obtain ⟨few, good⟩ := valid
  unfold deriveFc43Mei14ResponseLength
  by_cases short : bytes.length < addressLen + headerPduBytes + crcLen
  · rw [if_pos short]
    have before : bytes.length < (address :: code ::
        ((MeiResponse.readDeviceIdentification readCode level moreFollows nextObjectId objects).layout ++
          trailer)).length := by
      simp only [addressLen, headerPduBytes, crcLen] at short
      simp only [MeiResponse.layout, List.length_cons, List.length_append, sized]
      omega
    rw [extentIn_inside before]
  · rw [if_neg short]
    simp only [addressLen, headerPduBytes, crcLen] at short
    have count : (bytes.getD (addressLen + 6) 0).toNat = objects.length := by
      rw [overlap _ (by simp only [addressLen]; omega) (by simp [addressLen, MeiResponse.layout])]
      simp only [addressLen, MeiResponse.layout, List.cons_append, Nat.reduceAdd, List.getD_cons_succ,
        List.getD_cons_zero]
      simp
      omega
    rw [count]
    have walked := walkObjects_announces objects headerPduBytes
      (address :: code :: meiReadDeviceId :: readCode.encode :: level ::
        (if moreFollows then moreFollowsYes else moreFollowsNo) :: nextObjectId ::
        [UInt8.ofNat objects.length]) rfl sized good overlap
    rcases walked with ⟨stopped, before⟩ | ended
    · rw [stopped]
      exact congrArg _ (extentIn_inside before).symm
    · rw [ended]
      have total : addressLen + (headerPduBytes + (objects.flatMap DeviceIdObject.layout).length) +
          crcLen = (address :: code ::
          ((MeiResponse.readDeviceIdentification readCode level moreFollows nextObjectId objects).layout ++
            trailer)).length := by
        simp only [addressLen, headerPduBytes, crcLen, MeiResponse.layout, List.length_cons,
          List.length_append, sized]
        omega
      simp only [total]
      exact checkExtent_eq small

end Responses

section Extents

variable {crc16 : Bytes → UInt16} {bytes pdu : Bytes} {address : UnitId}

theorem length_layout_le (small : pdu.length ≤ maxPduLen) :
    (layout crc16 address pdu).length ≤ maxAduLen := by
  simp only [length_layout, maxPduLen, maxAduLen] at small ⊢
  omega

theorem deriveExtent_short {direction : Direction} (nonempty : 1 ≤ pdu.length)
    (short : bytes.length < 4) :
    deriveExtent direction bytes = .ok (extentIn bytes (layout crc16 address pdu)) := by
  have inside : bytes.length < (layout crc16 address pdu).length := by
    rw [length_layout]
    omega
  rw [extentIn_inside inside]
  exact if_pos short

theorem deriveExtent_request {request : RequestPdu} (decoded : RequestPdu.decode pdu = .ok request)
    (derivable : request.Derivable) (overlap : Overlaps bytes (layout crc16 address pdu)) :
    deriveExtent .request bytes = .ok (extentIn bytes (layout crc16 address pdu)) := by
  obtain ⟨⟨code, body, encoded, fits, rfl⟩, size, _⟩ := RequestPdu.decode_ok.mp decoded
  by_cases short : bytes.length < 4
  · exact deriveExtent_short (by simp) short
  have fc : bytes.getD 1 0 = code := overlap 1 (by omega) (by simp)
  have clear := ResponsePdu.clear_below code (FunctionCode.encode_lt encoded).2
  have announced := requestPduLen_announces encoded fits derivable (length_leBytes _) overlap (by omega)
  rw [deriveExtent, if_neg short]
  simp only [fc, clear, ne_eq, not_true_eq_false, if_false]
  exact finishExtent_announces announced (length_layout crc16 address (code :: body))
    (length_layout_le size)

theorem deriveExtent_request_indeterminate {request : RequestPdu}
    (decoded : RequestPdu.decode pdu = .ok request) (hidden : ¬request.Derivable)
    (overlap : Overlaps bytes (layout crc16 address pdu)) (enough : 4 ≤ bytes.length) :
    deriveExtent .request bytes =
      .error (.indeterminateLength ((layout crc16 address pdu).getD 1 0)) := by
  obtain ⟨⟨code, body, encoded, fits, rfl⟩, size, canonical⟩ := RequestPdu.decode_ok.mp decoded
  have fc : bytes.getD 1 0 = code := overlap 1 (by omega) (by simp)
  have clear := ResponsePdu.clear_below code (FunctionCode.encode_lt encoded).2
  have refused := requestPduLen_indeterminate encoded fits canonical hidden overlap enough
  rw [deriveExtent, if_neg (by omega)]
  simp only [fc, clear, ne_eq, not_true_eq_false, if_false, refused]
  rfl

theorem plain_code {response : ResponsePdu} {code : UInt8} (plain : IsPlain response)
    (encoded : response.function.encode = .ok code) : code ≠ 0x2B := by
  cases response with
  | exception | encapsulatedInterfaceTransport | diagnostics | custom => exact plain.elim
  | _ =>
    obtain rfl := Except.ok.inj encoded
    decide

theorem deriveExtent_response {response : ResponsePdu}
    (decoded : ResponsePdu.decode pdu = .ok response) (derivable : response.Derivable)
    (overlap : Overlaps bytes (layout crc16 address pdu)) :
    deriveExtent .response bytes = .ok (extentIn bytes (layout crc16 address pdu)) := by
  obtain ⟨⟨code, body, leads, fits, rfl⟩, size, _⟩ := ResponsePdu.decode_ok.mp decoded
  have whole := length_layout crc16 address (code :: body)
  have small : (layout crc16 address (code :: body)).length ≤ maxAduLen := length_layout_le size
  by_cases short : bytes.length < 4
  · exact deriveExtent_short (by simp) short
  have fc : bytes.getD 1 0 = code := overlap 1 (by omega) (by simp)
  rw [deriveExtent, if_neg short]
  simp only [fc]
  by_cases plain : IsPlain response
  · have ordinary : response.isException = false := by
      cases response <;> first | rfl | exact plain.elim
    have encoded := (ResponsePdu.leads_iff ordinary).mp leads
    have clear := ResponsePdu.clear_below code (FunctionCode.encode_lt encoded).2
    have announced := responsePduLen_announces plain encoded fits (length_leBytes _) overlap
    simp only [clear, ne_eq, not_true_eq_false, if_false, plain_code plain encoded]
    exact finishExtent_announces announced whole small
  · cases response with
    | exception raised =>
      obtain ⟨function, encoded, rfl⟩ := leads
      obtain ⟨exception, _, rfl⟩ := fits
      obtain ⟨set, _⟩ := ExceptionResponse.flagged function (FunctionCode.encode_lt encoded).2
      rw [if_pos set]
      exact finishExtent_announces (.inr rfl) whole small
    | encapsulatedInterfaceTransport inner =>
      obtain rfl := Except.ok.inj leads
      obtain ⟨rfl, valid⟩ := fits
      cases inner with
      | readDeviceIdentification =>
        have type : bytes.getD 2 0 = 0x0E := overlap 2 (by omega) (by simp [MeiResponse.layout])
        rw [if_neg (by decide)]
        simp only [if_true]
        rw [if_neg (by omega), if_pos type]
        exact deviceIdentification_extent rfl valid (length_leBytes _) overlap small
      | canOpen | other => exact derivable.elim
    | diagnostics | custom => exact derivable.elim
    | _ => exact absurd trivial plain

theorem deriveExtent_response_indeterminate {response : ResponsePdu}
    (decoded : ResponsePdu.decode pdu = .ok response) (hidden : ¬response.Derivable)
    (overlap : Overlaps bytes (layout crc16 address pdu)) (enough : 4 ≤ bytes.length) :
    deriveExtent .response bytes =
      .error (.indeterminateLength ((layout crc16 address pdu).getD 1 0)) := by
  obtain ⟨⟨code, body, leads, fits, rfl⟩, size, canonical⟩ := ResponsePdu.decode_ok.mp decoded
  have fc : bytes.getD 1 0 = code := overlap 1 (by omega) (by simp)
  have here : (layout crc16 address (code :: body)).getD 1 0 = code := rfl
  rw [deriveExtent, if_neg (by omega), here]
  simp only [fc]
  cases response with
  | diagnostics =>
    obtain rfl := Except.ok.inj leads
    rfl
  | custom byte data =>
    have encoded : (FunctionCode.custom byte).encode = .ok code := leads
    have clear := ResponsePdu.clear_below code (FunctionCode.encode_lt encoded).2
    obtain ⟨unlisted, _⟩ := custom_unnamed code byte encoded
    simp only [List.mem_cons, List.not_mem_nil, or_false, not_or] at unlisted
    simp [clear, responsePduLen, unlisted, finishExtent]
  | encapsulatedInterfaceTransport inner =>
    obtain rfl := Except.ok.inj leads
    obtain ⟨rfl, valid⟩ := fits
    have other : bytes.getD 2 0 ≠ 0x0E := by
      cases inner with
      | readDeviceIdentification => exact absurd trivial hidden
      | canOpen data =>
        rw [overlap 2 (by omega) (by simp [MeiResponse.layout])]
        exact (by decide : meiCanopen ≠ 0x0E)
      | other meiType data =>
        rw [overlap 2 (by omega) (by simp [MeiResponse.layout])]
        exact canonical.2
    rw [if_neg (by decide)]
    simp only [if_true]
    rw [if_neg (by omega), if_neg other]
  | _ => exact absurd trivial hidden

end Extents

/-- The derivation on everything that overlaps the ADU, as two statements about streams. -/
theorem extents_of_overlap {direction : Direction} {adu : Bytes}
    (derived : ∀ bytes, Overlaps bytes adu →
      deriveExtent direction bytes = .ok (extentIn bytes adu)) :
    (∀ rest, deriveExtent direction (adu ++ rest) = .ok (.complete adu.length)) ∧
    ∀ front, front <+: adu → front ≠ adu → deriveExtent direction front = .ok .needMore := by
  refine ⟨?_, ?_⟩
  · intro rest
    rw [derived _ (overlaps_append adu rest), extentIn, if_neg (by simp)]
  · intro front inside proper
    have shorter : front.length < adu.length := by
      apply Nat.lt_of_le_of_ne inside.length_le
      intro same
      exact proper (inside.eq_of_length same)
    rw [derived _ (overlaps_of_isPrefix inside), extentIn_inside shorter]

end Rtu

theorem derived_extent_agrees (crc16 : Bytes → UInt16) :
    (∀ adu address request, (rtuOverTcp crc16).decodeRequest adu = .ok (address, request) →
      (request.Derivable →
        (∀ rest, Rtu.deriveExtent .request (adu ++ rest) = .ok (.complete adu.length)) ∧
        ∀ front, front <+: adu → front ≠ adu → Rtu.deriveExtent .request front = .ok .needMore) ∧
      (¬request.Derivable → ∀ front, front <+: adu → 4 ≤ front.length →
        Rtu.deriveExtent .request front = .error (.indeterminateLength (adu.getD 1 0)))) ∧
    (∀ adu address response, (rtuOverTcp crc16).decodeResponse adu = .ok (address, response) →
      (response.Derivable →
        (∀ rest, Rtu.deriveExtent .response (adu ++ rest) = .ok (.complete adu.length)) ∧
        ∀ front, front <+: adu → front ≠ adu → Rtu.deriveExtent .response front = .ok .needMore) ∧
      (¬response.Derivable → ∀ front, front <+: adu → 4 ≤ front.length →
        Rtu.deriveExtent .response front = .error (.indeterminateLength (adu.getD 1 0)))) := by
  refine ⟨?_, ?_⟩
  · intro adu address request accepted
    obtain ⟨pdu, decoded, rfl⟩ := rtu_decodeRequest_ok.mp accepted
    refine ⟨fun derivable => ?_, fun hidden front inside enough => ?_⟩
    · exact Rtu.extents_of_overlap fun _ overlap => Rtu.deriveExtent_request decoded derivable overlap
    · exact Rtu.deriveExtent_request_indeterminate decoded hidden (Rtu.overlaps_of_isPrefix inside) enough
  · intro adu address response accepted
    obtain ⟨pdu, decoded, rfl⟩ := rtu_decodeResponse_ok.mp accepted
    refine ⟨fun derivable => ?_, fun hidden front inside enough => ?_⟩
    · exact Rtu.extents_of_overlap fun _ overlap => Rtu.deriveExtent_response decoded derivable overlap
    · exact Rtu.deriveExtent_response_indeterminate decoded hidden (Rtu.overlaps_of_isPrefix inside) enough

theorem derived_extent_of_read :
    Rtu.deriveExtent .request [1, 3, 0, 0, 0, 1, 0, 0, 9] = .ok (.complete 8) ∧
    Rtu.deriveExtent .response [1, 43, 13, 5] = .error (.indeterminateLength 43) :=
  ⟨(((derived_extent_agrees fun _ => 0).1 [1, 3, 0, 0, 0, 1, 0, 0] ⟨1⟩
      (.readHoldingRegisters ⟨0⟩ ⟨1⟩) rfl).1 trivial).1 [9],
    ((derived_extent_agrees fun _ => 0).2 [1, 43, 13, 5, 0, 0] ⟨1⟩
      (.encapsulatedInterfaceTransport (.canOpen [5])) rfl).2 not_false [1, 43, 13, 5] ⟨[0, 0], rfl⟩
      (by decide)⟩

end Modbus
