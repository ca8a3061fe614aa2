import Modbus.PduEncoders

/-! Encapsulated interface transport: a type byte selects a body that is read as
device identification or carried whole. A general body that holds a type byte
with a layout of its own can be written, but is not what reading it returns. -/
namespace Modbus

open Bytes ByteWriter

def meiCanopen : UInt8 := 13
def meiReadDeviceId : UInt8 := 14
def moreFollowsNo : UInt8 := 0x00
def moreFollowsYes : UInt8 := 0xFF

inductive ReadDeviceIdCode where
  | basic | regular | extended | individual
  deriving DecidableEq, Repr

structure DeviceIdObject where
  id : UInt8
  value : Bytes
  deriving DecidableEq, Repr

inductive MeiRequest where
  | canOpen (data : Bytes)
  | readDeviceIdentification (readDeviceIdCode : ReadDeviceIdCode) (objectId : UInt8)
  | other (meiType : UInt8) (data : Bytes)
  deriving DecidableEq, Repr

inductive MeiResponse where
  | canOpen (data : Bytes)
  | readDeviceIdentification (readDeviceIdCode : ReadDeviceIdCode) (conformityLevel : UInt8)
      (moreFollows : Bool) (nextObjectId : UInt8) (objects : List DeviceIdObject)
  | other (meiType : UInt8) (data : Bytes)
  deriving DecidableEq, Repr

namespace ReadDeviceIdCode

def decode (raw : UInt8) : Result ReadDeviceIdCode :=
  if raw = 1 then .ok basic
  else if raw = 2 then .ok regular
  else if raw = 3 then .ok extended
  else if raw = 4 then .ok individual
  else .error (.outOfRange "read device id code" raw.toNat 1 4)

def encode : ReadDeviceIdCode → UInt8
  | basic => 1
  | regular => 2
  | extended => 3
  | individual => 4

theorem decode_ok {raw : UInt8} {code : ReadDeviceIdCode} :
    decode raw = .ok code ↔ code.encode = raw := by
  constructor
  · intro decoded
    unfold decode at decoded
    split at decoded
    case isTrue same => cases decoded; exact same.symm
    split at decoded
    case isTrue same => cases decoded; exact same.symm
    split at decoded
    case isTrue same => cases decoded; exact same.symm
    split at decoded
    case isTrue same => cases decoded; exact same.symm
    contradiction
  · rintro rfl
    cases code <;> rfl

end ReadDeviceIdCode

namespace Mei

/-- Every remaining byte. -/
def opaqueData : Decoder Bytes := Parser.rest

def opaqueBodyInto (meiType : UInt8) (data : Bytes) : ByteWriter Error Unit := do
  push meiType
  extend data

def parseObject : Decoder DeviceIdObject := do
  let id ← Parser.beU8
  let length ← Parser.beU8
  let value ← Parser.take length.toNat
  pure ⟨id, value⟩

def encodeObjectInto (object : DeviceIdObject) : ByteWriter Error Unit := do
  let length ← lift (tryU8 object.value.length
    (.outOfRange "object length" (asU32 object.value.length) 0 255))
  push object.id
  push length
  extend object.value

def decodeDeviceIdentification : Decoder MeiResponse := do
  let raw ← Parser.beU8
  let readDeviceIdCode ← Parse.lift (ReadDeviceIdCode.decode raw)
  let conformityLevel ← Parser.beU8
  let follows ← Parser.beU8
  let moreFollows ← Parse.lift (
    if follows = moreFollowsNo then .ok false
    else if follows = moreFollowsYes then .ok true
    else .error (.illegalValue "more follows" follows.toUInt16))
  let nextObjectId ← Parser.beU8
  let objectCount ← Parser.beU8
  let body ← Parser.rest
  let objects ← Parse.lift (Parse.runAll body parseObject)
  if objects.length ≠ objectCount.toNat then
    Parse.fail (.byteCountMismatch objectCount.toNat objects.length)
  else
    pure (.readDeviceIdentification readDeviceIdCode conformityLevel moreFollows nextObjectId objects)

def decodeRequest : Decoder MeiRequest := do
  let meiType ← Parser.beU8
  if meiType = meiCanopen then
    let data ← opaqueData
    pure (.canOpen data)
  else if meiType = meiReadDeviceId then
    let raw ← Parser.beU8
    let readDeviceIdCode ← Parse.lift (ReadDeviceIdCode.decode raw)
    let objectId ← Parser.beU8
    pure (.readDeviceIdentification readDeviceIdCode objectId)
  else
    let data ← opaqueData
    pure (.other meiType data)

def encodeRequestInto : MeiRequest → ByteWriter Error Unit
  | .canOpen data => opaqueBodyInto meiCanopen data
  | .readDeviceIdentification readDeviceIdCode objectId => do
    push meiReadDeviceId
    push readDeviceIdCode.encode
    push objectId
  | .other meiType data => opaqueBodyInto meiType data

def decodeResponse : Decoder MeiResponse := do
  let meiType ← Parser.beU8
  if meiType = meiCanopen then
    let data ← opaqueData
    pure (.canOpen data)
  else if meiType = meiReadDeviceId then
    decodeDeviceIdentification
  else
    let data ← opaqueData
    pure (.other meiType data)

def encodeResponseInto : MeiResponse → ByteWriter Error Unit
  | .canOpen data => opaqueBodyInto meiCanopen data
  | .readDeviceIdentification readDeviceIdCode conformityLevel moreFollows nextObjectId objects => do
    let count ← lift (tryU8 objects.length (.outOfRange "object count" (asU32 objects.length) 0 255))
    push meiReadDeviceId
    push readDeviceIdCode.encode
    push conformityLevel
    push (if moreFollows then moreFollowsYes else moreFollowsNo)
    push nextObjectId
    push count
    forEach encodeObjectInto objects
  | .other meiType data => opaqueBodyInto meiType data

end Mei

namespace DeviceIdObject

def layout (object : DeviceIdObject) : Bytes :=
  object.id :: UInt8.ofNat object.value.length :: object.value

def Valid (object : DeviceIdObject) : Prop := object.value.length < 256

end DeviceIdObject

namespace MeiRequest

def layout : MeiRequest → Bytes
  | canOpen data => meiCanopen :: data
  | readDeviceIdentification code objectId => [meiReadDeviceId, code.encode, objectId]
  | other meiType data => meiType :: data

/-- Not a general value holding a type with a layout of its own. -/
def Canonical : MeiRequest → Prop
  | other meiType _ => meiType ≠ meiCanopen ∧ meiType ≠ meiReadDeviceId
  | _ => True

end MeiRequest

namespace MeiResponse

def layout : MeiResponse → Bytes
  | canOpen data => meiCanopen :: data
  | readDeviceIdentification code level moreFollows nextObjectId objects =>
    meiReadDeviceId :: code.encode :: level ::
      (if moreFollows then moreFollowsYes else moreFollowsNo) :: nextObjectId ::
      UInt8.ofNat objects.length :: objects.flatMap DeviceIdObject.layout
  | other meiType data => meiType :: data

def Valid : MeiResponse → Prop
  | readDeviceIdentification _ _ _ _ objects =>
    objects.length < 256 ∧ ∀ object ∈ objects, object.Valid
  | _ => True

def Canonical : MeiResponse → Prop
  | other meiType _ => meiType ≠ meiCanopen ∧ meiType ≠ meiReadDeviceId
  | _ => True

end MeiResponse

namespace Mei

theorem decodeRequest_ok {request : MeiRequest} {input : Bytes} :
    decodeRequest.run input = .ok (request, []) ↔ input = request.layout ∧ request.Canonical := by
  simp only [decodeRequest, Parser.bind_ok, Parser.beU8_ok]
  constructor
  · rintro ⟨meiType, rest, rfl, chosen⟩
    by_cases canopen : meiType = meiCanopen
    · rw [if_pos canopen] at chosen
      simp only [opaqueData, Parser.bind_ok, Parser.rest_ok, Parser.pure_ok] at chosen
      obtain ⟨_, _, ⟨rfl, _⟩, rfl, _⟩ := chosen
      exact ⟨by rw [canopen]; rfl, trivial⟩
    by_cases device : meiType = meiReadDeviceId
    · rw [if_neg canopen, if_pos device] at chosen
      simp only [Parser.bind_ok, Parser.beU8_ok, Parse.lift_ok, Parser.pure_ok,
        ReadDeviceIdCode.decode_ok] at chosen
      obtain ⟨_, _, rfl, _, _, ⟨rfl, rfl⟩, _, _, rfl, rfl, rfl⟩ := chosen
      exact ⟨by rw [device]; rfl, trivial⟩
    · rw [if_neg canopen, if_neg device] at chosen
      simp only [opaqueData, Parser.bind_ok, Parser.rest_ok, Parser.pure_ok] at chosen
      obtain ⟨_, _, ⟨rfl, _⟩, rfl, _⟩ := chosen
      exact ⟨rfl, canopen, device⟩
  · rintro ⟨rfl, canonical⟩
    cases request with
    | canOpen data => exact ⟨_, _, rfl, by simp [opaqueData]⟩
    | readDeviceIdentification code objectId =>
      refine ⟨_, _, rfl, ?_⟩
      rw [if_neg (by decide), if_pos rfl]
      simp [ReadDeviceIdCode.decode_ok]
    | other meiType data =>
      refine ⟨_, _, rfl, ?_⟩
      rw [if_neg canonical.1, if_neg canonical.2]
      simp [opaqueData]

theorem opaqueBodyInto_meets (meiType : UInt8) (data : Bytes) :
    Meets (opaqueBodyInto meiType data) (· = meiType :: data) :=
  (Meets.push_seq _ (.extend _)).congr fun _ => by simp

theorem encodeRequestInto_meets (request : MeiRequest) :
    Meets (encodeRequestInto request) (· = request.layout) := by
  cases request with
  | canOpen data => exact opaqueBodyInto_meets _ _
  | readDeviceIdentification code objectId =>
    exact (Meets.push_seq _ (.push_seq _ (.push _))).congr fun _ => by simp [MeiRequest.layout]
  | other meiType data => exact opaqueBodyInto_meets _ _

theorem parseObject_ok (input : Bytes) (object : DeviceIdObject) (output : Bytes) :
    parseObject.run input = .ok (object, output) ↔ input = object.layout ++ output ∧ object.Valid := by
  simp only [parseObject, Parser.bind_ok, Parser.beU8_ok, Parser.take_ok, Parser.pure_ok]
  constructor
  · rintro ⟨id, _, rfl, length, _, rfl, value, _, ⟨rfl, taken⟩, rfl, rfl⟩
    have bound := length.toNat_lt
    have counted : UInt8.ofNat value.length = length := by
      apply UInt8.toNat_inj.mp
      simp
      omega
    exact ⟨by simp [DeviceIdObject.layout, counted], by simp only [DeviceIdObject.Valid]; omega⟩
  · rintro ⟨rfl, small⟩
    have small : object.value.length < 256 := small
    exact ⟨_, _, rfl, _, _, rfl, _, _, ⟨rfl, by simp; omega⟩, rfl, rfl⟩

theorem encodeObjectInto_meets (object : DeviceIdObject) :
    Meets (encodeObjectInto object) fun data => data = object.layout ∧ object.Valid := by
  refine (Meets.guard fun length _ => .push_seq _ (.push_seq length (.extend _))).congr fun data => ?_
  simp only [tryU8_ok, exists_eq_left, DeviceIdObject.layout, DeviceIdObject.Valid]
  constructor
  · rintro ⟨length, value, rfl⟩
    have bound := length.toNat_lt
    rw [← value, UInt8.ofNat_toNat]
    exact ⟨rfl, by omega⟩
  · rintro ⟨rfl, small⟩
    exact ⟨_, by simp; omega, rfl⟩

theorem moreFollows_ok {follows : UInt8} {moreFollows : Bool} :
    (if follows = moreFollowsNo then Except.ok false
      else if follows = moreFollowsYes then .ok true
      else .error (Error.illegalValue "more follows" follows.toUInt16)) = .ok moreFollows ↔
    follows = if moreFollows then moreFollowsYes else moreFollowsNo := by
  by_cases no : follows = moreFollowsNo
  · subst no
    cases moreFollows <;> decide
  · by_cases yes : follows = moreFollowsYes
    · subst yes
      cases moreFollows <;> decide
    · rw [if_neg no, if_neg yes]
      cases moreFollows <;> simp [no, yes]

theorem decodeDeviceIdentification_ok {response : MeiResponse} {input : Bytes} :
    decodeDeviceIdentification.run input = .ok (response, []) ↔
      ∃ code level moreFollows nextObjectId objects,
        response = .readDeviceIdentification code level moreFollows nextObjectId objects ∧
        meiReadDeviceId :: input = response.layout ∧ response.Valid := by
  simp only [decodeDeviceIdentification, Parser.bind_ok, Parser.beU8_ok, Parse.lift_ok,
    Parser.rest_ok, ReadDeviceIdCode.decode_ok, moreFollows_ok,
    Parse.runAll_ok parseObject_ok (fun a => by simp [DeviceIdObject.layout])]
  constructor
  · rintro ⟨_, _, rfl, code, _, ⟨rfl, rfl⟩, level, _, rfl, _, _, rfl, moreFollows, _, ⟨rfl, rfl⟩,
      nextObjectId, _, rfl, count, _, rfl, _, _, ⟨rfl, rfl⟩, objects, _, ⟨⟨rfl, good⟩, rfl⟩, chosen⟩
    have bound := count.toNat_lt
    by_cases counted : objects.length = count.toNat
    · rw [if_neg (by simp [counted])] at chosen
      obtain ⟨rfl, _⟩ := Parser.pure_ok.mp chosen
      refine ⟨code, level, moreFollows, nextObjectId, objects, rfl, ?_, ?_, good⟩
      · simp only [MeiResponse.layout, counted, UInt8.ofNat_toNat]
      · omega
    · rw [if_pos counted] at chosen
      exact absurd chosen Parse.fail_ok
  · rintro ⟨code, level, moreFollows, nextObjectId, objects, rfl, shape, small, good⟩
    simp only [MeiResponse.layout, List.cons.injEq, true_and] at shape
    subst shape
    refine ⟨_, _, rfl, code, _, ⟨rfl, rfl⟩, level, _, rfl, _, _, rfl, moreFollows, _, ⟨rfl, rfl⟩,
      nextObjectId, _, rfl, _, _, rfl, _, _, ⟨rfl, rfl⟩, objects, _, ⟨⟨rfl, good⟩, rfl⟩, ?_⟩
    rw [if_neg (by simp; omega)]
    simp

theorem decodeResponse_ok {response : MeiResponse} {input : Bytes} :
    decodeResponse.run input = .ok (response, []) ↔
      input = response.layout ∧ response.Valid ∧ response.Canonical := by
  simp only [decodeResponse, Parser.bind_ok, Parser.beU8_ok]
  constructor
  · rintro ⟨meiType, rest, rfl, chosen⟩
    by_cases canopen : meiType = meiCanopen
    · rw [if_pos canopen] at chosen
      simp only [opaqueData, Parser.bind_ok, Parser.rest_ok, Parser.pure_ok] at chosen
      obtain ⟨_, _, ⟨rfl, _⟩, rfl, _⟩ := chosen
      exact ⟨by rw [canopen]; rfl, trivial, trivial⟩
    by_cases device : meiType = meiReadDeviceId
    · rw [if_neg canopen, if_pos device] at chosen
      obtain ⟨_, _, _, _, _, rfl, shape, good⟩ := decodeDeviceIdentification_ok.mp chosen
      exact ⟨by rw [device]; exact shape, good, trivial⟩
    · rw [if_neg canopen, if_neg device] at chosen
      simp only [opaqueData, Parser.bind_ok, Parser.rest_ok, Parser.pure_ok] at chosen
      obtain ⟨_, _, ⟨rfl, _⟩, rfl, _⟩ := chosen
      exact ⟨rfl, trivial, canopen, device⟩
  · rintro ⟨rfl, good, canonical⟩
    cases response with
    | canOpen data => exact ⟨_, _, rfl, by simp [opaqueData]⟩
    | readDeviceIdentification code level moreFollows nextObjectId objects =>
      refine ⟨_, _, rfl, ?_⟩
      rw [if_neg (by decide), if_pos rfl]
      exact decodeDeviceIdentification_ok.mpr ⟨_, _, _, _, _, rfl, rfl, good⟩
    | other meiType data =>
      refine ⟨_, _, rfl, ?_⟩
      rw [if_neg canonical.1, if_neg canonical.2]
      simp [opaqueData]

theorem encodeResponseInto_meets (response : MeiResponse) :
    Meets (encodeResponseInto response) fun data => data = response.layout ∧ response.Valid := by
  cases response with
  | canOpen data => exact (opaqueBodyInto_meets _ _).congr fun _ => by simp [MeiResponse.layout, MeiResponse.Valid]
  | readDeviceIdentification code level moreFollows nextObjectId objects =>
    refine (Meets.guard fun count _ => .push_seq _ (.push_seq _ (.push_seq _ (.push_seq _ (.push_seq _
      (.push_seq count (.forEach _ _ encodeObjectInto_meets objects))))))).congr fun data => ?_
    simp only [tryU8_ok, MeiResponse.layout, MeiResponse.Valid]
    constructor
    · rintro ⟨count, counted, _, ⟨_, ⟨_, ⟨_, ⟨_, ⟨_, ⟨rfl, good⟩, rfl⟩, rfl⟩, rfl⟩, rfl⟩, rfl⟩, rfl⟩
      have bound := count.toNat_lt
      rw [← counted, UInt8.ofNat_toNat]
      exact ⟨rfl, by omega, good⟩
    · rintro ⟨rfl, small, good⟩
      exact ⟨_, by simp; omega, _, ⟨_, ⟨_, ⟨_, ⟨_, ⟨_, ⟨rfl, good⟩, rfl⟩, rfl⟩, rfl⟩, rfl⟩, rfl⟩, rfl⟩
  | other meiType data => exact (opaqueBodyInto_meets _ _).congr fun _ => by simp [MeiResponse.layout, MeiResponse.Valid]

end Mei

end Modbus
