import Modbus.Pdu

/-! What a truncation error tells about the bytes that are missing. The count is made
up where a field ran out, in a record region or an object list relative to that region,
so it may be low. It is never high: no longer input that decodes is shorter than it says. -/
namespace Modbus

open Bytes

def Error.isTruncated : Error → Bool
  | .truncated _ _ => true
  | _ => false

/-- A truncation report of a result, if it is one, asks for more than was supplied. -/
def AsksForMore (r : Result α) : Prop :=
  ∀ expected supplied, r = .error (.truncated expected supplied) → supplied < expected

namespace AsksForMore

theorem ok (a : α) : AsksForMore (.ok a : Result α) := by
  intro expected supplied failed
  cases failed

theorem error {e : Error} (other : e.isTruncated = false) : AsksForMore (.error e : Result α) := by
  intro expected supplied failed
  cases failed
  cases other

theorem ite {c : Prop} [Decidable c] {r s : Result α} (first : AsksForMore r) (second : AsksForMore s) :
    AsksForMore (if c then r else s) := by
  split
  · exact first
  · exact second

theorem check {r : Result Unit} {s : Result α} (first : AsksForMore r) (second : AsksForMore s) :
    AsksForMore (match r with
      | .error e => .error e
      | .ok () => s) := by
  cases r with
  | error e =>
    intro expected supplied failed
    cases failed
    exact first expected supplied rfl
  | ok => exact second

end AsksForMore

/-- A decoder that never reports a truncation. -/
def Quiet (p : Decoder α) : Prop :=
  Parser.Fails (fun failure => ∀ supplied, (Parse.convert failure supplied).isTruncated = false) p

namespace Quiet

theorem pure (a : α) : Quiet (Pure.pure a : Decoder α) := Parser.Fails.pure a

theorem fail {e : Error} (other : e.isTruncated = false) : Quiet (Parse.fail e : Decoder α) :=
  Parser.Fails.fail fun _ => other

theorem lift {r : Result α} (other : ∀ e, r = .error e → e.isTruncated = false) : Quiet (Parse.lift r) := by
  cases r with
  | ok a => exact .pure a
  | error e => exact Parser.Fails.fail fun _ => other e rfl

theorem rest_bind {f : Bytes → Decoder α} (second : ∀ data, Quiet (f data)) : Quiet (Parser.rest >>= f) :=
  Parser.Fails.bind .rest second

theorem ite {c : Prop} [Decidable c] {p q : Decoder α} (first : Quiet p) (second : Quiet q) :
    Quiet (if c then p else q) := Parser.Fails.ite first second

theorem unreported {p : Decoder α} (quiet : Quiet p) {input : Bytes} {failure : ErrMode (Option Error)}
    (failed : p.run input = .error failure) {total expected supplied : Nat} :
    Parse.convert failure total ≠ .truncated expected supplied := by
  intro reported
  have other := quiet input failure failed total
  rw [reported] at other
  cases other

/-- What is read once enough is known to be there. -/
theorem measured {refused : Nat → Prop} [DecidablePred refused] {e : Nat → Error} {p : Decoder α}
    (other : ∀ available, (e available).isTruncated = false)
    (parses : ∀ input, ¬refused input.length → ∃ a output, p.run input = .ok (a, output)) :
    Quiet (do
      let available ← Parser.remaining
      if refused available then Parse.fail (e available) else p) := by
  intro input failure failed
  have ran : (if refused input.length then Parse.fail (e input.length) else p).run input = .error failure :=
    failed
  by_cases short : refused input.length
  · rw [if_pos short] at ran
    exact Quiet.fail (other _) input failure ran
  · rw [if_neg short] at ran
    obtain ⟨a, output, parsed⟩ := parses input short
    cases parsed.symm.trans ran

end Quiet

/-- A decoder whose truncation reports are lower bounds: more is expected than was supplied, and
any extension of the input that is accepted is at least as long as expected. -/
def Tells (p : Decoder α) : Prop :=
  ∀ input failure expected supplied, p.run input = .error failure →
    Parse.convert failure input.length = .truncated expected supplied →
    supplied < expected ∧ ∀ more a output, p.run (input ++ more) = .ok (a, output) →
      expected ≤ (input ++ more).length

namespace Tells

theorem of_quiet {p : Decoder α} (quiet : Quiet p) : Tells p := by
  intro input failure expected supplied failed reported
  exact absurd reported (quiet.unreported failed)

theorem pure (a : α) : Tells (Pure.pure a : Decoder α) := .of_quiet (.pure a)

theorem fail {e : Error} (other : e.isTruncated = false) : Tells (Parse.fail e : Decoder α) :=
  .of_quiet (.fail other)

/-- The report of a parser that began inside an input of `total` bytes. -/
theorem report {p : Decoder α} (tells : Tells p) {input : Bytes} {failure : ErrMode (Option Error)}
    {total expected supplied : Nat} (failed : p.run input = .error failure) (within : input.length ≤ total)
    (reported : Parse.convert failure total = .truncated expected supplied) :
    supplied < expected ∧ ∀ more a output, p.run (input ++ more) = .ok (a, output) →
      expected ≤ total + more.length := by
  cases failure with
  | incomplete needed =>
    cases reported
    obtain ⟨positive, bound⟩ := tells input _ _ _ failed rfl
    refine ⟨by omega, fun more a output accepted => ?_⟩
    have enough := bound more a output accepted
    rw [List.length_append] at enough
    omega
  | backtrack e | cut e =>
    obtain ⟨more_expected, bound⟩ := tells input _ expected supplied failed reported
    refine ⟨more_expected, fun more a output accepted => ?_⟩
    have enough := bound more a output accepted
    rw [List.length_append] at enough
    omega

/-- A field of fixed width says how much of it is missing. -/
theorem of_short {p : Decoder α} (width : Nat)
    (short : ∀ input failure, p.run input = .error failure →
      failure = .incomplete (.size (width - input.length)) ∧ input.length < width)
    (consumes : ∀ input a output, p.run input = .ok (a, output) → width ≤ input.length) : Tells p := by
  intro input failure expected supplied failed reported
  obtain ⟨rfl, missing⟩ := short input failure failed
  cases reported
  simp only [Parse.missing]
  refine ⟨by omega, fun more a output parsed => ?_⟩
  have enough := consumes _ _ _ parsed
  omega

theorem beU8 : Tells Parser.beU8 := by
  apply of_short 1
  · intro input failure failed
    cases input with
    | nil =>
      cases failed
      exact ⟨rfl, Nat.one_pos⟩
    | cons => cases failed
  · intro input byte output parsed
    rw [Parser.beU8_ok.mp parsed]
    simp

theorem beU16 : Tells Parser.beU16 := by
  apply of_short 2
  · intro input failure failed
    match input with
    | [] | [_] =>
      cases failed
      exact ⟨rfl, by simp⟩
    | _ :: _ :: _ => cases failed
  · intro input word output parsed
    rw [Parser.beU16_ok.mp parsed]
    simp

theorem take (count : Nat) : Tells (Parser.take count) := by
  apply of_short count
  · intro input failure failed
    simp only [Parser.take] at failed
    split at failed
    next short =>
      cases failed
      exact ⟨rfl, short⟩
    · cases failed
  · intro input data output parsed
    obtain ⟨rfl, rfl⟩ := Parser.take_ok.mp parsed
    simp

theorem lift {r : Result α} (asks : AsksForMore r) : Tells (Parse.lift r) := by
  intro input failure expected supplied failed reported
  cases r with
  | ok => cases failed
  | error e =>
    cases failed
    refine ⟨asks expected supplied (congrArg Except.error reported), fun more a output parsed => ?_⟩
    cases (Parse.lift_ok.mp parsed).1

theorem ite {c : Prop} [Decidable c] {p q : Decoder α} (first : Tells p) (second : Tells q) :
    Tells (if c then p else q) := by
  split
  · exact first
  · exact second

/-- Where the first of two parsers runs out, both do, and the first decides. -/
theorem of_first {p : Decoder α} {f : α → Decoder β} (first : Tells p) {input : Bytes}
    {failure : ErrMode (Option Error)} {expected supplied : Nat} (failed : p.run input = .error failure)
    (reported : Parse.convert failure input.length = .truncated expected supplied) :
    supplied < expected ∧ ∀ more b output, (p >>= f).run (input ++ more) = .ok (b, output) →
      expected ≤ (input ++ more).length := by
  obtain ⟨more_expected, bound⟩ := first input failure expected supplied failed reported
  refine ⟨more_expected, fun more b output accepted => ?_⟩
  obtain ⟨a, middle, parsed, _⟩ := Parser.bind_ok.mp accepted
  exact bound more a middle parsed

theorem bind {p : Decoder α} {f : α → Decoder β} (stable : p.Stable) (first : Tells p)
    (second : ∀ a, Tells (f a)) : Tells (p >>= f) := by
  intro input failure expected supplied failed reported
  rcases Parser.bind_error failed with failed | ⟨a, middle, parsed, failed⟩
  · exact first.of_first failed reported
  · have shorter := stable.shrinks parsed
    have continues (more : Bytes) (b : β) (output : Bytes)
        (accepted : (p >>= f).run (input ++ more) = .ok (b, output)) :
        (f a).run (middle ++ more) = .ok (b, output) := by
      obtain ⟨other, rest, again, followed⟩ := Parser.bind_ok.mp accepted
      cases (stable.more parsed more).symm.trans again
      exact followed
    obtain ⟨more_expected, bound⟩ := (second a).report failed shorter reported
    refine ⟨more_expected, fun more b output accepted => ?_⟩
    rw [List.length_append]
    exact bound more b output (continues more b output accepted)

/-- After the last field that can run out. -/
theorem then_quiet {p : Decoder α} {f : α → Decoder β} (first : Tells p) (second : ∀ a, Quiet (f a)) :
    Tells (p >>= f) := by
  intro input failure expected supplied failed reported
  rcases Parser.bind_error failed with failed | ⟨a, middle, _, failed⟩
  · exact first.of_first failed reported
  · exact absurd reported ((second a).unreported failed)

end Tells

/-- The loop over a region reports the item that ran out. With more bytes the items before it
stay, so it is that item that has to be completed. -/
theorem Tells.runItems {parser : Decoder α} (stable : parser.Stable) (tells : Tells parser)
    {supplied turns expected reported : Nat} {input : Bytes} (within : input.length ≤ supplied)
    (failed : Parse.runItems parser supplied turns input = .error (.truncated expected reported)) :
    reported < expected ∧ ∀ more total others items,
      Parse.runItems parser total others (input ++ more) = .ok items → expected ≤ supplied + more.length := by
  induction turns generalizing input with
  | zero => cases input <;> cases failed
  | succ turns ih =>
    cases input with
    | nil => cases failed
    | cons byte tail =>
      simp only [Parse.runItems] at failed
      rcases parsed : parser.run (byte :: tail) with failure | ⟨item, rest⟩
      · simp only [parsed, Except.error.injEq] at failed
        obtain ⟨more_expected, bound⟩ := tells.report parsed within failed
        refine ⟨more_expected, fun more total others items accepted => ?_⟩
        cases others with
        | zero => cases accepted
        | succ others =>
          simp only [List.cons_append, Parse.runItems] at accepted
          rcases again : parser.run (byte :: (tail ++ more)) with _ | ⟨item, rest⟩
          · simp only [again] at accepted
            cases accepted
          · exact bound more item rest again
      · simp only [parsed] at failed
        have shorter := stable.shrinks parsed
        rcases others : Parse.runItems parser supplied turns rest with e | items
        · simp only [others] at failed
          cases failed
          obtain ⟨more_expected, bound⟩ := ih (by omega) others
          refine ⟨more_expected, fun more total others items accepted => ?_⟩
          cases others with
          | zero => cases accepted
          | succ others =>
            simp only [List.cons_append, Parse.runItems] at accepted
            have again := stable.more parsed more
            rw [List.cons_append] at again
            simp only [again] at accepted
            split at accepted
            · cases accepted
            next rest_items accepted_rest => exact bound more total others rest_items accepted_rest
        · simp only [others] at failed
          cases failed

theorem lift_stable (r : Result α) : (Parse.lift r).Stable := by
  cases r with
  | ok a => exact .pure a
  | error e => exact .fail _

section Checks

theorem checkRange_asks (field : String) (value min max : UInt16) :
    AsksForMore (checkRange field value min max) := .ite (.error rfl) (.ok ())

theorem checkBounds_asks (field : String) (value min max : Nat) :
    AsksForMore (checkBounds field value min max) := .ite (.error rfl) (.ok ())

theorem checkNumbers_asks (fileNumber : FileNumber) (recordNumber : RecordNumber) :
    AsksForMore (checkNumbers fileNumber recordNumber) :=
  .check (checkBounds_asks _ _ _ _) (checkBounds_asks _ _ _ _)

theorem FunctionCode.decode_asks (byte : UInt8) : AsksForMore (FunctionCode.decode byte) :=
  .ite (.error rfl) (.ok _)

theorem ReadDeviceIdCode.decode_asks (raw : UInt8) : AsksForMore (ReadDeviceIdCode.decode raw) :=
  .ite (.ok _) (.ite (.ok _) (.ite (.ok _) (.ite (.ok _) (.error rfl))))

theorem packedBits_quiet (data : Bytes) (quantity : Nat) : Quiet (Parse.lift (packedBits data quantity)) := by
  apply Quiet.lift
  intro e failed
  unfold packedBits at failed
  simp only at failed
  split at failed
  · cases failed
    rfl
  · cases failed

end Checks

section Decoders

open Parser.Stable

theorem quantifiedBytes_tells (field : String) (min max : UInt16) (width : Nat → Nat) :
    Tells (quantifiedBytes field min max width) :=
  .bind beU16 .beU16 fun _ => .bind (lift_stable _) (.lift (checkRange_asks _ _ _ _)) fun _ =>
    .bind beU8 .beU8 fun _ => .ite (.fail rfl) (.of_quiet (.measured (fun _ => rfl) fun _ enough =>
      ⟨_, _, Parser.bind_ok.mpr ⟨_, _, Parser.take_enough (Nat.le_of_not_lt enough), rfl⟩⟩))

theorem countedBytes_tells : Tells countedBytes :=
  .bind beU8 .beU8 fun _ => .of_quiet (.measured (fun _ => rfl) fun _ same =>
    ⟨_, _, Parser.take_enough (Nat.le_of_eq (not_not.mp same).symm)⟩)

theorem registers_tells : Tells registers :=
  .then_quiet countedBytes_tells fun _ => .ite (.fail rfl) (.pure _)

theorem readRequest_tells (min max : UInt16) : Tells (readRequest min max) :=
  .bind beU16 .beU16 fun _ => .bind beU16 .beU16 fun _ =>
    .bind (lift_stable _) (.lift (checkRange_asks _ _ _ _)) fun _ => .pure _

theorem singleCoil_tells : Tells singleCoil :=
  .bind beU16 .beU16 fun _ => .bind beU16 .beU16 fun _ => .ite (.pure _) (.ite (.pure _) (.fail rfl))

theorem diagnosticBody_tells : Tells diagnosticBody :=
  .bind beU16 .beU16 fun _ => .of_quiet (.rest_bind fun _ => .ite (.fail rfl) (.pure _))

theorem fifoValues_tells : Tells fifoValues :=
  .bind beU16 .beU16 fun _ => .bind beU16 .beU16 fun _ =>
    .bind (lift_stable _) (.lift (checkRange_asks _ _ _ _)) fun _ =>
    .ite (.fail rfl) (.bind (take _) (.take _) fun _ => .pure _)

theorem referenceType_stable : referenceType.Stable :=
  .bind beU8 fun _ => .ite (.pure _) (.fail _)

theorem referenceType_tells : Tells referenceType :=
  .bind beU8 .beU8 fun _ => .ite (.pure _) (.fail rfl)

theorem region_stable (check : Nat → Result Unit) : (region check).Stable :=
  .bind beU8 fun _ => .bind (lift_stable _) fun _ => take _

theorem region_tells {check : Nat → Result Unit} (checks : ∀ count, AsksForMore (check count)) :
    Tells (region check) :=
  .bind beU8 .beU8 fun _ => .bind (lift_stable _) (.lift (checks _)) fun _ => .take _

theorem FileRecordRead.parse_stable : FileRecordRead.parse.Stable :=
  .bind referenceType_stable fun _ => .bind beU16 fun _ => .bind beU16 fun _ => .bind beU16 fun _ =>
    .bind (lift_stable _) fun _ => .pure _

theorem FileRecordRead.parse_tells : Tells FileRecordRead.parse :=
  .bind referenceType_stable referenceType_tells fun _ => .bind beU16 .beU16 fun _ =>
    .bind beU16 .beU16 fun _ => .bind beU16 .beU16 fun _ =>
    .bind (lift_stable _) (.lift (checkNumbers_asks _ _)) fun _ => .pure _

theorem FileRecordReadResponse.parse_stable : FileRecordReadResponse.parse.Stable :=
  .bind beU8 fun _ => .ite (.fail _) (.bind referenceType_stable fun _ => .bind (take _) fun _ => .pure _)

theorem FileRecordReadResponse.parse_tells : Tells FileRecordReadResponse.parse :=
  .bind beU8 .beU8 fun _ => .ite (.fail rfl)
    (.bind referenceType_stable referenceType_tells fun _ => .bind (take _) (.take _) fun _ => .pure _)

theorem FileRecordWrite.parse_stable : FileRecordWrite.parse.Stable :=
  .bind referenceType_stable fun _ => .bind beU16 fun _ => .bind beU16 fun _ => .bind beU16 fun _ =>
    .bind (lift_stable _) fun _ => .bind (take _) fun _ => .pure _

theorem FileRecordWrite.parse_tells : Tells FileRecordWrite.parse :=
  .bind referenceType_stable referenceType_tells fun _ => .bind beU16 .beU16 fun _ =>
    .bind beU16 .beU16 fun _ => .bind beU16 .beU16 fun _ =>
    .bind (lift_stable _) (.lift (checkNumbers_asks _ _)) fun _ => .bind (take _) (.take _) fun _ => .pure _

theorem Mei.parseObject_stable : Mei.parseObject.Stable :=
  .bind beU8 fun _ => .bind beU8 fun _ => .bind (take _) fun _ => .pure _

theorem Mei.parseObject_tells : Tells Mei.parseObject :=
  .bind beU8 .beU8 fun _ => .bind beU8 .beU8 fun _ => .bind (take _) (.take _) fun _ => .pure _

/-- A region that is all there: what runs out in it is never completed. -/
theorem runAll_asks {parser : Decoder α} (stable : parser.Stable) (tells : Tells parser) (bytes : Bytes) :
    AsksForMore (Parse.runAll bytes parser) := by
  intro expected supplied failed
  exact (tells.runItems stable (Nat.le_refl _) failed).1

theorem decodeReadRequests_tells : Tells decodeReadRequests :=
  .bind (region_stable _)
    (region_tells fun _ => .check (checkBounds_asks _ _ _ _) (.ite (.error rfl) (.ok ())))
    fun _ => .lift (runAll_asks FileRecordRead.parse_stable FileRecordRead.parse_tells _)

theorem decodeReadResponses_tells : Tells decodeReadResponses :=
  .bind (region_stable _) (region_tells fun _ => checkBounds_asks _ _ _ _)
    fun _ => .lift (runAll_asks FileRecordReadResponse.parse_stable FileRecordReadResponse.parse_tells _)

theorem decodeWriteRecords_tells : Tells decodeWriteRecords :=
  .bind (region_stable _) (region_tells fun _ => checkBounds_asks _ _ _ _)
    fun _ => .lift (runAll_asks FileRecordWrite.parse_stable FileRecordWrite.parse_tells _)

/-- The list of objects goes on to the end of the input, and so may be completed. -/
theorem objects_tell {f : List DeviceIdObject → Decoder α} (second : ∀ objects, Quiet (f objects)) :
    Tells (do
      let body ← Parser.rest
      let objects ← Parse.lift (Parse.runAll body Mei.parseObject)
      f objects) := by
  intro input failure expected supplied failed reported
  rcases Parser.bind_error failed with failed | ⟨body, _, taken, failed⟩
  · cases failed
  obtain ⟨rfl, rfl⟩ := Parser.rest_ok.mp taken
  rcases Parser.bind_error failed with failed | ⟨objects, middle, _, failed⟩
  · rcases ran : Parse.runAll input Mei.parseObject with e | objects
    · rw [ran] at failed
      cases failed
      obtain rfl : e = .truncated expected supplied := reported
      obtain ⟨more_expected, bound⟩ :=
        Mei.parseObject_tells.runItems Mei.parseObject_stable (Nat.le_refl _) ran
      refine ⟨more_expected, fun more a output accepted => ?_⟩
      obtain ⟨_, _, taken, accepted⟩ := Parser.bind_ok.mp accepted
      obtain ⟨rfl, rfl⟩ := Parser.rest_ok.mp taken
      obtain ⟨objects, _, listed, _⟩ := Parser.bind_ok.mp accepted
      rw [List.length_append]
      exact bound more _ _ objects (Parse.lift_ok.mp listed).1
    · rw [ran] at failed
      cases failed
  · exact absurd reported ((second objects).unreported failed)

theorem Mei.decodeDeviceIdentification_tells : Tells Mei.decodeDeviceIdentification :=
  .bind beU8 .beU8 fun _ => .bind (lift_stable _) (.lift (ReadDeviceIdCode.decode_asks _)) fun _ =>
    .bind beU8 .beU8 fun _ => .bind beU8 .beU8 fun _ =>
    .bind (lift_stable _) (.lift (.ite (.ok _) (.ite (.ok _) (.error rfl)))) fun _ =>
    .bind beU8 .beU8 fun _ => .bind beU8 .beU8 fun _ =>
    objects_tell fun _ => .ite (.fail rfl) (.pure _)

theorem Mei.decodeRequest_tells : Tells Mei.decodeRequest :=
  .bind beU8 .beU8 fun _ => .ite (.of_quiet (.rest_bind fun _ => .pure _))
    (.ite (.bind beU8 .beU8 fun _ => .bind (lift_stable _) (.lift (ReadDeviceIdCode.decode_asks _)) fun _ =>
      .bind beU8 .beU8 fun _ => .pure _) (.of_quiet (.rest_bind fun _ => .pure _)))

theorem Mei.decodeResponse_tells : Tells Mei.decodeResponse :=
  .bind beU8 .beU8 fun _ => .ite (.of_quiet (.rest_bind fun _ => .pure _))
    (.ite Mei.decodeDeviceIdentification_tells (.of_quiet (.rest_bind fun _ => .pure _)))

theorem RequestPdu.decodeBody_tells (code : FunctionCode) : Tells (RequestPdu.decodeBody code) := by
  cases code with
  | readCoils | readDiscreteInputs | readHoldingRegisters | readInputRegisters =>
    exact .then_quiet (readRequest_tells _ _) fun _ => .pure _
  | writeSingleCoil => exact .then_quiet singleCoil_tells fun _ => .pure _
  | writeSingleRegister => exact .bind beU16 .beU16 fun _ => .bind beU16 .beU16 fun _ => .pure _
  | writeMultipleCoils =>
    exact .bind beU16 .beU16 fun _ => .then_quiet (quantifiedBytes_tells _ _ _ _) fun _ =>
      Parser.Fails.bind (packedBits_quiet _ _) fun _ => .pure _
  | writeMultipleRegisters =>
    exact .bind beU16 .beU16 fun _ => .then_quiet (quantifiedBytes_tells _ _ _ _) fun _ => .pure _
  | maskWriteRegister =>
    exact .bind beU16 .beU16 fun _ => .bind beU16 .beU16 fun _ => .bind beU16 .beU16 fun _ => .pure _
  | readWriteMultipleRegisters =>
    exact .bind beU16 .beU16 fun _ => .bind beU16 .beU16 fun _ =>
      .bind (lift_stable _) (.lift (checkRange_asks _ _ _ _)) fun _ => .bind beU16 .beU16 fun _ =>
      .then_quiet (quantifiedBytes_tells _ _ _ _) fun _ => .pure _
  | readExceptionStatus | getCommEventCounter | getCommEventLog | reportServerId => exact .pure _
  | diagnostics => exact .then_quiet diagnosticBody_tells fun _ => .pure _
  | readFileRecord => exact .then_quiet decodeReadRequests_tells fun _ => .pure _
  | writeFileRecord => exact .then_quiet decodeWriteRecords_tells fun _ => .pure _
  | readFifoQueue => exact .bind beU16 .beU16 fun _ => .pure _
  | encapsulatedInterfaceTransport => exact .then_quiet Mei.decodeRequest_tells fun _ => .pure _
  | custom => exact .of_quiet (.rest_bind fun _ => .pure _)

theorem ResponsePdu.decodeBody_tells (code : FunctionCode) : Tells (ResponsePdu.decodeBody code) := by
  cases code with
  | readCoils | readDiscreteInputs | reportServerId => exact .then_quiet countedBytes_tells fun _ => .pure _
  | readHoldingRegisters | readInputRegisters | readWriteMultipleRegisters =>
    exact .then_quiet registers_tells fun _ => .pure _
  | writeSingleCoil => exact .then_quiet singleCoil_tells fun _ => .pure _
  | writeSingleRegister | writeMultipleCoils | writeMultipleRegisters | getCommEventCounter =>
    exact .bind beU16 .beU16 fun _ => .bind beU16 .beU16 fun _ => .pure _
  | maskWriteRegister =>
    exact .bind beU16 .beU16 fun _ => .bind beU16 .beU16 fun _ => .bind beU16 .beU16 fun _ => .pure _
  | readExceptionStatus => exact .bind beU8 .beU8 fun _ => .pure _
  | diagnostics => exact .then_quiet diagnosticBody_tells fun _ => .pure _
  | getCommEventLog =>
    exact .bind beU8 .beU8 fun _ => .bind (lift_stable _) (.lift (.ite (.error rfl) (.ok ()))) fun _ =>
      .bind beU16 .beU16 fun _ => .bind beU16 .beU16 fun _ => .bind beU16 .beU16 fun _ =>
      .bind (take _) (.take _) fun _ => .pure _
  | readFileRecord => exact .then_quiet decodeReadResponses_tells fun _ => .pure _
  | writeFileRecord => exact .then_quiet decodeWriteRecords_tells fun _ => .pure _
  | readFifoQueue => exact .then_quiet fifoValues_tells fun _ => .pure _
  | encapsulatedInterfaceTransport => exact .then_quiet Mei.decodeResponse_tells fun _ => .pure _
  | custom => exact .of_quiet (.rest_bind fun _ => .pure _)

end Decoders

/-- A truncation report is a lower bound on the length of what decodes. -/
def ReportsLeast (decode : Bytes → Result α) : Prop :=
  ∀ pdu expected supplied, decode pdu = .error (.truncated expected supplied) →
    supplied < expected ∧ ∀ longer a, pdu <+: longer → decode longer = .ok a → expected ≤ longer.length

theorem Tells.run {p : Decoder α} (tells : Tells p) : ReportsLeast (Parse.run · p) := by
  intro bytes expected supplied failed
  unfold Parse.run at failed
  rcases parsed : p.run bytes with failure | ⟨a, rest⟩
  · simp only [parsed, Except.error.injEq] at failed
    obtain ⟨more_expected, bound⟩ := tells bytes failure expected supplied parsed failed
    refine ⟨more_expected, ?_⟩
    rintro _ a ⟨more, rfl⟩ accepted
    exact bound more a [] (Parse.run_ok.mp accepted)
  · simp only [parsed] at failed
    split at failed <;> cases failed

theorem ReportsLeast.sized {decode : Bytes → Result α} (reports : ReportsLeast decode) :
    ReportsLeast fun pdu => match checkSize pdu with
      | .error e => .error e
      | .ok () => decode pdu := by
  intro pdu expected supplied failed
  have body : decode pdu = .error (.truncated expected supplied) := by
    by_cases large : pdu.length > maxPduLen
    · simp only [checkSize, if_pos large] at failed
      cases failed
    · simpa only [checkSize, if_neg large] using failed
  obtain ⟨more_expected, bound⟩ := reports pdu expected supplied body
  refine ⟨more_expected, fun longer a extends_ accepted => ?_⟩
  exact bound longer a extends_ (sized_ok.mp accepted).2

theorem RequestPdu.decode_reportsLeast : ReportsLeast RequestPdu.decode :=
  (Tells.run (.bind .beU8 .beU8 fun byte =>
    .bind (lift_stable _) (.lift (FunctionCode.decode_asks byte)) fun code => RequestPdu.decodeBody_tells code)).sized

theorem ExceptionResponse.decode_untruncated {pdu : Bytes} {e : Error}
    (failed : ExceptionResponse.decode pdu = .error e) : e.isTruncated = false := by
  unfold ExceptionResponse.decode at failed
  split at failed
  next raw code =>
    split at failed
    · cases failed
      rfl
    · rcases decoded : FunctionCode.decode (raw &&& ~~~0x80) with other | function
      · simp only [decoded] at failed
        cases failed
        unfold FunctionCode.decode at decoded
        split at decoded <;> cases decoded
        rfl
      · simp only [decoded] at failed
        cases failed
  · cases failed
    rfl

theorem ResponsePdu.decode_reportsLeast : ReportsLeast ResponsePdu.decode := by
  have body := Tells.run (.bind .beU8 .beU8 fun byte =>
    .bind (lift_stable _) (.lift (FunctionCode.decode_asks byte)) fun code => ResponsePdu.decodeBody_tells code)
  refine ReportsLeast.sized fun pdu expected supplied failed => ?_
  by_cases flagged : pdu.head?.any (fun byte => byte &&& 0x80 != 0)
  · rw [if_pos flagged] at failed
    split at failed
    next e refused =>
      have other := ExceptionResponse.decode_untruncated refused
      cases failed
      cases other
    · cases failed
  rw [if_neg flagged] at failed
  obtain ⟨more_expected, bound⟩ := body pdu expected supplied failed
  refine ⟨more_expected, ?_⟩
  rintro _ response ⟨more, rfl⟩ accepted
  cases pdu with
  | nil =>
    cases failed
    cases more with
    | nil => cases accepted
    | cons => simp [Parse.missing]
  | cons byte tail =>
    rw [if_neg (by simpa using flagged)] at accepted
    exact bound _ response ⟨more, rfl⟩ accepted

/-- In either direction a truncated PDU names more bytes than it has, and no longer one with the
same beginning is accepted before it has as many. -/
theorem truncation_reports_lower_bound :
    ReportsLeast RequestPdu.decode ∧ ReportsLeast ResponsePdu.decode :=
  ⟨RequestPdu.decode_reportsLeast, ResponsePdu.decode_reportsLeast⟩

/-- Two bytes of an object list are missing, counted from where the list begins. -/
example : ResponsePdu.decode [0x2B, 0x0E, 0x01, 0x01, 0x00, 0x00, 0x01, 0x00, 0x03, 0x41] =
    .error (.truncated 5 3) := by decide

end Modbus
