import Modbus.Reassembly

/-! The framings that cannot resynchronise. Their readers keep every byte they
do not hand out, and what they hand out depends on the bytes ahead alone: neither
the cutting into reads nor an earlier failure changes it. -/
namespace Modbus

open Bytes ByteStream

namespace Receive

/-- The bytes a receive hands out. -/
def taken : Result Bytes → Bytes
  | .ok adu => adu
  | .error _ => []

theorem readMore_lossless (buffer : Bytes) (midAdu : Bool) {take : Result α → Bytes}
    (nothing : ∀ e, take (.error e) = []) : (readMore buffer midAdu).Lossless id take buffer := by
  constructor <;> simp [readMore, nothing]

theorem fillTurn_lossless (len : Nat) : Lossless (fillTurn len) id (fun _ => []) where
  stop turned := by
    obtain ⟨_, rfl, _⟩ := fillTurn_stop turned
    rfl
  await turned := by
    obtain ⟨rfl, rfl⟩ := fillTurn_await turned
    exact ⟨rfl, readMore_lossless _ _ fun _ => rfl⟩

theorem contentTurn_lossless (max : Nat) (extent : Direction → Bytes → Result Extent)
    (direction : Direction) : Lossless (contentTurn max extent direction) id taken where
  stop turned := by
    cases contentTurn_stop turned with
    | complete => exact (List.take_append_drop _ _).symm
    | refused => rfl
    | full => rfl
  await turned := by
    obtain ⟨rfl, rfl⟩ := contentTurn_await turned
    exact ⟨rfl, readMore_lossless _ _ fun _ => rfl⟩

/-- Between two states of a link these bytes were handed out, and no other went missing. -/
def Passes (link after : Link) (adu : Bytes) : Prop :=
  ∃ consumed, link.stream.arrivals = consumed ++ after.stream.arrivals ∧
    link.buffer ++ delivered consumed = adu ++ after.buffer

theorem Passes.refl (link : Link) : Passes link link [] := ⟨[], rfl, List.append_nil _⟩

theorem Passes.trans {link middle after : Link} {first second : Bytes} (here : Passes link middle first)
    (there : Passes middle after second) : Passes link after (first ++ second) := by
  obtain ⟨early, arrivals, bytes⟩ := here
  obtain ⟨late, arrivals', bytes'⟩ := there
  refine ⟨early ++ late, by rw [arrivals, arrivals', List.append_assoc], ?_⟩
  rw [delivered_append, ← List.append_assoc, bytes, List.append_assoc, bytes', List.append_assoc]

theorem loop_passes {turn : Bytes → Turn ReadFailure Bytes (Result α)} {take : Result α → Bytes}
    (lossless : Lossless turn id take) {limit : Option Nat} {link after : Link}
    {result : Option (Result α)} (ran : loop turn limit link = (result, after)) :
    Passes link after ((result.map take).getD []) := by
  unfold loop at ran
  rcases drove : drive turn limit link.buffer link.stream with ⟨outcome, buffer, stream⟩
  rw [drove] at ran
  obtain ⟨rfl, rfl⟩ := Prod.mk.inj ran
  exact drive_lossless turn limit lossless drove

theorem fillTo_passes {max len : Nat} {limit : Option Nat} {link after : Link}
    {result : Option (Result Unit)} (ran : fillTo max len limit link = (result, after)) :
    Passes link after [] := by
  unfold fillTo at ran
  split at ran
  · cases ran
    exact .refl link
  · have passes := loop_passes (fillTurn_lossless len) ran
    cases result <;> exact passes

theorem andThen_passes {first : Option (Result α) × Link} {next : α → Link → Option (Result Bytes) × Link}
    {link after : Link} {result : Option (Result Bytes)} (before : Passes link first.2 [])
    (rest : ∀ a middle, next a middle = (result, after) → Passes middle after ((result.map taken).getD []))
    (ran : andThen first next = (result, after)) : Passes link after ((result.map taken).getD []) := by
  obtain ⟨_ | e | a, middle⟩ := first
  · cases ran
    exact before
  · cases ran
    exact before
  · exact before.trans (rest a middle ran)

theorem take_passes (len : Nat) (link : Link) :
    Passes link (take len link).2 (((take len link).1.map taken).getD []) :=
  ⟨[], rfl, by simp [take, taken, delivered]⟩

variable {Header : Type} {framing : Framing Header} {config : TransportConfig} {direction : Direction}
  {limit : Option Nat} {link after : Link} {result : Option (Result Bytes)}

theorem readAdu_passes (bound : framing.boundary.isSelfLocating = false)
    (ran : readAdu framing config direction limit link = (result, after)) :
    Passes link after ((result.map taken).getD []) := by
  unfold readAdu at ran
  split at ran
  · apply andThen_passes (fillTo_passes rfl) _ ran
    intro _ middle rest
    split at rest
    · cases rest
      exact .refl _
    · apply andThen_passes (fillTo_passes rfl) _ rest
      intro _ last taking
      cases taking
      exact take_passes _ last
  · next boundary => simp [boundary, AduBoundary.isSelfLocating] at bound
  · next boundary => simp [boundary, AduBoundary.isSelfLocating] at bound
  · apply andThen_passes (fillTo_passes rfl) _ ran
    intro _ middle rest
    exact loop_passes (contentTurn_lossless _ _ _) rest

end Receive

section Conservation

variable {Header : Type} {framing : Framing Header} (config : TransportConfig)

theorem recvAdu_passes (bound : framing.boundary.isSelfLocating = false) (direction : Direction)
    (reader : Reader) :
    Receive.Passes reader.link (recvAdu framing config direction none reader).2.link
      (((recvAdu framing config direction none reader).1.map Receive.taken).getD []) := by
  unfold recvAdu
  split
  · exact .refl _
  · rcases reading : Receive.readAdu framing config direction none reader.link with ⟨_ | e | adu, link⟩
    · exact Receive.readAdu_passes bound reading
    · have passes := Receive.readAdu_passes bound reading
      simpa [bound] using passes
    · exact Receive.readAdu_passes bound reading

/-- What a receive call of a transport returns. -/
inductive Receipt (Header : Type) where
  | request (result : Option (Result (Header × RequestPdu)))
  | response (result : Option (Result (Header × ResponsePdu)))

/-- A call of `recv_request` or of `recv_response`. -/
def Reader.recv (framing : Framing Header) (config : TransportConfig) (direction : Direction)
    (reader : Reader) : Receipt Header × Reader :=
  match direction with
  | .request => (.request (reader.recvRequest framing config none).1, (reader.recvRequest framing config none).2)
  | .response =>
    (.response (reader.recvResponse framing config none).1, (reader.recvResponse framing config none).2)

/-- The reader after these calls. -/
def Reader.recvAll (framing : Framing Header) (config : TransportConfig) (calls : List Direction)
    (reader : Reader) : Reader :=
  calls.foldl (fun reader direction => (reader.recv framing config direction).2) reader

/-- The ADUs these calls delimit, whether or not they then decode. -/
def delimited (framing : Framing Header) (config : TransportConfig) : List Direction → Reader → List Bytes
  | [], _ => []
  | direction :: rest, reader =>
    let others := delimited framing config rest (reader.recv framing config direction).2
    match (recvAdu framing config direction none reader).1 with
    | some (.ok adu) => adu :: others
    | _ => others

theorem recv_reader (framing : Framing Header) (config : TransportConfig) (direction : Direction)
    (reader : Reader) :
    (reader.recv framing config direction).2 = (recvAdu framing config direction none reader).2 := by
  rcases received : recvAdu framing config direction none reader with ⟨_ | result, after⟩
  all_goals cases direction <;> simp only [Reader.recv, Reader.recvRequest, Reader.recvResponse, received]

theorem recvAll_passes (bound : framing.boundary.isSelfLocating = false) (calls : List Direction)
    (reader : Reader) :
    Receive.Passes reader.link (reader.recvAll framing config calls).link
      (delimited framing config calls reader).flatten := by
  induction calls generalizing reader with
  | nil => exact .refl _
  | cons direction rest ih =>
    have passes := recvAdu_passes config bound direction reader
    have others := ih (reader.recv framing config direction).2
    rw [← recv_reader] at passes
    have both := passes.trans others
    rw [delimited]
    rcases received : (recvAdu framing config direction none reader).1 with _ | e | adu
    all_goals
      rw [received] at both
      exact both

/-- All bytes ahead of a link, whatever else its stream may bring. -/
def Link.ahead (link : Link) : Bytes := link.buffer ++ delivered link.stream.arrivals

theorem Receive.Passes.ahead {link after : Link} {adu : Bytes} (passes : Receive.Passes link after adu) :
    link.ahead = adu ++ after.ahead := by
  obtain ⟨consumed, arrivals, bytes⟩ := passes
  rw [Link.ahead, Link.ahead, arrivals, delivered_append, ← List.append_assoc, bytes, List.append_assoc]

/-- After any calls, the ADUs delimited and the buffer are the bytes read; a call takes exactly the
ADU it delimits off what is ahead. -/
def ConservesBytes (framing : Framing Header) (config : TransportConfig) (stream : Line)
    (calls : List Direction) : Prop :=
  let reader := (Reader.new stream).recvAll framing config calls
  (∃ consumed, stream.arrivals = consumed ++ reader.link.stream.arrivals ∧
    (delimited framing config calls (.new stream)).flatten ++ reader.link.buffer = delivered consumed) ∧
  ∀ direction adu, (recvAdu framing config direction none reader).1 = some (.ok adu) →
    reader.link.ahead = adu ++ (reader.recv framing config direction).2.link.ahead

theorem conservesBytes (bound : framing.boundary.isSelfLocating = false) (stream : Line)
    (calls : List Direction) : ConservesBytes framing config stream calls := by
  refine ⟨?_, ?_⟩
  · obtain ⟨consumed, arrivals, bytes⟩ :=
      recvAll_passes config bound calls (Reader.new stream)
    exact ⟨consumed, arrivals, bytes.symm⟩
  · intro direction adu received
    have passes := recvAdu_passes config bound direction
      ((Reader.new stream).recvAll framing config calls)
    rw [received, ← recv_reader] at passes
    exact passes.ahead

end Conservation

theorem stream_bytes_conserved (crc16 : Bytes → UInt16) (config : TransportConfig) (stream : Line)
    (calls : List Direction) :
    ConservesBytes tcp config stream calls ∧ ConservesBytes (rtuOverTcp crc16) config stream calls :=
  ⟨conservesBytes config rfl stream calls, conservesBytes config rfl stream calls⟩

namespace Receive

theorem loop_stops {turn : Bytes → Turn ReadFailure Bytes (Result α)} {result : Result α} {link : Link}
    (stops : turn link.buffer = .stop result link.buffer) (limit : Option Nat) :
    loop turn limit link = (some result, link) := by
  simp only [loop, drive]
  unfold driveFrom
  simp only [stops]

theorem fillTo_enough {max len : Nat} {link : Link} (small : len ≤ max) (enough : len ≤ link.buffer.length)
    (limit : Option Nat) : fillTo max len limit link = (some (.ok ()), link) := by
  rw [fillTo, if_neg (by omega)]
  exact loop_stops (by rw [fillTurn, if_neg (by omega)]) limit

theorem endOfStream_endsStream (midAdu : Bool) : (endOfStream midAdu).endsStream = true := by
  cases midAdu <;> rfl

theorem readMore_yields {buffer next : Bytes} {midAdu : Bool} {result : Result α}
    (outcome : (readMore buffer midAdu).Yields result next) :
    next = buffer ∧ ∃ e, result = .error e ∧ e.endsStream = true := by
  rcases outcome with same | same | ⟨failure, same⟩
  · obtain ⟨rfl, rfl⟩ := Prod.mk.inj same
    exact ⟨rfl, _, rfl, endOfStream_endsStream midAdu⟩
  · obtain ⟨rfl, rfl⟩ := Prod.mk.inj same
    exact ⟨rfl, _, rfl, endOfStream_endsStream midAdu⟩
  · obtain ⟨rfl, rfl⟩ := Prod.mk.inj same
    exact ⟨rfl, _, rfl, rfl⟩

theorem fillTo_ok {max len : Nat} {limit : Option Nat} {link after : Link}
    (filled : fillTo max len limit link = (some (.ok ()), after)) :
    len ≤ max ∧ len ≤ after.buffer.length := by
  unfold fillTo at filled
  split at filled
  · cases filled
  · refine ⟨by omega, ?_⟩
    rcases drove : drive (fillTurn len) limit link.buffer link.stream with ⟨outcome, buffer, stream⟩
    simp only [loop, drove] at filled
    cases filled
    obtain ⟨last, _, stops | ⟨_, _, awaits, outcome⟩⟩ :=
      drive_ending (fillTurn len) limit (fun _ => True) (fun _ _ _ => trivial) trivial drove
    · obtain ⟨_, rfl, enough⟩ := fillTurn_stop stops
      exact enough
    · obtain ⟨rfl, rfl⟩ := fillTurn_await awaits
      obtain ⟨_, _, same, _⟩ := readMore_yields outcome
      cases same

theorem fillTo_error {max len : Nat} {limit : Option Nat} {link after : Link} {e : Error}
    (failed : fillTo max len limit link = (some (.error e), after)) (framed : e.endsStream = false) :
    after = link ∧ ∀ again, fillTo max len again link = (some (.error e), link) := by
  unfold fillTo at failed
  split at failed
  next large =>
    cases failed
    refine ⟨rfl, ?_⟩
    intro again
    rw [fillTo, if_pos large]
  · rcases drove : drive (fillTurn len) limit link.buffer link.stream with ⟨outcome, buffer, stream⟩
    simp only [loop, drove] at failed
    cases failed
    obtain ⟨last, _, stops | ⟨_, _, awaits, outcome⟩⟩ :=
      drive_ending (fillTurn len) limit (fun _ => True) (fun _ _ _ => trivial) trivial drove
    · obtain ⟨same, _⟩ := fillTurn_stop stops
      cases same
    · obtain ⟨rfl, rfl⟩ := fillTurn_await awaits
      obtain ⟨_, _, same, ends⟩ := readMore_yields outcome
      cases same
      cases framed.symm.trans ends

theorem readPrefixed_repeats {max prefixLen : Nat} {total : Bytes → Result Nat} {link after : Link}
    {limit : Option Nat} {e : Error}
    (failed : readPrefixed max prefixLen total limit link = (some (.error e), after))
    (framed : e.endsStream = false) (again : Option Nat) :
    readPrefixed max prefixLen total again after = (some (.error e), after) := by
  unfold readPrefixed at failed
  rcases filled : fillTo max prefixLen limit link with ⟨_ | early | _, middle⟩
  · rw [filled] at failed
    cases failed
  · rw [filled] at failed
    cases failed
    obtain ⟨rfl, refused⟩ := fillTo_error filled framed
    simp only [readPrefixed, refused, andThen]
  · obtain ⟨small, enough⟩ := fillTo_ok filled
    simp only [filled, andThen] at failed
    cases announced : total (middle.buffer.take prefixLen) with
    | error refusal =>
      simp only [announced] at failed
      cases failed
      simp only [readPrefixed, fillTo_enough small enough, andThen, announced]
    | ok len =>
      simp only [announced] at failed
      rcases filling : fillTo max len limit middle with ⟨_ | late | _, last⟩
      · rw [filling] at failed
        cases failed
      · rw [filling] at failed
        cases failed
        obtain ⟨rfl, refused⟩ := fillTo_error filling framed
        simp only [readPrefixed, fillTo_enough small enough, andThen, announced, refused]
      · rw [filling] at failed
        cases failed

theorem readContentLength_repeats {max min : Nat} {extent : Direction → Bytes → Result Extent}
    {direction : Direction} {link after : Link} {limit : Option Nat} {e : Error}
    (failed : readContentLength max min extent direction limit link = (some (.error e), after))
    (framed : e.endsStream = false) (again : Option Nat) :
    readContentLength max min extent direction again after = (some (.error e), after) := by
  unfold readContentLength at failed
  rcases filled : fillTo max min limit link with ⟨_ | early | _, middle⟩
  · rw [filled] at failed
    cases failed
  · rw [filled] at failed
    cases failed
    obtain ⟨rfl, refused⟩ := fillTo_error filled framed
    simp only [readContentLength, refused, andThen]
  · obtain ⟨small, enough⟩ := fillTo_ok filled
    rcases drove : drive (contentTurn max extent direction) limit middle.buffer middle.stream with
      ⟨outcome, buffer, stream⟩
    simp only [filled, andThen, loop, drove] at failed
    cases failed
    obtain ⟨last, held, stops | ⟨_, _, awaits, outcome⟩⟩ := drive_ending (contentTurn max extent direction)
      limit (fun buffer => min ≤ buffer.length) (fun {state next pending} long awaits bytes => by
        obtain ⟨rfl, rfl⟩ := contentTurn_await awaits
        simp only [readMore, List.length_append]
        omega) enough drove
    · have stays : last = buffer := by
        cases contentTurn_stop stops with
        | refused => rfl
        | full => rfl
      subst stays
      have filled : fillTo max min again ⟨stream, last⟩ = (some (.ok ()), ⟨stream, last⟩) :=
        fillTo_enough small held again
      have stopped : loop (contentTurn max extent direction) again ⟨stream, last⟩ =
          (some (.error e), ⟨stream, last⟩) := loop_stops stops again
      simp only [readContentLength, filled, andThen, stopped]
    · obtain ⟨rfl, rfl⟩ := contentTurn_await awaits
      obtain ⟨_, _, same, ends⟩ := readMore_yields outcome
      cases same
      cases framed.symm.trans ends

/-- A receive that fails, but not with the stream, fails the same way ever after, and reads
nothing more. -/
theorem readAdu_repeats {framing : Framing Header} (bound : framing.boundary.isSelfLocating = false)
    {config : TransportConfig} {direction : Direction} {link after : Link} {limit : Option Nat}
    {e : Error} (failed : readAdu framing config direction limit link = (some (.error e), after))
    (framed : e.endsStream = false) (again : Option Nat) :
    readAdu framing config direction again after = (some (.error e), after) := by
  unfold readAdu at failed ⊢
  split at failed
  · exact readPrefixed_repeats failed framed again
  · next boundary => simp [boundary, AduBoundary.isSelfLocating] at bound
  · next boundary => simp [boundary, AduBoundary.isSelfLocating] at bound
  · exact readContentLength_repeats failed framed again

end Receive

/-- Where the frame ends cannot be derived, or is out of range. -/
def Error.isLengthFailure : Error → Bool
  | .outOfRange .. | .indeterminateLength _ | .aduTooLarge .. => true
  | _ => false

section Discipline

variable {Header : Type} {framing : Framing Header} {config : TransportConfig}

/-- After calls that all returned, one that fails leaves the buffer empty. -/
def FailsEmpty (framing : Framing Header) (config : TransportConfig) (stream : Line)
    (calls : List Direction) : Prop :=
  ∀ results reader, recvEach framing config calls (.new stream) = (results, reader) → none ∉ results →
    ∀ direction e after, recvAdu framing config direction none reader = (some (.error e), after) →
      after.link.buffer = []

/-- Once a call fails for the length of the frame, each later call returns that error and
leaves the reader, its stream included, as it is. -/
def FailsForGood (framing : Framing Header) (config : TransportConfig) (stream : Line)
    (calls : List Direction) (direction : Direction) (later : List Direction) : Prop :=
  ∀ results reader, recvEach framing config calls (.new stream) = (results, reader) → none ∉ results →
    ∀ e after, recvAdu framing config direction none reader = (some (.error e), after) →
      e.isLengthFailure = true →
        recvEach framing config later after = (later.map fun _ => some (.error e), after)

theorem recvEach_ready {calls : List Direction} {reader after : Reader}
    {results : List (Option (Result Bytes))} (ran : recvEach framing config calls reader = (results, after))
    (ready : reader.receiving = false) (returned : none ∉ results) : after.receiving = false := by
  induction calls generalizing reader results with
  | nil =>
    cases ran
    exact ready
  | cons direction rest ih =>
    rcases received : recvAdu framing config direction none reader with ⟨result, middle⟩
    rcases others : recvEach framing config rest middle with ⟨later, last⟩
    simp only [recvEach, received, others] at ran
    cases ran
    simp only [List.mem_cons, not_or] at returned
    apply ih others _ returned.2
    cases recvAdu_received received with
    | latched latch => cases ready.symm.trans latch
    | abandoned => exact absurd rfl returned.1
    | adu => rfl
    | failed => rfl

theorem failsEmpty (bound : framing.boundary.isSelfLocating = true) (stream : Line)
    (calls : List Direction) : FailsEmpty framing config stream calls := by
  intro results reader ran returned direction e after failed
  have ready := recvEach_ready ran rfl returned
  cases recvAdu_received failed with
  | latched latch => cases ready.symm.trans latch
  | failed _ reading => rw [bound, if_pos rfl]

theorem recvAdu_repeats (bound : framing.boundary.isSelfLocating = false) {direction : Direction}
    {reader after : Reader} {e : Error}
    (failed : recvAdu framing config direction none reader = (some (.error e), after))
    (length : e.isLengthFailure = true) :
    recvAdu framing config direction none after = (some (.error e), after) := by
  cases recvAdu_received failed with
  | latched => cases length
  | failed _ reading =>
    have framed : e.endsStream = false := by
      cases e <;> first | rfl | cases length
    have again := Receive.readAdu_repeats bound reading framed none
    simp [recvAdu, again, bound]

theorem recvEach_repeats {later : List Direction} {reader : Reader} {e : Error}
    (same : ∀ direction ∈ later,
      recvAdu framing config direction none reader = (some (.error e), reader)) :
    recvEach framing config later reader = (later.map fun _ => some (.error e), reader) := by
  induction later with
  | nil => rfl
  | cons direction rest ih =>
    have others := ih fun other inside => same other (List.mem_cons_of_mem _ inside)
    simp only [recvEach, same direction List.mem_cons_self, others, List.map_cons]

end Discipline

/-- The derivation asks for the direction, so a reader that keeps its own keeps its error. -/
theorem receivers_fail_closed (crc16 : Bytes → UInt16) (config : TransportConfig) (stream : Line)
    (calls : List Direction) :
    FailsEmpty (rtu crc16) config stream calls ∧ FailsEmpty ascii config stream calls ∧
    (∀ direction later, FailsForGood tcp config stream calls direction later) ∧
    ∀ direction count, FailsForGood (rtuOverTcp crc16) config stream calls direction
      (List.replicate count direction) := by
  refine ⟨failsEmpty rfl stream calls, failsEmpty rfl stream calls, ?_, ?_⟩
  · intro direction later results reader ran returned e after failed length
    apply recvEach_repeats
    intro other _
    exact recvAdu_repeats rfl failed length
  · intro direction count results reader ran returned e after failed length
    apply recvEach_repeats
    intro other inside
    rw [List.eq_of_mem_replicate inside]
    exact recvAdu_repeats rfl failed length

example : Rtu.deriveExtent .request [1, 16, 0, 0, 0, 1, 255, 0] = .error (.aduTooLarge 264 256) ∧
    Rtu.deriveExtent .response [1, 16, 0, 0, 0, 1, 255, 0] = .ok (.complete 8) := by decide

/-- A length of zero on Modbus TCP, followed by a good frame that is never reached. -/
theorem zero_length_fails_for_good :
    recvEach tcp .default [.request, .response]
      ⟨⟨⟨7, [⟨9, .ok ⟨[0, 1, 0, 0, 0, 2, 17, 7], by decide⟩⟩], none, .exact⟩, [0, 1, 0, 0, 0, 0]⟩, false⟩ =
      ([some (.error (.outOfRange "MBAP length" 0 1 254)), some (.error (.outOfRange "MBAP length" 0 1 254))],
        ⟨⟨⟨7, [⟨9, .ok ⟨[0, 1, 0, 0, 0, 2, 17, 7], by decide⟩⟩], none, .exact⟩, [0, 1, 0, 0, 0, 0]⟩, false⟩) :=
  (receivers_fail_closed (fun _ => 0) .default
    ⟨0, [⟨7, .ok ⟨[0, 1, 0, 0, 0, 0], by decide⟩⟩, ⟨9, .ok ⟨[0, 1, 0, 0, 0, 2, 17, 7], by decide⟩⟩], none, .exact⟩
    []).2.2.1 .request [.request, .response] [] (.new _) rfl List.not_mem_nil
    (.outOfRange "MBAP length" 0 1 254) _ rfl rfl

end Modbus
