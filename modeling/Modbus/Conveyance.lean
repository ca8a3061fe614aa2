import Modbus.Damage

/-! What the stream framings convey. An encoded PDU comes out of a byte stream as
what its encoding reads as, however the stream is cut and whatever the limit of
the receive, unless a timer comes first. -/
namespace Modbus

open Bytes ByteStream

namespace Receive

variable {limit : Option Nat} {link after : Link}

theorem loop_unlimited {turn : Bytes → Turn ReadFailure Bytes (Result α)} {result : Result α}
    (ran : loop turn limit link = (some result, after)) : loop turn none link = (some result, after) := by
  rcases drove : drive turn limit link.buffer link.stream with ⟨_ | outcome, buffer, stream⟩
  · simp only [loop, drove] at ran
    cases ran
  · simp only [loop, drove] at ran
    simp only [loop, drive_unlimited drove, ran]

theorem fillTo_unlimited {max len : Nat} {result : Result Unit}
    (filled : fillTo max len limit link = (some result, after)) :
    fillTo max len none link = (some result, after) := by
  unfold fillTo at filled ⊢
  split
  · next large => rwa [if_pos large] at filled
  · next small =>
    rw [if_neg small] at filled
    exact loop_unlimited filled

/-- Two receives in two parts: what one comes to the other does, if that holds of the parts. -/
theorem andThen_mono {first first' : Option (Result α) × Link}
    {next next' : α → Link → Option (Result β) × Link} {result : Result β}
    (begins : ∀ {result after}, first = (some result, after) → first' = (some result, after))
    (goes_on : ∀ {a link result after}, next a link = (some result, after) → next' a link = (some result, after))
    (ran : andThen first next = (some result, after)) : andThen first' next' = (some result, after) := by
  rcases began : first with ⟨_ | e | a, middle⟩
  · rw [began] at ran
    cases ran
  · rw [began] at ran
    rw [begins began]
    exact ran
  · rw [began] at ran
    rw [begins began]
    exact goes_on ran

theorem readPrefixed_unlimited {max prefixLen : Nat} {total : Bytes → Result Nat} {result : Result Bytes}
    (received : readPrefixed max prefixLen total limit link = (some result, after)) :
    readPrefixed max prefixLen total none link = (some result, after) := by
  refine andThen_mono fillTo_unlimited ?_ received
  intro _ link result after ran
  cases announced : total (link.buffer.take prefixLen) with
  | error e => simpa only [announced] using ran
  | ok len =>
    simp only [announced] at ran ⊢
    exact andThen_mono fillTo_unlimited id ran

theorem readDelimited_unlimited {max timeout : Nat} {start : UInt8} {terminator : Bytes} {result : Result Bytes}
    (received : readDelimited max timeout start terminator limit link = (some result, after)) :
    readDelimited max timeout start terminator none link = (some result, after) := by
  rcases drove : drive (delimitedTurn max timeout start terminator) limit ⟨link.buffer, 0⟩ link.stream with
    ⟨_ | outcome, state, stream⟩
  · simp only [readDelimited, drove] at received
    cases received
  · simp only [readDelimited, drove] at received
    simp only [readDelimited, drive_unlimited drove, received]

/-- A receive that is not abandoned at its limit is one without a limit. -/
theorem readAdu_unlimited {framing : Framing Header} {config : TransportConfig} {direction : Direction}
    {result : Result Bytes} (received : readAdu framing config direction limit link = (some result, after)) :
    readAdu framing config direction none link = (some result, after) := by
  unfold readAdu at received ⊢
  cases bounded : framing.boundary with
  | prefixed prefixLen total =>
    simp only [bounded] at received ⊢
    exact readPrefixed_unlimited received
  | delimited start terminator =>
    simp only [bounded] at received ⊢
    exact readDelimited_unlimited received
  | silence =>
    simp only [bounded] at received ⊢
    exact loop_unlimited received
  | contentLength min extent =>
    simp only [bounded] at received ⊢
    exact andThen_mono fillTo_unlimited loop_unlimited received

theorem fillTo_idle {max len now : Nat} {timer : Timer} (small : len + 1 ≤ max) :
    fillTo max (len + 1) limit ⟨⟨now, [], none, timer⟩, []⟩ =
      (none, ⟨⟨Nat.max now (limit.getD now), [], none, timer⟩, []⟩) := by
  rw [fillTo, if_neg (by omega)]
  simp [loop, drive, driveFrom, fillTurn, readMore, race]

end Receive

def TimedOut (result : Result α) : Prop := ∃ what, result = .error (.timeout what)

/-- A framing over a byte stream: what is encoded arrives, and nothing arrives unsent. -/
structure Framing.Conveys (framing : Framing Header) (Sendable : RequestPdu → Prop)
    (Answerable : ResponsePdu → Prop) : Prop where
  request : ∀ header (request : RequestPdu) data, request.encode = .ok data → ¬request.HoldsNamedMei →
    Sendable request → ∃ adu, framing.encodeRequest header request = .ok adu ∧
      framing.decodeRequest adu = .ok (header, request) ∧
      ∀ config, Arrives framing config .request TimedOut adu adu
  response : ∀ header (response : ResponsePdu) data, response.encode = .ok data → ¬response.HoldsNamedMei →
    Answerable response → ∃ adu, framing.encodeResponse header response = .ok adu ∧
      framing.decodeResponse adu = .ok (header, response.padded) ∧
      ∀ config, Arrives framing config .response TimedOut adu adu
  idle : ∀ config direction limit now timer,
    (Receive.readAdu framing config direction limit ⟨⟨now, [], none, timer⟩, []⟩).1 = none

section Receives

variable {framing : Framing Header} {config : TransportConfig} {direction : Direction} {wire frame rest : Bytes}
  {ending : Option Nat} {reader : Reader}

/-- A receive takes up a frame that arrives, unless it is abandoned or a timer comes first. -/
theorem recvAdu_arrives (arrives : Arrives framing config direction TimedOut wire frame)
    (free : reader.receiving = false) (ahead : reader.link.Ahead ending (wire ++ rest)) (limit : Option Nat) :
    ∃ result after, recvAdu framing config direction limit reader = (result, after) ∧
      ((result = none ∧ limit ≠ none) ∨
        (result = some (.ok frame) ∧ after.link.Ahead ending rest ∧ after.receiving = false) ∨
        ∃ what, result = some (.error (.timeout what))) := by
  obtain ⟨outcome, last, reads, course⟩ := arrives ending reader.link rest ahead
  rcases receiving : recvAdu framing config direction limit reader with ⟨result, after⟩
  refine ⟨result, after, rfl, ?_⟩
  cases recvAdu_received receiving with
  | latched latch => cases free.symm.trans latch
  | abandoned _ reading =>
    refine .inl ⟨rfl, ?_⟩
    intro unlimited
    rw [unlimited] at reading
    cases reads.symm.trans reading
  | adu _ reading =>
    cases reads.symm.trans (Receive.readAdu_unlimited reading)
    rcases course with ⟨same, left⟩ | ⟨what, same⟩
    · cases same
      exact .inr (.inl ⟨rfl, left, rfl⟩)
    · cases same
  | failed _ reading =>
    cases reads.symm.trans (Receive.readAdu_unlimited reading)
    rcases course with ⟨same, _⟩ | ⟨what, same⟩
    · cases same
    · cases same
      exact .inr (.inr ⟨what, rfl⟩)

/-- A receive of what was never sent waits. -/
theorem recvAdu_idle {Sendable : RequestPdu → Prop} {Answerable : ResponsePdu → Prop}
    (conveys : framing.Conveys Sendable Answerable) (free : reader.receiving = false)
    (ahead : reader.link.Ahead none []) (limit : Option Nat) :
    ∃ after, recvAdu framing config direction limit reader = (none, after) := by
  obtain ⟨now, timer, exhausted⟩ := exhausted_link ahead
  have waits := conveys.idle config direction limit now timer
  rw [← exhausted] at waits
  rcases receiving : recvAdu framing config direction limit reader with ⟨result, after⟩
  cases recvAdu_received receiving with
  | latched latch => cases free.symm.trans latch
  | abandoned => exact ⟨_, rfl⟩
  | adu _ reading | failed _ reading =>
    rw [reading] at waits
    cases waits

theorem Arrives.nonempty {Sendable : RequestPdu → Prop} {Answerable : ResponsePdu → Prop}
    (conveys : framing.Conveys Sendable Answerable) (arrives : Arrives framing config direction TimedOut wire frame) :
    wire ≠ [] := by
  rintro rfl
  obtain ⟨result, after, reads, _⟩ := arrives none ⟨⟨0, [], none, .exact⟩, []⟩ [] ⟨rfl, [], .nil, rfl⟩
  have waits := conveys.idle config direction none 0 .exact
  rw [reads] at waits
  cases waits

end Receives

theorem Arrives.weaken {framing : Framing Header} {config : TransportConfig} {direction : Direction}
    {Excused Timely : Result Bytes → Prop} {wire frame : Bytes}
    (arrives : Arrives framing config direction Excused wire frame)
    (weaker : ∀ result, Excused result → Timely result) :
    Arrives framing config direction Timely wire frame := by
  intro ending link rest ahead
  obtain ⟨result, after, reads, outcome⟩ := arrives ending link rest ahead
  exact ⟨result, after, reads, outcome.imp_right (weaker result)⟩

/-- Frames that their decoder accepts arrive; then encoded PDUs do. -/
theorem Framing.RoundTrips.conveys {framing : Framing Header} {spelling : Bytes → Bytes}
    (trips : framing.RoundTrips spelling) {Sendable : RequestPdu → Prop} {Answerable : ResponsePdu → Prop}
    (requests : ∀ config adu header request, framing.decodeRequest adu = .ok (header, request) →
      Sendable request → Arrives framing config .request TimedOut adu adu)
    (responses : ∀ config adu header response, framing.decodeResponse adu = .ok (header, response) →
      Answerable response → Arrives framing config .response TimedOut adu adu)
    (padded : ∀ response, Answerable response → Answerable response.padded)
    (idle : ∀ config direction limit now timer,
      (Receive.readAdu framing config direction limit ⟨⟨now, [], none, timer⟩, []⟩).1 = none) :
    framing.Conveys Sendable Answerable where
  request header request data encoded unnamed sendable := by
    obtain ⟨adu, sent⟩ := (trips.request_encodes header request).mpr ⟨data, encoded⟩
    have read := (RequestPdu.decode_encoded unnamed encoded).2
    have decoded := (trips.request_decodes header request adu data sent encoded).2 request read
    exact ⟨adu, sent, decoded, fun config => requests config adu header request decoded sendable⟩
  response header response data encoded unnamed answerable := by
    obtain ⟨adu, sent⟩ := (trips.response_encodes header response).mpr ⟨data, encoded⟩
    have read := (ResponsePdu.decode_encoded unnamed encoded).2
    have decoded := (trips.response_decodes header response adu data sent encoded).2 response.padded read
    exact ⟨adu, sent, decoded, fun config => responses config adu header _ decoded (padded response answerable)⟩
  idle := idle

theorem Tcp.split_announced {adu : Bytes} {opened : MbapHeader × Bytes} (accepted : split adu = .ok opened) :
    Announced adu := by
  obtain ⟨header, pdu⟩ := opened
  obtain ⟨rfl, nonempty, small⟩ := layout_split accepted
  have counted := lengthField_toNat small
  unfold maxPduLen at small
  rw [Announced, length_layout]
  refine ⟨by omega, by omega, ?_⟩
  simp only [layout, beBytes, List.cons_append, List.nil_append, List.getD_cons_succ, List.getD_cons_zero,
    ofBe_halves, counted]
  omega

theorem tcp_conveys : tcp.Conveys (fun _ => True) (fun _ => True) := by
  apply (Framing.roundTrips Tcp.seals).conveys
  · intro config adu header request decoded _
    obtain ⟨pdu, opened, _⟩ := Framing.decodeRequest_ok.mp decoded
    exact (tcp_arrives config .request (Tcp.split_announced opened)).weaken fun _ impossible => impossible.elim
  · intro config adu header response decoded _
    obtain ⟨pdu, opened, _⟩ := Framing.decodeResponse_ok.mp decoded
    exact (tcp_arrives config .response (Tcp.split_announced opened)).weaken fun _ impossible => impossible.elim
  · exact fun _ answerable => answerable
  · intro config direction limit now timer
    exact congrArg (fun filled => (Receive.andThen filled _).1) (Receive.fillTo_idle (by decide))

theorem ascii_conveys : ascii.Conveys (fun _ => True) (fun _ => True) := by
  apply (Framing.roundTrips Ascii.seals).conveys
  · intro config adu header request decoded _
    obtain ⟨pdu, opened, _⟩ := Framing.decodeRequest_ok.mp decoded
    exact (ascii_arrives config .request (Ascii.split_sealed opened).framed).weaken fun _ stalled => ⟨_, stalled⟩
  · intro config adu header response decoded _
    obtain ⟨pdu, opened, _⟩ := Framing.decodeResponse_ok.mp decoded
    exact (ascii_arrives config .response (Ascii.split_sealed opened).framed).weaken fun _ stalled => ⟨_, stalled⟩
  · exact fun _ answerable => answerable
  · intro config direction limit now timer
    rfl

theorem rtuOverTcp_conveys (crc16 : Bytes → UInt16) :
    (rtuOverTcp crc16).Conveys RequestPdu.Derivable ResponsePdu.Derivable := by
  apply (Framing.roundTrips (Rtu.seals crc16)).conveys
  · intro config adu header request decoded derivable
    exact (rtuOverTcp_arrives config .request ⟨header, request, decoded, derivable⟩).weaken
      fun _ impossible => impossible.elim
  · intro config adu header response decoded derivable
    exact (rtuOverTcp_arrives config .response ⟨header, response, decoded, derivable⟩).weaken
      fun _ impossible => impossible.elim
  · exact fun _ derivable => derivable.padded
  · intro config direction limit now timer
    show (Receive.readContentLength 256 4 _ _ _ _).1 = none
    rw [Receive.readContentLength, Receive.fillTo_idle (by decide)]
    rfl

end Modbus
