import Mathlib.Data.List.TakeWhile
import Modbus.FrameTransport
import Modbus.Silence

/-! Exchanges on a serial line. A serial header names the unit and nothing else,
so an answer is told from an earlier one only by what is still on the line when a
request goes out. The results below say when nothing is. -/
namespace Modbus

open Bytes ByteStream

/-- A call, the answer the peer gives to it, and what the line makes of that answer. -/
structure Exchange where
  unit : UnitId
  request : RequestPdu
  answer : Option Bytes
  passage : Passage

def calls (framing : ClientFraming Header) (transport : ClientTransport Header FrameTransport) :
    List Exchange → Client FrameTransport →
      List (Option (Result (Option ResponsePdu))) × Client FrameTransport
  | [], client => ([], client)
  | exchange :: rest, client =>
    let (result, client) := Client.call framing transport exchange.unit exchange.request none
      { client with transport := { client.transport with passage := exchange.passage } }
    let (results, client) := calls framing transport rest client
    (result :: results, client)

/-- A success is the decoding of the peer's answer to this very request. -/
def Answers (framing : Framing UnitId) (exchange : Exchange)
    (result : Option (Result (Option ResponsePdu))) : Prop :=
  ∀ response, result = some (.ok (some response)) →
    ∃ adu, exchange.answer = some adu ∧ framing.decodeResponse adu = .ok (exchange.unit, response)

section OneFrame

variable (framing : Framing UnitId) (config : TransportConfig) (Idle : Link → Prop)
  (Brings : Reads → Option Bytes → Prop)

/-- A receive on an idle link takes up all that was delivered: it returns the one frame of
the delivery or fails, and the link is idle again. -/
def TakesUp : Prop :=
  ∀ link time reads frame limit, Idle link → Brings reads frame →
    ∃ result after, Receive.readAdu framing config .response limit (link.deliver time reads) =
      (result, after) ∧
      (result = none ∨ (∃ adu, frame = some adu ∧ result = some (.ok adu) ∧ Idle after) ∨
        ∃ e, result = some (.error e) ∧ (e.endsStream = true ∨ Idle ⟨after.stream, []⟩))

/-- What the line may make of an answer: nothing that is a frame, the answer as it was
sent, or one frame that fails to decode. -/
inductive Conveyed (exchange : Exchange) : Prop
  | lost : Brings exchange.passage.arrivals none → Conveyed exchange
  | intact {adu : Bytes} : exchange.answer = some adu → Brings exchange.passage.arrivals (some adu) →
      (∀ unit response, framing.decodeResponse adu = .ok (unit, response) → unit = exchange.unit) →
      Conveyed exchange
  | damaged {frame : Bytes} : Brings exchange.passage.arrivals (some frame) →
      (∀ received, framing.decodeResponse frame ≠ .ok received) → Conveyed exchange

/-- A client that will send nothing more, or with nothing left over on its link. -/
def Settled (client : Client FrameTransport) : Prop :=
  client.isDesynchronized = true ∨
    client.transport.reader.receiving = false ∧ Idle client.transport.reader.link

variable {framing config Idle Brings}

theorem Conveyed.frame {exchange : Exchange} (conveyed : Conveyed framing Brings exchange) :
    ∃ frame, Brings exchange.passage.arrivals frame ∧
      ∀ adu, frame = some adu → ∀ unit response, framing.decodeResponse adu = .ok (unit, response) →
        unit = exchange.unit ∧ exchange.answer = some adu := by
  cases conveyed with
  | lost brings => exact ⟨none, brings, fun _ same => by cases same⟩
  | @intact sent answered brings addressed =>
    refine ⟨some sent, brings, ?_⟩
    rintro adu same unit response decodes
    obtain rfl := Option.some.inj same
    exact ⟨addressed unit response decodes, answered⟩
  | @damaged received brings fails =>
    refine ⟨some received, brings, ?_⟩
    rintro adu same unit response decodes
    obtain rfl := Option.some.inj same
    exact absurd decodes (fails _)

theorem answers_error {exchange : Exchange} {e : Error} :
    Answers framing exchange (some (.error e)) := by
  intro response same
  cases same

theorem settled_failed {client : Client FrameTransport} {after : FrameTransport} {e : Error}
    {selfLocating : Bool}
    (ends : e.endsStream = true ∨ after.reader.receiving = false ∧ Idle after.reader.link) :
    Settled Idle { client with
      transport := after
      state := if e.endsStream || !selfLocating
        then .unusable (classifyUnusableReason e) else .unanswered } := by
  by_cases closed : (e.endsStream || !selfLocating) = true
  · exact .inl (by simp [Client.isDesynchronized, closed])
  · rcases ends with ended | settled
    · simp [ended] at closed
    · exact .inr settled

variable (takesUp : TakesUp framing config Idle Brings)
  (selfLocating : framing.boundary.isSelfLocating = true)
include takesUp selfLocating

theorem recvResponse_takesUp {transport : FrameTransport} {link : Link} {time : Nat} {reads : Reads}
    {frame : Option Bytes} (limit : Option Nat)
    (here : transport.reader = ⟨link.deliver time reads, false⟩) (idle : Idle link)
    (brings : Brings reads frame) :
    ∃ result after, transport.recvResponse framing config limit = (result, after) ∧
      (result = none ∨
        (∃ adu, frame = some adu ∧ result = some (framing.decodeResponse adu) ∧
          after.reader.receiving = false ∧ Idle after.reader.link) ∨
        ∃ e, result = some (.error e) ∧
          (e.endsStream = true ∨ after.reader.receiving = false ∧ Idle after.reader.link)) := by
  obtain ⟨result, after, reading, outcome⟩ := takesUp link time reads frame limit idle brings
  rcases outcome with rfl | ⟨adu, rfl, rfl, idle⟩ | ⟨e, rfl, ends⟩
  · exact ⟨none, _, by simp only [FrameTransport.recvResponse, recvAdu, here, reading]; rfl, .inl rfl⟩
  · refine ⟨_, _, by simp only [FrameTransport.recvResponse, recvAdu, here, reading]; rfl,
      .inr (.inl ⟨adu, rfl, rfl, rfl, idle⟩)⟩
  · refine ⟨_, _, by simp only [FrameTransport.recvResponse, recvAdu, here, reading]; rfl,
      .inr (.inr ⟨e, rfl, ?_⟩)⟩
    rcases ends with closed | idle
    · exact .inl closed
    · refine .inr ⟨rfl, ?_⟩
      simpa [selfLocating] using idle

theorem awaitResponse_settles (refuses : ∀ received, framing.decodeResponse [] ≠ .ok received)
    {client : Client FrameTransport} {link : Link} {exchange : Exchange}
    (here : client.transport.reader =
      ⟨link.deliver exchange.passage.written exchange.passage.arrivals, false⟩)
    (idle : Idle link) (conveyed : Conveyed framing Brings exchange) (deadline fuel : Nat) :
    ∃ result after, Client.awaitResponse (.serial framing) (FrameTransport.clientTransport framing config refuses)
        exchange.unit exchange.request.function deadline none (fuel + 1) client = (result, after) ∧
      Answers framing exchange result ∧ Settled Idle after := by
  obtain ⟨frame, brings, faithful⟩ := conveyed.frame
  obtain ⟨received, after, receives, outcome⟩ :=
    recvResponse_takesUp takesUp selfLocating (some deadline) here idle brings
  have receives' : (FrameTransport.clientTransport framing config refuses).recvResponse
      (some (Client.waitUntil deadline none)) client.transport = (received, after) := receives
  unfold Client.awaitResponse
  rw [receives']
  rcases outcome with rfl | ⟨adu, same, rfl, free, idle⟩ | ⟨e, rfl, ends⟩
  · exact ⟨_, _, by simp only [Client.waitUntil, Nat.lt_irrefl, if_false]; rfl, answers_error,
      .inl rfl⟩
  · cases decoding : framing.decodeResponse adu with
    | error e =>
      exact ⟨_, _, rfl, answers_error, settled_failed (.inr ⟨free, idle⟩)⟩
    | ok decoded =>
      obtain ⟨unit, response⟩ := decoded
      obtain ⟨rfl, answered⟩ := faithful adu same unit response decoding
      have matching : (ClientFraming.serial framing).isResponseTo exchange.unit exchange.unit = true := by
        simp [ClientFraming.serial]
      simp only [matching, if_true]
      by_cases expected : response.function = exchange.request.function
      · refine ⟨_, _, by rw [if_neg (not_not.mpr expected)], ?_, .inr ⟨free, idle⟩⟩
        intro returned same
        obtain rfl : response = returned := by simpa using same
        exact ⟨adu, answered, decoding⟩
      · exact ⟨_, _, by rw [if_pos expected], answers_error, .inr ⟨free, idle⟩⟩
  · exact ⟨_, _, rfl, answers_error, settled_failed ends⟩

theorem call_settles (refuses : ∀ received, framing.decodeResponse [] ≠ .ok received)
    (client : Client FrameTransport) {exchange : Exchange} (settled : Settled Idle client)
    (passing : client.transport.passage = exchange.passage)
    (addressed : exchange.unit ≠ broadcastUnit) (conveyed : Conveyed framing Brings exchange) :
    ∃ result after, Client.call (.serial framing) (FrameTransport.clientTransport framing config refuses)
        exchange.unit exchange.request none client = (result, after) ∧
      Answers framing exchange result ∧ Settled Idle after := by
  cases usable : client.isDesynchronized with
  | true => exact ⟨_, _, Client.call_desynchronized usable, answers_error, .inl usable⟩
  | false =>
    obtain ⟨free, idle⟩ : client.transport.reader.receiving = false ∧
        Idle client.transport.reader.link := by
      rcases settled with unusable | ready
      · simp [usable] at unusable
      · exact ready
    cases encodes : exchange.request.encode with
    | error e => exact ⟨_, _, Client.call_unencodable usable encodes, answers_error, settled⟩
    | ok pdu =>
      obtain ⟨sent, after, sending, course⟩ := FrameTransport.sendRequest_sent framing exchange.unit
        exchange.request client.transport
      cases course with
      | unencodable | broken =>
        exact ⟨_, _, Client.call_unsent usable encodes sending, answers_error, .inl rfl⟩
      | written _ _ _ delivered =>
        have unicast : (ClientFraming.serial framing).isBroadcast exchange.unit = false := by
          simpa [ClientFraming.serial] using addressed
        rw [Client.call_sent usable encodes sending, unicast]
        rw [free, passing] at delivered
        exact awaitResponse_settles takesUp selfLocating refuses delivered idle conveyed _ _

theorem calls_settle (refuses : ∀ received, framing.decodeResponse [] ≠ .ok received)
    {exchanges : List Exchange} {client : Client FrameTransport} (settled : Settled Idle client)
    (conveyed : ∀ exchange ∈ exchanges,
      exchange.unit ≠ broadcastUnit ∧ Conveyed framing Brings exchange) :
    List.Forall₂ (Answers framing) exchanges
      (calls (.serial framing) (FrameTransport.clientTransport framing config refuses) exchanges client).1 := by
  induction exchanges generalizing client with
  | nil => exact .nil
  | cons exchange rest ih =>
    obtain ⟨addressed, here⟩ := conveyed exchange List.mem_cons_self
    obtain ⟨result, after, called, answers, next⟩ :=
      call_settles takesUp selfLocating refuses { client with
        transport := { client.transport with passage := exchange.passage } } settled rfl addressed here
    have others := ih next fun exchange inside => conveyed exchange (List.mem_cons_of_mem _ inside)
    rw [calls, called]
    exact .cons answers others

end OneFrame

namespace Rtu

def Idle (link : Link) : Prop := link.buffer = [] ∧ link.stream.arrivals = []

/-- An answer arrives without a silence inside it, and is not longer than a frame can be. -/
def Brings (config : TransportConfig) (reads : Reads) : Option Bytes → Prop
  | none => reads = []
  | some frame => frame ≠ [] ∧ frame.length ≤ maxAduLen ∧ Carries reads frame ∧
      Close config.interFrameInterval reads

theorem takesUp (crc16 : Bytes → UInt16) (config : TransportConfig) :
    TakesUp (rtu crc16) config Idle (Brings config) := by
  rintro ⟨⟨now, arrivals, ending, timer⟩, buffer⟩ time reads frame limit ⟨rfl, rfl⟩ brings
  cases frame with
  | none =>
    obtain rfl := brings
    obtain ⟨result, after, reading, outcome⟩ := Receive.readUntilSilence_nothing maxAduLen
      config.interFrameInterval limit (max now time) ending timer
    refine ⟨result, after, reading, ?_⟩
    rcases outcome with rfl | rfl
    · exact .inl rfl
    · exact .inr (.inr ⟨_, rfl, .inl rfl⟩)
  | some frame =>
    obtain ⟨nonempty, small, carries, close⟩ := brings
    have silent : Outlasts timer config.interFrameInterval (clock (max now time) reads) [] := trivial
    obtain ⟨result, ⟨stream, buffer⟩, reading, received⟩ :=
      Receive.readUntilSilence_received limit ending nonempty small carries close silent
    rw [List.append_nil] at reading
    refine ⟨result, ⟨stream, buffer⟩, reading, ?_⟩
    cases received with
    | whole _ left => exact .inr (.inl ⟨frame, rfl, rfl, rfl, by simpa using left⟩)
    | tooLarge _ left => exact .inr (.inr ⟨_, rfl, .inr ⟨rfl, left⟩⟩)
    | abandoned => exact .inl rfl

end Rtu

namespace Ascii

def tail (bytes : Bytes) : Bytes := bytes.dropWhile (· != start)

def Idle (link : Link) : Prop :=
  ∃ unread, Carries link.stream.arrivals unread ∧ start ∉ link.buffer ++ unread

/-- An answer holds at most one frame: no start byte follows its first terminator, and it
is not longer than a frame can be. -/
def Brings (reads : Reads) (frame : Option Bytes) : Prop :=
  ∃ bytes, Carries reads bytes ∧
    match frame with
    | none => ¬terminator <:+: tail bytes ∧ (tail bytes).length ≤ maxAduLen
    | some adu => ∃ rest, tail bytes = adu ++ rest ∧ Delimited start terminator adu ∧
        start ∉ rest ∧ adu.length ≤ maxAduLen

theorem tail_noise {noise : Bytes} (quiet : start ∉ noise) (bytes : Bytes) :
    tail (noise ++ bytes) = tail bytes := by
  induction noise with
  | nil => rfl
  | cons byte rest ih =>
    have other : byte ≠ start := fun same => quiet (same ▸ List.mem_cons_self)
    have later : start ∉ rest := fun inside => quiet (List.mem_cons_of_mem _ inside)
    rw [List.cons_append, tail, List.dropWhile_cons_of_pos (by simpa using other)]
    exact ih later

theorem noise_tail (bytes : Bytes) : ∃ noise, start ∉ noise ∧ bytes = noise ++ tail bytes := by
  refine ⟨bytes.takeWhile (· != start), ?_, (List.takeWhile_append_dropWhile ..).symm⟩
  intro inside
  have other := List.mem_takeWhile_imp inside
  simp at other

theorem tail_start (bytes : Bytes) : tail (start :: bytes) = start :: bytes := by
  rw [tail, List.dropWhile_cons_of_neg (by simp)]

theorem tail_cases (bytes : Bytes) : tail bytes = [] ∨ ∃ inner, tail bytes = start :: inner := by
  rcases shape : tail bytes with _ | ⟨byte, inner⟩
  · exact .inl rfl
  · have stopped := List.head?_dropWhile_not (· != start) bytes
    rw [show bytes.dropWhile (· != start) = byte :: inner from shape] at stopped
    obtain rfl : byte = start := by simpa using stopped
    exact .inr ⟨inner, rfl⟩

theorem locate_unterminated {state : Receive.Search} {unread : Bytes}
    (unterminated : ¬terminator <:+: tail (state.buffer ++ unread)) :
    ∃ next, Receive.locate start terminator state = (none, next) ∧
      tail (next.buffer ++ unread) = tail (state.buffer ++ unread) ∧
      (next.buffer = [] ∨ next.buffer ++ unread = tail (state.buffer ++ unread)) := by
  obtain ⟨buffer, searched⟩ := state
  obtain ⟨noise, quiet, split⟩ := noise_tail buffer
  rcases tail_cases buffer with none_yet | ⟨inner, begun⟩
  · rw [none_yet, List.append_nil] at split
    subst split
    exact ⟨_, Receive.locate_noise quiet terminator searched, (tail_noise quiet unread).symm, .inl rfl⟩
  · rw [begun] at split
    subst split
    have whole : tail (noise ++ start :: inner ++ unread) = start :: inner ++ unread := by
      rw [List.append_assoc, tail_noise quiet, List.cons_append, tail_start]
    obtain ⟨resumed, _, _, same⟩ := Receive.locate_framed quiet terminator inner searched
    have missed : find (start :: inner) terminator resumed = none := by
      apply find_none
      intro i _ here
      apply unterminated
      rw [whole]
      exact here.isInfix.trans ((List.drop_suffix i _).isInfix.trans (List.prefix_append ..).isInfix)
    rw [same, Receive.locate_missed missed]
    exact ⟨_, rfl, by rw [whole, List.cons_append, tail_start], .inr whole.symm⟩

def Unfinished (state : Receive.Search) (stream : Line) : Prop :=
  ∃ unread, Carries stream.arrivals unread ∧ ¬terminator <:+: tail (state.buffer ++ unread) ∧
    (tail (state.buffer ++ unread)).length ≤ maxAduLen

theorem delimitedTurn_unfinished {state : Receive.Search} {stream : Line} (timeout : Nat)
    (unfinished : Unfinished state stream) :
    (∃ e next, Receive.delimitedTurn maxAduLen timeout start terminator state = .stop (.error e) next ∧
      stream.arrivals = []) ∨
    ∃ next pending, Receive.delimitedTurn maxAduLen timeout start terminator state =
        .await next pending ∧ Unfinished next stream ∧
      (∀ bytes, pending.data bytes = ⟨next.buffer ++ bytes, next.searched⟩) ∧
      (∃ e, pending.ended.1 = .error e ∧ e.endsStream = true) ∧
      ∃ e, pending.elapsed.1 = .error e ∧ e.endsStream = true := by
  obtain ⟨unread, carries, unterminated, small⟩ := unfinished
  obtain ⟨next, located, same, shape⟩ := locate_unterminated unterminated
  by_cases full : maxAduLen ≤ next.buffer.length
  · have refused : checkBufferBound maxAduLen next.buffer =
        .error (.aduTooLarge next.buffer.length maxAduLen) := by
      rw [checkBufferBound, if_pos full]
    refine .inl ⟨.aduTooLarge next.buffer.length maxAduLen, next,
      by simp only [Receive.delimitedTurn, located, refused], ?_⟩
    rcases shape with empty | whole
    · simp [empty, maxAduLen] at full
    · rw [← whole, List.length_append] at small
      obtain rfl : unread = [] := List.length_eq_zero_iff.mp (by omega)
      exact carries.eq_nil
  · have room : checkBufferBound maxAduLen next.buffer = .ok () := checkBufferBound_ok.mpr (by omega)
    refine .inr ⟨next, _, by simp only [Receive.delimitedTurn, located, room]; rfl, ?_, fun _ => rfl, ?_,
      _, rfl, rfl⟩
    · rw [← same] at unterminated small
      exact ⟨unread, carries, unterminated, small⟩
    · refine ⟨_, rfl, ?_⟩
      cases next.buffer.isEmpty <;> rfl

theorem readDelimited_unterminated (timeout : Nat) (limit : Option Nat) {link : Link} {unread : Bytes}
    (carries : Carries link.stream.arrivals unread)
    (unterminated : ¬terminator <:+: tail (link.buffer ++ unread))
    (small : (tail (link.buffer ++ unread)).length ≤ maxAduLen) :
    ∃ result after, Receive.readDelimited maxAduLen timeout start terminator limit link =
      (result, after) ∧ (result = none ∨
        ∃ e, result = some (.error e) ∧ (e.endsStream = true ∨ after.stream.arrivals = [])) := by
  have started : Unfinished ⟨link.buffer, 0⟩ link.stream := ⟨unread, carries, unterminated, small⟩
  have run := drive_rule (Receive.delimitedTurn maxAduLen timeout start terminator) limit Unfinished
    (fun result _ after => result = none ∨
      ∃ e, result = some (.error e) ∧ (e.endsStream = true ∨ after.arrivals = []))
    (fun state stream result last after holds steps => by
      rcases delimitedTurn_unfinished timeout holds with
        ⟨e, next, stops, empty⟩ | ⟨next, pending, awaits, ⟨_, carries, _⟩, _, ended, elapsed⟩
      · cases steps with
        | stop stopped =>
          obtain ⟨rfl, rfl⟩ := Turn.stop.inj (stops.symm.trans stopped)
          exact .inr ⟨e, rfl, .inr empty⟩
        | ended waits | failed waits | elapsed waits | abandoned waits =>
          cases stops.symm.trans waits
      · cases steps with
        | stop stopped => cases awaits.symm.trans stopped
        | ended waits =>
          obtain ⟨rfl, rfl⟩ := Turn.await.inj (awaits.symm.trans waits)
          obtain ⟨e, same, closed⟩ := ended
          exact .inr ⟨e, congrArg some same, .inl closed⟩
        | failed waits arrived =>
          rw [arrived] at carries
          cases carries
        | elapsed waits =>
          obtain ⟨rfl, rfl⟩ := Turn.await.inj (awaits.symm.trans waits)
          obtain ⟨e, same, closed⟩ := elapsed
          exact .inr ⟨e, congrArg some same, .inl closed⟩
        | abandoned => exact .inl rfl)
    (fun state stream last after holds steps => by
      cases steps with
      | data waits arrived =>
        rcases delimitedTurn_unfinished timeout holds with
          ⟨_, _, stops, _⟩ | ⟨next, pending, awaits, ⟨unread, carries, open', small⟩, data, _⟩
        · cases stops.symm.trans waits
        · obtain ⟨rfl, rfl⟩ := Turn.await.inj (awaits.symm.trans waits)
          rw [arrived] at carries
          cases carries with
          | @cons _ _ _ bytes _ tail =>
            rw [data]
            exact ⟨bytes, tail, by simpa using open', by simpa using small⟩)
    started
  obtain ⟨result, state, stream, drove, outcome⟩ := run
  exact ⟨result, ⟨stream, state.buffer⟩, by simp only [Receive.readDelimited, drove], outcome⟩

theorem takesUp (config : TransportConfig) : TakesUp ascii config Idle Brings := by
  rintro link time reads frame limit ⟨unread, waiting, quiet⟩ ⟨bytes, carries, shape⟩
  have before : link.Ahead link.stream.ending (link.buffer ++ unread) := ⟨rfl, unread, waiting, rfl⟩
  have ahead := before.deliver carries time
  cases frame with
  | none =>
    rw [← tail_noise quiet] at shape
    obtain ⟨same, unread, carries, bytes⟩ := ahead
    rw [bytes] at shape
    obtain ⟨result, after, reading, outcome⟩ := readDelimited_unterminated
      config.asciiInterCharacterTimeout limit carries shape.1 shape.2
    refine ⟨result, after, reading, ?_⟩
    rcases outcome with rfl | ⟨e, rfl, closed | empty⟩
    · exact .inl rfl
    · exact .inr (.inr ⟨e, rfl, .inl closed⟩)
    · exact .inr (.inr ⟨e, rfl, .inr ⟨[], empty ▸ .nil, List.not_mem_nil⟩⟩)
  | some adu =>
    obtain ⟨rest, framed, delimited, silent, small⟩ := shape
    obtain ⟨noise, still, split⟩ := noise_tail bytes
    rw [split, framed, ← List.append_assoc, ← List.append_assoc] at ahead
    have noisy : start ∉ link.buffer ++ unread ++ noise := by
      rw [List.mem_append]
      rintro (inside | inside)
      · exact quiet inside
      · exact still inside
    obtain ⟨result, after, reading, outcome⟩ := Receive.readDelimited_ahead
      config.asciiInterCharacterTimeout limit delimited (by decide) noisy small ahead
    refine ⟨result, after, reading, ?_⟩
    rcases outcome with ⟨rfl, _⟩ | ⟨rfl, left⟩ | rfl
    · exact .inl rfl
    · obtain ⟨_, unread, carries, bytes⟩ := left
      exact .inr (.inl ⟨adu, rfl, rfl, unread, carries, bytes ▸ silent⟩)
    · exact .inr (.inr ⟨_, rfl, .inl rfl⟩)

end Ascii

def serialClient (now : Nat) (ending : Option Nat) (timer : Timer) (config : ClientConfig) :
    Client FrameTransport :=
  .withConfig (.new ⟨now, [], ending, timer⟩) config

/-- If every answer comes in at most one frame, each call's success is its own answer. -/
theorem serial_answers_own_request (crc16 : Bytes → UInt16) (config : TransportConfig)
    (clientConfig : ClientConfig) (now : Nat) (ending : Option Nat) (timer : Timer)
    (exchanges : List Exchange) :
    ((∀ exchange ∈ exchanges, exchange.unit ≠ broadcastUnit ∧
        Conveyed (rtu crc16) (Rtu.Brings config) exchange) →
      List.Forall₂ (Answers (rtu crc16)) exchanges
        (calls (.serial (rtu crc16)) (FrameTransport.clientTransport (rtu crc16) config (rtu_refuses crc16))
          exchanges (serialClient now ending timer clientConfig)).1) ∧
    ((∀ exchange ∈ exchanges, exchange.unit ≠ broadcastUnit ∧
        Conveyed ascii Ascii.Brings exchange) →
      List.Forall₂ (Answers ascii) exchanges
        (calls (.serial ascii) (FrameTransport.clientTransport ascii config ascii_refuses)
          exchanges (serialClient now ending timer clientConfig)).1) := by
  refine ⟨?_, ?_⟩
  · intro conveyed
    exact calls_settle (Rtu.takesUp crc16 config) rfl (rtu_refuses crc16) (.inr ⟨rfl, rfl, rfl⟩) conveyed
  · intro conveyed
    exact calls_settle (Ascii.takesUp config) rfl ascii_refuses
      (.inr ⟨rfl, [], .nil, List.not_mem_nil⟩) conveyed

/-- A read of one register, the answer to it and how the answer arrives. -/
def readRegister (written : Nat) (answer : Bytes) (arrivals : Reads) : Exchange :=
  ⟨⟨1⟩, .readHoldingRegisters ⟨0⟩ ⟨1⟩, some answer, ⟨written, 0, none, arrivals⟩⟩

/-- A damaged answer costs the call it was for and no other. -/
theorem damaged_answer_costs_one_call :
    let framing := rtu Rtu.crc16Modbus
    let damaged : Bytes := [1, 3, 2, 0, 101, 185, 175]
    let second : Bytes := [1, 3, 2, 0, 200, 185, 210]
    let exchanges := [
      readRegister 0 [1, 3, 2, 0, 100, 185, 175] [⟨1000, .ok ⟨damaged, by decide⟩⟩],
      readRegister 3000000 second [⟨8000000, .ok ⟨second, by decide⟩⟩]]
    List.Forall₂ (Answers framing) exchanges
      (calls (.serial framing) (FrameTransport.clientTransport framing .default (rtu_refuses Rtu.crc16Modbus))
        exchanges (serialClient 0 none millisecondTimer .default)).1 := by
  intro framing damaged second exchanges
  apply (serial_answers_own_request Rtu.crc16Modbus .default .default 0 none _ exchanges).1
  have fails : framing.decodeResponse damaged = .error (.checksum 28536 44985) := by decide +kernel
  have decodes : framing.decodeResponse second = .ok (⟨1⟩, .readHoldingRegisters [⟨200⟩]) := by
    decide +kernel
  intro exchange inside
  rcases List.mem_cons.mp inside with rfl | inside
  · have brings : Rtu.Brings .default [⟨1000, .ok ⟨damaged, by decide⟩⟩] (some damaged) :=
      ⟨by decide, by decide, .cons (by decide) .nil, List.isChain_singleton _⟩
    refine ⟨by decide, .damaged brings ?_⟩
    intro received decoded
    cases fails.symm.trans decoded
  · obtain rfl := List.mem_singleton.mp inside
    have brings : Rtu.Brings .default [⟨8000000, .ok ⟨second, by decide⟩⟩] (some second) :=
      ⟨by decide, by decide, .cons (by decide) .nil, List.isChain_singleton _⟩
    refine ⟨by decide, .intact rfl brings ?_⟩
    intro unit response decoded
    cases decodes.symm.trans decoded
    rfl

/-- The first answer, split by a silence, costs two calls; from then on every call
returns the answer to the one before it. -/
theorem split_answer_shifts_the_line :
    let framing := rtu Rtu.crc16Modbus
    let first : Bytes := [1, 3, 2, 0, 100, 185, 175]
    let second : Bytes := [1, 3, 2, 0, 200, 185, 210]
    let third : Bytes := [1, 3, 2, 1, 44, 184, 9]
    let exchanges := [
      readRegister 0 first
        [⟨1000, .ok ⟨first.take 3, by decide⟩⟩, ⟨5000000, .ok ⟨first.drop 3, by decide⟩⟩],
      readRegister 3000000 second [⟨9000000, .ok ⟨second, by decide⟩⟩],
      readRegister 8100000 third [⟨20000000, .ok ⟨third, by decide⟩⟩]]
    framing.decodeResponse (first.take 3) = .error (.truncated 4 3) ∧
    framing.decodeResponse (first.drop 3) = .error (.checksum 23296 44985) ∧
    framing.decodeResponse third = .ok (⟨1⟩, .readHoldingRegisters [⟨300⟩]) ∧
    (calls (.serial framing) (FrameTransport.clientTransport framing .default (rtu_refuses Rtu.crc16Modbus))
      exchanges (serialClient 0 none millisecondTimer .default)).1 =
      [some (.error (.truncated 4 3)), some (.error (.checksum 23296 44985)),
        some (.ok (some (.readHoldingRegisters [⟨200⟩])))] := by
  decide +kernel

end Modbus
