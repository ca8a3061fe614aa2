import Modbus.Client
import Modbus.Reassembly

/-! The transport over a byte stream, seen from a client: what it writes, and
what the line brings back for each request. -/
namespace Modbus

open Bytes ByteStream

/-- What becomes of one request: how its write ends, and what then arrives. A write that
fails or is abandoned has put `accepted` bytes on the wire. -/
structure Passage where
  written : Nat
  accepted : Nat
  failure : Option ReadFailure
  arrivals : Reads

/-- A link at a later time, with more to read. -/
def Link.deliver (link : Link) (time : Nat) (arrivals : Reads) : Link :=
  ⟨⟨max link.stream.now time, link.stream.arrivals ++ arrivals, link.stream.ending, link.stream.timer⟩,
    link.buffer⟩

structure FrameTransport where
  reader : Reader
  outgoing : Bytes
  /-- Everything put on the wire so far. -/
  wire : Bytes
  /-- What becomes of the next request. -/
  passage : Passage

namespace FrameTransport

variable {Header : Type}

def new (stream : Line) : FrameTransport := ⟨.new stream, [], [], ⟨0, 0, none, []⟩⟩

/-- `shared::send`. -/
def send (limit : Option Nat) (transport : FrameTransport) : Option (Result Unit) × FrameTransport :=
  let part := transport.outgoing.take transport.passage.accepted
  if Within (max transport.reader.link.stream.now transport.passage.written) limit then
    match transport.passage.failure with
    | some failure => (some (.error failure.error), { transport with wire := transport.wire ++ part })
    | none =>
      (some (.ok ()), { transport with
        reader := { transport.reader with
          link := transport.reader.link.deliver transport.passage.written transport.passage.arrivals }
        wire := transport.wire ++ transport.outgoing
        outgoing := [] })
  else (none, { transport with wire := transport.wire ++ part })

def sendRequest (framing : Framing Header) (header : Header) (pdu : RequestPdu) (limit : Option Nat)
    (transport : FrameTransport) : Option (Result Unit) × FrameTransport :=
  match (framing.encodeRequestInto header pdu).run [] with
  | (.error e, outgoing) => (some (.error e), { transport with outgoing := outgoing })
  | (.ok (), outgoing) => send limit { transport with outgoing := outgoing }

def recvResponse (framing : Framing Header) (config : TransportConfig) (limit : Option Nat)
    (transport : FrameTransport) : Option (Result (Header × ResponsePdu)) × FrameTransport :=
  match recvAdu framing config .response limit transport.reader with
  | (none, reader) => (none, { transport with reader := reader })
  | (some received, reader) =>
    (some (received.bind framing.decodeResponse), { transport with reader := reader })

def sendResponse (framing : Framing Header) (header : Header) (pdu : ResponsePdu) (limit : Option Nat)
    (transport : FrameTransport) : Option (Result Unit) × FrameTransport :=
  match (framing.encodeResponseInto header pdu).run [] with
  | (.error e, outgoing) => (some (.error e), { transport with outgoing := outgoing })
  | (.ok (), outgoing) => send limit { transport with outgoing := outgoing }

def recvRequest (framing : Framing Header) (config : TransportConfig) (limit : Option Nat)
    (transport : FrameTransport) : Option (Result (Header × RequestPdu)) × FrameTransport :=
  match transport.reader.recvRequest framing config limit with
  | (received, reader) => (received, { transport with reader := reader })

/-- The transport after a time in which its owner leaves it alone. -/
def elapse (time : Nat) (transport : FrameTransport) : FrameTransport :=
  { transport with reader := { transport.reader with
      link := transport.reader.link.deliver (transport.reader.link.stream.now + time) [] } }

end FrameTransport

/-- Bytes a link holds or will read. -/
def Link.remaining (link : Link) : Nat := link.buffer.length + bytesIn link.stream.arrivals

theorem Link.Ahead.deliver {link : Link} {ending : Option Nat} {bytes more : Bytes} {arrivals : Reads}
    (ahead : link.Ahead ending bytes) (carries : Carries arrivals more) (time : Nat) :
    (link.deliver time arrivals).Ahead ending (bytes ++ more) := by
  obtain ⟨same, unread, coming, rfl⟩ := ahead
  exact ⟨same, unread ++ more, coming.append carries, List.append_assoc ..⟩

theorem Link.Ahead.remaining {link : Link} {ending : Option Nat} {bytes : Bytes}
    (ahead : link.Ahead ending bytes) : link.remaining = bytes.length := by
  obtain ⟨_, unread, carries, rfl⟩ := ahead
  rw [Link.remaining, carries.bytesIn, List.length_append]

theorem Link.Ahead.wait {link : Link} {ending : Option Nat} {bytes : Bytes} {arrivals : Reads}
    (ahead : link.Ahead ending bytes) (nothing : arrivals = []) {time : Nat} :
    (link.deliver time arrivals).Ahead ending bytes := by
  subst nothing
  simpa using ahead.deliver .nil time

namespace Receive

def weight : Result Bytes → Nat
  | .ok adu => adu.length
  | .error _ => 0

theorem readMore_conserves (buffer : Bytes) (midAdu : Bool) {weigh : Result α → Nat}
    (weightless : ∀ e, weigh (.error e) = 0) :
    (readMore buffer midAdu).Conserves List.length weigh buffer.length := by
  constructor <;> simp [readMore, weightless]

theorem fillTurn_conserves (len : Nat) : Conserves (fillTurn len) List.length (fun _ => 0) where
  stop turned := by
    obtain ⟨_, rfl, _⟩ := fillTurn_stop turned
    exact Nat.le_refl _
  await turned := by
    obtain ⟨rfl, rfl⟩ := fillTurn_await turned
    exact ⟨Nat.le_refl _, readMore_conserves _ _ fun _ => rfl⟩

theorem silenceTurn_conserves (max interval : Nat) :
    Conserves (silenceTurn max interval) List.length weight where
  stop turned := by
    simp only [silenceTurn] at turned
    split at turned
    · cases turned
    · split at turned <;> cases turned
      simp [weight]
  await turned := by
    simp only [silenceTurn] at turned
    split at turned
    · cases turned
      exact ⟨Nat.le_refl _, readMore_conserves _ _ fun _ => rfl⟩
    · split at turned <;> cases turned
      exact ⟨Nat.le_refl _, by constructor <;> simp [weight]⟩

theorem contentTurn_conserves (max : Nat) (extent : Direction → Bytes → Result Extent)
    (direction : Direction) : Conserves (contentTurn max extent direction) List.length weight where
  stop turned := by
    cases contentTurn_stop turned with
    | complete =>
      simp only [weight, List.length_drop, List.length_take]
      omega
    | refused => simp [weight]
    | full => simp [weight]
  await turned := by
    obtain ⟨rfl, rfl⟩ := contentTurn_await turned
    exact ⟨Nat.le_refl _, readMore_conserves _ _ fun _ => rfl⟩

theorem locate_length (start : UInt8) (terminator : Bytes) (state : Search) :
    (locate start terminator state).2.buffer.length ≤ state.buffer.length := by
  unfold locate
  split
  · simp only
    split <;> split <;> simp
  · simp

theorem delimitedTurn_conserves (max timeout : Nat) (start : UInt8) (terminator : Bytes) :
    Conserves (delimitedTurn max timeout start terminator) (fun state => state.buffer.length) weight where
  stop {state _ _} turned := by
    have shorter := locate_length start terminator state
    simp only [delimitedTurn] at turned
    split at turned
    · next located =>
      cases turned
      rw [located] at shorter
      simp only [weight, List.length_drop, List.length_take] at shorter ⊢
      omega
    · next located =>
      split at turned <;> cases turned
      rw [located] at shorter
      simpa [weight] using shorter
  await {state _ _} turned := by
    have shorter := locate_length start terminator state
    simp only [delimitedTurn] at turned
    split at turned
    · cases turned
    · next located =>
      split at turned <;> cases turned
      rw [located] at shorter
      exact ⟨shorter, fun bytes => by simpa using shorter, shorter, shorter, fun _ => shorter⟩

theorem loop_conserves {turn : Bytes → Turn ReadFailure Bytes (Result α)} {weigh : Result α → Nat}
    (conserves : Conserves turn List.length weigh) {limit : Option Nat} {link after : Link}
    {result : Result α} (ran : loop turn limit link = (some result, after)) :
    after.remaining + weigh result ≤ link.remaining := by
  unfold loop at ran
  rcases drove : drive turn limit link.buffer link.stream with ⟨outcome, buffer, stream⟩
  rw [drove] at ran
  obtain ⟨rfl, rfl⟩ := Prod.mk.inj ran
  exact drive_conserves turn limit conserves drove

theorem andThen_ok {first : Option (Result α) × Link} {next : α → Link → Option (Result β) × Link}
    {b : β} {after : Link} (ran : andThen first next = (some (.ok b), after)) :
    ∃ a link, first = (some (.ok a), link) ∧ next a link = (some (.ok b), after) := by
  rcases first with ⟨_ | e | a, link⟩
  · cases ran
  · cases ran
  · exact ⟨a, link, rfl, ran⟩

theorem fillTo_remaining {max len : Nat} {limit : Option Nat} {link after : Link}
    (filled : fillTo max len limit link = (some (.ok ()), after)) : after.remaining ≤ link.remaining := by
  unfold fillTo at filled
  split at filled
  · cases filled
  · exact loop_conserves (fillTurn_conserves len) filled

variable {Header : Type} {framing : Framing Header} {config : TransportConfig} {direction : Direction}
  {limit : Option Nat} {link after : Link} {adu : Bytes}

/-- A receive takes the bytes of its ADU off the link. -/
theorem readAdu_consumes
    (received : readAdu framing config direction limit link = (some (.ok adu), after)) :
    after.remaining + adu.length ≤ link.remaining := by
  unfold readAdu at received
  split at received
  · obtain ⟨_, middle, filled, rest⟩ := andThen_ok received
    have first := fillTo_remaining filled
    split at rest
    · cases rest
    · obtain ⟨_, last, filled, taken⟩ := andThen_ok rest
      have second := fillTo_remaining filled
      cases taken
      simp only [Link.remaining, List.length_drop, List.length_take] at first second ⊢
      omega
  · next start terminator _ =>
    unfold readDelimited at received
    rcases drove : drive (delimitedTurn framing.maxAduLen config.asciiInterCharacterTimeout start
      terminator) limit ⟨link.buffer, 0⟩ link.stream with ⟨outcome, state, stream⟩
    rw [drove] at received
    obtain ⟨rfl, rfl⟩ := Prod.mk.inj received
    exact drive_conserves _ limit (delimitedTurn_conserves _ _ _ _) drove
  · exact loop_conserves (silenceTurn_conserves _ _) received
  · obtain ⟨_, middle, filled, rest⟩ := andThen_ok received
    have first := fillTo_remaining filled
    exact Nat.le_trans (loop_conserves (contentTurn_conserves _ _ _) rest) first

end Receive

namespace FrameTransport

variable {Header : Type}

theorem recvResponse_consumes {framing : Framing Header}
    (refuses : ∀ received, framing.decodeResponse [] ≠ .ok received) {config : TransportConfig}
    {limit : Option Nat} {transport after : FrameTransport} {received : Header × ResponsePdu}
    (ran : recvResponse framing config limit transport = (some (.ok received), after)) :
    after.reader.link.remaining < transport.reader.link.remaining := by
  obtain ⟨⟨link, receiving⟩, outgoing, wire, passage⟩ := transport
  unfold recvResponse recvAdu at ran
  cases receiving with
  | true => cases ran
  | false =>
    rcases reading : Receive.readAdu framing config .response limit link with ⟨_ | e | adu, next⟩
    · simp [reading] at ran
    · simp only [reading] at ran
      cases ran
    · simp only [reading, Bool.false_eq_true, if_false, Prod.mk.injEq, Option.some.injEq] at ran
      obtain ⟨decodes, rfl⟩ := ran
      have shorter := Receive.readAdu_consumes reading
      have nonempty : adu ≠ [] := by
        rintro rfl
        exact refuses received decodes
      have some_bytes := List.length_pos_iff.mpr nonempty
      simp only at shorter ⊢
      omega

/-- What becomes of a frame that is sent and waited for: it does not encode, it is written
and its passage takes its course, or the write breaks off. -/
inductive Sent (transport : FrameTransport) (encoded : Result Bytes) : Result Unit → FrameTransport → Prop
  | unencodable {e : Error} {after : FrameTransport} : encoded = .error e →
      after.wire = transport.wire → after.reader = transport.reader → Sent transport encoded (.error e) after
  | written {adu : Bytes} {after : FrameTransport} : encoded = .ok adu →
      transport.passage.failure = none → after.wire = transport.wire ++ adu →
      after.reader = ⟨transport.reader.link.deliver transport.passage.written transport.passage.arrivals,
        transport.reader.receiving⟩ → Sent transport encoded (.ok ()) after
  | broken {adu : Bytes} {failure : ReadFailure} {after : FrameTransport} : encoded = .ok adu →
      transport.passage.failure = some failure →
      after.wire = transport.wire ++ adu.take transport.passage.accepted →
      after.reader = transport.reader → Sent transport encoded (.error failure.error) after

theorem send_sent (transport : FrameTransport) (outgoing : Bytes) :
    ∃ result after, send none { transport with outgoing := outgoing } = (some result, after) ∧
      transport.Sent (.ok outgoing) result after := by
  rcases failing : transport.passage.failure with _ | failure
  · simp only [send, Within, if_true, failing]
    exact ⟨_, _, rfl, .written rfl failing rfl rfl⟩
  · simp only [send, Within, if_true, failing]
    exact ⟨_, _, rfl, .broken rfl failing rfl rfl⟩

theorem sendRequest_sent (framing : Framing Header) (header : Header) (pdu : RequestPdu)
    (transport : FrameTransport) :
    ∃ result after, transport.sendRequest framing header pdu none = (some result, after) ∧
      transport.Sent (framing.encodeRequest header pdu) result after := by
  unfold sendRequest Framing.encodeRequest ByteWriter.allocating
  rcases (framing.encodeRequestInto header pdu).run [] with ⟨e | _, outgoing⟩
  · exact ⟨_, _, rfl, .unencodable rfl rfl rfl⟩
  · exact send_sent transport outgoing

theorem sendResponse_sent (framing : Framing Header) (header : Header) (pdu : ResponsePdu)
    (transport : FrameTransport) :
    ∃ result after, transport.sendResponse framing header pdu none = (some result, after) ∧
      transport.Sent (framing.encodeResponse header pdu) result after := by
  unfold sendResponse Framing.encodeResponse ByteWriter.allocating
  rcases (framing.encodeResponseInto header pdu).run [] with ⟨e | _, outgoing⟩
  · exact ⟨_, _, rfl, .unencodable rfl rfl rfl⟩
  · exact send_sent transport outgoing

/-- The transport as a client sees it. -/
def clientTransport (framing : Framing Header) (config : TransportConfig)
    (refuses : ∀ received, framing.decodeResponse [] ≠ .ok received) :
    ClientTransport Header FrameTransport where
  now transport := transport.reader.link.stream.now
  timer transport := transport.reader.link.stream.timer
  sendRequest := sendRequest framing
  recvResponse := recvResponse framing config
  remaining transport := transport.reader.link.remaining
  consumes := recvResponse_consumes refuses

end FrameTransport

theorem tcp_refuses (received : MbapHeader × ResponsePdu) : tcp.decodeResponse [] ≠ .ok received := by
  intro decodes
  cases decodes

theorem rtu_refuses (crc16 : Bytes → UInt16) (received : UnitId × ResponsePdu) :
    (rtu crc16).decodeResponse [] ≠ .ok received := by
  intro decodes
  cases decodes

theorem ascii_refuses (received : UnitId × ResponsePdu) : ascii.decodeResponse [] ≠ .ok received := by
  intro decodes
  cases decodes

end Modbus
