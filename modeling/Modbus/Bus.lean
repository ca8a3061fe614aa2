import Modbus.Composition
import Modbus.Damage
import Modbus.LinkSurvival
import Modbus.RtuBurst

/-! Several servers on one serial line. Every frame is heard by all stations but
the one that sends it, so a station hears the requests to the others, and their
answers too. Each of them only speaks when it is spoken to. The line is noisy: a
frame may be garbled or lost, and not in the same way for everyone. -/
namespace Modbus

open Bytes ByteStream

namespace Framing

/-- How long a reader of a serial framing waits inside a frame. -/
def pause (framing : Framing UnitId) (config : TransportConfig) : Nat :=
  match framing.boundary with
  | .silence => config.interFrameInterval
  | _ => config.asciiInterCharacterTimeout

/-- A frame that is ended by silence has to leave room in its reader's buffer. -/
def fits (framing : Framing UnitId) (adu : Bytes) : Bool :=
  match framing.boundary with
  | .silence => adu.length < framing.maxAduLen
  | _ => true

def Sends (framing : Framing UnitId) (adu : Bytes) : Prop :=
  (∃ unit request, framing.encodeRequest unit request = .ok adu) ∨
    ∃ unit response, framing.encodeResponse unit response = .ok adu

def Delimits (framing : Framing UnitId) (adu : Bytes) : Prop :=
  match framing.boundary with
  | .silence => adu ≠ [] ∧ adu.length ≤ framing.maxAduLen
  | .delimited start terminator => Delimited start terminator adu ∧ adu.length ≤ framing.maxAduLen
  | _ => False

/-- A frame of which noise has left nothing to read. -/
structure Garbled (framing : Framing UnitId) (adu : Bytes) : Prop where
  delimits : framing.Delimits adu
  request : ∃ e, framing.decodeRequest adu = .error e
  response : ∃ e, framing.decodeResponse adu = .error e

end Framing

/-- The framing and timing that all stations share, and what they cannot choose: when a frame is
written, what is left of it, and in which reads. -/
structure SerialLine where
  framing : Framing UnitId
  config : TransportConfig
  written : Option UnitId → Nat → Nat
  noise : Nat → Option UnitId → Bytes → Bytes
  disturbs : ∀ frame listener adu, framing.Sends adu → noise frame listener adu = adu ∨
    noise frame listener adu = [] ∨ framing.Garbled (noise frame listener adu)
  reads : Nat → Option UnitId → Bytes → Reads
  carries : ∀ frame listener bytes, Carries (reads frame listener bytes) bytes
  close : ∀ frame listener bytes, Close (framing.pause config) (reads frame listener bytes)

/-- The reads in which a listener gets what is left of a frame. -/
def SerialLine.arrives (line : SerialLine) (frame : Nat) (listener : Option UnitId) (adu : Bytes) : Reads :=
  line.reads frame listener (line.noise frame listener adu)

/-- A server with an address of its own. -/
structure Station (σ : Type) where
  unit : UnitId
  service : Service σ
  standing : Standing
  session : Session UnitId σ

namespace Station

variable {σ : Type} (line : SerialLine)

def new (unit : UnitId) (service : Service σ) (timer : Timer) (state : σ) : Station σ :=
  ⟨unit, service, .serving, .new (.new ⟨0, [], none, timer⟩) state⟩

def server (station : Station σ) : Server UnitId σ where
  framing := .serial line.framing
  line := line.config
  config := ⟨some station.unit⟩
  service := station.service
  shutdown := none
  passages n := ⟨line.written (some station.unit) n, 0, none, []⟩

/-- A station hears the frame with this number, and what it then sends itself. -/
def hear (frame : Nat) (adu : Bytes) (station : Station σ) : Bytes × Station σ :=
  match station.standing with
  | .serving =>
    let transport := station.session.transport.deliver (line.arrives frame (some station.unit) adu)
    let (standing, session) := (station.server line).settle (transport.reader.link.remaining + 1)
      { station.session with transport := transport }
    (session.transport.wire.drop station.session.transport.wire.length,
      { station with standing := standing, session := session })
  | _ => ([], station)

def overhear (frame : Nat) (speaker : Option UnitId) (adu : Bytes) (station : Station σ) : Bytes × Station σ :=
  if speaker = some station.unit then ([], station) else station.hear line frame adu

def asked (station : Station σ) : List (UnitId × RequestPdu × Answer) :=
  station.session.hooks.filterMap Hook.asked

end Station

def Hook.question (asked : UnitId × RequestPdu × Answer) : UnitId × RequestPdu := (asked.1, asked.2.1)

/-- The stations, the client's end, the number of the next frame, and how often a station spoke out
of turn. -/
structure Bus (σ : Type) where
  stations : List (Station σ)
  client : FrameTransport
  frames : Nat
  collisions : Nat

namespace Bus

variable {σ : Type} (line : SerialLine)

def new (timer : Timer) (stations : List (Station σ)) : Bus σ :=
  ⟨stations, .new ⟨0, [], none, timer⟩, 0, 0⟩

def carry (frame : Nat) (speaker : Option UnitId) (adu : Bytes) (stations : List (Station σ)) :
    List (Bytes × Station σ) :=
  stations.map (Station.overhear line frame speaker adu)

def talkers (heard : List (Bytes × Station σ)) : List (UnitId × Bytes) :=
  heard.filterMap fun (reply, station) => if reply = [] then none else some (station.unit, reply)

/-- The client sends a frame. The other stations and the client hear the answer; of several
answers at once nothing can be made out. -/
def speak (adu : Bytes) (bus : Bus σ) : Bus σ :=
  let heard := carry line bus.frames none adu bus.stations
  let stations := heard.map Prod.snd
  match talkers heard with
  | [] => { bus with stations := stations, frames := bus.frames + 2 }
  | [(speaker, reply)] =>
    let echoed := carry line (bus.frames + 1) (some speaker) reply stations
    { stations := echoed.map Prod.snd
      client := bus.client.deliver (line.arrives (bus.frames + 1) none reply)
      frames := bus.frames + 2
      collisions := bus.collisions + (talkers echoed).length }
  | _ => { bus with stations := stations, frames := bus.frames + 2, collisions := bus.collisions + 1 }

end Bus

/-- What a station makes of what it hears, if that is for it. -/
def SerialLine.means (line : SerialLine) (unit : UnitId) (heard : Bytes) : Option (UnitId × RequestPdu) :=
  match line.framing.fits heard, line.framing.decodeRequest heard with
  | true, .ok (address, request) =>
    if address = broadcastUnit ∨ unit = address then some (address, request) else none
  | _, _ => none

theorem SerialLine.means_mine (line : SerialLine) {unit address : UnitId} {request : RequestPdu} {heard : Bytes}
    (means : line.means unit heard = some (address, request)) :
    line.framing.decodeRequest heard = .ok (address, request) ∧ (address = broadcastUnit ∨ unit = address) := by
  unfold SerialLine.means at means
  split at means
  · next decodes =>
    split at means
    · next mine =>
      cases means
      exact ⟨decodes, mine⟩
    · cases means
  · cases means

def SerialLine.understood (line : SerialLine) (frame : Nat) (unit : UnitId) (adu : Bytes) :
    Option (UnitId × RequestPdu) :=
  line.means unit (line.noise frame (some unit) adu)

/-- What the stations rely on. A frame arrives whole, or is refused for its size; a response reads as
a request only under its own address. -/
structure Framing.Serial (framing : Framing UnitId) : Prop where
  takes : ∀ config direction limit link reads adu, framing.Delimits adu → Link.Ahead link none [] →
    Carries reads adu → Close (framing.pause config) reads →
    ∃ result after, Receive.readAdu framing config direction limit (link.deliver 0 reads) = (result, after) ∧
      ((result = none ∧ limit ≠ none) ∨
        (framing.fits adu = true ∧ result = some (.ok adu) ∧ after.Ahead none []) ∨
        (framing.fits adu = false ∧ result = some (.error (.aduTooLarge adu.length framing.maxAduLen)) ∧
          Link.Ahead ⟨after.stream, []⟩ none []))
  idle : ∀ config direction limit now timer,
    (Receive.readAdu framing config direction limit ⟨⟨now, [], none, timer⟩, []⟩).1 = none
  delimits : ∀ adu, framing.Sends adu → framing.Delimits adu
  nonempty : ∀ adu, framing.Delimits adu → adu ≠ []
  refuses : ∀ decoded, framing.decodeRequest [] ≠ .ok decoded
  selfLocating : framing.boundary.isSelfLocating = true
  costs : framing.CostsFrames
  trips : ∃ spelling, framing.RoundTrips spelling
  overheard : ∀ address response adu other request, framing.encodeResponse address response = .ok adu →
    framing.decodeRequest adu = .ok (other, request) → other = address

theorem rtu_sends_length {crc16 : Bytes → UInt16} {adu : Bytes} (sends : (rtu crc16).Sends adu) :
    4 ≤ adu.length ∧ adu.length ≤ 256 := by
  rcases sends with ⟨unit, request, sent⟩ | ⟨unit, response, sent⟩
  · exact rtu_encoded_length (.inl ⟨request, sent⟩)
  · exact rtu_encoded_length (.inr ⟨response, sent⟩)

theorem Rtu.serial (crc16 : Bytes → UInt16) : (rtu crc16).Serial where
  takes config direction limit link reads adu delimits idle carries close := by
    obtain ⟨some_bytes, small⟩ := delimits
    obtain ⟨now, timer, rfl⟩ := exhausted_link idle
    have silent : Outlasts timer config.interFrameInterval (clock (max now 0) reads) [] := trivial
    obtain ⟨result, ⟨stream, buffer⟩, reading, received⟩ := Receive.readUntilSilence_received limit none
      some_bytes small carries close silent
    rw [List.append_nil] at reading
    refine ⟨result, ⟨stream, buffer⟩, reading, ?_⟩
    cases received with
    | whole short left open_ =>
      have nothing : stream.arrivals = [] := by simpa using left
      exact .inr (.inl ⟨decide_eq_true short, rfl, open_, [], nothing ▸ .nil, rfl⟩)
    | tooLarge long left open_ =>
      exact .inr (.inr ⟨decide_eq_false (Nat.not_lt_of_le long), rfl, open_, [], left ▸ .nil, rfl⟩)
    | abandoned limited => exact .inl ⟨rfl, limited⟩
  idle _ _ _ _ _ := rfl
  delimits adu sends := by
    obtain ⟨long, short⟩ := rtu_sends_length sends
    exact ⟨List.ne_nil_of_length_pos (by omega), short⟩
  nonempty _ delimits := delimits.1
  refuses := by
    intro decoded same
    cases same
  selfLocating := rfl
  costs := rtu_costsFrames crc16
  trips := ⟨_, Framing.roundTrips (Rtu.seals crc16)⟩
  overheard _ _ _ _ _ := Framing.response_overheard (Rtu.seals crc16)

namespace Ascii

theorem sends_framed {adu : Bytes} (sends : ascii.Sends adu) : Framed [] adu := by
  rcases sends with ⟨unit, request, sent⟩ | ⟨unit, response, sent⟩
  · obtain ⟨pdu, encoded, rfl⟩ := (Framing.encodeRequest_ok Ascii.seals).mp sent
    obtain ⟨⟨code, body, _, _, shape⟩, size⟩ := RequestPdu.encode_ok.mp encoded
    exact (split_sealed (Ascii.seals.opens unit pdu (by simp [shape]) size)).framed
  · obtain ⟨pdu, encoded, rfl⟩ := (Framing.encodeResponse_ok Ascii.seals).mp sent
    obtain ⟨⟨code, body, _, _, shape⟩, size⟩ := ResponsePdu.encode_ok.mp encoded
    exact (split_sealed (Ascii.seals.opens unit pdu (by simp [shape]) size)).framed

theorem close_unstalled {timeout : Nat} {link : Link} {adu : Bytes} (framed : Framed [] adu)
    (empty : link.buffer = []) (carries : Carries link.stream.arrivals adu)
    (close : Close timeout link.stream.arrivals) : ¬Stalls timeout link := by
  intro ⟨past, coming, reading, pending, begun, late⟩
  cases coming with
  | nil =>
    have all : link.stream.arrivals = past := by simpa using reading.arrivals
    have whole : held link past = adu := by
      rw [held, empty, ← all, carries.delivered, List.nil_append]
      simpa using framed.tail []
    exact pending.unterminated (whole ▸ framed.delimited.ends.isInfix)
  | cons next coming =>
    have some_reads : past ≠ [] := by
      rintro rfl
      exact begun (by simp [held, empty, tail, delivered])
    obtain ⟨before, last, rfl⟩ := (List.eq_nil_or_concat past).resolve_left some_reads
    rw [reading.arrivals] at close
    have soon : next.time < last.time + timeout :=
      (List.isChain_append.mp close).2.2 last (by simp) next (by simp)
    have passed : last.time ≤ clock link.stream.now (before.concat last) := by
      simp [clock, List.foldl_append]
    have slow := late next.time rfl
    have patient := link.stream.timer.patient (clock link.stream.now (before.concat last) + timeout)
    omega

theorem serial : ascii.Serial where
  takes config direction limit link reads adu delimits idle carries close := by
    have framed : Framed [] adu := ⟨List.not_mem_nil, delimits.1, delimits.2⟩
    obtain ⟨now, timer, rfl⟩ := exhausted_link idle
    have ahead : Link.Ahead (Link.deliver ⟨⟨now, [], none, timer⟩, []⟩ 0 reads) none ([] ++ adu ++ []) := by
      simpa using idle.deliver carries 0
    obtain ⟨result, after, reading, outcome⟩ := Receive.readDelimited_ahead
      config.asciiInterCharacterTimeout limit framed.delimited (by decide) framed.quiet framed.small ahead
    refine ⟨result, after, reading, ?_⟩
    rcases outcome with abandoned | ⟨rfl, left⟩ | rfl
    · exact .inl abandoned
    · exact .inr (.inl ⟨rfl, rfl, left⟩)
    · have unstalled : ¬Stalls config.asciiInterCharacterTimeout (Link.deliver ⟨⟨now, [], none, timer⟩, []⟩ 0 reads) :=
        close_unstalled framed rfl carries close
      have failed : Receive.readAdu ascii config direction limit (Link.deliver ⟨⟨now, [], none, timer⟩, []⟩ 0 reads) =
        (some (.error (.timeout "ascii inter-character")), after) := reading
      cases ascii_withstands unstalled failed rfl
  idle _ _ _ _ _ := rfl
  delimits adu sends := ⟨(sends_framed sends).delimited, (sends_framed sends).small⟩
  nonempty _ delimits := delimited_ne_nil delimits.1
  refuses := by
    intro decoded same
    cases same
  selfLocating := rfl
  costs := ascii_costsFrames
  trips := ⟨_, Framing.roundTrips Ascii.seals⟩
  overheard _ _ _ _ _ := Framing.response_overheard Ascii.seals

end Ascii

section Received

variable {framing : Framing UnitId} (serial : framing.Serial) {config : TransportConfig}
  {direction : Direction} {reader : Reader} {reads : Reads} {adu : Bytes}
include serial

theorem recvAdu_heard (limit : Option Nat) (free : reader.receiving = false) (idle : reader.link.Ahead none [])
    (delimits : framing.Delimits adu) (carries : Carries reads adu) (close : Close (framing.pause config) reads) :
    ∃ result after, recvAdu framing config direction limit ⟨reader.link.deliver 0 reads, reader.receiving⟩ =
        (result, after) ∧
      ((result = none ∧ limit ≠ none) ∨
        after.receiving = false ∧ after.link.Ahead none [] ∧ result = some (if framing.fits adu then .ok adu
          else .error (.aduTooLarge adu.length framing.maxAduLen))) := by
  obtain ⟨result, link, reading, course⟩ :=
    serial.takes config direction limit reader.link reads adu delimits idle carries close
  rcases course with ⟨rfl, limited⟩ | ⟨small, rfl, left⟩ | ⟨large, rfl, left⟩
  · exact ⟨_, _, by simp only [recvAdu, free, reading]; rfl, .inl ⟨rfl, limited⟩⟩
  · exact ⟨_, _, by simp only [recvAdu, free, reading]; rfl, .inr ⟨rfl, left, by rw [if_pos small]⟩⟩
  · refine ⟨_, _, by simp only [recvAdu, free, reading]; rfl, .inr ⟨rfl, ?_, by simp [large]⟩⟩
    simpa [serial.selfLocating] using left

theorem recvAdu_unsent (limit : Option Nat) (free : reader.receiving = false)
    (idle : reader.link.Ahead none []) :
    ∃ after, recvAdu framing config direction limit reader = (none, after) := by
  obtain ⟨now, timer, exhausted⟩ := exhausted_link idle
  have waits := serial.idle config direction limit now timer
  rw [← exhausted] at waits
  rcases receiving : recvAdu framing config direction limit reader with ⟨result, after⟩
  cases recvAdu_received receiving with
  | latched latch => cases free.symm.trans latch
  | abandoned => exact ⟨_, rfl⟩
  | adu _ reading | failed _ reading =>
    rw [reading] at waits
    cases waits

end Received

theorem Server.reply_encodes {server : Server Header σ} {header : Header} {request : RequestPdu} {answer : Answer}
    (replies : server.reply header request answer ≠ []) :
    server.framing.isBroadcast (server.framing.unit header) = false ∧
      ∃ response, answer.response request.function = some response ∧
        server.framing.encodeResponse header response = .ok (server.reply header request answer) := by
  unfold reply at replies ⊢
  cases broadcast : server.framing.isBroadcast (server.framing.unit header) with
  | true => simp [broadcast] at replies
  | false =>
    cases stands : answer.response request.function with
    | none => simp [broadcast, stands] at replies
    | some response =>
      cases encoded : server.framing.encodeResponse header response with
      | error e => simp [broadcast, stands, encoded] at replies
      | ok adu => exact ⟨rfl, response, rfl, by simp [encoded]⟩

namespace Station

variable {σ : Type} {line : SerialLine} {station after : Station σ} {adu : Bytes} {hooks : List Hook}

/-- Between two frames: the station has read all there was, and goes on. -/
structure Ready (station : Station σ) : Prop where
  standing : station.standing = .serving
  idle : station.session.transport.reader.link.Ahead none []
  free : station.session.transport.reader.receiving = false

/-- What becomes of a station while its service is notified. -/
structure Becomes (before after : Station σ) (hooks : List Hook) : Prop where
  unit : after.unit = before.unit
  service : after.service = before.service
  notified : after.session.hooks = before.session.hooks ++ hooks
  follows : before.service.Follows before.session.service hooks after.session.service

/-- What a frame comes to at a station: nothing but perhaps an error, or a question and its answer. -/
inductive Takes (line : SerialLine) (station : Station σ) (adu : Bytes) : Bytes → List Hook → Prop
  | ignored {hooks : List Hook} : line.means station.unit adu = none → hooks.filterMap Hook.asked = [] →
      Takes line station adu [] hooks
  | asked {address : UnitId} {request : RequestPdu} {answer : Answer} {hooks : List Hook} :
      line.means station.unit adu = some (address, request) →
      hooks.filterMap Hook.asked = [(address, request, answer)] →
      Takes line station adu ((station.server line).reply address request answer) hooks

def received (line : SerialLine) (adu : Bytes) : Result (UnitId × RequestPdu) :=
  if line.framing.fits adu then line.framing.decodeRequest adu
  else .error (.aduTooLarge adu.length line.framing.maxAduLen)

theorem Takes.addressed {reply : Bytes} (takes : Takes line station adu reply hooks) (replies : reply ≠ []) :
    ∃ request response, line.means station.unit adu = some (station.unit, request) ∧
      line.framing.encodeResponse station.unit response = .ok reply := by
  cases takes with
  | ignored => exact absurd rfl replies
  | @asked address request answer _ meaning =>
    have mine := (line.means_mine meaning).2
    obtain ⟨unicast, response, _, encoded⟩ := Server.reply_encodes replies
    obtain rfl : station.unit = address := mine.resolve_left fun same => by
      simp [server, ServerFraming.serial, same] at unicast
    exact ⟨request, response, meaning, encoded⟩

theorem Takes.questions {reply : Bytes} (takes : Takes line station adu reply hooks) :
    (hooks.filterMap Hook.asked).map Hook.question = (line.means station.unit adu).toList := by
  cases takes with
  | ignored meaning unasked => rw [meaning, unasked]; rfl
  | asked meaning asked => rw [meaning, asked]; rfl

theorem Becomes.trans {last : Station σ} {more : List Hook} (first : station.Becomes after hooks)
    (second : after.Becomes last more) : station.Becomes last (hooks ++ more) where
  unit := second.unit.trans first.unit
  service := second.service.trans first.service
  notified := by rw [second.notified, first.notified, List.append_assoc]
  follows := first.follows.append (first.service ▸ second.follows)

end Station

namespace Bus

variable {σ : Type} {line : SerialLine}

/-- Between two exchanges: all stations are ready, and they have addresses of their own. -/
structure Ready (bus : Bus σ) : Prop where
  stations : ∀ station ∈ bus.stations, station.Ready
  distinct : (bus.stations.map Station.unit).Nodup
  addressed : ∀ station ∈ bus.stations, station.unit ≠ broadcastUnit

/-- What a frame of the client and the answer to it come to at one station. -/
def Heard (line : SerialLine) (frame : Nat) (adu reply : Bytes) (before after : Station σ) : Prop :=
  after.Ready ∧ ∃ hooks echo, Station.Takes line before (line.noise frame (some before.unit) adu) reply hooks ∧
    before.Becomes after (hooks ++ echo) ∧ echo.filterMap Hook.asked = []

/-- What a frame of the client comes to, with what each station is then. -/
structure Spoken (line : SerialLine) (adu : Bytes) (before after : Bus σ) (now : Station σ → Station σ) : Prop where
  stations : after.stations = before.stations.map now
  heard : ∀ station ∈ before.stations, ∃ reply, Heard line before.frames adu reply station (now station) ∧
    (reply ≠ [] → after.client = before.client.deliver (line.arrives (before.frames + 1) none reply))
  client : after.client = before.client ∨ ∃ station ∈ before.stations, ∃ request,
    line.understood before.frames station.unit adu = some (station.unit, request)
  wire : after.client.wire = before.client.wire
  frames : after.frames = before.frames + 2
  collisions : after.collisions = before.collisions

theorem Spoken.ready {adu : Bytes} {before after : Bus σ} {now : Station σ → Station σ}
    (spoken : Spoken line adu before after now) (ready : before.Ready) : after.Ready := by
  have units : after.stations.map Station.unit = before.stations.map Station.unit := by
    rw [spoken.stations, List.map_map]
    refine List.map_congr_left fun station inside => ?_
    obtain ⟨_, ⟨_, _, _, _, becomes, _⟩, _⟩ := spoken.heard station inside
    exact becomes.unit
  refine ⟨?_, units ▸ ready.distinct, ?_⟩
  · intro station inside
    rw [spoken.stations] at inside
    obtain ⟨earlier, there, rfl⟩ := List.mem_map.mp inside
    obtain ⟨_, ⟨still, _⟩, _⟩ := spoken.heard earlier there
    exact still
  · intro station inside
    obtain ⟨earlier, there, same⟩ := List.mem_map.mp (units ▸ List.mem_map_of_mem inside)
    exact same ▸ ready.addressed earlier there

section Speak

variable {bus : Bus σ} {adu : Bytes} (serial : line.framing.Serial)
include serial

theorem understood_whole (sends : line.framing.Sends adu) {frame : Nat} {unit address : UnitId} {request : RequestPdu}
    (understood : line.understood frame unit adu = some (address, request)) :
    line.noise frame (some unit) adu = adu ∧ line.framing.decodeRequest adu = .ok (address, request) ∧
      (address = broadcastUnit ∨ unit = address) := by
  obtain ⟨decodes, mine⟩ := line.means_mine understood
  rcases line.disturbs frame (some unit) adu sends with same | lost | garbled
  · exact ⟨same, same ▸ decodes, mine⟩
  · rw [lost] at decodes
    exact absurd decodes (serial.refuses _)
  · obtain ⟨e, fails⟩ := garbled.request
    cases fails.symm.trans decodes

end Speak

end Bus

theorem bytewise_close {interval : Nat} (patient : 0 < interval) (bytes : Bytes) :
    Close interval (Channel.bytewise.upstream 0 bytes) := by
  rw [Close, show Channel.bytewise.upstream 0 bytes = bytes.map _ from rfl, List.isChain_map]
  exact (List.pairwise_of_forall fun _ _ => by simpa using patient).isChain

def SerialLine.bytewise (framing : Framing UnitId) (config : TransportConfig) (patient : 0 < framing.pause config)
    (noise : Nat → Option UnitId → Bytes → Bytes) (disturbs : ∀ frame listener adu, framing.Sends adu →
      noise frame listener adu = adu ∨ noise frame listener adu = [] ∨ framing.Garbled (noise frame listener adu)) :
    SerialLine where
  framing := framing
  config := config
  written _ _ := 0
  noise := noise
  disturbs := disturbs
  reads _ _ bytes := Channel.bytewise.upstream 0 bytes
  carries _ _ bytes := Channel.bytewise.up_carries 0 bytes
  close _ _ bytes := bytewise_close patient bytes

end Modbus
