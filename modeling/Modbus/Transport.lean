import Modbus.AduRoundTrip
import Modbus.ByteStream

/-! The receiving side of a transport: one ADU per call out of a byte stream,
by the boundary rule of the framing. A call that is abandoned leaves what it had
read and the latch that marks the receive as unfinished. -/
namespace Modbus

open Bytes ByteStream

def readChunk : Nat := 513

/-- A failed read, by kind and operating system code. -/
structure ReadFailure where
  kind : ErrorKind
  rawOsError : Option Int32
  deriving DecidableEq, Repr

abbrev Line := ByteStream readChunk ReadFailure

/-- Times are in nanoseconds, and the runtime's timers go off on whole milliseconds. -/
def millisecondTimer : Timer := .ticking 1000000 (by decide)

abbrev Reads := List (Arrival readChunk ReadFailure)

structure TransportConfig where
  interFrameInterval : Nat
  asciiInterCharacterTimeout : Nat
  deriving DecidableEq, Repr

def TransportConfig.default : TransportConfig := ⟨2005208, 1000000000⟩

/-- The stream and the bytes read but not yet consumed. -/
structure Link where
  stream : Line
  buffer : Bytes

/-- What a read that ended or failed turns into. The end of the stream inside an ADU
severs a frame, between ADUs it ends the stream. -/
def endOfStream (midAdu : Bool) : Error :=
  if midAdu then .connectionClosed else .io .unexpectedEof none

def ReadFailure.error (failure : ReadFailure) : Error := .io failure.kind failure.rawOsError

/-- First index at or after `start` where `needle` occurs. -/
def find (haystack needle : Bytes) (start : Nat) : Option Nat :=
  if start ≤ haystack.length then
    let rest := haystack.drop start
    let windows := (List.range (rest.length + 1 - needle.length)).map fun i =>
      (rest.drop i).take needle.length
    (windows.findIdx? (· == needle)).map (· + start)
  else none

def checkBufferBound (max : Nat) (buffer : Bytes) : Result Unit :=
  if buffer.length ≥ max then .error (.aduTooLarge buffer.length max) else .ok ()

theorem checkBufferBound_ok {max : Nat} {buffer : Bytes} {u : Unit} :
    checkBufferBound max buffer = .ok u ↔ buffer.length < max := by
  simp [checkBufferBound]

namespace Receive

/-- `read_more` of a loop whose state is the buffer. Without a timer `elapsed` is never taken. -/
def readMore (buffer : Bytes) (midAdu : Bool) : Await ReadFailure Bytes (Result α) where
  timer := none
  data bytes := buffer ++ bytes
  elapsed := (.error (endOfStream midAdu), buffer)
  ended := (.error (endOfStream midAdu), buffer)
  failed failure := (.error failure.error, buffer)

def loop (turn : Bytes → Turn ReadFailure Bytes (Result α)) (limit : Option Nat) (link : Link) :
    Option (Result α) × Link :=
  let (result, buffer, stream) := drive turn limit link.buffer link.stream
  (result, ⟨stream, buffer⟩)

def fillTurn (len : Nat) (buffer : Bytes) : Turn ReadFailure Bytes (Result Unit) :=
  if buffer.length < len then .await buffer (readMore buffer (!buffer.isEmpty)) else .stop (.ok ()) buffer

def fillTo (max len : Nat) (limit : Option Nat) (link : Link) : Option (Result Unit) × Link :=
  if len > max then (some (.error (.aduTooLarge len max)), link)
  else loop (fillTurn len) limit link

/-- Continue with the next part of a receive when the one before succeeded. -/
def andThen (first : Option (Result α) × Link) (next : α → Link → Option (Result β) × Link) :
    Option (Result β) × Link :=
  match first with
  | (some (.ok a), link) => next a link
  | (some (.error e), link) => (some (.error e), link)
  | (none, link) => (none, link)

def take (len : Nat) (link : Link) : Option (Result Bytes) × Link :=
  (some (.ok (link.buffer.take len)), ⟨link.stream, link.buffer.drop len⟩)

def readPrefixed (max prefixLen : Nat) (total : Bytes → Result Nat) (limit : Option Nat)
    (link : Link) : Option (Result Bytes) × Link :=
  andThen (fillTo max prefixLen limit link) fun _ link =>
    match total (link.buffer.take prefixLen) with
    | .error e => (some (.error e), link)
    | .ok len => andThen (fillTo max len limit link) fun _ link => take len link

/-- State of the delimited reader: the buffer and how much of it holds no terminator. -/
structure Search where
  buffer : Bytes
  searched : Nat

def locate (start : UInt8) (terminator : Bytes) (state : Search) : Option Nat × Search :=
  match state.buffer.findIdx? (· == start) with
  | some offset =>
    let buffer := if offset > 0 then state.buffer.drop offset else state.buffer
    let searched := if offset > 0 then 0 else state.searched
    match find buffer terminator searched with
    | some found => (some (found + terminator.length), ⟨buffer, searched⟩)
    | none => (none, ⟨buffer, buffer.length - (terminator.length - 1)⟩)
  | none => (none, ⟨[], 0⟩)

def delimitedTurn (max timeout : Nat) (start : UInt8) (terminator : Bytes) (state : Search) :
    Turn ReadFailure Search (Result Bytes) :=
  match locate start terminator state with
  | (some len, state) => .stop (.ok (state.buffer.take len)) ⟨state.buffer.drop len, state.searched⟩
  | (none, state) =>
    match checkBufferBound max state.buffer with
    | .error e => .stop (.error e) state
    | .ok () => .await state {
        timer := if state.buffer.isEmpty then none else some timeout
        data := fun bytes => ⟨state.buffer ++ bytes, state.searched⟩
        elapsed := (.error (.timeout "ascii inter-character"), state)
        ended := (.error (endOfStream (!state.buffer.isEmpty)), state)
        failed := fun failure => (.error failure.error, state) }

def readDelimited (max timeout : Nat) (start : UInt8) (terminator : Bytes) (limit : Option Nat)
    (link : Link) : Option (Result Bytes) × Link :=
  let (result, state, stream) :=
    drive (delimitedTurn max timeout start terminator) limit ⟨link.buffer, 0⟩ link.stream
  (result, ⟨stream, state.buffer⟩)

def silenceTurn (max interval : Nat) (buffer : Bytes) : Turn ReadFailure Bytes (Result Bytes) :=
  if buffer.isEmpty then .await buffer (readMore buffer false)
  else match checkBufferBound max buffer with
    | .error e => .stop (.error e) buffer
    | .ok () => .await buffer {
        timer := some interval
        data := fun bytes => buffer ++ bytes
        elapsed := (.ok buffer, [])
        ended := (.ok buffer, [])
        failed := fun failure => (.error failure.error, buffer) }

def readUntilSilence (max interval : Nat) (limit : Option Nat) (link : Link) :
    Option (Result Bytes) × Link :=
  loop (silenceTurn max interval) limit link

def contentTurn (max : Nat) (extent : Direction → Bytes → Result Extent) (direction : Direction)
    (buffer : Bytes) : Turn ReadFailure Bytes (Result Bytes) :=
  match extent direction buffer with
  | .error e => .stop (.error e) buffer
  | .ok (.complete len) => .stop (.ok (buffer.take len)) (buffer.drop len)
  | .ok .needMore =>
    match checkBufferBound max buffer with
    | .error e => .stop (.error e) buffer
    | .ok () => .await buffer (readMore buffer true)

def readContentLength (max min : Nat) (extent : Direction → Bytes → Result Extent)
    (direction : Direction) (limit : Option Nat) (link : Link) : Option (Result Bytes) × Link :=
  andThen (fillTo max min limit link) fun _ link => loop (contentTurn max extent direction) limit link

theorem fillTurn_await {len : Nat} {buffer next : Bytes} {pending : Await ReadFailure Bytes (Result Unit)}
    (waits : fillTurn len buffer = .await next pending) :
    next = buffer ∧ pending = readMore buffer (!buffer.isEmpty) := by
  unfold fillTurn at waits
  split at waits <;> cases waits
  exact ⟨rfl, rfl⟩

theorem fillTurn_stop {len : Nat} {buffer next : Bytes} {result : Result Unit}
    (stops : fillTurn len buffer = .stop result next) :
    result = .ok () ∧ next = buffer ∧ len ≤ buffer.length := by
  unfold fillTurn at stops
  split at stops <;> cases stops
  exact ⟨rfl, rfl, by omega⟩

/-- How a turn that measures the frame stops: it hands out the frame, or fails and keeps what it has. -/
inductive Measured (max : Nat) (extent : Direction → Bytes → Result Extent) (direction : Direction)
    (buffer : Bytes) : Result Bytes → Bytes → Prop
  | complete {len : Nat} : extent direction buffer = .ok (.complete len) →
      Measured max extent direction buffer (.ok (buffer.take len)) (buffer.drop len)
  | refused {e : Error} : extent direction buffer = .error e →
      Measured max extent direction buffer (.error e) buffer
  | full {e : Error} : checkBufferBound max buffer = .error e →
      Measured max extent direction buffer (.error e) buffer

section ContentTurn

variable {max : Nat} {extent : Direction → Bytes → Result Extent} {direction : Direction} {buffer next : Bytes}

theorem contentTurn_stop {result : Result Bytes}
    (stops : contentTurn max extent direction buffer = .stop result next) :
    Measured max extent direction buffer result next := by
  unfold contentTurn at stops
  split at stops
  next refused =>
    cases stops
    exact .refused refused
  next complete =>
    cases stops
    exact .complete complete
  · split at stops
    next full =>
      cases stops
      exact .full full
    · cases stops

theorem contentTurn_await {pending : Await ReadFailure Bytes (Result Bytes)}
    (waits : contentTurn max extent direction buffer = .await next pending) :
    next = buffer ∧ pending = readMore buffer true := by
  unfold contentTurn at waits
  split at waits
  · cases waits
  · cases waits
  · split at waits <;> cases waits
    exact ⟨rfl, rfl⟩

end ContentTurn

def readAdu (framing : Framing Header) (config : TransportConfig) (direction : Direction)
    (limit : Option Nat) (link : Link) : Option (Result Bytes) × Link :=
  match framing.boundary with
  | .prefixed prefixLen total => readPrefixed framing.maxAduLen prefixLen total limit link
  | .delimited start terminator =>
    readDelimited framing.maxAduLen config.asciiInterCharacterTimeout start terminator limit link
  | .silence => readUntilSilence framing.maxAduLen config.interFrameInterval limit link
  | .contentLength min extent => readContentLength framing.maxAduLen min extent direction limit link

end Receive

/-- The receiving half of a transport. -/
structure Reader where
  link : Link
  receiving : Bool

def Reader.new (stream : Line) : Reader := ⟨⟨stream, []⟩, false⟩

/-- Read exactly one ADU, leaving any surplus buffered. No result means the receive was
abandoned at `limit`, or never returns. -/
def recvAdu (framing : Framing Header) (config : TransportConfig) (direction : Direction)
    (limit : Option Nat) (reader : Reader) : Option (Result Bytes) × Reader :=
  if reader.receiving then (some (.error (.timeout "receive")), reader)
  else
    match Receive.readAdu framing config direction limit reader.link with
    | (none, link) => (none, ⟨link, true⟩)
    | (some (.ok adu), link) => (some (.ok adu), ⟨link, false⟩)
    | (some (.error e), link) =>
      (some (.error e), ⟨if framing.boundary.isSelfLocating then ⟨link.stream, []⟩ else link, false⟩)

/-- All a receive can come to: it finds an earlier one unfinished, is abandoned, or ends with an
ADU or a failure. -/
inductive Received (framing : Framing Header) (config : TransportConfig) (direction : Direction)
    (limit : Option Nat) (reader : Reader) : Option (Result Bytes) → Reader → Prop
  | latched : reader.receiving = true →
      Received framing config direction limit reader (some (.error (.timeout "receive"))) reader
  | abandoned {link : Link} : reader.receiving = false →
      Receive.readAdu framing config direction limit reader.link = (none, link) →
      Received framing config direction limit reader none ⟨link, true⟩
  | adu {adu : Bytes} {link : Link} : reader.receiving = false →
      Receive.readAdu framing config direction limit reader.link = (some (.ok adu), link) →
      Received framing config direction limit reader (some (.ok adu)) ⟨link, false⟩
  | failed {e : Error} {link : Link} : reader.receiving = false →
      Receive.readAdu framing config direction limit reader.link = (some (.error e), link) →
      Received framing config direction limit reader (some (.error e))
        ⟨if framing.boundary.isSelfLocating then ⟨link.stream, []⟩ else link, false⟩

theorem recvAdu_received {framing : Framing Header} {config : TransportConfig} {direction : Direction}
    {limit : Option Nat} {reader after : Reader} {result : Option (Result Bytes)}
    (ran : recvAdu framing config direction limit reader = (result, after)) :
    Received framing config direction limit reader result after := by
  unfold recvAdu at ran
  cases latch : reader.receiving with
  | true =>
    rw [latch] at ran
    cases ran
    exact .latched latch
  | false =>
    rw [latch] at ran
    rcases reading : Receive.readAdu framing config direction limit reader.link with ⟨_ | e | adu, link⟩
    all_goals
      rw [reading] at ran
      cases ran
    · exact .abandoned latch reading
    · exact .failed latch reading
    · exact .adu latch reading

def recvAdus (framing : Framing Header) (config : TransportConfig) (direction : Direction) :
    Nat → Reader → List (Option (Result Bytes)) × Reader
  | 0, reader => ([], reader)
  | calls + 1, reader =>
    let (result, reader) := recvAdu framing config direction none reader
    let (results, reader) := recvAdus framing config direction calls reader
    (result :: results, reader)

/-- `recv_request`: the ADU has left the buffer before it is decoded. -/
def Reader.recvRequest (framing : Framing Header) (config : TransportConfig) (limit : Option Nat)
    (reader : Reader) : Option (Result (Header × RequestPdu)) × Reader :=
  match recvAdu framing config .request limit reader with
  | (none, reader) => (none, reader)
  | (some received, reader) => (some (received.bind framing.decodeRequest), reader)

def Reader.recvResponse (framing : Framing Header) (config : TransportConfig) (limit : Option Nat)
    (reader : Reader) : Option (Result (Header × ResponsePdu)) × Reader :=
  match recvAdu framing config .response limit reader with
  | (none, reader) => (none, reader)
  | (some received, reader) => (some (received.bind framing.decodeResponse), reader)

/-- Receives in either direction, one after the other, each driven to its end. -/
def recvEach (framing : Framing Header) (config : TransportConfig) :
    List Direction → Reader → List (Option (Result Bytes)) × Reader
  | [], reader => ([], reader)
  | direction :: rest, reader =>
    let (result, reader) := recvAdu framing config direction none reader
    let (results, reader) := recvEach framing config rest reader
    (result :: results, reader)

end Modbus
