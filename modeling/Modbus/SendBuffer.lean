import Modbus.FrameTransport

/-! The one buffer every outgoing ADU is encoded into. A write that fails or is dropped
leaves its ADU there, and the next send begins by clearing it: what a send puts on the
wire is a front part of its own ADU, whatever became of the sends before. -/
namespace Modbus

open Bytes ByteStream ByteSink

variable {Header : Type}

/-- The sending side of a transport, which is all that a split leaves its writer: the buffer, and
everything put on the wire so far. -/
structure FrameTransportWriter where
  outgoing : Bytes
  wire : Bytes

/-- How the stream answers one send: the polls of its writes and of the flush. -/
structure SinkPolls where
  writes : List (Poll ReadFailure Nat)
  flushes : List (Poll ReadFailure Unit)

def writeZero : ReadFailure := ⟨.writeZero, none⟩

namespace FrameTransportWriter

def new : FrameTransportWriter := ⟨[], []⟩

/-- `shared::send`. No result means that the future was dropped. -/
def send (polls : SinkPolls) (writer : FrameTransportWriter) :
    Option (Result Unit) × FrameTransportWriter :=
  let (written, taken) := writeAll writeZero polls.writes writer.outgoing
  let writer := { writer with wire := writer.wire ++ taken }
  match written with
  | none => (none, writer)
  | some (.error failure) => (some (.error failure.error), writer)
  | some (.ok ()) =>
    match flush polls.flushes with
    | none => (none, writer)
    | some (.error failure) => (some (.error failure.error), writer)
    | some (.ok ()) => (some (.ok ()), { writer with outgoing := [] })

/-- Clear the buffer, encode into it and send it. What a failed encoder leaves stays there. -/
def sendEncoded (encode : ByteWriter Error Unit) (polls : SinkPolls) (writer : FrameTransportWriter) :
    Option (Result Unit) × FrameTransportWriter :=
  let writer := { writer with outgoing := [] }
  match encode.run writer.outgoing with
  | (.error e, outgoing) => (some (.error e), { writer with outgoing := outgoing })
  | (.ok (), outgoing) => send polls { writer with outgoing := outgoing }

def sendRequest (framing : Framing Header) (header : Header) (pdu : RequestPdu) (polls : SinkPolls)
    (writer : FrameTransportWriter) : Option (Result Unit) × FrameTransportWriter :=
  writer.sendEncoded (framing.encodeRequestInto header pdu) polls

def sendResponse (framing : Framing Header) (header : Header) (pdu : ResponsePdu) (polls : SinkPolls)
    (writer : FrameTransportWriter) : Option (Result Unit) × FrameTransportWriter :=
  writer.sendEncoded (framing.encodeResponseInto header pdu) polls

end FrameTransportWriter

/-- A call, and how the stream answers it. One that is dropped before its first poll does nothing
and is none. -/
inductive Sending (Header : Type) where
  | request (header : Header) (pdu : RequestPdu) (polls : SinkPolls)
  | response (header : Header) (pdu : ResponsePdu) (polls : SinkPolls)

namespace Sending

def adu (framing : Framing Header) : Sending Header → Result Bytes
  | request header pdu _ => framing.encodeRequest header pdu
  | response header pdu _ => framing.encodeResponse header pdu

def run (framing : Framing Header) : Sending Header → FrameTransportWriter →
    Option (Result Unit) × FrameTransportWriter
  | request header pdu polls, writer => writer.sendRequest framing header pdu polls
  | response header pdu polls, writer => writer.sendResponse framing header pdu polls

def runEach (framing : Framing Header) (calls : List (Sending Header)) (writer : FrameTransportWriter) :
    FrameTransportWriter :=
  calls.foldl (fun writer call => (call.run framing writer).2) writer

end Sending

/-- What a call may put on the wire: nothing if there is no ADU, else a front part of it, and all
of it if the call succeeds. -/
def OwnBytes (adu : Result Bytes) (result : Option (Result Unit)) (bytes : Bytes) : Prop :=
  match adu with
  | .error e => result = some (.error e) ∧ bytes = []
  | .ok adu => bytes <+: adu ∧ (result = some (.ok ()) → bytes = adu)

/-- After any calls the buffer holds no more than the largest ADU, and the next call puts only
bytes of its own on the wire. -/
def SendsApart (framing : Framing Header) : Prop :=
  ∀ earlier call, let writer := Sending.runEach framing earlier .new
    writer.outgoing.length ≤ framing.maxAduLen ∧
      ∃ bytes, (Sending.run framing call writer).2.wire = writer.wire ++ bytes ∧
        OwnBytes (call.adu framing) (Sending.run framing call writer).1 bytes

namespace FrameTransportWriter

/-- The ways a send can end. Only a successful one empties the buffer. -/
inductive Sends (writer : FrameTransportWriter) : Option (Result Unit) → FrameTransportWriter → Prop
  | dropped {taken : Bytes} (front : taken <+: writer.outgoing) :
    Sends writer none { writer with wire := writer.wire ++ taken }
  | failed {taken : Bytes} (front : taken <+: writer.outgoing) (failure : ReadFailure) :
    Sends writer (some (.error failure.error)) { writer with wire := writer.wire ++ taken }
  | sent : Sends writer (some (.ok ())) ⟨[], writer.wire ++ writer.outgoing⟩

theorem send_sends (polls : SinkPolls) (writer : FrameTransportWriter) :
    writer.Sends (writer.send polls).1 (writer.send polls).2 := by
  unfold send
  rcases wrote : writeAll writeZero polls.writes writer.outgoing with ⟨_ | failure | _, taken⟩
  · exact .dropped (writeAll_takes wrote).1
  · exact .failed (writeAll_takes wrote).1 failure
  · obtain ⟨front, whole⟩ := writeAll_takes wrote
    rcases flush polls.flushes with _ | failure | _
    · exact .dropped front
    · exact .failed front failure
    · rw [whole rfl]
      exact .sent

theorem Sends.own {writer after : FrameTransportWriter} {result : Option (Result Unit)}
    (sends : writer.Sends result after) :
    after.outgoing.length ≤ writer.outgoing.length ∧
      ∃ bytes, after.wire = writer.wire ++ bytes ∧ OwnBytes (.ok writer.outgoing) result bytes := by
  cases sends with
  | dropped front => exact ⟨Nat.le_refl _, _, rfl, front, fun ended => by cases ended⟩
  | failed front failure => exact ⟨Nat.le_refl _, _, rfl, front, fun ended => by cases ended⟩
  | sent => exact ⟨Nat.zero_le _, _, rfl, List.prefix_refl _, fun _ => rfl⟩

theorem sendEncoded_own {encode : ByteWriter Error Unit} {adu : Result Bytes} {max : Nat}
    (leaves : ByteWriter.AppendsOrLeaves encode adu) (fits : ∀ data, adu = .ok data → data.length ≤ max)
    (polls : SinkPolls) (writer : FrameTransportWriter) :
    (writer.sendEncoded encode polls).2.outgoing.length ≤ max ∧
      ∃ bytes, (writer.sendEncoded encode polls).2.wire = writer.wire ++ bytes ∧
        OwnBytes adu (writer.sendEncoded encode polls).1 bytes := by
  have encoded := leaves []
  cases adu with
  | error e =>
    simp only [sendEncoded, encoded]
    exact ⟨Nat.zero_le _, [], (List.append_nil _).symm, rfl, rfl⟩
  | ok data =>
    simp only [sendEncoded, encoded, List.nil_append]
    obtain ⟨shorter, own⟩ := (send_sends polls ⟨data, writer.wire⟩).own
    exact ⟨shorter.trans (fits data rfl), own⟩

end FrameTransportWriter

section Calls

variable {framing : Framing Header} {spelling : Bytes → Bytes}

theorem Framing.RoundTrips.request_fits (trips : framing.RoundTrips spelling) {header : Header}
    {pdu : RequestPdu} {adu : Bytes} (encoded : framing.encodeRequest header pdu = .ok adu) :
    adu.length ≤ framing.maxAduLen := by
  obtain ⟨data, written⟩ := (trips.request_encodes header pdu).mp ⟨adu, encoded⟩
  exact (trips.request_decodes header pdu adu data encoded written).1

theorem Framing.RoundTrips.response_fits (trips : framing.RoundTrips spelling) {header : Header}
    {pdu : ResponsePdu} {adu : Bytes} (encoded : framing.encodeResponse header pdu = .ok adu) :
    adu.length ≤ framing.maxAduLen := by
  obtain ⟨data, written⟩ := (trips.response_encodes header pdu).mp ⟨adu, encoded⟩
  exact (trips.response_decodes header pdu adu data encoded written).1

theorem Sending.run_own (leaves : framing.EncodesOrLeaves) (trips : framing.RoundTrips spelling)
    (call : Sending Header) (writer : FrameTransportWriter) :
    (call.run framing writer).2.outgoing.length ≤ framing.maxAduLen ∧
      ∃ bytes, (call.run framing writer).2.wire = writer.wire ++ bytes ∧
        OwnBytes (call.adu framing) (call.run framing writer).1 bytes := by
  cases call with
  | request header pdu polls =>
    exact FrameTransportWriter.sendEncoded_own ((leaves header).1 pdu) (fun _ => trips.request_fits) polls writer
  | response header pdu polls =>
    exact FrameTransportWriter.sendEncoded_own ((leaves header).2 pdu) (fun _ => trips.response_fits) polls writer

theorem Sending.runEach_bounded (leaves : framing.EncodesOrLeaves) (trips : framing.RoundTrips spelling)
    (calls : List (Sending Header)) (writer : FrameTransportWriter)
    (bounded : writer.outgoing.length ≤ framing.maxAduLen) :
    (Sending.runEach framing calls writer).outgoing.length ≤ framing.maxAduLen := by
  induction calls generalizing writer with
  | nil => exact bounded
  | cons call calls ih => exact ih _ (call.run_own leaves trips writer).1

theorem sendsApart (leaves : framing.EncodesOrLeaves) (trips : framing.RoundTrips spelling) :
    SendsApart framing := by
  intro earlier call writer
  exact ⟨Sending.runEach_bounded leaves trips earlier .new (Nat.zero_le _), (call.run_own leaves trips writer).2⟩

end Calls

/-- Sends do not leak into each other, in any framing. -/
theorem sends_stay_apart (crc16 : Bytes → UInt16) :
    SendsApart tcp ∧ SendsApart (rtu crc16) ∧ SendsApart (rtuOverTcp crc16) ∧ SendsApart ascii :=
  ⟨sendsApart (Framing.encodesOrLeaves Tcp.wrapInto_leaves) (Framing.roundTrips Tcp.seals),
    sendsApart (Framing.encodesOrLeaves (Rtu.wrapInto_leaves crc16)) (Framing.roundTrips (Rtu.seals crc16)),
    sendsApart (Framing.encodesOrLeaves (Rtu.wrapInto_leaves crc16)) (Framing.roundTrips (Rtu.seals crc16)),
    sendsApart (Framing.encodesOrLeaves Ascii.wrapInto_leaves) (Framing.roundTrips Ascii.seals)⟩

example :
    Sending.runEach tcp
      [.request ⟨⟨1⟩, ⟨0x11⟩⟩ .readExceptionStatus ⟨[.pending, .ready 3, .failed ⟨.brokenPipe, none⟩], []⟩,
        .request ⟨⟨2⟩, ⟨0x11⟩⟩ .readExceptionStatus ⟨[.ready 5, .pending, .ready 3], [.ready ()]⟩] .new =
      ⟨[], [0, 1, 0] ++ [0, 2, 0, 0, 0, 2, 0x11, 7]⟩ := rfl

namespace FrameTransport

open FrameTransportWriter (send_sends sendEncoded)

/-- `split` hands its buffer to the writer. -/
def writer (transport : FrameTransport) : FrameTransportWriter := ⟨transport.outgoing, transport.wire⟩

def seen (ran : Option (Result Unit) × FrameTransport) : Option (Result Unit) × FrameTransportWriter :=
  (ran.1, ran.2.writer)

theorem send_refined (polls : SinkPolls) (transport : FrameTransport) :
    ∃ passage limit, seen ({ transport with passage := passage }.send limit) = transport.writer.send polls := by
  have sends := send_sends polls transport.writer
  generalize transport.writer.send polls = ran at sends ⊢
  obtain ⟨result, after⟩ := ran
  cases sends with
  | @dropped taken front =>
    let now := transport.reader.link.stream.now
    have late : ¬Within (max now (now + 1)) (some now) := by
      simp only [Within]
      omega
    have part : transport.outgoing.take taken.length = taken := (List.prefix_iff_eq_take.mp front).symm
    refine ⟨⟨now + 1, taken.length, none, []⟩, some now, ?_⟩
    simp only [send, if_neg late, part, seen, writer, now]
  | @failed taken front failure =>
    have part : transport.outgoing.take taken.length = taken := (List.prefix_iff_eq_take.mp front).symm
    refine ⟨⟨0, taken.length, some failure, []⟩, none, ?_⟩
    simp [send, Within, part, seen, writer]
  | sent => exact ⟨⟨0, 0, none, []⟩, none, rfl⟩

theorem sendEncoded_refined (encode : ByteWriter Error Unit) (polls : SinkPolls) (transport : FrameTransport) :
    ∃ passage limit, seen (match encode.run [] with
      | (.error e, outgoing) => (some (.error e), { transport with passage := passage, outgoing := outgoing })
      | (.ok (), outgoing) => { transport with passage := passage, outgoing := outgoing }.send limit) =
      transport.writer.sendEncoded encode polls := by
  rcases encoded : encode.run [] with ⟨e | _, outgoing⟩
  · refine ⟨transport.passage, none, ?_⟩
    simp only [sendEncoded, encoded, seen, writer]
  · simp only [sendEncoded, encoded]
    exact send_refined polls { transport with outgoing := outgoing }

theorem sendRequest_refined (framing : Framing Header) (header : Header) (pdu : RequestPdu)
    (polls : SinkPolls) (transport : FrameTransport) :
    ∃ passage limit, seen ({ transport with passage := passage }.sendRequest framing header pdu limit) =
      transport.writer.sendRequest framing header pdu polls :=
  sendEncoded_refined (framing.encodeRequestInto header pdu) polls transport

theorem sendResponse_refined (framing : Framing Header) (header : Header) (pdu : ResponsePdu)
    (polls : SinkPolls) (transport : FrameTransport) :
    ∃ passage limit, seen ({ transport with passage := passage }.sendResponse framing header pdu limit) =
      transport.writer.sendResponse framing header pdu polls :=
  sendEncoded_refined (framing.encodeResponseInto header pdu) polls transport

end FrameTransport

end Modbus
