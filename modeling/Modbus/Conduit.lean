import Modbus.Conveyance

/-! One direction of a TCP connection. Frames are written to it one after the other,
the network hands over the bytes in pieces of its own, and a reader takes off the
frames. It does not matter how far writing, network and reader have got: the reader
waits, or takes the next frame that was written. -/
namespace Modbus

open Bytes ByteStream

namespace Receive

variable {link : Link} {bytes : Bytes}

/-- On a stream that stays open a fill waits for bytes that are missing. -/
theorem fillTo_waits {max len : Nat} (ahead : link.Ahead none bytes) (small : len ≤ max)
    (short : bytes.length < len) : ∃ after, fillTo max len none link = (none, after) := by
  obtain ⟨stays, unread, carries, whole⟩ := ahead
  obtain ⟨buffer, stream, drove⟩ := drive_waits (fillTurn len) (fun buffer unread => bytes = buffer ++ unread)
    (fun buffer unread whole => by
      have lengths := congrArg List.length whole
      rw [List.length_append] at lengths
      refine ⟨buffer, readMore buffer (!buffer.isEmpty), by rw [fillTurn, if_pos (by omega)], rfl, ?_⟩
      rintro chunk rest - rfl
      simpa [readMore] using whole) link.stream link.buffer stays carries whole
  refine ⟨⟨stream, buffer⟩, ?_⟩
  rw [fillTo, if_neg (by omega), loop, drove]

theorem readPrefixed_waits {max prefixLen : Nat} {total : Bytes → Result Nat} {frame : Bytes}
    (ahead : link.Ahead none bytes) (front : bytes <+: frame) (short : bytes.length < frame.length)
    (announced : total (frame.take prefixLen) = .ok frame.length) (long : prefixLen ≤ frame.length)
    (small : frame.length ≤ max) : ∃ after, readPrefixed max prefixLen total none link = (none, after) := by
  by_cases headless : bytes.length < prefixLen
  · obtain ⟨after, waits⟩ := fillTo_waits ahead (Nat.le_trans long small) headless
    exact ⟨after, by rw [readPrefixed, waits, andThen]⟩
  · obtain ⟨middle, filled, still, reached⟩ := fillTo_ahead ahead (Nat.le_trans long small) (by omega)
    have head : middle.buffer.take prefixLen = frame.take prefixLen := by
      obtain ⟨_, unread, _, whole⟩ := still
      obtain ⟨missing, rfl⟩ := front
      rw [whole, List.append_assoc, List.take_append_of_le_length reached]
    obtain ⟨after, waits⟩ := fillTo_waits still small short
    exact ⟨after, by simp only [readPrefixed, filled, andThen, head, announced, waits]⟩

end Receive

theorem Tcp.request_announced {header : MbapHeader} {request : RequestPdu} {adu : Bytes}
    (encoded : tcp.encodeRequest header request = .ok adu) : Announced adu := by
  obtain ⟨pdu, wrote, rfl⟩ := (Framing.encodeRequest_ok Tcp.seals).mp encoded
  obtain ⟨⟨code, body, _, _, shape⟩, size⟩ := RequestPdu.encode_ok.mp wrote
  exact split_announced (Tcp.seals.opens header pdu (by simp [shape]) size)

theorem Tcp.response_announced {header : MbapHeader} {response : ResponsePdu} {adu : Bytes}
    (encoded : tcp.encodeResponse header response = .ok adu) : Announced adu := by
  obtain ⟨pdu, wrote, rfl⟩ := (Framing.encodeResponse_ok Tcp.seals).mp encoded
  obtain ⟨⟨code, body, _, _, shape⟩, size⟩ := ResponsePdu.encode_ok.mp wrote
  exact split_announced (Tcp.seals.opens header pdu (by simp [shape]) size)

section Next

variable {config : TransportConfig} {direction : Direction} {reader : Reader} {frames : List Bytes} {bytes : Bytes}

/-- With the front of some frames ahead of it, a receive takes the first of them or waits. -/
theorem recvAdu_next (announced : ∀ frame ∈ frames, Tcp.Announced frame) (free : reader.receiving = false)
    (ahead : reader.link.Ahead none bytes) (within : bytes <+: frames.flatten) :
    (recvAdu tcp config direction none reader).1 = none ∨
    ∃ frame later rest after, frames = frame :: later ∧ bytes = frame ++ rest ∧
      recvAdu tcp config direction none reader = (some (.ok frame), after) ∧ after.link.Ahead none rest ∧
      after.receiving = false := by
  cases frames with
  | nil =>
    obtain rfl := List.prefix_nil.mp within
    obtain ⟨after, waits⟩ := recvAdu_idle tcp_conveys free ahead none
    exact .inl (congrArg Prod.fst waits)
  | cons frame later =>
    have first := announced frame List.mem_cons_self
    by_cases whole : frame <+: bytes
    · obtain ⟨rest, rfl⟩ := whole
      obtain ⟨result, link, reads, ⟨rfl, left⟩ | impossible⟩ := tcp_arrives config direction first none _ rest ahead
      · refine .inr ⟨frame, later, rest, ⟨link, false⟩, rfl, rfl, ?_, left, rfl⟩
        simp only [recvAdu, free, Bool.false_eq_true, if_false, reads]
      · exact impossible.elim
    · have front : bytes <+: frame :=
        (List.prefix_or_prefix_of_prefix within (List.prefix_append frame later.flatten)).resolve_right whole
      have short : bytes.length < frame.length := by
        by_contra enough
        exact whole (front.eq_of_length_le (by omega) ▸ List.prefix_refl _)
      have total := Tcp.aduLen_announced first
      obtain ⟨long, small, _⟩ := first
      obtain ⟨link, waits⟩ := Receive.readPrefixed_waits ahead front short total (Nat.le_trans (by decide) long) small
      have reads : Receive.readAdu tcp config direction none reader.link = (none, link) := waits
      refine .inl ?_
      simp only [recvAdu, free, Bool.false_eq_true, if_false, reads]

end Next

/-- Bytes that are next to arrive, as many as a read takes. -/
def readable (bytes : Bytes) (count : Nat) : Option {bytes : Bytes // bytes.length ≤ readChunk} :=
  if (bytes.take (min count readChunk)).isEmpty then none
  else some ⟨bytes.take (min count readChunk), by rw [List.length_take]; omega⟩

theorem readable_some {bytes : Bytes} {count : Nat} {chunk : {bytes : Bytes // bytes.length ≤ readChunk}}
    (next : readable bytes count = some chunk) : chunk.val ≠ [] ∧ chunk.val <+: bytes := by
  unfold readable at next
  split at next <;> cases next
  next nonempty => exact ⟨by simpa using nonempty, List.take_prefix _ _⟩

/-- More bytes arrive at a reader. -/
def Reader.arrive (bytes : {bytes : Bytes // bytes.length ≤ readChunk}) (reader : Reader) : Reader :=
  { reader with link := reader.link.deliver 0 [⟨0, .ok bytes⟩] }

/-- These frames are written to the stream, of which these bytes have been put on it and so many have
arrived at the reader, which has taken so many frames. -/
structure Conduit (frames : List Bytes) (put : Bytes) (arrived taken : Nat) (reader : Reader) : Prop where
  wrote : put <+: frames.flatten
  bound : arrived ≤ put.length
  free : reader.receiving = false
  ahead : ∃ rest, reader.link.Ahead none rest ∧ put.take arrived = (frames.take taken).flatten ++ rest

namespace Conduit

variable {frames : List Bytes} {put : Bytes} {arrived taken : Nat} {reader : Reader}

theorem new : Conduit [] [] 0 0 (.new ⟨0, [], none, .exact⟩) :=
  ⟨List.prefix_refl _, Nat.le_refl _, rfl, [], ⟨rfl, [], .nil, rfl⟩, rfl⟩

theorem write (conduit : Conduit frames put arrived taken reader) (whole : put = frames.flatten)
    (few : taken ≤ frames.length) {frame part : Bytes} (begins : part <+: frame) :
    Conduit (frames ++ [frame]) (put ++ part) arrived taken reader := by
  obtain ⟨rest, ahead, split⟩ := conduit.ahead
  refine ⟨?_, ?_, conduit.free, rest, ahead, ?_⟩
  · rw [whole, List.flatten_append, List.flatten_singleton]
    exact (List.prefix_append_right_inj _).mpr begins
  · have bound := conduit.bound
    rw [List.length_append]
    omega
  · rw [List.take_append_of_le_length conduit.bound, split, List.take_append_of_le_length few]

theorem arrive (conduit : Conduit frames put arrived taken reader) {count : Nat}
    {chunk : {bytes : Bytes // bytes.length ≤ readChunk}} (next : readable (put.drop arrived) count = some chunk) :
    Conduit frames put (arrived + chunk.val.length) taken (reader.arrive chunk) := by
  obtain ⟨nonempty, later, here⟩ := readable_some next
  obtain ⟨rest, ahead, split⟩ := conduit.ahead
  have bound := conduit.bound
  have size := congrArg List.length here
  rw [List.length_append, List.length_drop] at size
  have more : (reader.arrive chunk).link.Ahead none (rest ++ chunk.val) := by
    have carries : Carries ([⟨0, .ok chunk⟩] : Reads) (chunk.val ++ []) := .cons nonempty .nil
    rw [List.append_nil] at carries
    exact ahead.deliver carries 0
  refine ⟨conduit.wrote, by omega, conduit.free, rest ++ chunk.val, more, ?_⟩
  rw [← List.append_assoc, ← split, List.take_add, ← here, List.take_left]

theorem receive (conduit : Conduit frames put arrived taken reader)
    (announced : ∀ frame ∈ frames, Tcp.Announced frame) {config : TransportConfig} {direction : Direction}
    {received : Result Bytes} {after : Reader}
    (reads : recvAdu tcp config direction none reader = (some received, after)) :
    ∃ frame, frames[taken]? = some frame ∧ received = .ok frame ∧ Conduit frames put arrived (taken + 1) after := by
  obtain ⟨rest, ahead, split⟩ := conduit.ahead
  have within : rest <+: (frames.drop taken).flatten := by
    have all := (List.take_prefix arrived put).trans conduit.wrote
    rwa [split, ← List.take_append_drop taken frames, List.flatten_append, List.take_append_drop,
      List.prefix_append_right_inj] at all
  rcases recvAdu_next (fun frame inside => announced frame (List.mem_of_mem_drop inside)) conduit.free ahead within with
    waits | ⟨frame, later, left, next, here, rfl, took, remains, free⟩
  · rw [reads] at waits
    cases waits
  · cases took.symm.trans reads
    have found : frames[taken]? = some frame := by
      rw [← List.head?_drop, here, List.head?_cons]
    refine ⟨frame, found, rfl, conduit.wrote, conduit.bound, free, left, remains, ?_⟩
    rw [split, List.take_add_one, found, Option.toList_some, List.flatten_append, List.flatten_singleton,
      List.append_assoc]

theorem recvRequest (conduit : Conduit frames put arrived taken reader)
    (announced : ∀ frame ∈ frames, Tcp.Announced frame) {config : TransportConfig}
    {received : Result (MbapHeader × RequestPdu)} {after : Reader}
    (reads : reader.recvRequest tcp config none = (some received, after)) :
    ∃ frame, frames[taken]? = some frame ∧ received = tcp.decodeRequest frame ∧
      Conduit frames put arrived (taken + 1) after := by
  unfold Reader.recvRequest at reads
  split at reads
  · cases reads
  next result rest came =>
  cases reads
  obtain ⟨frame, found, rfl, next⟩ := conduit.receive announced came
  exact ⟨frame, found, rfl, next⟩

theorem recvResponse (conduit : Conduit frames put arrived taken reader)
    (announced : ∀ frame ∈ frames, Tcp.Announced frame) {config : TransportConfig}
    {received : Result (MbapHeader × ResponsePdu)} {after : Reader}
    (reads : reader.recvResponse tcp config none = (some received, after)) :
    ∃ frame, frames[taken]? = some frame ∧ received = tcp.decodeResponse frame ∧
      Conduit frames put arrived (taken + 1) after := by
  unfold Reader.recvResponse at reads
  split at reads
  · cases reads
  next result rest came =>
  cases reads
  obtain ⟨frame, found, rfl, next⟩ := conduit.receive announced came
  exact ⟨frame, found, rfl, next⟩

end Conduit

end Modbus
