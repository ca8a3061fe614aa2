import Modbus.Reassembly

/-! Frames that end when the line falls silent. A frame is received whole when
its reads follow one another closely, and the silence after it is what ends it;
the reader's own bound decides what happens to a frame of the largest size. -/
namespace Modbus

open Bytes ByteStream

/-- When the last of these reads has been made. -/
def clock (now : Nat) (reads : Reads) : Nat :=
  reads.foldl (fun now arrival => max now arrival.time) now

theorem le_clock (now : Nat) (reads : Reads) : now ≤ clock now reads := by
  induction reads generalizing now with
  | nil => exact Nat.le_refl now
  | cons arrival rest ih => exact Nat.le_trans (Nat.le_max_left ..) (ih (max now arrival.time))

/-- Each read follows the one before it within the interval. -/
def Close (interval : Nat) (reads : Reads) : Prop :=
  reads.IsChain fun earlier later => later.time < earlier.time + interval

/-- After the last read: nothing, the end of the stream, or a silence that lasts until the timer
has gone off. -/
def Outlasts (timer : Timer) (interval last : Nat) : Reads → Prop
  | [] => True
  | next :: _ =>
    timer.fires (last + interval) < next.time ∨ ∃ nothing, nothing.val = [] ∧ next.read = .ok nothing

theorem recvAdu_result (framing : Framing Header) (config : TransportConfig) (direction : Direction)
    (limit : Option Nat) (link : Link) :
    (recvAdu framing config direction limit ⟨link, false⟩).1 =
      (Receive.readAdu framing config direction limit link).1 := by
  rcases reading : Receive.readAdu framing config direction limit link with ⟨_ | _ | adu, after⟩
  all_goals simp [recvAdu, reading]

namespace Receive

section Frame

variable (max interval : Nat) (ending : Option Nat) (timer : Timer) (frame : Bytes) (last : Nat)
  (later : Reads)

/-- Part of the frame is buffered, the rest is on its way and not late. -/
structure MidFrame (buffer : Bytes) (stream : Line) (coming : Reads) (unread : Bytes) : Prop where
  arrivals : stream.arrivals = coming ++ later
  ending : stream.ending = ending
  timer : stream.timer = timer
  carries : Carries coming unread
  whole : frame = buffer ++ unread
  close : Close interval coming
  prompt : buffer ≠ [] → ∀ next ∈ coming.head?, next.time ≤ stream.now + interval
  last : clock stream.now coming = last

/-- How a receive of this frame ends. -/
inductive Received (limit : Option Nat) : Option (Result Bytes) → Bytes → Line → Prop
  | whole {stream : Line} : frame.length < max →
      stream.arrivals = later ∨ stream.arrivals = later.tail → stream.ending = ending →
      Received limit (some (.ok frame)) [] stream
  | tooLarge {stream : Line} : max ≤ frame.length → stream.arrivals = later → stream.ending = ending →
      Received limit (some (.error (.aduTooLarge frame.length max))) frame stream
  | abandoned {buffer : Bytes} {stream : Line} : limit ≠ none → Received limit none buffer stream

variable {max interval ending timer frame last later} {limit : Option Nat} {buffer next unread : Bytes}
  {stream after : Line} {coming : Reads} {result : Option (Result Bytes)}

/-- The wait of a reader with part of a frame in its buffer. -/
def lull (interval : Nat) (buffer : Bytes) : Await ReadFailure Bytes (Result Bytes) where
  timer := some interval
  data bytes := buffer ++ bytes
  elapsed := (.ok buffer, [])
  ended := (.ok buffer, [])
  failed failure := (.error failure.error, buffer)

theorem silenceTurn_begun (max interval : Nat) (begun : buffer ≠ []) :
    silenceTurn max interval buffer =
      if max ≤ buffer.length then .stop (.error (.aduTooLarge buffer.length max)) buffer
      else .await buffer (lull interval buffer) := by
  have occupied : buffer.isEmpty = false := by simpa using begun
  by_cases full : max ≤ buffer.length
  · simp [silenceTurn, occupied, checkBufferBound, full]
  · simp [silenceTurn, occupied, checkBufferBound, full, lull]

/-- How a receive that waits for silence comes by its result, with this much in its buffer. -/
inductive SilenceEnds (max : Nat) (buffer : Bytes) : Result Bytes → Prop
  | silence : buffer.length < max → SilenceEnds max buffer (.ok buffer)
  | tooLarge : max ≤ buffer.length → SilenceEnds max buffer (.error (.aduTooLarge buffer.length max))
  | ended : SilenceEnds max buffer (.error (endOfStream false))
  | failed (failure : ReadFailure) : SilenceEnds max buffer (.error failure.error)

theorem readUntilSilence_ends {interval : Nat} {link last : Link} {outcome : Result Bytes}
    (read : readUntilSilence max interval limit link = (some outcome, last)) :
    ∃ buffer, SilenceEnds max buffer outcome := by
  unfold readUntilSilence loop at read
  rcases drove : drive (silenceTurn max interval) limit link.buffer link.stream with ⟨ended, rest, stream⟩
  simp only [drove] at read
  cases read
  obtain ⟨buffer, _, concludes⟩ :=
    drive_ending (silenceTurn max interval) limit (fun _ => True) (fun _ _ _ => trivial) trivial drove
  refine ⟨buffer, ?_⟩
  by_cases begun : buffer = []
  · have waits : silenceTurn max interval buffer = .await buffer (readMore buffer false) := by
      rw [begun]
      rfl
    rcases concludes with stops | ⟨_, _, awaits, yields⟩
    · cases waits.symm.trans stops
    · obtain ⟨rfl, rfl⟩ := Turn.await.inj (waits.symm.trans awaits)
      rcases yields with same | same | ⟨failure, same⟩ <;> cases same
      · exact .ended
      · exact .ended
      · exact .failed failure
  · have turned := silenceTurn_begun max interval begun
    by_cases full : max ≤ buffer.length
    · rw [if_pos full] at turned
      rcases concludes with stops | ⟨_, _, awaits, _⟩
      · cases turned.symm.trans stops
        exact .tooLarge full
      · cases turned.symm.trans awaits
    · rw [if_neg full] at turned
      rcases concludes with stops | ⟨_, _, awaits, yields⟩
      · cases turned.symm.trans stops
      · obtain ⟨rfl, rfl⟩ := Turn.await.inj (turned.symm.trans awaits)
        rcases yields with same | same | ⟨failure, same⟩ <;> cases same
        · exact .silence (Nat.lt_of_not_le full)
        · exact .silence (Nat.lt_of_not_le full)
        · exact .failed failure

theorem silenceTurn_waits (interval : Nat) (short : buffer.length < max) :
    ∃ pending, silenceTurn max interval buffer = .await buffer pending ∧
      (∀ bytes, pending.data bytes = buffer ++ bytes) ∧
      pending.timer = if buffer = [] then none else some interval := by
  by_cases begun : buffer = []
  · subst begun
    exact ⟨readMore [] false, rfl, fun _ => rfl, by simp [readMore]⟩
  · exact ⟨lull interval buffer, by rw [silenceTurn_begun _ _ begun, if_neg (by omega)], fun _ => rfl,
      by simp [lull, begun]⟩

theorem midFrame_short {arrival : Arrival readChunk ReadFailure}
    (holds : MidFrame interval ending timer frame last later buffer stream (arrival :: coming) unread)
    (small : frame.length ≤ max) : buffer.length < max := by
  cases holds.carries with
  | cons nonempty _ =>
    have lengths := congrArg List.length holds.whole
    have some_bytes := List.length_pos_iff.mpr nonempty
    simp only [List.length_append] at lengths
    omega

theorem midFrame_complete (holds : MidFrame interval ending timer frame last later buffer stream [] unread) :
    frame = buffer ∧ stream.arrivals = later ∧ stream.now = last := by
  have carries := holds.carries
  cases carries
  exact ⟨by simpa using holds.whole, holds.arrivals, holds.last⟩

/-- As long as some of the frame is to come, the next read brings more of it before anything else
happens. -/
theorem midFrame_continues {arrival : Arrival readChunk ReadFailure}
    (holds : MidFrame interval ending timer frame last later buffer stream (arrival :: coming) unread)
    (small : frame.length ≤ max) {progress : Progress readChunk ReadFailure Bytes (Result Bytes)}
    (steps : Advances (silenceTurn max interval) limit buffer stream progress) :
    (∃ next after unread, progress = .reading next after ∧
      MidFrame interval ending timer frame last later next after coming unread) ∨
    ∃ after, progress = .finished none buffer after ∧ limit ≠ none := by
  obtain ⟨_, awaits, data, lasts⟩ := silenceTurn_waits interval (midFrame_short holds small)
  have front := holds.arrivals
  rw [List.cons_append] at front
  have ready : stream.ready = some arrival.time := by rw [ByteStream.ready, front]
  have carries := holds.carries
  cases carries with
  | @cons _ _ _ bytes some_bytes tail =>
    cases steps with
    | stop stopped => cases awaits.symm.trans stopped
    | data waits arrived =>
      obtain ⟨rfl, rfl⟩ := Turn.await.inj (awaits.symm.trans waits)
      obtain ⟨same, rfl⟩ := List.cons.inj (front.symm.trans arrived)
      cases same
      have close := List.isChain_cons.mp holds.close
      refine .inl ⟨_, _, bytes, rfl, rfl, holds.ending, holds.timer, tail, ?_, close.2, ?_, holds.last⟩
      · rw [data, List.append_assoc]
        exact holds.whole
      · intro _ following inside
        have soon := close.1 following inside
        simp only at soon ⊢
        omega
    | ended waits closed =>
      rw [front] at closed
      rcases closed with ⟨chunk, empty, arrived⟩ | ⟨arrived, _⟩
      · cases arrived
        exact absurd empty some_bytes
      · cases arrived
    | failed waits arrived =>
      rw [front] at arrived
      cases arrived
    | elapsed waits timed allowed early =>
      obtain ⟨rfl, rfl⟩ := Turn.await.inj (awaits.symm.trans waits)
      have begun : buffer ≠ [] := by
        rintro rfl
        simp [lasts] at timed
      rw [if_neg begun, timed] at lasts
      have late := early _ ready
      rw [Option.some.inj lasts] at late
      have soon := holds.prompt begun _ rfl
      have patient := stream.timer.patient (stream.now + interval)
      simp only at late soon
      omega
    | abandoned waits never =>
      obtain ⟨rfl, rfl⟩ := Turn.await.inj (awaits.symm.trans waits)
      refine .inr ⟨_, rfl, fun unlimited => ?_⟩
      rw [ready] at never
      cases (never unlimited).2

theorem silenceTurn_complete (interval : Nat) (nonempty : frame ≠ []) (short : frame.length < max) :
    silenceTurn max interval frame = .await frame (lull interval frame) := by
  rw [silenceTurn_begun _ _ nonempty, if_neg (by omega)]

theorem midFrame_reading (holds : MidFrame interval ending timer frame last later buffer stream coming unread)
    (nonempty : frame ≠ []) (small : frame.length ≤ max) (silent : Outlasts timer interval last later)
    (steps : Advances (silenceTurn max interval) limit buffer stream (.reading next after)) :
    ∃ coming unread, MidFrame interval ending timer frame last later next after coming unread := by
  cases coming with
  | nil =>
    obtain ⟨rfl, rfl, rfl⟩ := midFrame_complete holds
    obtain rfl := holds.timer
    cases steps with
    | @data waiting pending time chunk rest waits arrived some_bytes inTime _ =>
      rw [silenceTurn_begun _ _ nonempty] at waits
      split at waits
      · cases waits
      · obtain ⟨rfl, rfl⟩ := Turn.await.inj waits
        rw [arrived] at silent
        rcases silent with afterwards | ⟨nothing, empty, read⟩
        · simp only [lull, Timer.expiry_some, Within] at inTime afterwards
          omega
        · obtain rfl := Except.ok.inj read
          exact absurd empty some_bytes
  | cons arrival coming =>
    obtain ⟨_, _, unread, same, still⟩ | ⟨_, same, _⟩ := midFrame_continues holds small steps
    · cases same
      exact ⟨coming, unread, still⟩
    · cases same

theorem midFrame_finished (holds : MidFrame interval ending timer frame last later buffer stream coming unread)
    (nonempty : frame ≠ []) (small : frame.length ≤ max) (silent : Outlasts timer interval last later)
    (steps : Advances (silenceTurn max interval) limit buffer stream (.finished result next after)) :
    Received max ending frame later limit result next after := by
  cases coming with
  | nil =>
    have same := holds.ending
    obtain ⟨rfl, rfl, rfl⟩ := midFrame_complete holds
    obtain rfl := holds.timer
    by_cases full : max ≤ frame.length
    · have stops := silenceTurn_begun max interval nonempty
      rw [if_pos full] at stops
      cases steps with
      | stop stopped =>
        obtain ⟨rfl, rfl⟩ := Turn.stop.inj (stops.symm.trans stopped)
        exact .tooLarge full rfl same
      | ended waits | failed waits | elapsed waits | abandoned waits =>
        cases stops.symm.trans waits
    · have short : frame.length < max := Nat.lt_of_not_le full
      have awaits := silenceTurn_complete interval nonempty short
      cases steps with
      | stop stopped => cases awaits.symm.trans stopped
      | ended waits closed =>
        obtain ⟨rfl, rfl⟩ := Turn.await.inj (awaits.symm.trans waits)
        refine .whole short (.inr ?_) same
        rcases closed with ⟨chunk, empty, arrived⟩ | ⟨arrived, rfl, _⟩
        · rw [arrived, List.tail_cons]
        · rw [arrived, List.tail_nil]
      | failed waits arrived inTime =>
        obtain ⟨rfl, rfl⟩ := Turn.await.inj (awaits.symm.trans waits)
        rw [arrived] at silent
        rcases silent with afterwards | ⟨nothing, _, read⟩
        · simp only [lull, Timer.expiry_some, Within] at inTime afterwards
          omega
        · cases read
      | elapsed waits =>
        obtain ⟨rfl, rfl⟩ := Turn.await.inj (awaits.symm.trans waits)
        exact .whole short (.inl rfl) same
      | abandoned waits never =>
        obtain ⟨rfl, rfl⟩ := Turn.await.inj (awaits.symm.trans waits)
        refine .abandoned fun unlimited => ?_
        cases (never unlimited).1
  | cons arrival coming =>
    obtain ⟨_, _, _, same, _⟩ | ⟨_, same, limited⟩ := midFrame_continues holds small steps
    · cases same
    · cases same
      exact .abandoned limited

theorem readUntilSilence_received (limit ending : Option Nat) {now : Nat} {reads : Reads}
    (nonempty : frame ≠ [])
    (small : frame.length ≤ max) (carries : Carries reads frame) (close : Close interval reads)
    (silent : Outlasts timer interval (clock now reads) later) :
    ∃ result after, readUntilSilence max interval limit ⟨⟨now, reads ++ later, ending, timer⟩, []⟩ =
      (result, after) ∧ Received max ending frame later limit result after.buffer after.stream := by
  have started : MidFrame interval ending timer frame (clock now reads) later []
      ⟨now, reads ++ later, ending, timer⟩ reads frame :=
    ⟨rfl, rfl, rfl, carries, rfl, close, fun begun => absurd rfl begun, rfl⟩
  have run := drive_rule (silenceTurn max interval) limit
    (fun buffer stream => ∃ coming unread,
      MidFrame interval ending timer frame (clock now reads) later buffer stream coming unread)
    (Received max ending frame later limit)
    (fun buffer stream result next after holds steps => by
      obtain ⟨coming, unread, midFrame⟩ := holds
      exact midFrame_finished midFrame nonempty small silent steps)
    (fun buffer stream next after holds steps => by
      obtain ⟨coming, unread, midFrame⟩ := holds
      exact midFrame_reading midFrame nonempty small silent steps)
    ⟨reads, frame, started⟩
  obtain ⟨result, buffer, stream, drove, received⟩ := run
  exact ⟨result, ⟨stream, buffer⟩, by simp only [readUntilSilence, loop, drove], received⟩

theorem joined_finished (beyond : frame.length < buffer.length)
    (steps : Advances (silenceTurn max interval) limit buffer stream (.finished result next after)) :
    result ≠ some (.ok frame) := by
  have nonempty : buffer ≠ [] := List.length_pos_iff.mp (by omega)
  have other : (some (.ok buffer) : Option (Result Bytes)) ≠ some (.ok frame) := by
    intro same
    cases same
    exact Nat.lt_irrefl _ beyond
  have turned := silenceTurn_begun max interval nonempty
  by_cases full : max ≤ buffer.length
  · rw [if_pos full] at turned
    cases steps with
    | stop stopped =>
      cases turned.symm.trans stopped
      rintro ⟨⟩
    | ended waits | failed waits | elapsed waits | abandoned waits => cases turned.symm.trans waits
  · rw [if_neg full] at turned
    cases steps with
    | stop stopped => cases turned.symm.trans stopped
    | ended waits | elapsed waits =>
      obtain ⟨rfl, rfl⟩ := Turn.await.inj (turned.symm.trans waits)
      exact other
    | failed waits =>
      obtain ⟨rfl, rfl⟩ := Turn.await.inj (turned.symm.trans waits)
      rintro ⟨⟩
    | abandoned => rintro ⟨⟩

theorem joined_reading (beyond : frame.length < buffer.length)
    (steps : Advances (silenceTurn max interval) limit buffer stream (.reading next after)) :
    frame.length < next.length := by
  have nonempty : buffer ≠ [] := List.length_pos_iff.mp (by omega)
  cases steps with
  | data waits =>
    rw [silenceTurn_begun _ _ nonempty] at waits
    split at waits
    · cases waits
    · obtain ⟨rfl, rfl⟩ := Turn.await.inj waits
      simp only [lull, List.length_append]
      omega

theorem midFrame_interrupted (holds : MidFrame interval ending timer frame last later frame stream [] unread)
    (nonempty : frame ≠ []) (interrupted : ¬Outlasts timer interval last later)
    {progress : Progress readChunk ReadFailure Bytes (Result Bytes)}
    (steps : Advances (silenceTurn max interval) limit frame stream progress) :
    (∃ next after, progress = .reading next after ∧ frame.length < next.length) ∨
    ∃ result next after, progress = .finished result next after ∧ result ≠ some (.ok frame) := by
  obtain ⟨_, rfl, rfl⟩ := midFrame_complete holds
  obtain rfl := holds.timer
  have turned := silenceTurn_begun max interval nonempty
  by_cases full : max ≤ frame.length
  · rw [if_pos full] at turned
    cases steps with
    | stop stopped =>
      cases turned.symm.trans stopped
      exact .inr ⟨_, _, _, rfl, by rintro ⟨⟩⟩
    | data waits | ended waits | failed waits | elapsed waits | abandoned waits =>
      cases turned.symm.trans waits
  · rw [if_neg full] at turned
    cases steps with
    | stop stopped => cases turned.symm.trans stopped
    | data waits _ some_bytes =>
      obtain ⟨rfl, rfl⟩ := Turn.await.inj (turned.symm.trans waits)
      have more := List.length_pos_iff.mpr some_bytes
      refine .inl ⟨_, _, rfl, ?_⟩
      simp only [lull, List.length_append]
      omega
    | ended waits closed =>
      refine absurd ?_ interrupted
      rcases closed with ⟨chunk, empty, arrived⟩ | ⟨arrived, _, _⟩
      · rw [arrived]
        exact .inr ⟨chunk, empty, rfl⟩
      · rw [arrived]
        trivial
    | failed waits =>
      obtain ⟨rfl, rfl⟩ := Turn.await.inj (turned.symm.trans waits)
      exact .inr ⟨_, _, _, rfl, by rintro ⟨⟩⟩
    | elapsed waits timed _ early =>
      obtain ⟨rfl, rfl⟩ := Turn.await.inj (turned.symm.trans waits)
      cases timed
      refine absurd ?_ interrupted
      cases coming : stream.arrivals with
      | nil => trivial
      | cons arrival rest =>
        have ready : stream.ready = some arrival.time := by rw [ByteStream.ready, coming]
        have late := early _ ready
        have patient := stream.timer.patient (stream.now + interval)
        exact .inl (by omega)
    | abandoned => exact .inr ⟨_, _, _, rfl, by rintro ⟨⟩⟩

theorem readUntilSilence_interrupted (limit ending : Option Nat) {now : Nat} {reads : Reads}
    (nonempty : frame ≠ []) (small : frame.length ≤ max) (carries : Carries reads frame)
    (close : Close interval reads) (interrupted : ¬Outlasts timer interval (clock now reads) later) :
    (readUntilSilence max interval limit ⟨⟨now, reads ++ later, ending, timer⟩, []⟩).1 ≠
      some (.ok frame) := by
  have started : MidFrame interval ending timer frame (clock now reads) later []
      ⟨now, reads ++ later, ending, timer⟩ reads frame :=
    ⟨rfl, rfl, rfl, carries, rfl, close, fun begun => absurd rfl begun, rfl⟩
  obtain ⟨result, buffer, stream, drove, other⟩ := drive_rule (silenceTurn max interval) limit
    (fun buffer stream => frame.length < buffer.length ∨ ∃ coming unread,
      MidFrame interval ending timer frame (clock now reads) later buffer stream coming unread)
    (fun result _ _ => result ≠ some (.ok frame))
    (fun buffer stream result next after holds steps => by
      rcases holds with beyond | ⟨coming, unread, midFrame⟩
      · exact joined_finished beyond steps
      · cases coming with
        | nil =>
          obtain ⟨rfl, _⟩ := midFrame_complete midFrame
          obtain ⟨_, _, same, _⟩ | ⟨_, _, _, same, other⟩ :=
            midFrame_interrupted midFrame nonempty interrupted steps
          · cases same
          · cases same
            exact other
        | cons arrival coming =>
          obtain ⟨_, _, _, same, _⟩ | ⟨_, same, _⟩ := midFrame_continues midFrame small steps
          · cases same
          · cases same
            rintro ⟨⟩)
    (fun buffer stream next after holds steps => by
      rcases holds with beyond | ⟨coming, unread, midFrame⟩
      · exact .inl (joined_reading beyond steps)
      · cases coming with
        | nil =>
          obtain ⟨rfl, _⟩ := midFrame_complete midFrame
          obtain ⟨_, _, same, beyond⟩ | ⟨_, _, _, same, _⟩ :=
            midFrame_interrupted midFrame nonempty interrupted steps
          · cases same
            exact .inl beyond
          · cases same
        | cons arrival coming =>
          obtain ⟨_, _, unread, same, still⟩ | ⟨_, same, _⟩ := midFrame_continues midFrame small steps
          · cases same
            exact .inr ⟨coming, unread, still⟩
          · cases same)
    (.inr ⟨reads, frame, started⟩)
  simpa only [readUntilSilence, loop, drove] using other

theorem readUntilSilence_nothing (max interval : Nat) (limit : Option Nat) (now : Nat)
    (ending : Option Nat) (timer : Timer) :
    ∃ result after, readUntilSilence max interval limit ⟨⟨now, [], ending, timer⟩, []⟩ = (result, after) ∧
      (result = none ∨ result = some (.error (.io .unexpectedEof none))) := by
  have waiting : silenceTurn max interval [] = .await [] (readMore [] false) := rfl
  have reading {result : Option (Result Bytes)} {buffer : Bytes} {stream : Line}
      (drove : drive (silenceTurn max interval) limit [] (⟨now, [], ending, timer⟩ : Line) =
        (result, buffer, stream)) :
      readUntilSilence max interval limit ⟨⟨now, [], ending, timer⟩, []⟩ = (result, ⟨stream, buffer⟩) := by
    simp only [readUntilSilence, loop, drove]
  obtain ⟨progress, steps, drives⟩ :=
    drive_advances (silenceTurn max interval) limit [] (⟨now, [], ending, timer⟩ : Line)
  cases steps with
  | stop stopped => cases waiting.symm.trans stopped
  | data _ arrived => cases arrived
  | failed _ arrived => cases arrived
  | ended waits =>
    obtain ⟨rfl, rfl⟩ := Turn.await.inj (waiting.symm.trans waits)
    exact ⟨_, _, reading drives, .inr rfl⟩
  | elapsed waits timed =>
    obtain ⟨rfl, rfl⟩ := Turn.await.inj (waiting.symm.trans waits)
    cases timed
  | abandoned => exact ⟨_, _, reading drives, .inl rfl⟩

end Frame

end Receive

theorem rtu_encoded_length {crc16 : Bytes → UInt16} {unit : UnitId} {adu : Bytes}
    (encoded : (∃ request, (rtu crc16).encodeRequest unit request = .ok adu) ∨
      ∃ response, (rtu crc16).encodeResponse unit response = .ok adu) :
    4 ≤ adu.length ∧ adu.length ≤ 256 := by
  rcases encoded with ⟨request, sent⟩ | ⟨response, sent⟩
  · obtain ⟨pdu, encoded, rfl⟩ := (Framing.encodeRequest_ok (Rtu.seals crc16)).mp sent
    obtain ⟨⟨code, body, _, _, rfl⟩, size⟩ := RequestPdu.encode_ok.mp encoded
    simp only [Rtu.length_layout, List.length_cons, maxPduLen] at size ⊢
    omega
  · obtain ⟨pdu, encoded, rfl⟩ := (Framing.encodeResponse_ok (Rtu.seals crc16)).mp sent
    obtain ⟨⟨code, body, _, _, rfl⟩, size⟩ := ResponsePdu.encode_ok.mp encoded
    simp only [Rtu.length_layout, List.length_cons, maxPduLen] at size ⊢
    omega

theorem rtu_frame_received_iff (crc16 : Bytes → UInt16) (config : TransportConfig)
    (direction : Direction) (unit : UnitId) (adu : Bytes) (now : Nat) (ending : Option Nat)
    (timer : Timer) (reads later : Reads)
    (encoded : (∃ request, (rtu crc16).encodeRequest unit request = .ok adu) ∨
      ∃ response, (rtu crc16).encodeResponse unit response = .ok adu)
    (carries : Carries reads adu) (close : Close config.interFrameInterval reads) :
    (recvAdu (rtu crc16) config direction none (.new ⟨now, reads ++ later, ending, timer⟩)).1 =
      some (.ok adu) ↔
    adu.length < 256 ∧ Outlasts timer config.interFrameInterval (clock now reads) later := by
  obtain ⟨long, small⟩ := rtu_encoded_length encoded
  have nonempty : adu ≠ [] := List.length_pos_iff.mp (by omega)
  rw [Reader.new, recvAdu_result]
  change (Receive.readUntilSilence 256 config.interFrameInterval none
    ⟨⟨now, reads ++ later, ending, timer⟩, []⟩).1 = some (.ok adu) ↔ _
  by_cases silent : Outlasts timer config.interFrameInterval (clock now reads) later
  · obtain ⟨result, ⟨stream, buffer⟩, reading, received⟩ :=
      Receive.readUntilSilence_received none ending nonempty small carries close silent
    rw [reading]
    cases received with
    | whole short => exact ⟨fun _ => ⟨short, silent⟩, fun _ => rfl⟩
    | tooLarge full =>
      refine ⟨?_, fun received => absurd full (by omega)⟩
      rintro ⟨⟩
    | abandoned limited => exact absurd rfl limited
  · have other := Receive.readUntilSilence_interrupted none ending nonempty small carries close silent
    exact ⟨fun received => absurd received other, fun received => absurd received.2 silent⟩

theorem rtu_cut_frame_received :
    (recvAdu (rtu fun _ => 0) .default .request none (.new ⟨0,
      [⟨7, .ok ⟨[1, 3, 0], by decide⟩⟩, ⟨9, .ok ⟨[0, 0, 1, 0, 0], by decide⟩⟩] ++
        [⟨9000000, .ok ⟨[1], by decide⟩⟩], none, millisecondTimer⟩)).1 =
      some (.ok [1, 3, 0, 0, 0, 1, 0, 0]) := by
  apply (rtu_frame_received_iff (fun _ => 0) .default .request ⟨1⟩ _ 0 none _ _ _ _ _ _).mpr
  · exact ⟨by decide, .inl (by decide)⟩
  · exact .inl ⟨.readHoldingRegisters ⟨0⟩ ⟨1⟩, rfl⟩
  · exact .cons (by decide) (.cons (by decide) .nil)
  · simp [Close, TransportConfig.default]

theorem rtu_full_frame_refused (crc16 : Bytes → UInt16) (unit : UnitId) :
    ∃ adu, (rtu crc16).encodeRequest unit (.custom 65 (List.replicate 252 0)) = .ok adu ∧
      adu.length = 256 ∧ ∃ fits, (recvAdu (rtu crc16) .default .request none
        (.new ⟨0, [⟨0, .ok ⟨adu, fits⟩⟩], none, millisecondTimer⟩)).1 = some (.error (.aduTooLarge 256 256)) := by
  have pduSize : (65 :: List.replicate 252 (0 : UInt8)).length = 253 := by
    rw [List.length_cons, List.length_replicate]
  have size : (Rtu.layout crc16 unit (65 :: List.replicate 252 0)).length = 256 := by
    rw [Rtu.length_layout, pduSize]
  have fits : (Rtu.layout crc16 unit (65 :: List.replicate 252 0)).length ≤ readChunk := by
    rw [size]
    decide
  refine ⟨Rtu.layout crc16 unit (65 :: List.replicate 252 0), ?_, size, fits, ?_⟩
  · apply (Framing.encodeRequest_ok (Rtu.seals crc16)).mpr
    refine ⟨_, RequestPdu.encode_ok.mpr ⟨⟨65, _, rfl, rfl, rfl⟩, Nat.le_of_eq pduSize⟩, rfl⟩
  · generalize Rtu.layout crc16 unit (65 :: List.replicate 252 0) = adu at size fits
    have nonempty : adu ≠ [] := List.length_pos_iff.mp (by omega)
    have carries : Carries ([⟨0, .ok ⟨adu, fits⟩⟩] : Reads) (adu ++ []) := .cons nonempty .nil
    rw [List.append_nil] at carries
    have close : Close 2005208 [⟨0, .ok ⟨adu, fits⟩⟩] := List.isChain_singleton _
    have silent : Outlasts millisecondTimer 2005208 (clock 0 [⟨0, .ok ⟨adu, fits⟩⟩]) [] := trivial
    obtain ⟨result, ⟨stream, buffer⟩, reading, received⟩ :=
      Receive.readUntilSilence_received none none nonempty (Nat.le_of_eq size) carries close silent
    have read : (Receive.readAdu (rtu crc16) .default .request none
        ⟨⟨0, [⟨0, .ok ⟨adu, fits⟩⟩], none, millisecondTimer⟩, []⟩).1 = result := congrArg Prod.fst reading
    rw [Reader.new, recvAdu_result, read]
    cases received with
    | whole short => omega
    | tooLarge => rw [size]
    | abandoned limited => exact absurd rfl limited

/-- The largest frame to unit 1 is refused as too large by the limit it keeps. -/
theorem rtu_largest_frame_refused :
    ∃ adu, (rtu Rtu.crc16Modbus).encodeRequest ⟨1⟩ (.custom 65 (List.replicate 252 0)) = .ok adu ∧
      adu.length = 256 ∧ ∃ fits, (recvAdu (rtu Rtu.crc16Modbus) .default .request none
        (.new ⟨0, [⟨0, .ok ⟨adu, fits⟩⟩], none, millisecondTimer⟩)).1 = some (.error (.aduTooLarge 256 256)) :=
  rtu_full_frame_refused Rtu.crc16Modbus ⟨1⟩

end Modbus
