import Modbus.LinkSurvival
import Modbus.StreamFraming

/-! How the server tells a stream that ends between two ADUs from one that ends
inside an ADU. A read that returns nothing is told apart by what is buffered. A
read that fails keeps the kind it failed with, and one kind is that of a close. -/
namespace Modbus

open Bytes ByteStream

theorem Error.not_failsStream {e : Error} (framed : e.endsStream = false) : e.failsStream = false := by
  cases e <;> first | rfl | cases framed

/-- How a stream ends: with a read that returns nothing, or with one that fails. -/
inductive StreamEnd where
  | closed
  | failed (failure : ReadFailure)
  deriving DecidableEq, Repr

/-- What a reader that waits in or between ADUs makes of the end. -/
def StreamEnd.error (midAdu : Bool) : StreamEnd → Error
  | .closed => endOfStream midAdu
  | .failed failure => failure.error

def StreamEnd.isEof : StreamEnd → Bool
  | .closed => false
  | .failed failure => failure.kind = .unexpectedEof

/-- After these reads, each of which returned bytes, a stream ends. -/
structure EndsAfter (stream : Line) (past : Reads) (how : StreamEnd) : Prop where
  data : ∀ arrival ∈ past, ∃ chunk, arrival.read = .ok chunk ∧ chunk.val ≠ []
  ends : match how with
    | .closed => (∃ time chunk rest, chunk.val = [] ∧ stream.arrivals = past ++ ⟨time, .ok chunk⟩ :: rest) ∨
        stream.arrivals = past ∧ stream.ending.isSome = true
    | .failed failure => ∃ time rest, stream.arrivals = past ++ ⟨time, .error failure⟩ :: rest

/-- The bytes of an ADU that has begun. Before a start byte there is none. -/
def AduBoundary.begun : AduBoundary → Bytes → Bytes
  | .delimited start _, bytes => bytes.dropWhile (· != start)
  | _, bytes => bytes

/-- The unfinished ADU on a link whose stream ends after these reads. -/
def Framing.unfinished (framing : Framing Header) (link : Link) (past : Reads) : Bytes :=
  framing.boundary.begun (link.buffer ++ delivered past)

/-- A receive that fails with the stream says whether an ADU had begun, unless the read failed. -/
def Framing.TellsEnd (framing : Framing Header) : Prop :=
  ∀ config direction limit link e after,
    Receive.readAdu framing config direction limit link = (some (.error e), after) → e.failsStream = true →
    ∃ past how, EndsAfter link.stream past how ∧ e = how.error (!(framing.unfinished link past).isEmpty)

namespace Receive

/-- A link that has read data on top of what it held, and nothing else. -/
def Grows (link after : Link) : Prop :=
  ∃ past, link.stream.arrivals = past ++ after.stream.arrivals ∧
    (∀ arrival ∈ past, ∃ chunk, arrival.read = .ok chunk ∧ chunk.val ≠ []) ∧
    after.stream.ending = link.stream.ending ∧ after.buffer = link.buffer ++ delivered past

def Severs (link : Link) (e : Error) : Prop :=
  ∃ past how, EndsAfter link.stream past how ∧ e = how.error (!(link.buffer ++ delivered past).isEmpty)

theorem Grows.refl (link : Link) : Grows link link := ⟨[], rfl, by simp, rfl, (List.append_nil _).symm⟩

theorem Grows.read {link : Link} {now time : Nat} {chunk : {bytes : Bytes // bytes.length ≤ readChunk}}
    {rest : Reads} {ending : Option Nat} {timer : Timer} {buffer : Bytes}
    (grows : Grows link ⟨⟨now, ⟨time, .ok chunk⟩ :: rest, ending, timer⟩, buffer⟩) (nonempty : chunk.val ≠ [])
    (later : Nat) : Grows link ⟨⟨later, rest, ending, timer⟩, buffer ++ chunk.val⟩ := by
  obtain ⟨past, arrivals, data, ending, held⟩ := grows
  refine ⟨past ++ [⟨time, .ok chunk⟩], by simpa using arrivals, ?_, ending, ?_⟩
  · intro arrival inside
    rcases List.mem_append.mp inside with before | last
    · exact data arrival before
    · obtain rfl := List.mem_singleton.mp last
      exact ⟨chunk, rfl, nonempty⟩
  · simp only at held
    simp [held, delivered_append, delivered]

theorem Grows.severs {link middle : Link} {e : Error} (grows : Grows link middle) (severs : Severs middle e) :
    Severs link e := by
  obtain ⟨early, arrivals, data, ending, held⟩ := grows
  obtain ⟨late, how, ⟨data', ends⟩, told⟩ := severs
  refine ⟨early ++ late, how, ⟨?_, ?_⟩, ?_⟩
  · intro arrival inside
    exact (List.mem_append.mp inside).elim (data arrival) (data' arrival)
  · rw [arrivals, ← ending]
    cases how with
    | closed =>
      rcases ends with ⟨time, chunk, rest, empty, coming⟩ | ⟨coming, closed⟩
      · exact .inl ⟨time, chunk, rest, empty, by rw [coming, List.append_assoc]⟩
      · exact .inr ⟨by rw [coming], closed⟩
    | failed failure =>
      obtain ⟨time, rest, coming⟩ := ends
      exact ⟨time, rest, by rw [coming, List.append_assoc]⟩
  · rw [told, held, delivered_append, List.append_assoc]

theorem loop_reads {turn : Bytes → Turn ReadFailure Bytes (Result α)} (Holds : Bytes → Prop)
    (grown : ∀ {buffer bytes}, Holds buffer → Holds (buffer ++ bytes))
    (waits : ∀ {buffer next pending}, Holds buffer → turn buffer = .await next pending →
      pending = readMore buffer (!buffer.isEmpty))
    {limit : Option Nat} {link after : Link} {result : Result α} (holds : Holds link.buffer)
    (ran : loop turn limit link = (some result, after)) :
    (∃ buffer, Grows link ⟨after.stream, buffer⟩ ∧ turn buffer = .stop result after.buffer) ∨
      ∃ e, result = .error e ∧ Severs link e := by
  rcases drove : drive turn limit link.buffer link.stream with ⟨outcome, next, stream⟩
  simp only [loop, drove] at ran
  cases ran
  refine drove_rule turn limit (fun buffer stream => Holds buffer ∧ Grows link ⟨stream, buffer⟩)
    (fun result next stream => ∀ outcome, result = some outcome →
      (∃ buffer, Grows link ⟨stream, buffer⟩ ∧ turn buffer = .stop outcome next) ∨
        ∃ e, outcome = .error e ∧ Severs link e) ?_ ?_ ⟨holds, .refl link⟩ drove result rfl
  · intro buffer stream result next last sofar steps outcome came
    obtain ⟨holds, grows⟩ := sofar
    cases steps with
    | stop stops =>
      cases came
      exact .inl ⟨buffer, grows, stops⟩
    | @ended _ _ time rest awaits closed =>
      obtain rfl := waits holds awaits
      cases came
      refine .inr ⟨_, rfl, grows.severs ⟨[], .closed, ⟨by simp, ?_⟩, by simp [StreamEnd.error, delivered]⟩⟩
      rcases closed with ⟨chunk, empty, coming⟩ | ⟨coming, _, closing⟩
      · exact .inl ⟨time, chunk, rest, empty, coming⟩
      · exact .inr ⟨coming, by rw [closing]; rfl⟩
    | @failed _ _ time failure rest awaits coming =>
      obtain rfl := waits holds awaits
      cases came
      exact .inr ⟨_, rfl, grows.severs ⟨[], .failed failure, ⟨by simp, time, rest, coming⟩, rfl⟩⟩
    | elapsed awaits timed =>
      obtain rfl := waits holds awaits
      cases timed
    | abandoned => cases came
  · intro buffer stream next last sofar steps
    obtain ⟨holds, grows⟩ := sofar
    cases steps with
    | data awaits coming nonempty =>
      obtain rfl := waits holds awaits
      obtain ⟨now, arrivals, ending, timer⟩ := stream
      simp only at coming
      subst coming
      exact ⟨grown holds, grows.read nonempty _⟩

theorem fillTo_reads {max len : Nat} {limit : Option Nat} {link after : Link} {result : Result Unit}
    (ran : fillTo max len limit link = (some result, after)) :
    result = .ok () ∧ Grows link after ∨
      ∃ e, result = .error e ∧ (e.failsStream = true → Severs link e) := by
  unfold fillTo at ran
  split at ran
  · cases ran
    exact .inr ⟨_, rfl, by simp [Error.failsStream]⟩
  · have reads := loop_reads (fun _ => True) (fun _ => trivial) (fun _ awaits => (fillTurn_await awaits).2)
      trivial ran
    rcases reads with ⟨buffer, grows, stops⟩ | ⟨e, failed, severs⟩
    · obtain ⟨done, rfl, _⟩ := fillTurn_stop stops
      exact .inl ⟨done, grows⟩
    · exact .inr ⟨e, failed, fun _ => severs⟩

theorem andThen_severs {max len : Nat} {limit : Option Nat} {link after : Link}
    {next : Unit → Link → Option (Result Bytes) × Link} {e : Error}
    (ran : andThen (fillTo max len limit link) next = (some (.error e), after)) (fails : e.failsStream = true)
    (rest : ∀ middle, fillTo max len limit link = (some (.ok ()), middle) →
      next () middle = (some (.error e), after) → Severs middle e) : Severs link e := by
  rcases filled : fillTo max len limit link with ⟨_ | early | _, middle⟩
  · rw [filled] at ran
    cases ran
  · rw [filled] at ran
    cases ran
    rcases fillTo_reads filled with ⟨same, _⟩ | ⟨_, same, severs⟩
    · cases same
    · cases same
      exact severs fails
  · rw [filled] at ran
    rcases fillTo_reads filled with ⟨_, grows⟩ | ⟨_, same, _⟩
    · exact grows.severs (rest middle filled ran)
    · cases same

variable {max : Nat} {limit : Option Nat} {link after : Link} {e : Error}

theorem readPrefixed_severs {prefixLen : Nat} {total : Bytes → Result Nat}
    (costs : ∀ bytes, CostsFrame (total bytes))
    (ran : readPrefixed max prefixLen total limit link = (some (.error e), after))
    (fails : e.failsStream = true) : Severs link e := by
  apply andThen_severs ran fails
  intro middle _ rest
  cases announced : total (middle.buffer.take prefixLen) with
  | error refusal =>
    rw [announced] at rest
    cases rest
    cases fails.symm.trans (Error.not_failsStream ((costs _).endsStream announced))
  | ok len =>
    rw [announced] at rest
    apply andThen_severs rest fails
    intro last _ taking
    cases taking

theorem readContentLength_severs {min : Nat} {extent : Direction → Bytes → Result Extent} {direction : Direction}
    (costs : ∀ bytes, CostsFrame (extent direction bytes)) (some_bytes : 0 < min)
    (ran : readContentLength max min extent direction limit link = (some (.error e), after))
    (fails : e.failsStream = true) : Severs link e := by
  apply andThen_severs ran fails
  intro middle filled rest
  have begun : middle.buffer ≠ [] := by
    obtain ⟨_, enough⟩ := fillTo_ok filled
    intro nothing
    rw [nothing, List.length_nil] at enough
    omega
  have reads := loop_reads (· ≠ []) (by simp_all) (by
    intro buffer next pending held awaits
    rw [(contentTurn_await awaits).2, List.isEmpty_eq_false_iff.mpr held, Bool.not_false]) begun rest
  rcases reads with ⟨buffer, _, stops⟩ | ⟨_, same, severs⟩
  · have framed : e.endsStream = false := by
      cases contentTurn_stop stops with
      | refused refused => exact (costs _).endsStream refused
      | full full =>
        unfold checkBufferBound at full
        split at full <;> cases full
        rfl
    cases fails.symm.trans (Error.not_failsStream framed)
  · cases same
    exact severs

end Receive

theorem Tcp.aduLen_costs (bytes : Bytes) : CostsFrame (Tcp.aduLen bytes) := by
  unfold Tcp.aduLen
  split
  · exact .bind (Tcp.checkLength_costs _) fun _ => .ok _
  · exact .error rfl

theorem Rtu.announced_costs {fc : UInt8} {found : Result (Option Nat)} (announced : Rtu.Announced fc found) :
    CostsFrame found := by
  cases announced with
  | known => exact .ok _
  | more => exact .ok _
  | unknown => exact .error rfl

theorem Rtu.checkExtent_costs (bytes : Bytes) (totalLen : Nat) : CostsFrame (Rtu.checkExtent bytes totalLen) :=
  .ite (.error rfl) (.ite (.ok _) (.ok _))

theorem Rtu.finishExtent_costs (bytes : Bytes) {found : Result (Option Nat)} (costs : CostsFrame found) :
    CostsFrame (Rtu.finishExtent bytes found) := by
  unfold Rtu.finishExtent
  split
  · exact .error (costs _ rfl)
  · exact .ok _
  · exact Rtu.checkExtent_costs bytes _

theorem Rtu.deriveExtent_costs (direction : Direction) (bytes : Bytes) :
    CostsFrame (Rtu.deriveExtent direction bytes) := by
  have identification : CostsFrame (Rtu.deriveFc43Mei14ResponseLength bytes) := by
    apply CostsFrame.ite (.ok _)
    split
    · exact .ok _
    · exact Rtu.checkExtent_costs bytes _
  apply CostsFrame.ite (.ok _)
  apply CostsFrame.ite (Rtu.finishExtent_costs bytes (.ok _))
  cases direction with
  | request => exact Rtu.finishExtent_costs bytes (Rtu.announced_costs (.request _ bytes))
  | response =>
    apply CostsFrame.ite
    · exact .ite (.ok _) (.ite identification (.error rfl))
    · exact Rtu.finishExtent_costs bytes (Rtu.announced_costs (.response _ bytes))

theorem tcp_tellsEnd : tcp.TellsEnd := by
  intro config direction limit link e after failed fails
  exact Receive.readPrefixed_severs Tcp.aduLen_costs failed fails

theorem rtuOverTcp_tellsEnd (crc16 : Bytes → UInt16) : (rtuOverTcp crc16).TellsEnd := by
  intro config direction limit link e after failed fails
  exact Receive.readContentLength_severs (Rtu.deriveExtent_costs direction) (by decide) failed fails

theorem ascii_tellsEnd : ascii.TellsEnd := by
  intro config direction limit link e after failed fails
  obtain ⟨result, last, read, receives⟩ :=
    Ascii.readDelimited_receives config.asciiInterCharacterTimeout limit link
  cases read.symm.trans failed
  cases receives with
  | full => cases fails
  | elapsed => cases fails
  | @ended past coming rest time reading _ closed =>
    refine ⟨past, .closed, ⟨reading.data, ?_⟩, rfl⟩
    rw [reading.arrivals]
    rcases closed with ⟨chunk, empty, rfl⟩ | ⟨rfl, _, closing⟩
    · exact .inl ⟨time, chunk, rest, empty, rfl⟩
    · exact .inr ⟨List.append_nil past, by rw [closing]; rfl⟩
  | @failed past coming time failure reading _ =>
    exact ⟨past, .failed failure, ⟨reading.data, time, coming, reading.arrivals⟩, rfl⟩

namespace Server

variable {Header σ : Type}

/-- The last receive of a loop that ended came, after these reads, to the end of the stream. -/
structure EndsWithStream (server : Server Header σ) (start before after : Session Header σ) (past : Reads)
    (how : StreamEnd) : Prop where
  reached : server.Reached start before
  ends : EndsAfter before.transport.reader.link.stream past how
  received : after.received = before.received ++ [.error (how.error
    (!(server.framing.unfinished before.transport.reader.link past).isEmpty))]

/-- A loop that ends with the stream reports a close only if no ADU had begun. The exception is a
read that fails inside an ADU as a close does. -/
def TellsSevered (server : Server Header σ) (start : Session Header σ) (reason : Disconnect)
    (after : Session Header σ) : Prop :=
  (reason = .closed ∨ ∃ e, after.received.getLast? = some (.error e) ∧ e.failsStream = true) →
  ∃ before past how, server.EndsWithStream start before after past how ∧
    ((how.isEof = true → server.framing.unfinished before.transport.reader.link past = []) →
      (reason = .closed → server.framing.unfinished before.transport.reader.link past = []) ∧
      (server.framing.unfinished before.transport.reader.link past ≠ [] →
        ∃ e, reason = .failed e ∧ after.hooks.getLast? = some (.error e)))

def ReportsSevered (server : Server Header σ) : Prop :=
  ∀ stream state turns reason after,
    server.exchange turns (.new (.new stream) state) = (.ended reason, after) →
    server.TellsSevered (.new (.new stream) state) reason after

variable {server : Server Header σ}

theorem recvRequest_ends (costs : server.framing.CostsFrames) (tells : server.framing.TellsEnd)
    {limit : Option Nat} {reader after : Reader} {e : Error}
    (got : reader.recvRequest server.framing.toFraming server.line limit = (some (.error e), after))
    (fails : e.failsStream = true) :
    ∃ past how, EndsAfter reader.link.stream past how ∧
      e = how.error (!(server.framing.unfinished reader.link past).isEmpty) := by
  obtain ⟨result, receiving, decoded⟩ := recvRequest_received got
  cases result with
  | ok adu =>
    cases fails.symm.trans (Error.not_failsStream ((costs.decodeRequest adu).endsStream decoded))
  | error _ =>
    cases decoded
    cases recvAdu_received receiving with
    | latched => cases fails
    | failed _ reading => exact tells _ _ _ _ _ _ reading fails

theorem unfinished_of_eof {how : StreamEnd} {unfinished : Bytes} {os : Option Int32}
    (told : Error.io .unexpectedEof os = how.error (!unfinished.isEmpty))
    (honest : how.isEof = true → unfinished = []) : unfinished = [] := by
  cases how with
  | closed =>
    cases unfinished with
    | nil => rfl
    | cons => cases told
  | failed failure =>
    apply honest
    simp only [StreamEnd.error, ReadFailure.error, Error.io.injEq] at told
    simp [StreamEnd.isEof, ← told.1]

def Severing (server : Server Header σ) (start : Session Header σ) : Standing → Session Header σ → Prop
  | .serving, session => ∀ e, session.received.getLast? = some (.error e) → e.failsStream = false
  | .waiting, _ => True
  | .ended reason, after => server.TellsSevered start reason after

theorem Does.last_received {noted after : Session Header σ} {hooks : List Hook} {written : Bytes}
    {past : List (Result (Header × RequestPdu))} {received : Result (Header × RequestPdu)}
    (does : server.Does noted after hooks written) (last : noted.received = past ++ [received]) :
    after.received.getLast? = some received := by
  rw [does.received, last, List.getLast?_concat]

theorem Severing.turned (costs : server.framing.CostsFrames) (tells : server.framing.TellsEnd)
    {start before after : Session Header σ} {standing : Standing} (reached : server.Reached start before)
    (sofar : server.Severing start .serving before) (turned : server.Turned before standing after) :
    server.Severing start standing after := by
  cases turned with
  | shuttingDown =>
    intro cause
    obtain same | ⟨e, last, fails⟩ := cause
    · cases same
    · cases fails.symm.trans (sofar e last)
  | waiting => trivial
  | handled got handled =>
    cases handled with
    | closed does =>
      intro _
      obtain ⟨past, how, ends, told⟩ := recvRequest_ends costs tells got rfl
      refine ⟨before, past, how, ⟨reached, ends, by rw [does.received, told]⟩, ?_⟩
      intro honest
      have nothing := unfinished_of_eof told honest
      exact ⟨fun _ => nothing, fun some_bytes => absurd nothing some_bytes⟩
    | @failed e _ _ _ does =>
      intro cause
      have fails : e.failsStream = true := by
        obtain same | ⟨e, last, fails⟩ := cause
        · cases same
        · cases (does.last_received rfl).symm.trans last
          exact fails
      obtain ⟨past, how, ends, told⟩ := recvRequest_ends costs tells got fails
      refine ⟨before, past, how, ⟨reached, ends, by rw [does.received, told]⟩, ?_⟩
      intro _
      refine ⟨by simp, ?_⟩
      intro _
      exact ⟨e, rfl, by simp [does.notified]⟩
    | survived framed _ does =>
      intro e last
      cases (does.last_received rfl).symm.trans last
      exact Error.not_failsStream framed
    | foreign _ does | answered _ does | unencodable _ _ _ does =>
      intro e last
      cases (does.last_received rfl).symm.trans last
    | unwritten _ _ does =>
      intro cause
      obtain same | ⟨e, last, _⟩ := cause
      · cases same
      · cases (does.last_received rfl).symm.trans last

theorem reportsSevered (costs : server.framing.CostsFrames) (tells : server.framing.TellsEnd) :
    server.ReportsSevered := by
  intro stream state turns reason after ended
  have severing := server.exchange_rule costs (.new (.new stream) state)
    (server.Severing (.new (.new stream) state)) (by intro e last; cases last) (by
      intro session standing after reached sofar turned
      exact Severing.turned costs tells reached sofar turned) turns
  rw [ended] at severing
  exact severing

end Server

/-- A severed frame is not reported as a close, as long as no read fails inside a frame with the
error of a close. -/
theorem severed_frame_is_a_failure (crc16 : Bytes → UInt16) {σ : Type} (line : TransportConfig)
    (config : ServerConfig) (service : Service σ) (shutdown : Option Nat) (passages : Nat → Passage) :
    (Server.mk .tcp line config service shutdown passages).ReportsSevered ∧
    (Server.mk (.serial (rtuOverTcp crc16)) line config service shutdown passages).ReportsSevered ∧
    (Server.mk (.serial ascii) line config service shutdown passages).ReportsSevered :=
  ⟨Server.reportsSevered tcp_costsFrames tcp_tellsEnd,
    Server.reportsSevered (rtuOverTcp_costsFrames crc16) (rtuOverTcp_tellsEnd crc16),
    Server.reportsSevered ascii_costsFrames ascii_tellsEnd⟩

/-- Three bytes of a request, then the end of the stream. -/
theorem severed_request_is_a_failure :
    let server := Server.mk .tcp .default ⟨none⟩ sevens none fun _ => ⟨0, 0, none, []⟩
    let start : Line := ⟨0, [⟨0, .ok ⟨[0, 1, 0], by decide⟩⟩], some 9, .exact⟩
    let served := server.exchange 1 (.new (.new start) 0)
    (served.1 = .ended (.failed .connectionClosed) ∧
      served.2.received.getLast? = some (.error .connectionClosed)) ∧
    ∃ before past how, server.EndsWithStream (.new (.new start) 0) before served.2 past how := by
  intro server start served
  have ended : served.1 = .ended (.failed .connectionClosed) ∧
      served.2.received.getLast? = some (.error .connectionClosed) := by decide
  obtain ⟨before, past, how, ends, _⟩ := (severed_frame_is_a_failure (fun _ => 0) .default ⟨none⟩ sevens none
    fun _ => ⟨0, 0, none, []⟩).1 start 0 1 _ served.2 (Prod.ext ended.1 rfl) (.inr ⟨_, ended.2, rfl⟩)
  exact ⟨ended, before, past, how, ends⟩

/-- Three bytes of a request, then a read that fails with the error of a close: the connection is
reported closed, and no failure is. -/
theorem severed_request_reported_closed :
    let server := Server.mk .tcp .default ⟨none⟩ sevens none fun _ => ⟨0, 0, none, []⟩
    let start : Line := ⟨0, [⟨0, .ok ⟨[0, 1, 0], by decide⟩⟩, ⟨5, .error ⟨.unexpectedEof, none⟩⟩], none, .exact⟩
    let served := server.exchange 1 (.new (.new start) 0)
    EndsAfter start [⟨0, .ok ⟨[0, 1, 0], by decide⟩⟩] (.failed ⟨.unexpectedEof, none⟩) ∧
    server.framing.unfinished ⟨start, []⟩ [⟨0, .ok ⟨[0, 1, 0], by decide⟩⟩] = [0, 1, 0] ∧
    served.1 = .ended .closed ∧ served.2.hooks.length = 0 ∧
    served.2.transport.reader.link.buffer = [0, 1, 0] := by
  refine ⟨⟨?_, 5, [], rfl⟩, by decide⟩
  intro arrival inside
  obtain rfl := List.mem_singleton.mp inside
  exact ⟨⟨[0, 1, 0], by decide⟩, rfl, by decide⟩

end Modbus
