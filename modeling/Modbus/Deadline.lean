import Modbus.ClientMatching
import Modbus.ClientWrites
import Modbus.SeveredFrame

/-! How long a call takes. The response deadline is fixed when the request is on the
wire, and every receive of the wait is abandoned when the timer set for it goes off:
neither a peer that sends byte by byte nor one that floods the client with other
exchanges' frames makes a call wait longer, and no call gives up before. -/
namespace Modbus

open Bytes ByteStream

namespace Receive

variable {α β : Type} {bound : Nat} {link after : Link}

theorem loop_timely {turn : Bytes → Turn ReadFailure Bytes (Result α)} {result : Option (Result α)}
    (ran : loop turn (some bound) link = (result, after)) :
    Timely link.stream.clockOf bound result after.stream.clockOf := by
  unfold loop at ran
  rcases drove : drive turn (some bound) link.buffer link.stream with ⟨outcome, buffer, stream⟩
  rw [drove] at ran
  cases ran
  exact drive_timely drove

theorem andThen_timely {clock : Clock} {first : Option (Result α) × Link}
    {next : α → Link → Option (Result β) × Link} {result : Option (Result β)}
    (begins : Timely clock bound first.1 first.2.stream.clockOf)
    (goes : ∀ a link result after, next a link = (result, after) →
      Timely link.stream.clockOf bound result after.stream.clockOf)
    (ran : andThen first next = (result, after)) : Timely clock bound result after.stream.clockOf := by
  rcases first with ⟨_ | e | a, link⟩
  · cases ran
    exact begins.of_iff fun _ => rfl
  · cases ran
    exact begins.of_iff (by rintro ⟨⟩)
  · exact begins.trans (goes a link result after ran)

theorem fillTo_timely {max len : Nat} {result : Option (Result Unit)}
    (ran : fillTo max len (some bound) link = (result, after)) :
    Timely link.stream.clockOf bound result after.stream.clockOf := by
  unfold fillTo at ran
  split at ran
  · cases ran
    exact .still _ _ _
  · exact loop_timely ran

variable {Header : Type} {framing : Framing Header} {config : TransportConfig} {direction : Direction}
  {result : Option (Result Bytes)}

theorem readAdu_timely (ran : readAdu framing config direction (some bound) link = (result, after)) :
    Timely link.stream.clockOf bound result after.stream.clockOf := by
  unfold readAdu at ran
  split at ran
  · apply andThen_timely (fillTo_timely rfl) _ ran
    intro _ middle result after rest
    split at rest
    · cases rest
      exact .still _ _ _
    · apply andThen_timely (fillTo_timely rfl) _ rest
      intro _ full result after taken
      cases taken
      exact .still _ _ _
  · next start terminator _ =>
    unfold readDelimited at ran
    rcases drove : drive (delimitedTurn framing.maxAduLen config.asciiInterCharacterTimeout start
      terminator) (some bound) ⟨link.buffer, 0⟩ link.stream with ⟨outcome, state, stream⟩
    rw [drove] at ran
    cases ran
    exact drive_timely drove
  · exact loop_timely ran
  · apply andThen_timely (fillTo_timely rfl) _ ran
    intro _ middle result after rest
    exact loop_timely rest

end Receive

theorem recvAdu_timely {Header : Type} {framing : Framing Header} {config : TransportConfig}
    {direction : Direction} {bound : Nat} {reader after : Reader} {result : Option (Result Bytes)}
    (ran : recvAdu framing config direction (some bound) reader = (result, after)) :
    Timely reader.link.stream.clockOf bound result after.link.stream.clockOf := by
  cases recvAdu_received ran with
  | latched => exact .still _ _ _
  | abandoned _ reading => exact Receive.readAdu_timely reading
  | adu _ reading => exact Receive.readAdu_timely reading
  | failed _ reading =>
    have timely := Receive.readAdu_timely reading
    dsimp only
    split <;> exact timely

/-- Not the report of an overdue response. -/
def Prompt {α : Type} (result : Result α) : Prop := result ≠ .error (.timeout "response")

theorem CostsFrame.prompt {α : Type} {result : Result α} (costs : CostsFrame result) : Prompt result := by
  intro overdue
  cases costs _ overdue

/-- The errors of a boundary rule are about the frame. -/
def AduBoundary.CostsFrames : AduBoundary → Prop
  | .prefixed _ total => ∀ bytes, CostsFrame (total bytes)
  | .contentLength _ extent => ∀ direction bytes, CostsFrame (extent direction bytes)
  | .delimited _ _ | .silence => True

namespace Receive

variable {α β : Type} {limit : Option Nat} {link after : Link}

theorem endOfStream_prompt (midAdu : Bool) : Prompt (.error (endOfStream midAdu) : Result α) := by
  cases midAdu <;> rintro ⟨⟩

theorem failure_prompt (failure : ReadFailure) : Prompt (.error failure.error : Result α) := by
  rintro ⟨⟩

theorem checkBufferBound_prompt {max : Nat} {buffer : Bytes} {e : Error}
    (full : checkBufferBound max buffer = .error e) : Prompt (.error e : Result α) := by
  unfold checkBufferBound at full
  split at full <;> cases full
  rintro ⟨⟩

theorem readMore_prompt {buffer next : Bytes} {midAdu : Bool} {result : Result α}
    (outcome : (readMore buffer midAdu).Yields result next) : Prompt result := by
  rcases outcome with same | same | ⟨failure, same⟩
  all_goals cases same
  · exact endOfStream_prompt midAdu
  · exact endOfStream_prompt midAdu
  · exact failure_prompt failure

theorem loop_prompt {turn : Bytes → Turn ReadFailure Bytes (Result α)}
    (concludes : ∀ {last result next}, Concludes turn last result next → Prompt result) {result : Result α}
    (ran : loop turn limit link = (some result, after)) : Prompt result := by
  unfold loop at ran
  rcases drove : drive turn limit link.buffer link.stream with ⟨outcome, buffer, stream⟩
  rw [drove] at ran
  cases ran
  obtain ⟨last, _, ends⟩ := drive_ending turn limit (fun _ => True) (fun _ _ _ => trivial) trivial drove
  exact concludes ends

theorem fillTo_prompt {max len : Nat} {result : Result Unit}
    (ran : fillTo max len limit link = (some result, after)) : Prompt result := by
  unfold fillTo at ran
  split at ran
  · cases ran
    rintro ⟨⟩
  · apply loop_prompt _ ran
    intro last result next concludes
    rcases concludes with stops | ⟨_, _, awaits, yields⟩
    · obtain ⟨rfl, _⟩ := fillTurn_stop stops
      rintro ⟨⟩
    · obtain ⟨rfl, rfl⟩ := fillTurn_await awaits
      exact readMore_prompt yields

theorem andThen_prompt {first : Option (Result α) × Link} {next : α → Link → Option (Result β) × Link}
    {result : Result β} (begins : ∀ result, first.1 = some result → Prompt result)
    (goes : ∀ a link result after, next a link = (some result, after) → Prompt result)
    (ran : andThen first next = (some result, after)) : Prompt result := by
  rcases first with ⟨_ | e | a, link⟩
  · cases ran
  · cases ran
    intro overdue
    cases overdue
    exact begins _ rfl rfl
  · exact goes a link result after ran

theorem contentTurn_prompt {max : Nat} {extent : Direction → Bytes → Result Extent} {direction : Direction}
    (costs : ∀ bytes, CostsFrame (extent direction bytes)) {last next : Bytes} {result : Result Bytes}
    (concludes : Concludes (contentTurn max extent direction) last result next) : Prompt result := by
  rcases concludes with stops | ⟨_, _, awaits, yields⟩
  · cases contentTurn_stop stops with
    | complete => rintro ⟨⟩
    | refused refused =>
      intro overdue
      cases overdue
      exact (costs last).prompt refused
    | full full => exact checkBufferBound_prompt full
  · obtain ⟨rfl, rfl⟩ := contentTurn_await awaits
    exact readMore_prompt yields

theorem delimitedTurn_prompt {max timeout : Nat} {start : UInt8} {terminator : Bytes} {last next : Search}
    {result : Result Bytes} (concludes : Concludes (delimitedTurn max timeout start terminator) last result next) :
    Prompt result := by
  unfold Concludes delimitedTurn at concludes
  split at concludes
  · rcases concludes with stops | ⟨_, _, awaits, _⟩
    · cases stops
      rintro ⟨⟩
    · cases awaits
  · split at concludes
    next full =>
      rcases concludes with stops | ⟨_, _, awaits, _⟩
      · cases stops
        exact checkBufferBound_prompt full
      · cases awaits
    · rcases concludes with stops | ⟨_, _, awaits, yields⟩
      · cases stops
      · cases awaits
        rcases yields with same | same | ⟨failure, same⟩
        all_goals cases same
        · simp [Prompt]
        · exact endOfStream_prompt _
        · exact failure_prompt failure

variable {Header : Type} {framing : Framing Header} {config : TransportConfig} {direction : Direction}
  {result : Result Bytes}

theorem readAdu_prompt (costs : framing.boundary.CostsFrames)
    (ran : readAdu framing config direction limit link = (some result, after)) : Prompt result := by
  unfold readAdu at ran
  split at ran
  next prefixLen total boundary =>
    rw [boundary] at costs
    apply andThen_prompt (fun result filled => fillTo_prompt (Prod.ext filled rfl)) _ ran
    intro _ middle result after rest
    split at rest
    next refused =>
      cases rest
      intro overdue
      cases overdue
      exact (costs _).prompt refused
    · apply andThen_prompt (fun result filled => fillTo_prompt (Prod.ext filled rfl)) _ rest
      intro _ full result after taken
      cases taken
      rintro ⟨⟩
  next start terminator boundary =>
    unfold readDelimited at ran
    rcases drove : drive (delimitedTurn framing.maxAduLen config.asciiInterCharacterTimeout start
      terminator) limit ⟨link.buffer, 0⟩ link.stream with ⟨outcome, state, stream⟩
    rw [drove] at ran
    cases ran
    obtain ⟨last, _, ends⟩ := drive_ending _ limit (fun _ => True) (fun _ _ _ => trivial) trivial drove
    exact delimitedTurn_prompt ends
  next boundary =>
    obtain ⟨buffer, ends⟩ := readUntilSilence_ends ran
    cases ends with
    | silence => rintro ⟨⟩
    | tooLarge => rintro ⟨⟩
    | ended => exact endOfStream_prompt false
    | failed failure => exact failure_prompt failure
  next least extent boundary =>
    rw [boundary] at costs
    apply andThen_prompt (fun result filled => fillTo_prompt (Prod.ext filled rfl)) _ ran
    intro _ middle result after rest
    exact loop_prompt (contentTurn_prompt (costs direction)) rest

end Receive

theorem recvAdu_prompt {Header : Type} {framing : Framing Header} {config : TransportConfig}
    {direction : Direction} {limit : Option Nat} {reader after : Reader} {result : Result Bytes}
    (costs : framing.boundary.CostsFrames)
    (ran : recvAdu framing config direction limit reader = (some result, after)) : Prompt result := by
  cases recvAdu_received ran with
  | latched => simp [Prompt]
  | adu => rintro ⟨⟩
  | failed _ reading => exact Receive.readAdu_prompt costs reading

def ClientTransport.clock {Header σ : Type} (transport : ClientTransport Header σ) (state : σ) : Clock :=
  ⟨transport.now state, transport.timer state⟩

/-- A transport whose receives end by the moment they are abandoned at, and leave it to the client
to report that a response is overdue. -/
structure ClientTransport.Punctual {Header σ : Type} (transport : ClientTransport Header σ) : Prop where
  receives : ∀ {bound state result after}, transport.recvResponse (some bound) state = (result, after) →
    Timely (transport.clock state) bound result (transport.clock after)
  reports : ∀ {limit state result after},
    transport.recvResponse limit state = (some result, after) → Prompt result

theorem FrameTransport.recvResponse_eq {Header : Type} (framing : Framing Header) (config : TransportConfig)
    (limit : Option Nat) (transport : FrameTransport) :
    transport.recvResponse framing config limit =
      ((recvAdu framing config .response limit transport.reader).1.map (·.bind framing.decodeResponse),
        { transport with reader := (recvAdu framing config .response limit transport.reader).2 }) := by
  unfold recvResponse
  rcases recvAdu framing config .response limit transport.reader with ⟨_ | received, reader⟩
  · rfl
  · rfl

theorem FrameTransport.punctual {Header : Type} {framing : Framing Header} (config : TransportConfig)
    (refuses : ∀ received, framing.decodeResponse [] ≠ .ok received) (costs : framing.CostsFrames)
    (bounds : framing.boundary.CostsFrames) : (clientTransport framing config refuses).Punctual where
  receives {bound state result after} ran := by
    change recvResponse framing config (some bound) state = (result, after) at ran
    rw [recvResponse_eq] at ran
    cases ran
    exact (recvAdu_timely rfl).of_iff Option.map_eq_none_iff.mp
  reports {limit state result after} ran := by
    change recvResponse framing config limit state = (some result, after) at ran
    rw [recvResponse_eq] at ran
    obtain ⟨decoded, rfl⟩ := Prod.mk.inj ran
    obtain ⟨received, receiving, rfl⟩ := Option.map_eq_some_iff.mp decoded
    cases received with
    | error e =>
      intro overdue
      cases overdue
      exact recvAdu_prompt bounds (Prod.ext receiving rfl) rfl
    | ok adu => exact (costs.decodeResponse adu).prompt

def FrameTransport.clock (transport : FrameTransport) : Clock := transport.reader.link.stream.clockOf

/-- The clock when a request has been sent, or has not. -/
inductive FrameTransport.Paced (transport after : FrameTransport) (limit : Option Nat) : Option (Result Unit) → Prop
  | unwritten {e : Error} : Prompt (.error e : Result Unit) → after.clock = transport.clock →
      Paced transport after limit (some (.error e))
  | written : Within (max transport.clock.now transport.passage.written) limit →
      after.clock = ⟨max transport.clock.now transport.passage.written, transport.clock.timer⟩ →
      Paced transport after limit (some (.ok ()))
  | dropped {bound : Nat} : limit = some bound → bound < max transport.clock.now transport.passage.written →
      after.clock = transport.clock → Paced transport after limit none

theorem FrameTransport.sendRequest_paced {Header : Type} {framing : Framing Header} (costs : framing.CostsFrames)
    {header : Header} {pdu : RequestPdu} {limit : Option Nat} {transport after : FrameTransport}
    {result : Option (Result Unit)}
    (sent : transport.sendRequest framing header pdu limit = (result, after)) :
    transport.Paced after limit result := by
  have costly := costs.encodeRequest header pdu
  unfold Framing.encodeRequest ByteWriter.allocating at costly
  unfold sendRequest at sent
  rcases running : (framing.encodeRequestInto header pdu).run [] with ⟨e | _, outgoing⟩
  all_goals rw [running] at sent costly
  · cases sent
    exact .unwritten (fun overdue => by cases overdue; cases costly _ rfl) rfl
  · simp only [send] at sent
    split at sent
    next allowed =>
      split at sent
      · cases sent
        exact .unwritten (Receive.failure_prompt _) rfl
      · cases sent
        exact .written allowed rfl
    next late =>
      cases sent
      cases limit with
      | none => exact absurd trivial late
      | some bound => exact .dropped rfl (Nat.lt_of_not_le late) rfl

namespace Client

/-- A wait that goes on until the deadline or the moment its caller drops it, without a result only if
the caller comes first, and overdue at the deadline only. -/
structure Waited (before : Clock) (deadline : Nat) (limit : Option Nat)
    (result : Option (Result (Option ResponsePdu))) (after : Clock) : Prop where
  timer : after.timer = before.timer
  onward : before.now ≤ after.now
  inTime : after.now ≤ max before.now (waitUntil deadline limit)
  dropped : result = none → ∃ bound, limit = some bound ∧ bound < deadline ∧ after.now = max before.now bound
  overdue : result = some (.error (.timeout "response")) → after.now = max before.now deadline

section Wait

variable {Header σ : Type} {framing : ClientFraming Header} {transport : ClientTransport Header σ}
  {limit : Option Nat} {client after : Client σ} {result : Option (Result (Option ResponsePdu))}

theorem waitUntil_lt {deadline : Nat} (early : waitUntil deadline limit < deadline) :
    ∃ bound, limit = some bound ∧ bound < deadline ∧ waitUntil deadline limit = bound := by
  cases limit with
  | none => exact absurd early (Nat.lt_irrefl _)
  | some bound =>
    simp only [waitUntil] at early ⊢
    exact ⟨bound, rfl, by omega, by omega⟩

theorem Waited.of_later {before middle later : Clock} {deadline : Nat} (timer : middle.timer = before.timer)
    (onward : before.now ≤ middle.now) (inTime : middle.now ≤ max before.now (waitUntil deadline limit))
    (waited : Waited middle deadline limit result later) : Waited before deadline limit result later := by
  constructor
  · exact waited.timer.trans timer
  · exact Nat.le_trans onward waited.onward
  · have bounded := waited.inTime
    omega
  · intro nothing
    obtain ⟨bound, rfl, early, last⟩ := waited.dropped nothing
    have least : waitUntil deadline (some bound) ≤ bound := Nat.min_le_right _ _
    exact ⟨bound, rfl, early, by omega⟩
  · intro overdue
    have last := waited.overdue overdue
    have least := waitUntil_le deadline limit
    omega

/-- A wait with a receive left for everything still to come. -/
theorem awaitResponse_waited (punctual : transport.Punctual) {header : Header} {expected : FunctionCode}
    {deadline fuel : Nat} (enough : transport.remaining client.transport < fuel)
    (awaited : awaitResponse framing transport header expected deadline limit fuel client = (result, after)) :
    Waited (transport.clock client.transport) deadline limit result (transport.clock after.transport) := by
  induction fuel generalizing client with
  | zero => omega
  | succ fuel ih =>
    rw [awaitResponse] at awaited
    rcases receiving : transport.recvResponse (some (waitUntil deadline limit)) client.transport with
      ⟨_ | e | ⟨headerIn, response⟩, middle⟩
    all_goals
      obtain ⟨timer, onward, inTime, last⟩ := punctual.receives receiving
      simp only [receiving] at awaited
    · split at awaited
      next early =>
        cases awaited
        obtain ⟨bound, rfl, sooner, same⟩ := waitUntil_lt early
        exact ⟨timer, onward, inTime, fun _ => ⟨bound, rfl, sooner, same ▸ last rfl⟩, by rintro ⟨⟩⟩
      next late =>
        cases awaited
        have same : waitUntil deadline limit = deadline :=
          Nat.le_antisymm (waitUntil_le deadline limit) (Nat.le_of_not_lt late)
        exact ⟨timer, onward, inTime, by rintro ⟨⟩, fun _ => same ▸ last rfl⟩
    · cases awaited
      refine ⟨timer, onward, inTime, by rintro ⟨⟩, ?_⟩
      intro overdue
      cases overdue
      exact absurd rfl (punctual.reports receiving)
    · have shorter := transport.consumes receiving
      split at awaited
      · split at awaited
        all_goals
          cases awaited
          exact ⟨timer, onward, inTime, by rintro ⟨⟩, by rintro ⟨⟩⟩
      · exact .of_later timer onward inTime (ih (by dsimp only; omega) awaited)

theorem awaitResponse_config (header : Header) (expected : FunctionCode) (deadline : Nat) (limit : Option Nat)
    (fuel : Nat) (client : Client σ) :
    (awaitResponse framing transport header expected deadline limit fuel client).2.config = client.config := by
  induction fuel generalizing client with
  | zero => rfl
  | succ fuel ih =>
    rw [awaitResponse]
    rcases transport.recvResponse (some (waitUntil deadline limit)) client.transport with
      ⟨_ | e | ⟨received, response⟩, middle⟩
    · dsimp only
      split <;> rfl
    · rfl
    · dsimp only
      split
      · split <;> rfl
      · exact ih _

theorem call_config (unit : UnitId) (request : RequestPdu) (limit : Option Nat) (client : Client σ) :
    (call framing transport unit request limit client).2.config = client.config := by
  unfold call
  split
  · rfl
  · split
    · rfl
    · dsimp only
      split
      · rfl
      · rfl
      · split
        · rfl
        · rw [awaitResponse_config]

end Wait

section Calls

variable {Header : Type} {framing : ClientFraming Header} {config : TransportConfig}
  {refuses : ∀ received, framing.decodeResponse [] ≠ .ok received}

/-- The client's clock. -/
def clock (client : Client FrameTransport) : Clock := client.transport.clock

/-- When the timer of a call's response goes off. -/
def expiry (clock : Clock) (timeout : Nat) (invocation : Invocation) : Nat :=
  clock.timer.fires (max clock.now invocation.passage.written + timeout)

/-- A call whose request, once it is written, is given `timeout`. -/
structure OnTime (clock : Clock) (timeout : Nat) (invocation : Invocation)
    (result : Option (Result (Option ResponsePdu))) (after : Client FrameTransport) : Prop where
  timer : after.clock.timer = clock.timer
  onward : clock.now ≤ after.clock.now
  inTime : after.clock.now ≤ expiry clock timeout invocation
  limited : ∀ bound, invocation.limit = some bound → after.clock.now ≤ max clock.now bound
  dropped : result = none → ∃ bound, invocation.limit = some bound ∧ bound < expiry clock timeout invocation
  overdue : result = some (.error (.timeout "response")) → after.clock.now = expiry clock timeout invocation

variable {clock : Clock} {timeout : Nat} {invocation : Invocation} {after : Client FrameTransport}

theorem le_expiry : max clock.now invocation.passage.written + timeout ≤ expiry clock timeout invocation :=
  clock.timer.patient _

theorem OnTime.still {result : Option (Result (Option ResponsePdu))} (still : after.clock = clock)
    (dropped : result = none → ∃ bound, invocation.limit = some bound ∧ bound < expiry clock timeout invocation)
    (prompt : result ≠ some (.error (.timeout "response"))) : OnTime clock timeout invocation result after := by
  subst still
  have later := @le_expiry after.clock timeout invocation
  constructor
  · rfl
  · exact Nat.le_refl _
  · omega
  · intros
    omega
  · exact dropped
  · exact fun overdue => absurd overdue prompt

theorem OnTime.unsent {e : Error} (prompt : Prompt (.error e : Result Unit)) (still : after.clock = clock) :
    OnTime clock timeout invocation (some (.error e)) after := by
  refine .still still nofun fun overdue => ?_
  cases overdue
  exact prompt rfl

theorem OnTime.unwritten {bound : Nat} (same : invocation.limit = some bound)
    (early : bound < max clock.now invocation.passage.written) (still : after.clock = clock) :
    OnTime clock timeout invocation none after := by
  have later := @le_expiry clock timeout invocation
  exact .still still (fun _ => ⟨bound, same, by omega⟩) nofun

theorem OnTime.broadcast (allowed : Within (max clock.now invocation.passage.written) invocation.limit)
    (last : after.clock = ⟨max clock.now invocation.passage.written, clock.timer⟩) :
    OnTime clock timeout invocation (some (.ok none)) after := by
  have later := @le_expiry clock timeout invocation
  have reached := congrArg Clock.now last
  dsimp only at reached
  constructor
  · have same := congrArg Clock.timer last
    exact same
  · omega
  · omega
  · intro bound same
    rw [same] at allowed
    change max clock.now invocation.passage.written ≤ bound at allowed
    omega
  · rintro ⟨⟩
  · rintro ⟨⟩

theorem OnTime.waited {result : Option (Result (Option ResponsePdu))}
    (allowed : Within (max clock.now invocation.passage.written) invocation.limit)
    (waited : Waited ⟨max clock.now invocation.passage.written, clock.timer⟩ (expiry clock timeout invocation)
      invocation.limit result after.clock) :
    OnTime clock timeout invocation result after := by
  have later := @le_expiry clock timeout invocation
  have inTime := waited.inTime
  dsimp only at inTime
  constructor
  · exact waited.timer
  · have onward := waited.onward
    dsimp only at onward
    omega
  · have least := waitUntil_le (expiry clock timeout invocation) invocation.limit
    omega
  · intro bound same
    rw [same] at allowed inTime
    change max clock.now invocation.passage.written ≤ bound at allowed
    simp only [waitUntil] at inTime
    omega
  · intro nothing
    obtain ⟨bound, same, early, _⟩ := waited.dropped nothing
    exact ⟨bound, same, early⟩
  · intro overdue
    have late := waited.overdue overdue
    dsimp only at late
    omega

/-- `Instant + Duration`, which panics past the last moment an `Instant` can hold. -/
def addDuration (horizon now timeout : Nat) : Option Nat :=
  if now + timeout ≤ horizon then some (now + timeout) else none

/-- `call` with the arithmetic of its deadline; no result is a panic. -/
def checkedCall {σ : Type} (horizon : Nat) (framing : ClientFraming Header) (transport : ClientTransport Header σ)
    (unit : UnitId) (request : RequestPdu) (limit : Option Nat) (client : Client σ) :
    Option (Option (Result (Option ResponsePdu)) × Client σ) :=
  if client.isDesynchronized then some (some (.error .desynchronized), client)
  else match request.encode with
    | .error e => some (some (.error e), client)
    | .ok _ =>
      let header := framing.requestHeader unit client.nextTransaction
      match transport.sendRequest header request limit client.transport with
      | (none, state) => some (none, { client with transport := state })
      | (some (.error e), state) =>
        some (some (.error e),
          { client with transport := state, state := .unusable (classifyUnusableReason e) })
      | (some (.ok ()), state) =>
        let client :=
          { client with transport := state, nextTransaction := next client.nextTransaction }
        if framing.isBroadcast unit then some (some (.ok none), client)
        else match addDuration horizon (transport.now state) client.config.responseTimeout with
          | none => none
          | some deadline => some (awaitResponse framing transport header request.function
            ((transport.timer state).fires deadline) limit (transport.remaining state + 1) client)

/-- A call panics unless its deadline can be represented, and is otherwise the call without the check. -/
theorem checkedCall_eq {σ : Type} {horizon : Nat} {transport : ClientTransport Header σ} {unit : UnitId}
    {request : RequestPdu} {limit : Option Nat} {client : Client σ}
    (fits : ∀ state, transport.sendRequest (framing.requestHeader unit client.nextTransaction) request limit
      client.transport = (some (.ok ()), state) → transport.now state + client.config.responseTimeout ≤ horizon) :
    checkedCall horizon framing transport unit request limit client =
      some (call framing transport unit request limit client) := by
  cases usable : client.isDesynchronized with
  | true => rw [call_desynchronized usable, checkedCall, if_pos usable]
  | false =>
    cases encodes : request.encode with
    | error e =>
      rw [call_unencodable usable encodes]
      simp [checkedCall, usable, encodes]
    | ok pdu =>
      rcases sending : transport.sendRequest (framing.requestHeader unit client.nextTransaction) request limit
        client.transport with ⟨_ | e | _, state⟩
      · rw [call_dropped usable encodes sending]
        simp [checkedCall, usable, encodes, sending]
      · rw [call_unsent usable encodes sending]
        simp [checkedCall, usable, encodes, sending]
      · have deadline : addDuration horizon (transport.now state) client.config.responseTimeout =
            some (transport.now state + client.config.responseTimeout) := if_pos (fits state sending)
        rw [call_sent usable encodes sending]
        simp only [checkedCall, usable, encodes, sending, deadline, Bool.false_eq_true, if_false]
        split <;> rfl

/-- The calls one after the other, each with the arithmetic of its deadline. -/
def checkedInvokeEach (horizon : Nat) (framing : ClientFraming Header) (config : TransportConfig)
    (refuses : ∀ received, framing.decodeResponse [] ≠ .ok received) :
    List Invocation → Client FrameTransport → Option (Client FrameTransport)
  | [], client => some client
  | invocation :: rest, client =>
    match checkedCall horizon framing (FrameTransport.clientTransport framing.toFraming config refuses)
      invocation.unit invocation.request invocation.limit (client.before invocation) with
    | none => none
    | some run => checkedInvokeEach horizon framing config refuses rest run.2

theorem call_onTime (costs : framing.CostsFrames) (bounds : framing.boundary.CostsFrames)
    {invocation : Invocation} {client after : Client FrameTransport} {result : Option (Result (Option ResponsePdu))}
    (passage : client.transport.passage = invocation.passage)
    (ran : call framing (FrameTransport.clientTransport framing.toFraming config refuses) invocation.unit
      invocation.request invocation.limit client = (result, after)) :
    OnTime client.clock client.config.responseTimeout invocation result after := by
  have punctual := FrameTransport.punctual config refuses costs bounds
  cases usable : client.isDesynchronized with
  | true =>
    rw [call_desynchronized usable] at ran
    cases ran
    exact .unsent (by rintro ⟨⟩) rfl
  | false =>
    cases encodable : invocation.request.encode with
    | error e =>
      rw [call_unencodable usable encodable] at ran
      cases ran
      have frame : e.ofFrame = true := invocation.request.encodeInto_encodes.allocating encodable
      exact .unsent (CostsFrame.error frame).prompt rfl
    | ok pdu =>
      rcases sending : (FrameTransport.clientTransport framing.toFraming config refuses).sendRequest
        (framing.requestHeader invocation.unit client.nextTransaction) invocation.request invocation.limit
        client.transport with ⟨sent, transport⟩
      cases FrameTransport.sendRequest_paced costs sending with
      | unwritten prompt still =>
        rw [call_unsent usable encodable sending] at ran
        cases ran
        exact .unsent prompt still
      | dropped same early still =>
        rw [call_dropped usable encodable sending] at ran
        cases ran
        rw [passage] at early
        exact .unwritten same early still
      | written allowed last =>
        rw [call_sent usable encodable sending] at ran
        rw [passage] at allowed last
        split at ran
        · cases ran
          exact .broadcast allowed last
        · have waited : Waited transport.clock
              (transport.clock.timer.fires (transport.clock.now + client.config.responseTimeout))
              invocation.limit result after.clock :=
            awaitResponse_waited punctual (Nat.lt_succ_self _) ran
          rw [last] at waited
          exact .waited allowed waited

theorem checkedCall_onTime (costs : framing.CostsFrames) (bounds : framing.boundary.CostsFrames) {horizon : Nat}
    {invocation : Invocation} {client : Client FrameTransport}
    (passage : client.transport.passage = invocation.passage)
    (fits : max client.clock.now invocation.passage.written + client.config.responseTimeout ≤ horizon) :
    ∃ run, checkedCall horizon framing (FrameTransport.clientTransport framing.toFraming config refuses)
        invocation.unit invocation.request invocation.limit client = some run ∧
      OnTime client.clock client.config.responseTimeout invocation run.1 run.2 ∧ run.2.config = client.config := by
  refine ⟨_, checkedCall_eq ?_, call_onTime costs bounds passage rfl, call_config _ _ _ _⟩
  intro state sending
  cases FrameTransport.sendRequest_paced costs sending with
  | written _ last =>
    rw [passage] at last
    have reached : state.clock.now = max client.clock.now invocation.passage.written := congrArg Clock.now last
    change state.clock.now + client.config.responseTimeout ≤ horizon
    rw [reached]
    exact fits

/-- The moment by which a run of calls is over. -/
def latest (span : Nat) : List Invocation → Nat → Nat
  | [], now => now
  | invocation :: rest, now => latest span rest (max (now + invocation.pause) invocation.passage.written + span)

theorem latest_append (span : Nat) (earlier later : List Invocation) (now : Nat) :
    latest span (earlier ++ later) now = latest span later (latest span earlier now) := by
  induction earlier generalizing now with
  | nil => rfl
  | cons invocation rest ih => exact ih _

theorem latest_mono (span : Nat) (invocations : List Invocation) {now later : Nat} (order : now ≤ later) :
    latest span invocations now ≤ latest span invocations later := by
  induction invocations generalizing now later with
  | nil => exact order
  | cons invocation rest ih =>
    apply ih
    omega

theorem le_latest (span : Nat) (invocations : List Invocation) (now : Nat) : now ≤ latest span invocations now := by
  induction invocations generalizing now with
  | nil => exact Nat.le_refl _
  | cons invocation rest ih =>
    refine Nat.le_trans ?_ (ih _)
    omega

theorem before_clock (invocation : Invocation) (client : Client FrameTransport) :
    (client.before invocation).clock = ⟨client.clock.now + invocation.pause, client.clock.timer⟩ :=
  congrArg (Clock.mk · _) (Nat.max_eq_right (Nat.le_add_right _ _))

/-- While the moments to come can be represented, a run of calls does not panic, and is over in time. -/
theorem checkedInvokeEach_inTime (costs : framing.CostsFrames) (bounds : framing.boundary.CostsFrames)
    {horizon resolution : Nat} {client : Client FrameTransport} {invocations : List Invocation}
    (resolves : ∀ moment, client.clock.timer.fires moment ≤ moment + resolution)
    (fits : latest (client.config.responseTimeout + resolution) invocations client.clock.now ≤ horizon) :
    ∃ ready, client.checkedInvokeEach horizon framing config refuses invocations = some ready ∧
      ready.config = client.config ∧ ready.clock.timer = client.clock.timer ∧
      ready.clock.now ≤ latest (client.config.responseTimeout + resolution) invocations client.clock.now := by
  induction invocations generalizing client with
  | nil => exact ⟨client, rfl, rfl, rfl, Nat.le_refl _⟩
  | cons invocation rest ih =>
    have soon := Nat.le_trans (le_latest _ rest _) fits
    obtain ⟨run, called, onTime, kept⟩ := @checkedCall_onTime _ framing config refuses costs bounds horizon
      invocation (client.before invocation) rfl (by
        rw [before_clock]
        change max (client.clock.now + invocation.pause) _ + client.config.responseTimeout ≤ horizon
        omega)
    rw [before_clock] at onTime
    have timer := onTime.timer
    have ended := onTime.inTime
    have fired := resolves (max (client.clock.now + invocation.pause) invocation.passage.written +
      client.config.responseTimeout)
    have same : run.2.config.responseTimeout = client.config.responseTimeout :=
      congrArg ClientConfig.responseTimeout kept
    have order : run.2.clock.now ≤ max (client.clock.now + invocation.pause) invocation.passage.written +
        (client.config.responseTimeout + resolution) := by
      rw [← Nat.add_assoc]
      exact Nat.le_trans ended fired
    have later := latest_mono (client.config.responseTimeout + resolution) rest order
    obtain ⟨ready, went, config, timers, inTime⟩ := @ih run.2 (by rw [timer]; exact resolves)
      (by rw [same]; exact Nat.le_trans later fits)
    rw [checkedInvokeEach, called]
    refine ⟨ready, went, config.trans kept, timers.trans timer, ?_⟩
    rw [same] at inTime
    exact Nat.le_trans inTime later

/-- After any run of calls, dropped by their callers or not, the clock stands no later than the
calls allow, and the next call is on time. -/
def EndsInTime (horizon : Nat) (framing : ClientFraming Header) (config : TransportConfig)
    (refuses : ∀ received, framing.decodeResponse [] ≠ .ok received) : Prop :=
  ∀ (client : Client FrameTransport) (invocations : List Invocation) (invocation : Invocation) (resolution : Nat),
    (∀ moment, client.clock.timer.fires moment ≤ moment + resolution) →
    latest (client.config.responseTimeout + resolution) (invocations ++ [invocation]) client.clock.now ≤ horizon →
    ∃ ready run, client.checkedInvokeEach horizon framing config refuses invocations = some ready ∧
      checkedCall horizon framing (FrameTransport.clientTransport framing.toFraming config refuses)
        invocation.unit invocation.request invocation.limit (ready.before invocation) = some run ∧
      ready.clock.now ≤ latest (client.config.responseTimeout + resolution) invocations client.clock.now ∧
      OnTime ⟨ready.clock.now + invocation.pause, client.clock.timer⟩ client.config.responseTimeout invocation
        run.1 run.2

theorem endsInTime (horizon : Nat) (costs : framing.CostsFrames) (bounds : framing.boundary.CostsFrames) :
    EndsInTime horizon framing config refuses := by
  intro client invocations invocation resolution resolves fits
  rw [latest_append] at fits
  obtain ⟨ready, went, kept, timer, inTime⟩ := @checkedInvokeEach_inTime _ framing config refuses costs bounds
    horizon resolution client invocations resolves (Nat.le_trans (le_latest _ _ _) fits)
  have timeout : ready.config.responseTimeout = client.config.responseTimeout :=
    congrArg ClientConfig.responseTimeout kept
  obtain ⟨run, called, onTime, _⟩ := @checkedCall_onTime _ framing config refuses costs bounds horizon
    invocation (ready.before invocation) rfl (by
      rw [before_clock]
      change max (ready.clock.now + invocation.pause) _ + ready.config.responseTimeout ≤ horizon
      rw [timeout]
      simp only [latest] at fits
      omega)
  rw [before_clock, timer] at onTime
  refine ⟨ready, run, went, called, inTime, ?_⟩
  rw [← timeout]
  exact onTime

end Calls

end Client

/-- Whatever the peer sends, a call whose deadline an `Instant` can represent ends by the time its
timer goes off, and is overdue only then. -/
theorem calls_end_in_time (crc16 : Bytes → UInt16) (config : TransportConfig) (horizon : Nat) :
    Client.EndsInTime horizon .tcp config tcp_refuses ∧
    Client.EndsInTime horizon (.serial (rtu crc16)) config (rtu_refuses crc16) ∧
    Client.EndsInTime horizon (.serial (rtuOverTcp crc16)) config (rtu_refuses crc16) ∧
    Client.EndsInTime horizon (.serial ascii) config ascii_refuses :=
  ⟨Client.endsInTime horizon tcp_costsFrames Tcp.aduLen_costs,
    Client.endsInTime horizon (rtu_costsFrames crc16) trivial,
    Client.endsInTime horizon (rtuOverTcp_costsFrames crc16) Rtu.deriveExtent_costs,
    Client.endsInTime horizon ascii_costsFrames trivial⟩

def lateClient : Client FrameTransport := .withConfig (.new ⟨300000, [], none, millisecondTimer⟩) .default

/-- A call made 0.3 ms after a tick reports a silent peer at the tick after its deadline. -/
theorem silent_peer_overdue :
    ∃ run, Client.checkedCall (2 ^ 63) .tcp (FrameTransport.clientTransport tcp .default tcp_refuses) ⟨17⟩
        .readExceptionStatus none (lateClient.before (askStatus 0 none ⟨0, 0, none, []⟩)) = some run ∧
      run.1 = some (.error (.timeout "response")) ∧ run.2.clock.now = 1001000000 := by
  obtain ⟨ready, run, began, called, _, onTime⟩ := (calls_end_in_time Rtu.crc16Modbus .default (2 ^ 63)).1
    lateClient [] (askStatus 0 none ⟨0, 0, none, []⟩) 999999 (Timer.ticking_fires_le _ (by decide)) (by decide)
  cases began
  have silent : run.1 = some (.error (.timeout "response")) := by
    cases called
    rfl
  exact ⟨run, called, silent, onTime.overdue silent⟩

end Modbus
