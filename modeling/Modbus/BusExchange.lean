import Modbus.Bus

/-! A client that makes its calls to the stations of a noisy serial line. Nothing on
the line but the unit tells an answer from another; since only the station that is
asked answers, a call that returns a response returns what its own station answered
to it. An answer that arrives garbled costs its own call and no other; a request or
an answer that is lost costs the client its link, and the stations nothing. -/
namespace Modbus

open Bytes ByteStream

namespace SerialLine

variable {σ : Type} (line : SerialLine)

/-- The client writes a request, and the stations hear what was written. -/
def sendRequest (header : UnitId) (request : RequestPdu) (limit : Option Nat) (bus : Bus σ) :
    Option (Result Unit) × Bus σ :=
  let passage := ⟨line.written none bus.frames, 0, none, []⟩
  let (result, client) := { bus.client with passage := passage }.sendRequest line.framing header request limit
  (result, { bus with client := client }.speak line (client.wire.drop bus.client.wire.length))

def recvResponse (limit : Option Nat) (bus : Bus σ) : Option (Result (UnitId × ResponsePdu)) × Bus σ :=
  let (result, client) := bus.client.recvResponse line.framing line.config limit
  (result, { bus with client := client })

def transport (refuses : ∀ received, line.framing.decodeResponse [] ≠ .ok received) :
    ClientTransport UnitId (Bus σ) where
  now bus := bus.client.reader.link.stream.now
  timer bus := bus.client.reader.link.stream.timer
  sendRequest := line.sendRequest
  recvResponse := line.recvResponse
  remaining bus := bus.client.reader.link.remaining
  consumes {limit bus received after} ran := by
    rcases receiving : bus.client.recvResponse line.framing line.config limit with ⟨result, client⟩
    simp only [recvResponse, receiving, Prod.mk.injEq] at ran
    obtain ⟨rfl, rfl⟩ := ran
    exact FrameTransport.recvResponse_consumes refuses receiving

def Answerable (response : ResponsePdu) : Prop :=
  ∀ unit adu, line.framing.encodeResponse unit response = .ok adu → line.framing.fits adu = true

/-- A call to one of the stations or to all, with a request that can be sent. -/
structure Admits (stations : List (Station σ)) (call : Call) : Prop where
  served : call.unit = broadcastUnit ∨ ∃ station ∈ stations, station.unit = call.unit
  encodes : ∃ data, call.request.encode = .ok data
  unnamed : ¬call.request.HoldsNamedMei
  fits : ∀ adu, line.framing.encodeRequest call.unit call.request = .ok adu → line.framing.fits adu = true

end SerialLine

theorem Framing.Serial.request {framing : Framing UnitId} (serial : framing.Serial) (unit : UnitId)
    {request : RequestPdu} {data : Bytes} (encoded : request.encode = .ok data) (unnamed : ¬request.HoldsNamedMei) :
    ∃ adu, framing.encodeRequest unit request = .ok adu ∧ framing.decodeRequest adu = .ok (unit, request) := by
  obtain ⟨spelling, trips⟩ := serial.trips
  obtain ⟨adu, sent⟩ := (trips.request_encodes unit request).mpr ⟨data, encoded⟩
  exact ⟨adu, sent, (trips.request_decodes unit request adu data sent encoded).2 request
    (RequestPdu.decode_encoded unnamed encoded).2⟩

theorem Framing.Serial.response {framing : Framing UnitId} (serial : framing.Serial) (unit : UnitId)
    {response : ResponsePdu} {data : Bytes} (encoded : response.encode = .ok data)
    (unnamed : ¬response.HoldsNamedMei) :
    ∃ adu, framing.encodeResponse unit response = .ok adu ∧
      framing.decodeResponse adu = .ok (unit, response.padded) := by
  obtain ⟨spelling, trips⟩ := serial.trips
  obtain ⟨adu, sent⟩ := (trips.response_encodes unit response).mpr ⟨data, encoded⟩
  exact ⟨adu, sent, (trips.response_decodes unit response adu data sent encoded).2 response.padded
    (ResponsePdu.decode_encoded unnamed encoded).2⟩

def timedOut : Option (Result (Option ResponsePdu)) := some (.error (.timeout "response"))

theorem Service.Follows.answers {service : Service σ} {start last : σ} {hooks : List Hook} {unit : UnitId}
    {request : RequestPdu} {answer : Answer} (follows : service.Follows start hooks last)
    (asked : (unit, request, answer) ∈ hooks.filterMap Hook.asked) :
    ∃ state, answer = (service.onRequest unit request state).1 := by
  induction follows with
  | nil => cases asked
  | @request state _ _ _ _ _ _ asking _ ih =>
    simp only [Hook.asked, List.filterMap_cons, List.mem_cons, Prod.mk.injEq] at asked
    rcases asked with ⟨rfl, rfl, rfl⟩ | later
    · exact ⟨state, by rw [asking]⟩
    · exact ih later
  | error _ ih => exact ih (by simpa [Hook.asked] using asked)

namespace SerialLine

/-- The request of a call comes through to a station. -/
def Reaches (line : SerialLine) (frame : Nat) (unit : UnitId) (call : Call) : Prop :=
  ∃ adu, line.framing.encodeRequest call.unit call.request = .ok adu ∧ line.noise frame (some unit) adu = adu

/-- What a call returns whose station has answered in this frame: the answer, an error if that came
garbled, or nothing if the wait was over. -/
inductive Replied (line : SerialLine) (frame : Nat) (served : Served) : Option (Result (Option ResponsePdu)) → Prop
  | whole {result : Option (Result (Option ResponsePdu))} : served.Returned result → Replied line frame served result
  | garbled {response : ResponsePdu} {reply : Bytes} {e : Error} :
      served.answer.response served.request.function = some response →
      line.framing.encodeResponse served.unit response = .ok reply → line.noise frame none reply ≠ reply →
      e.endsStream = false → Replied line frame served (some (.error e))
  | late : Replied line frame served timedOut

/-- What a call comes to at the station with this address, with what its service answered. -/
inductive Comes (line : SerialLine) (unit : UnitId) (frame : Nat) (call : Call)
    (result : Option (Result (Option ResponsePdu))) : List Served → Prop
  | foreign : call.unit ≠ broadcastUnit → call.unit ≠ unit → Comes line unit frame call result []
  | missed : call.unit = broadcastUnit ∨ call.unit = unit → ¬line.Reaches frame unit call →
      (call.unit = unit → result = timedOut) → Comes line unit frame call result []
  | asked {answer : Answer} : call.unit = broadcastUnit ∨ call.unit = unit → line.Reaches frame unit call →
      (call.unit = unit → line.Replied (frame + 1) ⟨call, answer⟩ result) →
      Comes line unit frame call result [⟨call, answer⟩]

end SerialLine

def Served.entry (served : Served) : UnitId × RequestPdu × Answer := (served.unit, served.request, served.answer)

namespace Bus

variable {σ : Type} {line : SerialLine}

/-- What becomes of a station whose service gives these answers. -/
structure Serves (before after : Station σ) (served : List Served) : Prop where
  ready : after.Ready
  becomes : ∃ hooks, before.Becomes after hooks ∧ hooks.filterMap Hook.asked = served.map Served.entry

/-- Between two calls nothing is on its way to the client. -/
structure Settled (bus : Bus σ) : Prop extends bus.Ready where
  idle : bus.client.reader.link.Ahead none []
  free : bus.client.reader.receiving = false

theorem Settled.spoken {bus : Bus σ} (settled : bus.Settled) {client : FrameTransport}
    (idle : client.reader.link.Ahead none []) (free : client.reader.receiving = false) :
    { bus with client := client }.Settled :=
  ⟨⟨settled.stations, settled.distinct, settled.addressed⟩, idle, free⟩

theorem Heard.ignored {frame : Nat} {adu reply : Bytes} {before after : Station σ}
    (heard : Heard line frame adu reply before after) (meaning : line.understood frame before.unit adu = none) :
    Serves before after [] := by
  obtain ⟨ready, hooks, echo, takes, becomes, unasked⟩ := heard
  cases takes with
  | ignored _ nothing =>
    exact ⟨ready, _, becomes, by rw [List.filterMap_append, nothing, unasked]; rfl⟩
  | asked other => cases meaning.symm.trans other

theorem Heard.asked {frame : Nat} {adu reply : Bytes} {before after : Station σ} {call : Call}
    (heard : Heard line frame adu reply before after)
    (meaning : line.understood frame before.unit adu = some (call.unit, call.request)) :
    ∃ answer state, Serves before after [⟨call, answer⟩] ∧
      answer = (before.service.onRequest call.unit call.request state).1 ∧
      reply = (before.server line).reply call.unit call.request answer := by
  obtain ⟨ready, hooks, echo, takes, becomes, unasked⟩ := heard
  cases takes with
  | ignored none_yet => cases none_yet.symm.trans meaning
  | @asked _ _ answer _ other asked =>
    cases meaning.symm.trans other
    have all : (hooks ++ echo).filterMap Hook.asked = [(call.unit, call.request, answer)] := by
      rw [List.filterMap_append, asked, unasked, List.append_nil]
    obtain ⟨state, answers⟩ := becomes.follows.answers (all ▸ List.mem_singleton_self _)
    exact ⟨answer, state, ⟨ready, _, becomes, all⟩, answers, rfl⟩

/-- All that a wait of the client changes is what it has read. -/
def Read (before after : Bus σ) : Prop :=
  ∃ reader, after = { before with client := { before.client with reader := reader } }

variable {client : Client (Bus σ)} (serial : line.framing.Serial)
  (refuses : ∀ received, line.framing.decodeResponse [] ≠ .ok received)
include serial

theorem awaitResponse_unheard (unit : UnitId) (expected : FunctionCode) (deadline fuel : Nat)
    (idle : client.transport.client.reader.link.Ahead none [])
    (free : client.transport.client.reader.receiving = false) :
    ∃ after, Client.awaitResponse (.serial line.framing) (line.transport refuses) unit expected deadline none
        (fuel + 1) client = (timedOut, after) ∧ after.isDesynchronized = true ∧
      client.transport.Read after.transport := by
  obtain ⟨reader, waits⟩ := @recvAdu_unsent _ serial line.config .response _ (some deadline) free idle
  have received : client.transport.client.recvResponse line.framing line.config (some deadline) =
      (none, { client.transport.client with reader := reader }) := by
    simp only [FrameTransport.recvResponse, waits]
  simp only [Client.awaitResponse, SerialLine.transport, SerialLine.recvResponse, Client.waitUntil, received,
    Nat.lt_irrefl, if_false]
  exact ⟨_, rfl, rfl, _, rfl⟩

/-- What has arrived ends the wait, unless the deadline comes first: it is the response, or it cannot be
read and the client goes on. -/
theorem awaitResponse_heard {bus : Bus σ} {reads : Reads} {unit : UnitId} {heard : Bytes}
    (expected : FunctionCode) (deadline fuel : Nat) (idle : bus.client.reader.link.Ahead none [])
    (free : bus.client.reader.receiving = false) (delimits : line.framing.Delimits heard)
    (carries : Carries reads heard) (close : Close (line.framing.pause line.config) reads)
    (here : client.transport = { bus with client := bus.client.deliver reads }) {outcome : Result (Option ResponsePdu)}
    (reads_as : (line.framing.fits heard = true ∧ ∃ response, line.framing.decodeResponse heard = .ok (unit, response) ∧
        response.function = expected ∧ outcome = .ok (some response)) ∨
      ∃ e, (if line.framing.fits heard then line.framing.decodeResponse heard
        else .error (.aduTooLarge heard.length line.framing.maxAduLen)) = .error e ∧ e.endsStream = false ∧
        outcome = .error e) :
    ∃ result after, Client.awaitResponse (.serial line.framing) (line.transport refuses) unit expected deadline none
        (fuel + 1) client = (result, after) ∧ client.transport.Read after.transport ∧
      (result = timedOut ∧ after.isDesynchronized = true ∨
        result = some outcome ∧ after.isDesynchronized = false ∧
          after.transport.client.reader.link.Ahead none [] ∧ after.transport.client.reader.receiving = false) := by
  obtain ⟨result, reader, receiving, course⟩ := @recvAdu_heard _ serial line.config .response _ _ _ (some deadline)
    free idle delimits carries close
  have received : client.transport.client.recvResponse line.framing line.config (some deadline) =
      (result.map (·.bind line.framing.decodeResponse), { client.transport.client with reader := reader }) := by
    rw [here]
    simp only [FrameTransport.recvResponse, FrameTransport.deliver, receiving]
    cases result <;> rfl
  rcases course with ⟨rfl, _⟩ | ⟨open_, left, rfl⟩
  · simp only [Client.awaitResponse, SerialLine.transport, SerialLine.recvResponse, Client.waitUntil, received,
      Option.map_none, Nat.lt_irrefl, if_false]
    exact ⟨_, _, rfl, ⟨_, rfl⟩, .inl ⟨rfl, rfl⟩⟩
  · rcases reads_as with ⟨small, response, decodes, same, rfl⟩ | ⟨e, fails, costs, rfl⟩
    · simp only [Client.awaitResponse, SerialLine.transport, SerialLine.recvResponse, Client.waitUntil, received,
        Option.map_some, small, if_true, Except.bind, decodes, ClientFraming.serial, beq_self_eq_true, same, ne_eq,
        not_true_eq_false, if_false]
      exact ⟨_, _, rfl, ⟨_, rfl⟩, .inr ⟨rfl, rfl, left, open_⟩⟩
    · have failed : (if line.framing.fits heard = true then Except.ok heard
          else .error (.aduTooLarge heard.length line.framing.maxAduLen)).bind line.framing.decodeResponse =
          .error e := by
        rw [← fails]
        split <;> rfl
      have usable : (e.endsStream || !line.framing.boundary.isSelfLocating) = false := by
        rw [costs, serial.selfLocating]
        rfl
      simp only [Client.awaitResponse, SerialLine.transport, SerialLine.recvResponse, Client.waitUntil, received,
        Option.map_some, failed, ClientFraming.serial, usable]
      exact ⟨_, _, rfl, ⟨_, rfl⟩, .inr ⟨rfl, rfl, left, open_⟩⟩

section Sent

variable {call : Call} {adu : Bytes} (sent : line.framing.encodeRequest call.unit call.request = .ok adu)
  (fits : line.framing.fits adu = true) (decodes : line.framing.decodeRequest adu = .ok (call.unit, call.request))

include sent in
omit serial in
theorem reaches_iff (frame : Nat) (unit : UnitId) :
    line.Reaches frame unit call ↔ line.noise frame (some unit) adu = adu := by
  constructor
  · rintro ⟨other, encoded, same⟩
    cases encoded.symm.trans sent
    exact same
  · exact fun same => ⟨adu, sent, same⟩

include sent fits decodes in
theorem understood_iff (frame : Nat) (unit : UnitId) : line.understood frame unit adu =
    if (call.unit = broadcastUnit ∨ call.unit = unit) ∧ line.noise frame (some unit) adu = adu
    then some (call.unit, call.request) else none := by
  by_cases whole : line.noise frame (some unit) adu = adu
  · simp only [SerialLine.understood, SerialLine.means, whole, fits, decodes, and_true, eq_comm]
  · rw [if_neg fun both => whole both.2]
    cases meaning : line.understood frame unit adu with
    | none => rfl
    | some asked => exact absurd (understood_whole serial (.inl ⟨_, _, sent⟩) meaning).1 whole

end Sent

theorem reply_arrives {frame : Nat} {served : Served} {response : ResponsePdu} {reply : Bytes}
    (stands : served.answer.response served.request.function = some response)
    (sealed : line.framing.encodeResponse served.unit response = .ok reply)
    (decodes : line.framing.decodeResponse reply = .ok (served.unit, response.padded))
    (small : line.framing.fits reply = true) (same : response.padded.function = served.request.function)
    (returned : served.Returned (some (.ok (some response.padded)))) (arrives : line.noise frame none reply ≠ []) :
    let heard := line.noise frame none reply
    line.framing.Delimits heard ∧ ∃ outcome, line.Replied frame served (some outcome) ∧
      ((line.framing.fits heard = true ∧ ∃ response, line.framing.decodeResponse heard = .ok (served.unit, response) ∧
          response.function = served.request.function ∧ outcome = .ok (some response)) ∨
        ∃ e, (if line.framing.fits heard then line.framing.decodeResponse heard
          else .error (.aduTooLarge heard.length line.framing.maxAduLen)) = .error e ∧ e.endsStream = false ∧
          outcome = .error e) := by
  intro heard
  have sends : line.framing.Sends reply := .inr ⟨_, _, sealed⟩
  rcases line.disturbs frame none reply sends with whole | lost | garbled
  · have whole : heard = reply := whole
    rw [whole]
    exact ⟨serial.delimits reply sends, _, .whole returned, .inl ⟨small, _, decodes, same, rfl⟩⟩
  · exact absurd lost arrives
  · obtain ⟨e, fails⟩ := garbled.response
    have spoiled : line.noise frame none reply ≠ reply := by
      intro whole
      rw [whole] at fails
      cases fails.symm.trans decodes
    refine ⟨garbled.delimits, ?_⟩
    cases line.framing.fits heard with
    | true =>
      have costs := (serial.costs.decodeResponse heard).endsStream fails
      exact ⟨_, .garbled stands sealed spoiled costs, .inr ⟨e, fails, costs, rfl⟩⟩
    | false => exact ⟨_, .garbled stands sealed spoiled rfl, .inr ⟨_, rfl, rfl, rfl⟩⟩

theorem Spoken.awaited {call : Call} {adu : Bytes} {start : Bus σ} {now : Station σ → Station σ} {speaker : Station σ}
    (spoken : Spoken line adu start client.transport now) (settled : start.Settled) (inside : speaker ∈ start.stations)
    (own : speaker.unit = call.unit) (broadcast : call.unit ≠ broadcastUnit)
    (excepts : ∀ exception, line.Answerable (.exception exception)) (encodes : ∃ data, call.request.encode = .ok data)
    (sent : line.framing.encodeRequest call.unit call.request = .ok adu) (fits : line.framing.fits adu = true)
    (decodes : line.framing.decodeRequest adu = .ok (call.unit, call.request))
    (obliging : ∀ state,
      Served.Answers line.Answerable ⟨call, (speaker.service.onRequest call.unit call.request state).1⟩)
    (deadline fuel : Nat) :
    ∃ result after served, Client.awaitResponse (.serial line.framing) (line.transport refuses) call.unit
        call.request.function deadline none (fuel + 1) client = (result, after) ∧
      client.transport.Read after.transport ∧ Serves speaker (now speaker) served ∧
      line.Comes speaker.unit start.frames call result served ∧
      (result = timedOut ∧ after.isDesynchronized = true ∨ after.isDesynchronized = false ∧
        after.transport.client.reader.link.Ahead none [] ∧ after.transport.client.reader.receiving = false) := by
  obtain ⟨reply, heard, replies⟩ := spoken.heard speaker inside
  have meaning := understood_iff serial sent fits decodes start.frames speaker.unit
  have reaches := @reaches_iff line call adu sent start.frames speaker.unit
  by_cases through : line.noise start.frames (some speaker.unit) adu = adu
  · rw [if_pos ⟨.inr own.symm, through⟩] at meaning
    obtain ⟨answer, state, serves, answers, rfl⟩ := heard.asked meaning
    have comes {result : Option (Result (Option ResponsePdu))}
        (replied : line.Replied (start.frames + 1) ⟨call, answer⟩ result) :
        line.Comes speaker.unit start.frames call result [⟨call, answer⟩] :=
      .asked (.inr own.symm) (reaches.mpr through) fun _ => replied
    obtain ⟨response, answered, stands, encoded, unnamed, answerable, same, returned⟩ :=
      (answers ▸ obliging state : Served.Answers line.Answerable ⟨call, answer⟩).response excepts encodes
    obtain ⟨reply, sealed, reads⟩ := serial.response call.unit encoded unnamed
    have replied : (speaker.server line).reply call.unit call.request answer = reply := by
      simp [Server.reply, Station.server, ServerFraming.serial, broadcast, stands, sealed]
    rw [replied] at replies
    have delivered := replies (serial.nonempty reply (serial.delimits reply (.inr ⟨call.unit, response, sealed⟩)))
    have carries := line.carries (start.frames + 1) none (line.noise (start.frames + 1) none reply)
    by_cases arrives : line.noise (start.frames + 1) none reply = []
    · have bytes : [] ++ line.noise (start.frames + 1) none reply = [] := by rw [arrives]; rfl
      have idle : client.transport.client.reader.link.Ahead none [] := by
        rw [delivered]
        exact bytes ▸ settled.idle.deliver carries 0
      have free : client.transport.client.reader.receiving = false := by
        rw [delivered]
        exact settled.free
      obtain ⟨after, waits, unusable, moved⟩ := awaitResponse_unheard serial refuses call.unit call.request.function
        deadline fuel idle free
      exact ⟨_, after, _, waits, moved, serves, comes .late, .inl ⟨rfl, unusable⟩⟩
    · obtain ⟨delimits, outcome, told, reads_as⟩ := @reply_arrives line serial _ ⟨call, answer⟩ _ _ stands sealed reads
        (answerable call.unit reply sealed) ((ResponsePdu.padded_function response).trans same) returned arrives
      have here : client.transport = { client.transport with
          client := start.client.deliver (line.arrives (start.frames + 1) none reply) } := by
        rw [← delivered]
      obtain ⟨result, after, waits, moved, course⟩ := @awaitResponse_heard _ line client serial refuses
        { client.transport with client := start.client } _ call.unit _ call.request.function deadline fuel settled.idle
        settled.free delimits carries (line.close _ none _) here outcome reads_as
      rcases course with ⟨rfl, unusable⟩ | ⟨rfl, usable, left⟩
      · exact ⟨_, after, _, waits, moved, serves, comes .late, .inl ⟨rfl, unusable⟩⟩
      · exact ⟨_, after, _, waits, moved, serves, comes told, .inr ⟨usable, left⟩⟩
  · rw [if_neg fun both => through both.2] at meaning
    have unchanged : client.transport.client = start.client := by
      rcases spoken.client with same | ⟨station, _, request, mine⟩
      · exact same
      · obtain ⟨whole, named, _⟩ := understood_whole serial (.inl ⟨_, _, sent⟩) mine
        have address : station.unit = call.unit := congrArg Prod.fst (Except.ok.inj (named.symm.trans decodes))
        rw [address, ← own] at whole
        exact absurd whole through
    obtain ⟨after, waits, unusable, moved⟩ := awaitResponse_unheard serial refuses call.unit call.request.function
      deadline fuel (unchanged ▸ settled.idle) (unchanged ▸ settled.free)
    refine ⟨_, after, _, waits, moved, heard.ignored meaning, ?_, .inl ⟨rfl, unusable⟩⟩
    exact .missed (.inr own.symm) (fun reached => through (reaches.mp reached)) fun _ => rfl

omit serial in
theorem Serves.trans {before middle after : Station σ} {first rest : List Served} (now : Serves before middle first)
    (later : Serves middle after rest) : Serves before after (first ++ rest) := by
  obtain ⟨hooks, becomes, asked⟩ := now.becomes
  obtain ⟨more, goes_on, asked'⟩ := later.becomes
  refine ⟨later.ready, hooks ++ more, becomes.trans goes_on, ?_⟩
  rw [List.filterMap_append, asked, asked', List.map_append]

end Bus

theorem SerialLine.refuses {crc16 : Bytes → UInt16} {line : SerialLine}
    (serial : line.framing = rtu crc16 ∨ line.framing = ascii) (received : UnitId × ResponsePdu) :
    line.framing.decodeResponse [] ≠ .ok received := by
  rcases serial with same | same
  · rw [same]
    exact rtu_refuses crc16 received
  · rw [same]
    exact ascii_refuses received

end Modbus
