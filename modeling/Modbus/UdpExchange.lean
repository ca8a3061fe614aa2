import Modbus.Composition
import Modbus.SendBuffer
import Modbus.UdpServer

/-! A client and a server on UDP. The network loses, repeats and reorders datagrams
in both directions, and others may send to the server what they like; it only makes
nothing up under the client's address or the server's. A response the client returns
is nevertheless the service's answer to the request of that very call, as long as the
transaction identifiers have not come round. -/
namespace Modbus

open Bytes Listener

variable {Header Peer : Type}

/-- `UdpTransport::send_request`: what a send puts on the network. -/
def sendDatagramRequest (framing : Framing Header) (header : Header) (pdu : RequestPdu)
    (refusal : Option ReadFailure) : Result Bytes :=
  match framing.encodeRequest header pdu with
  | .error e => .error e
  | .ok adu =>
    match refusal with
    | some failure => .error failure.error
    | none => .ok adu

/-- `UdpTransport::recv_response`. A datagram that does not fit the buffer is cut short. -/
def recvDatagramResponse (framing : Framing Header) (received : Except ReadFailure Bytes) :
    Result (Header × ResponsePdu) :=
  match received with
  | .error failure => .error failure.error
  | .ok datagram => framing.decodeResponse (datagram.take framing.maxAduLen)

/-- A server on UDP, and what one client has sent to it so far. -/
structure UdpNet (Peer : Type) (config : ServerConfig) where
  sent : List Bytes
  server : State (udpServer Peer config)

theorem Listener.State.step_outcome {ι α τ π : Type} {listener : Listener ι α τ π} {state next : State listener}
    {event : Event ι π} (stepped : state.step event = some next) {outcome : ι}
    (inside : .outcome outcome ∈ next.acts) : .outcome outcome ∈ state.acts ∨ event = .outcome outcome := by
  cases step_moves stepped with
  | got _ _ | failed _ _ | undecodable _ _ =>
    rcases List.mem_append.mp inside with old | fresh
    · exact .inl old
    · simp at fresh
      exact .inr (fresh ▸ rfl)
  | _ =>
    first
      | exact .inl inside
      | exact .inl (by simpa [State.proceed] using inside)

namespace UdpNet

variable {config : ServerConfig}

def put (datagram : Bytes) (net : UdpNet Peer config) : UdpNet Peer config :=
  { net with sent := net.sent ++ [datagram] }

section Steps

variable [DecidableEq Peer]

def possible (me : Peer) (net : UdpNet Peer config) :
    Event (Except ReadFailure (Bytes × Peer)) DatagramPoll → Bool
  | .outcome (.ok (datagram, peer)) => peer != me || net.sent.contains datagram
  | _ => true

def serve (me : Peer) (event : Event (Except ReadFailure (Bytes × Peer)) DatagramPoll)
    (net : UdpNet Peer config) : UdpNet Peer config :=
  if net.possible me event then
    match net.server.step event with
    | some server => { net with server := server }
    | none => net
  else net

def arriving (me : Peer) (i : Nat) (net : UdpNet Peer config) : Option Bytes :=
  match net.server.tasks.spawned[i]? with
  | none => none
  | some entry =>
    match entry.task.task.emission with
    | none => none
    | some (peer, datagram) => if peer = me then some datagram else none

end Steps

/-- The service has answered this to a datagram of the client that bore this header. -/
def Asked (me : Peer) (net : UdpNet Peer config) (header : MbapHeader) (request : RequestPdu) (answer : Answer) :
    Prop :=
  ∃ entry ∈ net.server.tasks.spawned, entry.task.item = (header, request, me) ∧
    .asked header.unitId request answer ∈ entry.task.task.deeds

def Answered (me : Peer) (net : UdpNet Peer config) (header : MbapHeader) (request : RequestPdu)
    (response : ResponsePdu) : Prop :=
  ∃ read answer given pdu, read.encode = request.encode ∧ net.Asked me header read answer ∧
    answer.response read.function = some given ∧ given.encode = .ok pdu ∧ ResponsePdu.decode pdu = .ok response

/-- A response that a call has returned answers the one datagram it has sent, which has this number
among those of the client. -/
def Vouches (me : Peer) (net : UdpNet Peer config) (number : Nat) (call : Call)
    (result : Option (Result (Option ResponsePdu))) : Prop :=
  ∀ response, result = some (.ok (some response)) →
    (∃ datagram, net.sent[number]? = some datagram ∧
      tcp.encodeRequest ⟨idOf number, call.unit⟩ call.request = .ok datagram) ∧
    net.Answered me ⟨idOf number, call.unit⟩ call.request response

/-- The server has got from the client only what it has sent. -/
structure Honest (me : Peer) (net : UdpNet Peer config) : Prop where
  reached : Reaches State.step (idle (udpServer Peer config)) net.server
  arrived : ∀ datagram, .outcome (.ok (datagram, me)) ∈ net.server.acts → datagram ∈ net.sent

def Frames (calls : List Call) (net : UdpNet Peer config) : Prop :=
  ∀ datagram ∈ net.sent, ∃ number call, calls[number]? = some call ∧
    tcp.encodeRequest ⟨idOf number, call.unit⟩ call.request = .ok datagram

/-- The network carries nothing of the client's but the requests of these calls. -/
structure Carries (me : Peer) (calls : List Call) (net : UdpNet Peer config) : Prop where
  honest : net.Honest me
  frames : net.Frames calls

structure Later (me : Peer) (before after : UdpNet Peer config) : Prop where
  sent : before.sent <+: after.sent
  asked : ∀ header request answer, before.Asked me header request answer → after.Asked me header request answer

section Later

variable {me : Peer} {before middle after : UdpNet Peer config}

theorem Later.refl (net : UdpNet Peer config) : Later me net net :=
  ⟨List.prefix_refl _, fun _ _ _ asked => asked⟩

theorem Later.trans (first : Later me before middle) (second : Later me middle after) : Later me before after where
  sent := first.sent.trans second.sent
  asked header request answer asked := second.asked header request answer (first.asked header request answer asked)

theorem Later.put (net : UdpNet Peer config) (datagram : Bytes) : Later me net (net.put datagram) :=
  ⟨List.prefix_append _ _, fun _ _ _ asked => asked⟩

theorem Answered.later {header : MbapHeader} {request : RequestPdu} {response : ResponsePdu}
    (later : Later me before after) (answered : before.Answered me header request response) :
    after.Answered me header request response := by
  obtain ⟨read, answer, given, pdu, same, asked, rest⟩ := answered
  exact ⟨read, answer, given, pdu, same, later.asked _ _ _ asked, rest⟩

theorem Vouches.later {number : Nat} {call : Call} {result : Option (Result (Option ResponsePdu))}
    (later : Later me before after) (vouched : before.Vouches me number call result) :
    after.Vouches me number call result := by
  intro response returned
  obtain ⟨⟨datagram, there, encoded⟩, answered⟩ := vouched response returned
  obtain ⟨more, grown⟩ := later.sent
  have inside := (List.getElem?_eq_some_iff.mp there).1
  refine ⟨⟨datagram, ?_, encoded⟩, answered.later later⟩
  rw [← grown, List.getElem?_append_left inside, there]

end Later

variable {me : Peer} {net : UdpNet Peer config} {calls : List Call}

theorem Honest.put (honest : net.Honest me) (datagram : Bytes) : (net.put datagram).Honest me where
  reached := honest.reached
  arrived other inside := List.mem_append_left _ (honest.arrived other inside)

theorem serve_cases [DecidableEq Peer] (me : Peer)
    (event : Event (Except ReadFailure (Bytes × Peer)) DatagramPoll) (net : UdpNet Peer config) :
    net.serve me event = net ∨ ∃ server, net.possible me event = true ∧ net.server.step event = some server ∧
      net.serve me event = { net with server := server } := by
  unfold serve
  split
  · next can =>
    cases stepped : net.server.step event with
    | none => exact .inl rfl
    | some server => exact .inr ⟨server, can, rfl, rfl⟩
  · exact .inl rfl

theorem Honest.serve [DecidableEq Peer] (honest : net.Honest me)
    (event : Event (Except ReadFailure (Bytes × Peer)) DatagramPoll) : (net.serve me event).Honest me := by
  obtain same | ⟨server, can, stepped, same⟩ := net.serve_cases me event
  · rw [same]
    exact honest
  · rw [same]
    refine ⟨honest.reached.next event stepped, ?_⟩
    intro datagram inside
    obtain old | rfl := State.step_outcome stepped inside
    · exact honest.arrived datagram old
    · simpa [possible] using can

theorem serve_sent [DecidableEq Peer] (event : Event (Except ReadFailure (Bytes × Peer)) DatagramPoll) :
    (net.serve me event).sent = net.sent := by
  obtain same | ⟨server, _, _, same⟩ := net.serve_cases me event
  all_goals rw [same]

theorem Carries.serve [DecidableEq Peer] (carries : net.Carries me calls)
    (event : Event (Except ReadFailure (Bytes × Peer)) DatagramPoll) : (net.serve me event).Carries me calls where
  honest := carries.honest.serve event
  frames := by
    intro datagram inside
    rw [serve_sent] at inside
    exact carries.frames datagram inside

theorem Carries.put (carries : net.Carries me calls) {call : Call} {datagram : Bytes}
    (encoded : tcp.encodeRequest ⟨idOf calls.length, call.unit⟩ call.request = .ok datagram) :
    (net.put datagram).Carries me (calls ++ [call]) where
  honest := carries.honest.put datagram
  frames := by
    intro other inside
    rcases List.mem_append.mp inside with old | fresh
    · obtain ⟨number, earlier, asked, framed⟩ := carries.frames other old
      exact ⟨number, earlier, List.getElem?_append_left (List.getElem?_eq_some_iff.mp asked).1 ▸ asked, framed⟩
    · obtain rfl := List.mem_singleton.mp fresh
      exact ⟨calls.length, call, by simp, encoded⟩

theorem serve_later [DecidableEq Peer] (event : Event (Except ReadFailure (Bytes × Peer)) DatagramPoll) :
    Later me net (net.serve me event) := by
  obtain same | ⟨server, _, stepped, same⟩ := net.serve_cases me event
  · rw [same]
    exact .refl net
  · rw [same]
    refine ⟨List.prefix_refl _, ?_⟩
    intro header request answer asked
    refine State.some_step (fun (item : Datagram Peer) (work : DatagramWork Peer) =>
      item = (header, request, me) ∧ Deed.asked header.unitId request answer ∈ work.deeds) ?_ stepped asked
    intro item requested work poll after held went
    exact ⟨held.1, DatagramWork.step_deeds went held.2⟩

theorem item_arrived (reaches : Reaches State.step (idle (udpServer Peer config)) net.server)
    {entry : Spawned (Work (Datagram Peer) (DatagramWork Peer))} (inside : entry ∈ net.server.tasks.spawned) :
    ∃ datagram, .outcome (.ok (datagram, entry.task.item.2.2)) ∈ net.server.acts ∧
      tcp.decodeRequest (datagram.take Tcp.maxAduLen) = .ok (entry.task.item.1, entry.task.item.2.1) := by
  have items := (State.Kept.reached reaches).items
  have listed : entry.task.item ∈ net.server.tasks.labels Work.item :=
    List.mem_map_of_mem (f := fun entry => entry.task.item) inside
  rw [items] at listed
  obtain ⟨act, done, accepted⟩ := List.mem_filterMap.mp listed
  cases act with
  | outcome received =>
    simp only [Listener.accepted] at accepted
    split at accepted
    · next item got =>
      cases accepted
      obtain ⟨datagram, rfl, decoded⟩ := udp_got got
      exact ⟨datagram, done, decoded⟩
    · cases accepted
  | _ => cases accepted

theorem arriving_correlated [DecidableEq Peer] (carries : net.Carries me calls) {i : Nat}
    {datagram : Bytes} (arrives : net.arriving me i = some datagram) {header : MbapHeader}
    {response : ResponsePdu} (decodes : tcp.decodeResponse (datagram.take Tcp.maxAduLen) = .ok (header, response)) :
    Correlated idOf calls (fun call response => header.unitId = call.unit ∧
      net.Answered me header call.request response) header.transactionId response := by
  unfold arriving at arrives
  split at arrives
  · cases arrives
  next entry found =>
  split at arrives
  · cases arrives
  next peer sent emitted =>
  split at arrives <;> cases arrives
  next mine =>
  subst mine
  have inside := List.mem_of_getElem? found
  obtain ⟨same, answer, given, asked, responds, encoded⟩ :=
    (udp_keeps carries.honest.reached entry inside).emission emitted
  obtain ⟨request, outcome, read⟩ := item_arrived carries.honest.reached inside
  rw [← same] at outcome
  obtain ⟨number, call, asking, framing⟩ := carries.frames request (carries.honest.arrived request outcome)
  have trips : tcp.RoundTrips id := Framing.roundTrips Tcp.seals
  have whole : request.length ≤ Tcp.maxAduLen := trips.request_fits framing
  have fits : datagram.length ≤ Tcp.maxAduLen := trips.response_fits encoded
  rw [List.take_of_length_le whole] at read
  rw [List.take_of_length_le fits] at decodes
  obtain ⟨named, pdu, wrote, decoded⟩ := Framing.request_conveyed Tcp.seals framing read
  obtain ⟨rfl, body, spoken, heard⟩ := Framing.response_conveyed Tcp.seals encoded decodes
  have again : entry.task.item.2.1.encode = call.request.encode := by
    obtain ⟨wire, size, _⟩ := RequestPdu.decode_ok.mp decoded
    rw [wrote, RequestPdu.encode_ok.mpr ⟨wire, size⟩]
  have item : entry.task.item = (entry.task.item.1, entry.task.item.2.1, peer) := by rw [same]
  rw [named] at asked item ⊢
  exact ⟨number, call, asking, rfl, rfl, _, answer, given, body, again, ⟨entry, inside, item, asked⟩,
    responds, spoken, heard⟩

end UdpNet

/-- What happens around a client on UDP, one thing after the other. -/
inductive UdpMove (Peer : Type) where
  | serve (event : Event (Except ReadFailure (Bytes × Peer)) DatagramPoll)
  | deliver (i : Nat)
  | fail (failure : ReadFailure)
  | elapse (time : Nat)

/-- The network, what the socket makes of each send to come, and what will happen. -/
structure UdpWorld (Peer : Type) (config : ServerConfig) where
  net : UdpNet Peer config
  sends : List (Option ReadFailure)
  schedule : List (UdpMove Peer)
  now : Nat
  timer : Timer

namespace UdpWorld

variable [DecidableEq Peer] {config : ServerConfig}

def recv (me : Peer) (limit : Option Nat) (world : UdpWorld Peer config) :
    List (UdpMove Peer) → Option (Except ReadFailure Bytes) × UdpWorld Peer config
  | [] => (none, { world with schedule := [], now := max world.now (limit.getD 0) })
  | .serve event :: rest => recv me limit { world with net := world.net.serve me event } rest
  | .deliver i :: rest =>
    match world.net.arriving me i with
    | some datagram => (some (.ok datagram), { world with schedule := rest })
    | none => recv me limit world rest
  | .fail failure :: rest => (some (.error failure), { world with schedule := rest })
  | .elapse time :: rest =>
    if limit.any (· ≤ world.now + time) then (none, { world with schedule := rest, now := world.now + time })
    else recv me limit { world with now := world.now + time } rest

def sendRequest (header : MbapHeader) (request : RequestPdu) (world : UdpWorld Peer config) :
    Option (Result Unit) × UdpWorld Peer config :=
  match tcp.encodeRequest header request, world.sends with
  | .error e, _ => (some (.error e), world)
  | .ok _, [] => (none, world)
  | .ok _, refusal :: sends =>
    match sendDatagramRequest tcp header request refusal with
    | .error e => (some (.error e), { world with sends := sends })
    | .ok datagram => (some (.ok ()), { world with sends := sends, net := world.net.put datagram })

def recvResponse (me : Peer) (limit : Option Nat) (world : UdpWorld Peer config) :
    Option (Result (MbapHeader × ResponsePdu)) × UdpWorld Peer config :=
  match world.recv me limit world.schedule with
  | (none, world) => (none, world)
  | (some received, world) => (some (recvDatagramResponse tcp received), world)

section Receive

variable {me : Peer} {limit : Option Nat} {world after : UdpWorld Peer config}

theorem recv_keeps {P : UdpNet Peer config → Prop} (kept : ∀ event net, P net → P (net.serve me event))
    (limit : Option Nat) (moves : List (UdpMove Peer)) (holds : P world.net) :
    P (world.recv me limit moves).2.net := by
  induction moves generalizing world with
  | nil => exact holds
  | cons move rest ih =>
    cases move with
    | serve event => exact ih (kept event world.net holds)
    | deliver i =>
      rw [recv]
      split
      · exact holds
      · exact ih holds
    | fail failure => exact holds
    | elapse time =>
      rw [recv]
      split
      · exact holds
      · exact ih holds

theorem recv_arrives {moves : List (UdpMove Peer)} {datagram : Bytes}
    (received : world.recv me limit moves = (some (.ok datagram), after)) :
    (∃ i, after.net.arriving me i = some datagram) ∧ after.schedule.length < moves.length := by
  induction moves generalizing world with
  | nil => cases received
  | cons move rest ih =>
    have goes (other : UdpWorld Peer config) (same : other.recv me limit rest = (some (.ok datagram), after)) :
        (∃ i, after.net.arriving me i = some datagram) ∧ after.schedule.length < (move :: rest).length := by
      obtain ⟨arrives, shorter⟩ := ih same
      exact ⟨arrives, Nat.lt_succ_of_lt shorter⟩
    cases move with
    | serve event => exact goes _ received
    | deliver i =>
      rw [recv] at received
      split at received
      · next arrives =>
        cases received
        exact ⟨⟨i, arrives⟩, Nat.lt_succ_self _⟩
      · exact goes _ received
    | fail failure => cases received
    | elapse time =>
      rw [recv] at received
      split at received
      · cases received
      · exact goes _ received

theorem recvResponse_keeps {P : UdpNet Peer config → Prop} (kept : ∀ event net, P net → P (net.serve me event))
    (limit : Option Nat) (world : UdpWorld Peer config) (holds : P world.net) :
    P (world.recvResponse me limit).2.net := by
  have held := recv_keeps kept limit world.schedule holds
  unfold recvResponse
  split
  all_goals
    next same =>
    rw [same] at held
    exact held

theorem recvResponse_arrives {header : MbapHeader} {response : ResponsePdu}
    (received : world.recvResponse me limit = (some (.ok (header, response)), after)) :
    (∃ i datagram, after.net.arriving me i = some datagram ∧
      tcp.decodeResponse (datagram.take Tcp.maxAduLen) = .ok (header, response)) ∧
      after.schedule.length < world.schedule.length := by
  unfold recvResponse at received
  split at received
  · cases received
  · next outcome there got =>
    obtain ⟨decoded, rfl⟩ := Prod.mk.inj received
    cases outcome with
    | error failure => cases decoded
    | ok datagram =>
      obtain ⟨⟨i, arrives⟩, shorter⟩ := recv_arrives got
      exact ⟨⟨i, datagram, arrives, Option.some.inj decoded⟩, shorter⟩

end Receive

/-- `UdpTransport` as the client's transport. -/
def transport (me : Peer) : ClientTransport MbapHeader (UdpWorld Peer config) where
  now world := world.now
  timer world := world.timer
  sendRequest header request _ world := world.sendRequest header request
  recvResponse limit world := world.recvResponse me limit
  remaining world := world.schedule.length
  consumes received := (recvResponse_arrives received).2

variable {me : Peer} {calls : List Call} {client after : Client (UdpWorld Peer config)} {call : Call}

theorem awaitResponse_answered {number : Nat} (carries : client.transport.net.Carries me calls)
    (few : calls.length ≤ 65535) (asked : calls[number]? = some call) {expected : FunctionCode} {deadline : Nat}
    {limit : Option Nat} {fuel : Nat} {response : ResponsePdu}
    (awaited : Client.awaitResponse .tcp (transport me) ⟨idOf number, call.unit⟩ expected deadline limit fuel client =
      (some (.ok (some response)), after)) :
    after.transport.net.Answered me ⟨idOf number, call.unit⟩ call.request response := by
  induction fuel generalizing client with
  | zero => cases awaited
  | succ fuel ih =>
    have kept := recvResponse_keeps (fun event net (held : net.Carries me calls) => held.serve event)
      (some (Client.waitUntil deadline limit)) client.transport carries
    rw [Client.awaitResponse] at awaited
    rcases received : (transport me).recvResponse (some (Client.waitUntil deadline limit)) client.transport with
      ⟨_ | e | ⟨header, reply⟩, world⟩
    all_goals
      rw [received] at awaited
      simp only at awaited
    · split at awaited <;> cases awaited
    · cases awaited
    · change client.transport.recvResponse me _ = _ at received
      rw [received] at kept
      split at awaited
      · next matching =>
        split at awaited <;> cases awaited
        obtain ⟨⟨i, datagram, arrives, decodes⟩, _⟩ := recvResponse_arrives received
        obtain rfl : ⟨idOf number, call.unit⟩ = header := beq_iff_eq.mp matching
        have correlated := UdpNet.arriving_correlated kept arrives decodes
        exact (correlated.own (fun _ _ => idOf_inj.mp) few asked).2
      · exact ih kept awaited

theorem awaitResponse_carries (carries : client.transport.net.Carries me calls) {header : MbapHeader}
    {expected : FunctionCode} {deadline : Nat} {limit : Option Nat} {fuel : Nat}
    {result : Option (Result (Option ResponsePdu))}
    (awaited : Client.awaitResponse .tcp (transport me) header expected deadline limit fuel client =
      (result, after)) :
    after.transport.net.Carries me calls ∧ UdpNet.Later me client.transport.net after.transport.net ∧
      after.transport.net.sent = client.transport.net.sent := by
  let Kept (net : UdpNet Peer config) : Prop :=
    net.Carries me calls ∧ UdpNet.Later me client.transport.net net ∧ net.sent = client.transport.net.sent
  have serves (event : Event (Except ReadFailure (Bytes × Peer)) DatagramPoll) (net : UdpNet Peer config)
      (kept : Kept net) : Kept (net.serve me event) :=
    ⟨kept.1.serve event, kept.2.1.trans (UdpNet.serve_later event), (UdpNet.serve_sent event).trans kept.2.2⟩
  have receives (limit : Option Nat) (world : UdpWorld Peer config) :
      Kept world.net → Kept ((transport me).recvResponse limit world).2.net :=
    recvResponse_keeps serves limit world
  obtain rfl : (Client.awaitResponse .tcp (transport me) header expected deadline limit fuel client).2 = after :=
    congrArg Prod.snd awaited
  exact Client.awaitResponse_keeps (fun world : UdpWorld Peer config => Kept world.net) receives
    ⟨carries, .refl _, rfl⟩ header expected deadline limit fuel

omit [DecidableEq Peer] in
theorem sendRequest_net {header : MbapHeader} {request : RequestPdu} {world sent : UdpWorld Peer config}
    {result : Option (Result Unit)} (sending : world.sendRequest header request = (result, sent)) :
    (result = some (.ok ()) ∧ ∃ datagram, tcp.encodeRequest header request = .ok datagram ∧
      sent.net = world.net.put datagram) ∨ result ≠ some (.ok ()) ∧ sent.net = world.net := by
  unfold sendRequest at sending
  split at sending
  · cases sending
    exact .inr ⟨by simp, rfl⟩
  · cases sending
    exact .inr ⟨by simp, rfl⟩
  · next datagram refusal sends encoded _ =>
    cases refusal with
    | some failure =>
      simp only [sendDatagramRequest, encoded] at sending
      cases sending
      exact .inr ⟨by simp, rfl⟩
    | none =>
      simp only [sendDatagramRequest, encoded] at sending
      cases sending
      exact .inl ⟨rfl, datagram, encoded, rfl⟩

/-- What the network is like after a call, and which calls it has requests of. -/
structure Made (me : Peer) (calls : List Call) (call : Call) (before after : Client (UdpWorld Peer config))
    (made : List Call) : Prop where
  grown : made = calls ∨ made = calls ++ [call]
  carries : after.transport.net.Carries me made
  sized : after.transport.net.sent.length = made.length
  numbered : after.nextTransaction = idOf made.length
  later : UdpNet.Later me before.transport.net after.transport.net

theorem call_made (carries : client.transport.net.Carries me calls)
    (sized : client.transport.net.sent.length = calls.length)
    (numbered : client.nextTransaction = idOf calls.length) (limit : Option Nat)
    {result : Option (Result (Option ResponsePdu))}
    (called : Client.call .tcp (transport me) call.unit call.request limit client = (result, after)) :
    ∃ made, Made me calls call client after made ∧
      (made.length ≤ 65535 → after.transport.net.Vouches me client.transport.net.sent.length call result) := by
  have unmade (same : after.transport.net = client.transport.net)
      (next : after.nextTransaction = client.nextTransaction)
      (fails : ∀ response, result ≠ some (.ok (some response))) :
      ∃ made, Made me calls call client after made ∧
        (made.length ≤ 65535 → after.transport.net.Vouches me client.transport.net.sent.length call result) :=
    ⟨calls, ⟨.inl rfl, same ▸ carries, same ▸ sized, next.trans numbered, same ▸ .refl _⟩,
      fun _ response returned => absurd returned (fails response)⟩
  cases usable : client.isDesynchronized with
  | true =>
    rw [Client.call_desynchronized usable] at called
    cases called
    exact unmade rfl rfl (by simp)
  | false =>
    cases encodes : call.request.encode with
    | error e =>
      rw [Client.call_unencodable usable encodes] at called
      cases called
      exact unmade rfl rfl (by simp)
    | ok pdu =>
      rcases sending : (transport me).sendRequest ⟨client.nextTransaction, call.unit⟩ call.request limit
        client.transport with ⟨_ | e | _, sent⟩
      · rw [Client.call_dropped usable encodes sending] at called
        cases called
        obtain ⟨success, _⟩ | ⟨_, same⟩ := sendRequest_net sending
        · cases success
        · exact unmade same rfl (by simp)
      · rw [Client.call_unsent usable encodes sending] at called
        cases called
        obtain ⟨success, _⟩ | ⟨_, same⟩ := sendRequest_net sending
        · cases success
        · exact unmade same rfl (by simp)
      · obtain ⟨_, datagram, encoded, same⟩ | ⟨fails, _⟩ := sendRequest_net sending
        swap
        · exact absurd rfl fails
        rw [Client.call_sent usable encodes sending, if_neg (by simp [ClientFraming.tcp])] at called
        rw [numbered] at encoded
        have put : sent.net.Carries me (calls ++ [call]) := same ▸ carries.put encoded
        have later : UdpNet.Later me client.transport.net sent.net := by
          rw [same]
          exact .put _ datagram
        obtain ⟨still, after_sent, wrote⟩ := awaitResponse_carries put called
        have now_sent : after.transport.net.sent = client.transport.net.sent ++ [datagram] := by
          rw [wrote]
          exact congrArg UdpNet.sent same
        have next := congrArg (fun out => out.2.nextTransaction) called
        simp only [Client.awaitResponse_nextTransaction, numbered, next_idOf] at next
        refine ⟨calls ++ [call], ⟨.inr rfl, still, ?_, by simpa using next.symm, later.trans after_sent⟩, ?_⟩
        · simp [now_sent, sized]
        intro few response returned
        subst returned
        rw [now_sent, sized]
        refine ⟨⟨datagram, by simp [← sized], encoded⟩, ?_⟩
        have asked : (calls ++ [call])[calls.length]? = some call := by simp
        change Client.awaitResponse .tcp (transport me) ⟨client.nextTransaction, call.unit⟩ _ _ _ _ _ = _ at called
        rw [numbered] at called
        exact awaitResponse_answered put few asked called

/-- How many datagrams the client has sent before each of these calls. -/
def sentBefore (me : Peer) : List Call → Client (UdpWorld Peer config) → List Nat
  | [], _ => []
  | call :: rest, client => client.transport.net.sent.length ::
    sentBefore me rest (Client.call .tcp (transport me) call.unit call.request none client).2

/-- A list of calls, each waited for, on a network that carries the requests of others before them. -/
theorem callEach_answered {more : List Call} (carries : client.transport.net.Carries me calls)
    (sized : client.transport.net.sent.length = calls.length)
    (numbered : client.nextTransaction = idOf calls.length) (few : calls.length + more.length ≤ 65535)
    {results : List (Option (Result (Option ResponsePdu)))}
    (called : Client.callEach .tcp (transport me) more client = (results, after)) :
    UdpNet.Later me client.transport.net after.transport.net ∧
      List.Forall₂ (fun asked => after.transport.net.Vouches me asked.1 asked.2)
        ((sentBefore me more client).zip more) results := by
  induction more generalizing calls client results with
  | nil =>
    cases called
    exact ⟨.refl _, .nil⟩
  | cons call rest ih =>
    rw [Client.callEach] at called
    rcases first : Client.call .tcp (transport me) call.unit call.request none client with ⟨result, middle⟩
    rcases others : Client.callEach .tcp (transport me) rest middle with ⟨remaining, last⟩
    simp only [first, others] at called
    cases called
    obtain ⟨made, course, vouched⟩ := call_made carries sized numbered none first
    have size : made.length ≤ calls.length + 1 := by
      obtain rfl | rfl := course.grown <;> simp
    simp only [List.length_cons] at few
    obtain ⟨later, answered⟩ := ih course.carries course.sized course.numbered (by omega) others
    rw [sentBefore, first]
    exact ⟨course.later.trans later, .cons ((vouched (by omega)).later later) answered⟩

end UdpWorld

/-- Whatever the network and the server do, every response that one of the client's first 65535 calls
returns is the service's answer to the datagram of that very call. -/
theorem udp_calls_answered {Peer : Type} [DecidableEq Peer] {config : ServerConfig} (me : Peer)
    {server : State (udpServer Peer config)} (reached : Reaches State.step (idle (udpServer Peer config)) server)
    (unknown : ∀ datagram, .outcome (.ok (datagram, me)) ∉ server.acts) (responses : ClientConfig)
    (sends : List (Option ReadFailure)) (schedule : List (UdpMove Peer)) (now : Nat) (timer : Timer)
    {calls : List Call} (few : calls.length ≤ 65535) :
    let start := .withConfig ⟨⟨[], server⟩, sends, schedule, now, timer⟩ responses
    let run := Client.callEach .tcp (UdpWorld.transport me) calls start
    List.Forall₂ (fun asked => run.2.transport.net.Vouches me asked.1 asked.2)
      ((UdpWorld.sentBefore me calls start).zip calls) run.1 := by
  intro start run
  have carries : UdpNet.Carries me [] ⟨[], server⟩ :=
    ⟨⟨reached, fun datagram inside => absurd inside (unknown datagram)⟩,
      fun datagram inside => absurd inside List.not_mem_nil⟩
  have numbered : start.nextTransaction = idOf ([] : List Call).length := rfl
  exact (UdpWorld.callEach_answered carries rfl numbered (by simpa using few) rfl).2

/-- The first request arrives twice and is answered twice; the second answer and a copy of the first
reach the client during its second call. -/
def duplicated : List (UdpMove Nat) :=
  [.serve .start, .serve .poll, .serve (.outcome (.ok ([0, 1, 0, 0, 0, 6, 17, 3, 0, 0, 0, 1], 7))),
    .serve .poll, .serve (.outcome (.ok ([0, 1, 0, 0, 0, 6, 17, 3, 0, 0, 0, 1], 7))),
    .serve (.task 0 .start), .serve (.task 1 .start),
    .serve (.task 0 (.answered (.ok (some (.readHoldingRegisters [⟨10⟩]))))),
    .serve (.task 1 (.answered (.ok (some (.readHoldingRegisters [⟨11⟩]))))),
    .serve (.task 0 (.send none)), .serve (.task 1 (.send none)), .deliver 0, .deliver 1, .deliver 0,
    .serve .poll, .serve (.outcome (.ok ([0, 2, 0, 0, 0, 6, 17, 3, 0, 0, 0, 1], 7))), .serve (.task 2 .start),
    .serve (.task 2 (.answered (.ok (some (.readHoldingRegisters [⟨12⟩]))))), .serve (.task 2 (.send none)),
    .deliver 2]

/-- Each call returns its own answer. -/
theorem duplicates_discarded :
    let calls := [⟨⟨17⟩, .readHoldingRegisters ⟨0⟩ ⟨1⟩⟩, ⟨⟨17⟩, .readHoldingRegisters ⟨0⟩ ⟨1⟩⟩]
    let start := .withConfig ⟨⟨[], idle (udpServer Nat ⟨none⟩)⟩, [none, none], duplicated, 0, millisecondTimer⟩ .default
    let run := Client.callEach .tcp (UdpWorld.transport 7) calls start
    run.1 = [some (.ok (some (.readHoldingRegisters [⟨10⟩]))), some (.ok (some (.readHoldingRegisters [⟨12⟩])))] ∧
      UdpWorld.sentBefore 7 calls start = [0, 1] ∧
      List.Forall₂ (fun asked => run.2.transport.net.Vouches 7 asked.1 asked.2)
        ((UdpWorld.sentBefore 7 calls start).zip calls) run.1 :=
  ⟨by decide +kernel, by decide +kernel,
    udp_calls_answered 7 .start (fun _ => List.not_mem_nil) .default _ _ 0 millisecondTimer (by decide)⟩

end Modbus
