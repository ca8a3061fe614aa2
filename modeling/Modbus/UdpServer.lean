import Modbus.ListenerPolicy

/-! The server on a datagram socket, down to the datagrams it puts on the network.
Each request is answered by a task of its own, which keeps a record of what it has
done: whom it asked, what it sent and to whom, and which failure it reported. -/
namespace Modbus

open Bytes

variable {Header Peer : Type}

/-- What a send puts on the network. The socket takes the whole datagram or refuses it. -/
def sendDatagramResponse (framing : Framing Header) (peer : Peer) (header : Header) (pdu : ResponsePdu)
    (refusal : Option ReadFailure) : Result (Peer × Bytes) :=
  match framing.encodeResponse header pdu with
  | .error e => .error e
  | .ok adu =>
    match refusal with
    | some failure => .error failure.error
    | none => .ok (peer, adu)

theorem sendDatagramResponse_ok {framing : Framing Header} {peer other : Peer} {header : Header}
    {pdu : ResponsePdu} {refusal : Option ReadFailure} {adu : Bytes}
    (sent : sendDatagramResponse framing peer header pdu refusal = .ok (other, adu)) :
    other = peer ∧ framing.encodeResponse header pdu = .ok adu := by
  unfold sendDatagramResponse at sent
  split at sent
  · cases sent
  · next encoded =>
    split at sent <;> cases sent
    exact ⟨rfl, encoded⟩

inductive Deed (Peer : Type) where
  | asked (unit : UnitId) (request : RequestPdu) (answer : Answer)
  | emitted (peer : Peer) (datagram : Bytes)
  | refused (error : Error)
  | reported (error : Error)

structure DatagramWork (Peer : Type) where
  peer : Peer
  task : DatagramTask
  deeds : List (Deed Peer)

inductive DatagramPoll where
  | start
  | answered (answer : Answer)
  | send (refusal : Option ReadFailure)
  | reported

namespace DatagramWork

def go (config : ServerConfig) (work : DatagramWork Peer) (advance : DatagramAdvance)
    (deeds : List (Deed Peer)) : Option (DatagramWork Peer) :=
  (work.task.step config advance).map fun task => { work with task := task, deeds := work.deeds ++ deeds }

/-- `serve_datagram`, with its sends. -/
def step (config : ServerConfig) (work : DatagramWork Peer) (poll : DatagramPoll) : Option (DatagramWork Peer) :=
  match work.task, poll with
  | .fresh .., .start => work.go config .start []
  | .requesting header request, .answered answer =>
    work.go config (.answered answer) [.asked (ServerFraming.tcp.unit header) request answer]
  | .sending header response, .send refusal =>
    match sendDatagramResponse tcp work.peer header response refusal with
    | .ok (peer, adu) => work.go config (.sent (.ok ())) [.emitted peer adu]
    | .error e => work.go config (.sent (.error e)) [.refused e]
  | .reporting e, .reported => work.go config .reported [.reported e]
  | _, _ => none

def emission (work : DatagramWork Peer) : Option (Peer × Bytes) :=
  work.deeds.findSome? fun
    | .emitted peer datagram => some (peer, datagram)
    | _ => none

end DatagramWork

abbrev Datagram (Peer : Type) := MbapHeader × RequestPdu × Peer

/-- Everything the task of a datagram can have done by the time it stands here. -/
inductive Script (config : ServerConfig) (header : MbapHeader) (request : RequestPdu) (peer : Peer) :
    DatagramTask → List (Deed Peer) → Prop
  | fresh : Script config header request peer (.fresh header request) []
  | foreign : config.unit.any (· != header.unitId) = true → Script config header request peer .finished []
  | requesting : config.unit.any (· != header.unitId) = false →
      Script config header request peer (.requesting header request) []
  | withheld {answer : Answer} : config.unit.any (· != header.unitId) = false →
      answer.response request.function = none →
      Script config header request peer .finished [.asked header.unitId request answer]
  | sending {answer : Answer} {response : ResponsePdu} : config.unit.any (· != header.unitId) = false →
      answer.response request.function = some response →
      Script config header request peer (.sending header response) [.asked header.unitId request answer]
  | emitted {answer : Answer} {response : ResponsePdu} {adu : Bytes} :
      config.unit.any (· != header.unitId) = false → answer.response request.function = some response →
      tcp.encodeResponse header response = .ok adu →
      Script config header request peer .finished [.asked header.unitId request answer, .emitted peer adu]
  | refused {answer : Answer} {response : ResponsePdu} {refusal : Option ReadFailure} {e : Error} :
      config.unit.any (· != header.unitId) = false → answer.response request.function = some response →
      sendDatagramResponse tcp peer header response refusal = .error e →
      Script config header request peer (.reporting e) [.asked header.unitId request answer, .refused e]
  | reported {answer : Answer} {response : ResponsePdu} {refusal : Option ReadFailure} {e : Error} :
      config.unit.any (· != header.unitId) = false → answer.response request.function = some response →
      sendDatagramResponse tcp peer header response refusal = .error e →
      Script config header request peer .finished
        [.asked header.unitId request answer, .refused e, .reported e]

namespace DatagramWork

variable {config : ServerConfig} {header : MbapHeader} {request : RequestPdu} {peer : Peer}
  {work next : DatagramWork Peer} {poll : DatagramPoll}

structure Keeps (config : ServerConfig) (header : MbapHeader) (request : RequestPdu) (peer : Peer)
    (work : DatagramWork Peer) : Prop where
  source : work.peer = peer
  script : Script config header request peer work.task work.deeds

theorem Keeps.step (kept : Keeps config header request peer work) (stepped : work.step config poll = some next) :
    Keeps config header request peer next := by
  obtain ⟨source, task, deeds⟩ := work
  obtain ⟨same, script⟩ := kept
  simp only at same script
  subst same
  cases script with
  | fresh =>
    cases poll with
    | start =>
      cases stepped
      refine ⟨rfl, ?_⟩
      simp only [List.append_nil]
      split
      · next other => exact .foreign other
      · next own => exact .requesting (Bool.eq_false_iff.mpr own)
    | _ => cases stepped
  | requesting own =>
    cases poll with
    | answered answer =>
      cases stepped
      refine ⟨rfl, ?_⟩
      simp only [List.nil_append]
      split
      · next silent => exact .withheld own silent
      · next response given => exact .sending own given
    | _ => cases stepped
  | @sending answer response own given =>
    cases poll with
    | send refusal =>
      simp only [DatagramWork.step] at stepped
      split at stepped
      · next other adu sent =>
        cases stepped
        obtain ⟨rfl, encoded⟩ := sendDatagramResponse_ok sent
        exact ⟨rfl, .emitted own given encoded⟩
      · next e failed =>
        cases stepped
        exact ⟨rfl, .refused own given failed⟩
    | _ => cases stepped
  | refused own given failed =>
    cases poll with
    | reported =>
      cases stepped
      exact ⟨rfl, .reported own given failed⟩
    | _ => cases stepped
  | foreign | withheld | emitted | reported => cases stepped

theorem step_deeds {deed : Deed Peer} (stepped : work.step config poll = some next) (done : deed ∈ work.deeds) :
    deed ∈ next.deeds := by
  have went : ∀ {advance deeds}, work.go config advance deeds = some next → deed ∈ next.deeds := by
    intro advance deeds gone
    obtain ⟨task, _, rfl⟩ := Option.map_eq_some_iff.mp gone
    exact List.mem_append_left _ done
  unfold step at stepped
  split at stepped
  case h_3 => split at stepped <;> exact went stepped
  case h_5 => cases stepped
  all_goals exact went stepped

theorem Keeps.emission (kept : Keeps config header request peer work) {target : Peer} {adu : Bytes}
    (sent : work.emission = some (target, adu)) :
    target = peer ∧ ∃ answer response, .asked header.unitId request answer ∈ work.deeds ∧
      answer.response request.function = some response ∧ tcp.encodeResponse header response = .ok adu := by
  obtain ⟨source, task, deeds⟩ := work
  obtain ⟨_, script⟩ := kept
  simp only at script
  cases script with
  | emitted own given encoded =>
    cases sent
    exact ⟨rfl, _, _, List.mem_cons_self, given, encoded⟩
  | _ => cases sent

end DatagramWork

/-- The tasks of `serve_udp`. -/
def datagramWork (Peer : Type) (config : ServerConfig) :
    Job (Datagram Peer) (DatagramWork Peer) DatagramPoll where
  start item := ⟨item.2.2, .fresh item.1 item.2.1, []⟩
  step _ work poll := work.step config poll
  finished work := work.task.isFinished
  running work := work.task.isRunning
  polling _ := false
  takesUp _ := false
  subscribes := false
  start_polling _ := rfl
  step_finished := by
    intro _ work _ ended
    obtain ⟨peer, task, deeds⟩ := work
    cases task <;> cases ended
    rfl
  finished_running := by
    intro work ended
    obtain ⟨peer, task, deeds⟩ := work
    cases task <;> cases ended
    rfl
  step_heeds _ := rfl
  step_takesUp := by
    intro _ _ _ _ _ takes
    cases takes

/-- `serve_udp`, with the datagrams it sends. -/
def udpServer (Peer : Type) (config : ServerConfig) :
    Listener (Except ReadFailure (Bytes × Peer)) (Datagram Peer) (DatagramWork Peer) DatagramPoll where
  take := (udpListener Peer config).take
  job := datagramWork Peer config

namespace Listener

variable {config : ServerConfig} {state : State (udpServer Peer config)}

theorem udp_got {received : Except ReadFailure (Bytes × Peer)} {header : MbapHeader} {request : RequestPdu}
    {peer : Peer} (got : (udpServer Peer config).take received = .got (header, request, peer)) :
    ∃ datagram, received = .ok (datagram, peer) ∧
      tcp.decodeRequest (datagram.take Tcp.maxAduLen) = .ok (header, request) := by
  cases received with
  | error failure => cases got
  | ok datagram =>
    obtain ⟨bytes, source⟩ := datagram
    simp only [udpServer, udpListener, recvDatagramRequest] at got
    cases decoded : tcp.decodeRequest (bytes.take Tcp.maxAduLen) with
    | ok received =>
      rw [decoded] at got
      cases got
      exact ⟨bytes, rfl, decoded⟩
    | error e =>
      rw [decoded] at got
      cases e <;> cases got

theorem udp_keeps (reaches : Reaches State.step (idle (udpServer Peer config)) state) :
    state.tasks.All fun work => work.task.Keeps config work.item.1 work.item.2.1 work.item.2.2 :=
  State.each (fun item work => work.Keeps config item.1 item.2.1 item.2.2) (fun _ => ⟨rfl, .fresh⟩)
    (fun _ _ _ _ _ kept stepped => kept.step stepped) reaches

/-- One task for each datagram that decoded, in order of arrival, asks the service at most once and
sends at most one datagram, to where the request came from. -/
theorem datagrams_served_once {Peer : Type} {config : ServerConfig} {state : State (udpServer Peer config)}
    (reaches : Reaches State.step (idle (udpServer Peer config)) state) :
    state.tasks.labels Work.item = state.acts.filterMap (udpServer Peer config).accepted ∧
    (∀ entry ∈ state.tasks.spawned, Script config entry.task.item.1 entry.task.item.2.1 entry.task.item.2.2
      entry.task.task.task entry.task.task.deeds) ∧
    ∀ result, state.loop = .returned result → ∀ entry ∈ state.tasks.spawned,
      Script config entry.task.item.1 entry.task.item.2.1 entry.task.item.2.2 .finished
        entry.task.task.deeds := by
  have kept := State.Kept.reached reaches
  have scripts := udp_keeps reaches
  refine ⟨kept.items, fun entry inside => (scripts entry inside).script, ?_⟩
  intro result out entry inside
  have script := (scripts entry inside).script
  have ended : entry.task.task.task.isFinished = true := kept.drained result out entry inside
  cases stands : entry.task.task.task with
  | finished => exact stands ▸ script
  | _ =>
    rw [stands] at ended
    cases ended

def twoDatagrams : List (Event (Except ReadFailure (Bytes × Nat)) DatagramPoll) :=
  [.start, .poll, .outcome (.ok ([0, 1, 0, 0, 0, 2, 9, 7], 5)), .poll,
    .outcome (.ok ([0, 2, 0, 0, 0, 2, 17, 7], 6)), .task 1 .start, .task 0 .start,
    .task 1 (.answered (.error .illegalFunction)), .request, .poll, .task 1 (.send none), .join 1, .join 0, .finish]

/-- Only the second is answered, to its source, and serving has returned. -/
theorem second_datagram_answered : ∃ state, Reaches State.step (idle (udpServer Nat ⟨some ⟨17⟩⟩)) state ∧
    state.loop = .returned (.ok ()) ∧
    state.tasks.spawned.map (fun entry => entry.task.task.emission) =
      [none, some (6, [0, 2, 0, 0, 0, 3, 17, 0x87, 1])] ∧
    ∀ entry ∈ state.tasks.spawned, Script ⟨some ⟨17⟩⟩ entry.task.item.1 entry.task.item.2.1 entry.task.item.2.2
      .finished entry.task.task.deeds := by
  have reaches : Reaches State.step (idle (udpServer Nat ⟨some ⟨17⟩⟩)) _ :=
    Run.follow twoDatagrams (fun _ _ _ => trivial) rfl
  exact ⟨_, reaches, rfl, rfl, (datagrams_served_once reaches).2.2 _ rfl⟩

end Listener

end Modbus
