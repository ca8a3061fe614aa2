import Modbus.Server

/-! What a connection comes to, turn after turn: the service is asked for each
request it is to see, in the order they arrived, and the wire carries the answers
in that order and nothing else. -/
namespace Modbus

open Bytes

def Hook.asked : Hook → Option (UnitId × RequestPdu × Answer)
  | .request unit pdu answer => some (unit, pdu, answer)
  | .error _ => none

namespace Server

variable {Header σ : Type}

def dispatched (server : Server Header σ) : Result (Header × RequestPdu) → Option (Header × RequestPdu)
  | .ok (header, request) => if server.accepts header then some (header, request) else none
  | .error _ => none

def Survives (server : Server Header σ) (received : Result (Header × RequestPdu)) : Prop :=
  ∀ e, received = .error e → e.endsStream = false ∧ server.framing.boundary.isSelfLocating = true

/-- Why the loop stands where it does, given all it received. -/
inductive Stands (server : Server Header σ) : Standing → List (Result (Header × RequestPdu)) → Prop
  | serving {received : List (Result (Header × RequestPdu))} :
      (∀ result ∈ received, server.Survives result) → Stands server .serving received
  | waiting {received : List (Result (Header × RequestPdu))} :
      (∀ result ∈ received, server.Survives result) → server.shutdown = none →
      Stands server .waiting received
  | shuttingDown {received : List (Result (Header × RequestPdu))} {moment : Nat} :
      (∀ result ∈ received, server.Survives result) → server.shutdown = some moment →
      Stands server (.ended .shuttingDown) received
  | closed {received : List (Result (Header × RequestPdu))} {os : Option Int32} :
      (∀ result ∈ received, server.Survives result) →
      Stands server (.ended .closed) (received ++ [.error (.io .unexpectedEof os)])
  | failed {received : List (Result (Header × RequestPdu))} {e : Error} :
      (∀ result ∈ received, server.Survives result) → ¬server.Survives (.error e) →
      (∀ os, e ≠ .io .unexpectedEof os) → Stands server (.ended (.failed e)) (received ++ [.error e])

/-- A connection that began with this much on the wire and the service in this state. -/
structure Traced (server : Server Header σ) (wire : Bytes) (service : σ) (standing : Standing)
    (session : Session Header σ) : Prop where
  requests : (session.hooks.filterMap Hook.asked).map (fun asked => (asked.1, asked.2.1)) =
    (session.received.filterMap server.dispatched).map
      fun received => (server.framing.unit received.1, received.2)
  replies : session.transport.wire = wire ++ (List.zipWith
    (fun received asked => server.reply received.1 received.2 asked.2.2)
    (session.received.filterMap server.dispatched) (session.hooks.filterMap Hook.asked)).flatten
  service : server.service.Follows service session.hooks session.service
  stands : server.Stands standing session.received

section Steps

variable {server : Server Header σ} {wire : Bytes} {service : σ} {before after : Session Header σ}
  {reader : Reader} {received : Result (Header × RequestPdu)} {hooks : List Hook} {written : Bytes}
  {standing : Standing}

theorem Traced.survived (traced : server.Traced wire service .serving before) :
    ∀ result ∈ before.received, server.Survives result := by
  cases traced.stands with
  | serving survived => exact survived

theorem Traced.goes_on (traced : server.Traced wire service .serving before)
    (survives : server.Survives received) : server.Stands .serving (before.received ++ [received]) := by
  apply Stands.serving
  intro result inside
  rcases List.mem_append.mp inside with earlier | last
  · exact traced.survived result earlier
  · rw [List.mem_singleton.mp last]
    exact survives

theorem Traced.unasked (traced : server.Traced wire service .serving before)
    (does : server.Does { before with
      transport := { before.transport with reader := reader }
      received := before.received ++ [received] } after hooks [])
    (undispatched : server.dispatched received = none) (unasked : hooks.filterMap Hook.asked = [])
    (stands : server.Stands standing (before.received ++ [received])) :
    server.Traced wire service standing after where
  requests := by
    rw [does.received, does.notified]
    simpa [unasked, undispatched] using traced.requests
  replies := by
    rw [does.received, does.notified, does.wire]
    simpa [unasked, undispatched] using traced.replies
  service := does.notified ▸ traced.service.append does.service
  stands := does.received ▸ stands

theorem Traced.asked {header : Header} {request : RequestPdu} {answer : Answer}
    (traced : server.Traced wire service .serving before)
    (does : server.Does { before with
      transport := { before.transport with reader := reader }
      received := before.received ++ [.ok (header, request)] } after hooks
        (server.reply header request answer))
    (accepted : server.accepts header = true)
    (asked : hooks.filterMap Hook.asked = [(server.framing.unit header, request, answer)]) :
    server.Traced wire service .serving after where
  requests := by
    rw [does.received, does.notified]
    simp [asked, dispatched, accepted, traced.requests]
  replies := by
    have paired : (before.received.filterMap server.dispatched).length =
        (before.hooks.filterMap Hook.asked).length := by
      simpa using (congrArg List.length traced.requests).symm
    rw [does.received, does.notified, does.wire]
    simp only [List.filterMap_append, asked, List.filterMap_cons, List.filterMap_nil, dispatched, accepted,
      if_true, List.zipWith_append paired, List.flatten_append, traced.replies]
    simp
  service := does.notified ▸ traced.service.append does.service
  stands := does.received ▸ traced.goes_on fun _ failed => nomatch failed

theorem Traced.turned (unfailing : ∀ n, (server.passages n).failure = none)
    (traced : server.Traced wire service .serving before) (turned : server.Turned before standing after) :
    server.Traced wire service standing after := by
  cases turned with
  | shuttingDown told kept =>
    exact ⟨traced.requests, kept.trans traced.replies, traced.service, .shuttingDown traced.survived told⟩
  | waiting untold _ =>
    exact ⟨traced.requests, traced.replies, traced.service, .waiting traced.survived untold⟩
  | handled receiving handled =>
    cases handled with
    | closed does => exact traced.unasked does rfl rfl (.closed traced.survived)
    | failed other ends does =>
      refine traced.unasked does rfl rfl (.failed traced.survived ?_ other)
      intro survives
      obtain ⟨survivable, selfLocating⟩ := survives _ rfl
      simp [survivable, selfLocating] at ends
    | survived survivable selfLocating does =>
      refine traced.unasked does rfl rfl (traced.goes_on ?_)
      intro e same
      cases same
      exact ⟨survivable, selfLocating⟩
    | foreign skipped does =>
      exact traced.unasked does (by simp [dispatched, skipped]) rfl (traced.goes_on fun _ failed => nomatch failed)
    | answered accepted does => exact traced.asked does accepted rfl
    | unencodable accepted nothing survivable does =>
      exact traced.asked (nothing ▸ does) accepted rfl
    | unwritten accepted failing does =>
      obtain ⟨n, broken⟩ := failing
      simp [unfailing n] at broken

end Steps

def Traces (server : Server Header σ) : Prop :=
  ∀ transport state turns,
    server.Traced transport.wire state (server.exchange turns (.new transport state)).1
      (server.exchange turns (.new transport state)).2

theorem traces (server : Server Header σ) (costs : server.framing.CostsFrames)
    (unfailing : ∀ n, (server.passages n).failure = none) : server.Traces := by
  intro transport state turns
  have begun : server.Traced transport.wire state .serving (.new transport state) :=
    ⟨rfl, by simp [Session.new], .nil, .serving (by simp [Session.new])⟩
  apply server.exchange_rule costs _ (server.Traced transport.wire state) begun
  intro session standing after _ traced turned
  exact traced.turned unfailing turned

end Server

/-- The service is asked once, in order, for each request it is to see, and the wire carries its
answers to these, each under its request's header. -/
theorem exchange_answers_in_order (crc16 : Bytes → UInt16) {σ : Type} (line : TransportConfig)
    (config : ServerConfig) (service : Service σ) (shutdown : Option Nat) (passages : Nat → Passage)
    (unfailing : ∀ n, (passages n).failure = none) :
    (Server.mk .tcp line config service shutdown passages).Traces ∧
    (Server.mk (.serial (rtu crc16)) line config service shutdown passages).Traces ∧
    (Server.mk (.serial (rtuOverTcp crc16)) line config service shutdown passages).Traces ∧
    (Server.mk (.serial ascii) line config service shutdown passages).Traces :=
  ⟨Server.traces _ tcp_costsFrames unfailing, Server.traces _ (rtu_costsFrames crc16) unfailing,
    Server.traces _ (rtuOverTcp_costsFrames crc16) unfailing, Server.traces _ ascii_costsFrames unfailing⟩

/-- Reads of a holding register are answered with 7, anything else is refused. -/
def sevens : Service Nat where
  onRequest _ request asked := (match request with
    | .readHoldingRegisters .. => .ok (some (.readHoldingRegisters [⟨7⟩]))
    | _ => .error .illegalFunction, asked + 1)
  onError _ asked := asked
  took _ := 0

/-- A read, another device's request and a request that is refused, in one read from the line. -/
theorem filtered_and_refused_in_order :
    let server := Server.mk .tcp .default ⟨some ⟨17⟩⟩ sevens none fun _ => ⟨0, 0, none, []⟩
    let start : FrameTransport := .new ⟨0, [⟨0, .ok ⟨[0, 1, 0, 0, 0, 6, 17, 3, 0, 0, 0, 1,
      0, 2, 0, 0, 0, 2, 18, 7, 0, 3, 0, 0, 0, 2, 17, 7], by decide⟩⟩], some 9, .exact⟩
    let after := server.exchange 4 (.new start 0)
    (after.1 = .ended .closed ∧ after.2.service = 2 ∧
      after.2.transport.wire = [0, 1, 0, 0, 0, 5, 17, 3, 2, 0, 7, 0, 3, 0, 0, 0, 3, 17, 0x87, 1]) ∧
    server.Traced [] 0 after.1 after.2 := by
  intro server start after
  have traces := (exchange_answers_in_order (fun _ => 0) .default ⟨some ⟨17⟩⟩ sevens none
    (fun _ => ⟨0, 0, none, []⟩) fun _ => rfl).1
  exact ⟨by decide, traces start 0 4⟩

end Modbus
