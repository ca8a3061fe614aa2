import Modbus.PipelineMatching
import Modbus.UdpExchange

/-! The pipelined client on UDP against the server on UDP. Callers, background task,
timers, network and server take their steps in any order. A response handed to a
caller is the service's answer to that caller's request, although many are under way
at once and the network repeats and reorders them. -/
namespace Modbus.Pipeline

open Bytes

namespace Task

variable {setting : Setting} {task after : Task}

theorem failEach_written {entries : List (Sigma fun _ : TransactionId => Entry)}
    (failed : failEach entries task = some after) : after.written = task.written := by
  induction entries generalizing task with
  | nil =>
    cases failed
    rfl
  | cons registered rest ih =>
    obtain ⟨middle, removed, failed⟩ := Option.bind_eq_some_iff.mp failed
    unfold removeTimer at removed
    split at removed <;> cases removed
    have same := ih failed
    exact same

theorem desynchronize_written (failed : task.desynchronize = some after) : after.written = task.written := by
  have same := failEach_written failed
  exact same

theorem receive_written {received : Result (MbapHeader × ResponsePdu)}
    (took : task.receive received = some after) : after.written = task.written := by
  unfold receive at took
  split at took
  · split at took
    · obtain ⟨middle, removed, same⟩ := Option.bind_eq_some_iff.mp took
      cases same
      unfold removeTimer at removed
      split at removed <;> cases removed
      rfl
    · split at took
      · cases took
        rfl
      · exact desynchronize_written took
  · exact desynchronize_written took

theorem expire_written {key : Nat} (took : task.expire setting key = some after) :
    after.written = task.written := by
  unfold expire at took
  split at took
  · cases took
    rfl
  · simp only at took
    split at took
    · cases took
      rfl
    · split at took
      · have same := desynchronize_written took
        exact same
      · cases took
        rfl

theorem takeUp_written {command : Command} {write : Write} (took : task.takeUp setting command write = some after) :
    after.written = task.written ∨
      ∃ adu, tcp.encodeRequest ⟨command.transaction, command.unit⟩ command.request = .ok adu ∧
        after.written = task.written ++ [match write with
          | .done => adu
          | .failed accepted _ => adu.take accepted] := by
  unfold takeUp at took
  split at took
  · cases took
    exact .inl rfl
  · simp only [sendRequest, ClientFraming.tcp] at took
    cases encoded : tcp.encodeRequest ⟨command.transaction, command.unit⟩ command.request with
    | error e =>
      simp only [encoded] at took
      have same := failEach_written took
      exact .inl same
    | ok adu =>
      simp only [encoded] at took
      cases write with
      | done =>
        cases took
        exact .inr ⟨adu, rfl, rfl⟩
      | failed accepted failure =>
        have same := failEach_written took
        exact .inr ⟨adu, rfl, same⟩

end Task

/-- What the callers ask for, in the order of their identifiers. -/
def Shared.calls (shared : Shared) : List Call := shared.commands.map fun command => ⟨command.unit, command.request⟩

theorem Shared.Sound.call_at {shared : Shared} (sound : shared.Sound) {command : Command}
    (made : command ∈ shared.commands) : shared.calls[command.reply]? = some ⟨command.unit, command.request⟩ := by
  obtain ⟨i, at_i⟩ := List.mem_iff_getElem?.mp made
  have numbers := congrArg (·[i]?) sound.made
  simp only [List.getElem?_map, at_i, Option.map_some] at numbers
  obtain ⟨bound, same⟩ := List.getElem?_eq_some_iff.mp numbers.symm
  simp only [List.getElem_range] at same
  subst same
  simp [calls, at_i]

/-- Every success was delivered by a frame that answers the caller's own request. -/
structure Vouched (Answers : MbapHeader → RequestPdu → ResponsePdu → Prop) (shared : Shared) : Prop where
  answered : ∀ reply response, ⟨reply, .ok response⟩ ∈ shared.task.answers →
    ∃ header, (reply, header, response) ∈ shared.task.delivered
  own : ∀ reply header response, (reply, header, response) ∈ shared.task.delivered →
    ∃ command ∈ shared.commands, command.reply = reply ∧
      Answers ⟨command.transaction, command.unit⟩ command.request response

/-- A frame answers a request that was made under the identifier it bears. -/
def Replies (Answers : MbapHeader → RequestPdu → ResponsePdu → Prop) (shared : Shared) : Event → Prop
  | .received (.ok (header, response)) => Correlated idOf shared.calls
    (fun call => Answers ⟨header.transactionId, call.unit⟩ call.request) header.transactionId response
  | _ => True

namespace Vouched

variable {setting : Setting} {Answers Later : MbapHeader → RequestPdu → ResponsePdu → Prop}
  {shared after : Shared} {event : Event}

theorem start (config : PipelineConfig) : Vouched Answers (.start config) :=
  ⟨fun _ _ inside => absurd inside List.not_mem_nil, fun _ _ _ inside => absurd inside List.not_mem_nil⟩

theorem mono (vouched : Vouched Answers shared)
    (later : ∀ header request response, Answers header request response → Later header request response) :
    Vouched Later shared := by
  refine ⟨vouched.answered, ?_⟩
  intro reply header response inside
  obtain ⟨command, made, same, answers⟩ := vouched.own reply header response inside
  exact ⟨command, made, same, later _ _ _ answers⟩

theorem unsuccessful (vouched : Vouched Answers shared) (same : shared.task.Unsuccessful after.task)
    (commands : shared.commands ⊆ after.commands) : Vouched Answers after := by
  refine ⟨?_, ?_⟩
  · intro reply response inside
    rw [same.1]
    exact vouched.answered reply response (same.2 reply response inside)
  · intro reply header response inside
    rw [same.1] at inside
    obtain ⟨command, made, rest⟩ := vouched.own reply header response inside
    exact ⟨command, commands made, rest⟩

theorem received (vouched : Vouched Answers shared) (sound : shared.Sound) (few : shared.channels ≤ 65535)
    {received : Result (MbapHeader × ResponsePdu)} {task : Task}
    (replies : Replies Answers shared (.received received)) (took : shared.task.receive received = some task) :
    Vouched Answers { shared with task := task } := by
  cases Task.received sound.ledger.timed took with
  | @answered header response entry _ resolved delivered =>
    obtain ⟨named, made⟩ := sound.ledger.named _ _ resolved.found
    obtain ⟨command, inside, reply⟩ := sound.command made
    have size : shared.calls.length ≤ 65535 := by
      have numbers := congrArg List.length sound.made
      simp only [List.length_map, List.length_range] at numbers
      simpa [Shared.calls, numbers] using few
    have answers : Answers ⟨command.transaction, command.unit⟩ command.request response := by
      rw [Replies, named, ← reply] at replies
      rw [sound.named command inside]
      have own := replies.own (fun _ _ => idOf_inj.mp) size (sound.call_at inside)
      exact own
    refine ⟨?_, ?_⟩
    · intro other success there
      rw [delivered]
      rw [resolved.answers] at there
      rcases List.mem_append.mp there with old | fresh
      · obtain ⟨header, before⟩ := vouched.answered other success old
        exact ⟨header, List.mem_append_left _ before⟩
      · cases List.mem_singleton.mp fresh
        exact ⟨header, List.mem_append_right _ List.mem_cons_self⟩
    · intro other frame success there
      rw [delivered] at there
      rcases List.mem_append.mp there with old | fresh
      · exact vouched.own other frame success old
      · cases List.mem_singleton.mp fresh
        exact ⟨command, inside, reply, answers⟩
  | late => exact vouched
  | failed givenUp _ => exact vouched.unsuccessful (givenUp.unsuccessful (by simp)) (List.Subset.refl _)

theorem step (vouched : Vouched Answers shared) (sound : shared.Sound) (few : shared.channels ≤ 65535)
    (replies : Replies Answers shared event) (took : shared.step setting event = some after) :
    Vouched Answers after := by
  have still : shared.task.Unsuccessful shared.task := ⟨rfl, fun _ _ inside => inside⟩
  cases Shared.stepped took with
  | callers task nextTransaction channels commands =>
    apply vouched.unsuccessful
    · rw [task]
      exact still
    · rw [commands]
      exact List.Subset.refl _
  | allocate enters => exact vouched.unsuccessful still (List.subset_append_left _ _)
  | enqueue inside => exact vouched.unsuccessful still (List.Subset.refl _)
  | takeUp heads taken =>
    exact vouched.unsuccessful (Task.takenUp sound.ledger.timed taken).unsuccessful (List.Subset.refl _)
  | received taken => exact vouched.received sound few replies taken
  | expired taken =>
    exact vouched.unsuccessful (Task.expired sound.ledger.timed taken).unsuccessful (List.Subset.refl _)

end Vouched

theorem Shared.calls_grow {setting : Setting} {shared after : Shared} {event : Event}
    (took : shared.step setting event = some after) :
    shared.calls <+: after.calls ∧ shared.channels ≤ after.channels := by
  cases Shared.stepped took with
  | callers task nextTransaction channels commands =>
    rw [calls, calls, commands, channels]
    exact ⟨List.prefix_refl _, Nat.le_refl _⟩
  | allocate enters =>
    refine ⟨?_, Nat.le_succ _⟩
    simp only [calls, List.map_append]
    exact List.prefix_append _ _
  | _ => exact ⟨List.prefix_refl _, Nat.le_refl _⟩

/-- A datagram is sent whole or not at all. -/
def Whole : Event → Bool
  | .takeUp (.failed accepted _) => accepted == 0
  | _ => true

/-- What has been written is the request of one of these calls, or nothing. -/
def Framed (calls : List Call) (datagram : Bytes) : Prop :=
  datagram = [] ∨ ∃ number call, calls[number]? = some call ∧
    tcp.encodeRequest ⟨idOf number, call.unit⟩ call.request = .ok datagram

theorem Framed.mono {calls more : List Call} {datagram : Bytes} (framed : Framed calls datagram)
    (grows : calls <+: more) : Framed more datagram := by
  obtain rfl | ⟨number, call, asked, encoded⟩ := framed
  · exact .inl rfl
  · obtain ⟨rest, rfl⟩ := grows
    have inside := (List.getElem?_eq_some_iff.mp asked).1
    exact .inr ⟨number, call, (List.getElem?_append_left inside).trans asked, encoded⟩

theorem Shared.step_written {setting : Setting} {shared after : Shared} {event : Event}
    (took : shared.step setting event = some after) : after.task.written = shared.task.written ∨
      ∃ write command adu, event = .takeUp write ∧ command ∈ shared.pending ∧
        tcp.encodeRequest ⟨command.transaction, command.unit⟩ command.request = .ok adu ∧
        after.task.written = shared.task.written ++ [match write with
          | .done => adu
          | .failed accepted _ => adu.take accepted] := by
  cases Shared.stepped took with
  | callers task =>
    rw [task]
    exact .inl rfl
  | allocate | enqueue => exact .inl rfl
  | @takeUp write command queue task heads taken =>
    obtain same | ⟨adu, encoded, same⟩ := Task.takeUp_written taken
    · exact .inl same
    · have pending := (Shared.perm_takeUp heads).mem_iff.mpr List.mem_cons_self
      exact .inr ⟨write, command, adu, rfl, pending, encoded, same⟩
  | received taken => exact .inl (Task.receive_written taken)
  | expired taken => exact .inl (Task.expire_written taken)

theorem Shared.written_grows {setting : Setting} {shared after : Shared} {event : Event}
    (took : shared.step setting event = some after) : shared.task.written <+: after.task.written := by
  obtain same | ⟨write, command, adu, _, _, _, same⟩ := step_written took
  · rw [same]
  · rw [same]
    exact List.prefix_append _ _

theorem framed_step {setting : Setting} {shared after : Shared} {event : Event} (sound : shared.Sound)
    (whole : Whole event = true) (framed : ∀ datagram ∈ shared.task.written, Framed shared.calls datagram)
    (took : shared.step setting event = some after) :
    ∀ datagram ∈ after.task.written, Framed after.calls datagram := by
  have grows := (Shared.calls_grow took).1
  have old : ∀ datagram ∈ shared.task.written, Framed after.calls datagram :=
    fun datagram inside => (framed datagram inside).mono grows
  obtain same | ⟨write, command, adu, rfl, pending, encoded, same⟩ := Shared.step_written took
  · rw [same]
    exact old
  · rw [same]
    intro datagram inside
    rcases List.mem_append.mp inside with before | fresh
    · exact old datagram before
    · rw [List.mem_singleton.mp fresh]
      have made := sound.issued pending
      cases write with
      | done =>
        rw [sound.named command made] at encoded
        exact Framed.mono (.inr ⟨command.reply, _, sound.call_at made, encoded⟩) grows
      | failed accepted failure =>
        obtain rfl : accepted = 0 := by simpa [Whole] using whole
        exact .inl List.take_zero

/-- The pipelined client on UDP, and the server. -/
structure Udp (Peer : Type) (config : ServerConfig) where
  shared : Shared
  server : Listener.State (udpServer Peer config)

/-- What happens next: something in the client, in the server, or on the way to the client. -/
inductive UdpEvent (Peer : Type) where
  | client (event : Event)
  | serve (event : Listener.Event (Except ReadFailure (Bytes × Peer)) DatagramPoll)
  | deliver (i : Nat)
  | fail (failure : ReadFailure)

namespace Udp

variable {Peer : Type} {config : ServerConfig}

def start (pipeline : PipelineConfig) (server : Listener.State (udpServer Peer config)) : Udp Peer config :=
  ⟨.start pipeline, server⟩

/-- A write that failed has put nothing on the network. -/
def net (state : Udp Peer config) : UdpNet Peer config :=
  ⟨state.shared.task.written.filter (!·.isEmpty), state.server⟩

def own : Event → Bool
  | .received _ => false
  | event => Whole event

def step [DecidableEq Peer] (setting : Setting) (me : Peer) (state : Udp Peer config) :
    UdpEvent Peer → Option (Udp Peer config)
  | .client event => if own event then (state.shared.step setting event).map ({ state with shared := · }) else none
  | .serve event => some { state with server := (state.net.serve me event).server }
  | .deliver i =>
    match state.net.arriving me i with
    | none => none
    | some datagram =>
      (state.shared.step setting (.received (recvDatagramResponse tcp (.ok datagram)))).map
        ({ state with shared := · })
  | .fail failure =>
    (state.shared.step setting (.received (recvDatagramResponse tcp (.error failure)))).map
      ({ state with shared := · })

/-- What holds in every state. -/
structure Kept (me : Peer) (state : Udp Peer config) : Prop where
  sound : state.shared.Sound
  framed : ∀ datagram ∈ state.shared.task.written, Framed state.shared.calls datagram
  honest : state.net.Honest me
  vouched : state.shared.channels ≤ 65535 → Vouched (state.net.Answered me) state.shared

variable {me : Peer} {state next : Udp Peer config} {setting : Setting}

theorem Kept.carries (kept : state.Kept me) : state.net.Carries me state.shared.calls where
  honest := kept.honest
  frames := by
    intro datagram inside
    obtain ⟨written, there⟩ := List.mem_filter.mp inside
    obtain rfl | framed := kept.framed datagram written
    · simp at there
    · exact framed

theorem Kept.client (kept : state.Kept me) {event : Event} {after : Shared} (whole : Whole event = true)
    (replies : Replies (state.net.Answered me) state.shared event)
    (took : state.shared.step setting event = some after) : Kept me { state with shared := after } := by
  have grows := Shared.calls_grow took
  have framed := framed_step kept.sound whole kept.framed took
  refine ⟨kept.sound.step took, framed, ⟨kept.honest.reached, ?_⟩, ?_⟩
  · intro datagram inside
    exact ((Shared.written_grows took).filter _).subset (kept.honest.arrived datagram inside)
  · intro few
    have before := Nat.le_trans grows.2 few
    exact (kept.vouched before).step kept.sound before replies took

variable [DecidableEq Peer]

theorem Kept.serve (kept : state.Kept me)
    (event : Listener.Event (Except ReadFailure (Bytes × Peer)) DatagramPoll) :
    Kept me { state with server := (state.net.serve me event).server } := by
  have same : net { state with server := (state.net.serve me event).server } = state.net.serve me event := by
    obtain same | ⟨server, _, _, same⟩ := state.net.serve_cases me event
    all_goals
      rw [same]
      rfl
  refine ⟨kept.sound, kept.framed, ?_, ?_⟩
  · rw [same]
    exact kept.honest.serve event
  · intro few
    rw [same]
    exact (kept.vouched few).mono fun _ _ _ answered => answered.later (UdpNet.serve_later event)

theorem Kept.step (kept : state.Kept me) {event : UdpEvent Peer} (stepped : state.step setting me event = some next) :
    next.Kept me := by
  cases event with
  | client event =>
    simp only [Udp.step] at stepped
    split at stepped
    · next mine =>
      obtain ⟨after, took, rfl⟩ := Option.map_eq_some_iff.mp stepped
      have other : Whole event = true ∧ Replies (state.net.Answered me) state.shared event := by
        cases event with
        | received received => cases mine
        | _ => exact ⟨mine, trivial⟩
      exact kept.client other.1 other.2 took
    · cases stepped
  | serve event =>
    cases stepped
    exact kept.serve event
  | deliver i =>
    simp only [Udp.step] at stepped
    split at stepped
    · cases stepped
    · next datagram arrives =>
      obtain ⟨after, took, rfl⟩ := Option.map_eq_some_iff.mp stepped
      apply kept.client rfl ?_ took
      cases decoded : recvDatagramResponse tcp (.ok datagram) with
      | error e => trivial
      | ok frame =>
        obtain ⟨header, response⟩ := frame
        have correlated := UdpNet.arriving_correlated kept.carries arrives decoded
        refine correlated.mono (List.prefix_refl _) ?_
        intro call answers
        rw [← answers.1]
        exact answers.2
  | fail failure =>
    obtain ⟨after, took, rfl⟩ := Option.map_eq_some_iff.mp stepped
    apply kept.client rfl ?_ took
    trivial

end Udp

/-- As long as no more than 65535 requests have been numbered, every response returned to a caller is
the service's answer to the datagram that bore that caller's own identifier. -/
theorem pipelined_udp_answered {Peer : Type} [DecidableEq Peer] {config : ServerConfig} (setting : Setting)
    (pipeline : PipelineConfig) (me : Peer) {server : Listener.State (udpServer Peer config)}
    (reached : Reaches Listener.State.step (Listener.idle (udpServer Peer config)) server)
    (unknown : ∀ datagram, .outcome (.ok (datagram, me)) ∉ server.acts) {state : Udp Peer config}
    (reaches : Reaches (Udp.step setting me) (.start pipeline server) state)
    (few : state.shared.channels ≤ 65535) {reply : Nat} {response : ResponsePdu}
    (returned : ⟨reply, .ok response⟩ ∈ state.shared.returned) :
    ∃ command ∈ state.shared.commands, command.reply = reply ∧
      (∀ other ∈ state.shared.commands, other.reply = reply → other = command) ∧
      (∀ other ∈ state.shared.commands, other.transaction = command.transaction → other = command) ∧
      state.net.Answered me ⟨command.transaction, command.unit⟩ command.request response := by
  have start : Udp.Kept me (.start pipeline server) :=
    ⟨.start pipeline, fun _ inside => absurd inside List.not_mem_nil,
      ⟨reached, fun datagram inside => absurd inside (unknown datagram)⟩, fun _ => .start pipeline⟩
  have kept : state.Kept me := Run.invariant start (fun _ _ _ kept _ stepped => kept.step stepped) reaches
  have vouched := kept.vouched few
  obtain ⟨header, delivered⟩ := vouched.answered reply response (kept.sound.returned returned)
  obtain ⟨command, made, own, answered⟩ := vouched.own reply header response delivered
  have once : (state.shared.commands.map Command.reply).Nodup := by
    rw [kept.sound.made]
    exact List.nodup_range
  refine ⟨command, made, own, ?_, ?_, answered⟩
  · intro other inside same
    exact List.inj_on_of_nodup_map once inside made (same.trans own.symm)
  · intro other inside same
    rw [kept.sound.named other inside, kept.sound.named command made] at same
    have numbers := idOf_inj.mp same
    rw [Nat.mod_eq_of_lt (Nat.lt_of_lt_of_le (kept.sound.made_lt inside) few),
      Nat.mod_eq_of_lt (Nat.lt_of_lt_of_le (kept.sound.made_lt made) few)] at numbers
    exact List.inj_on_of_nodup_map once inside made numbers

def overUdp : Setting := ⟨false, countingKeys⟩

/-- Two requests under way at once. The second is answered first, and its answer arrives twice. -/
def crossing : List (UdpEvent Nat) :=
  [.client (.send ⟨1⟩ readOne), .client (.allocate 0), .client (.enqueue 0), .client (.send ⟨1⟩ readOne),
    .client (.allocate 0), .client (.enqueue 1), .client (.takeUp .done), .client (.takeUp .done),
    .serve .start, .serve .poll, .serve (.outcome (.ok ([0, 2, 0, 0, 0, 6, 1, 3, 0, 0, 0, 1], 7))),
    .serve .poll, .serve (.outcome (.ok ([0, 1, 0, 0, 0, 6, 1, 3, 0, 0, 0, 1], 7))),
    .serve (.task 0 .start), .serve (.task 1 .start),
    .serve (.task 0 (.answered (.ok (some (.readHoldingRegisters [⟨200⟩]))))),
    .serve (.task 1 (.answered (.ok (some (.readHoldingRegisters [⟨100⟩]))))),
    .serve (.task 0 (.send none)), .serve (.task 1 (.send none)), .deliver 0, .deliver 0, .deliver 1,
    .client (.resolve 0), .client (.resolve 1)]

/-- Both callers get the answers to their own requests. -/
theorem crossing_answers_returned : ∃ state : Udp Nat ⟨none⟩,
    Reaches (Udp.step overUdp 7) (.start twoInFlight (Listener.idle (udpServer Nat ⟨none⟩))) state ∧
    state.shared.returned = [⟨0, .ok (.readHoldingRegisters [⟨100⟩])⟩, ⟨1, .ok (.readHoldingRegisters [⟨200⟩])⟩] ∧
    ∃ command ∈ state.shared.commands, command.reply = 1 ∧
      state.net.Answered 7 ⟨command.transaction, command.unit⟩ command.request (.readHoldingRegisters [⟨200⟩]) := by
  have reaches : Reaches (Udp.step overUdp 7) (.start twoInFlight (Listener.idle (udpServer Nat ⟨none⟩))) _ :=
    Run.follow crossing (fun _ _ _ => trivial) rfl
  have second : (⟨1, .ok (.readHoldingRegisters [⟨200⟩])⟩ : Answer) ∈
      [⟨0, .ok (.readHoldingRegisters [⟨100⟩])⟩, ⟨1, .ok (.readHoldingRegisters [⟨200⟩])⟩] :=
    List.mem_cons_of_mem _ List.mem_cons_self
  obtain ⟨command, made, own, _, _, answered⟩ := pipelined_udp_answered overUdp twoInFlight 7 .start
    (fun _ => List.not_mem_nil) reaches (show 2 ≤ 65535 by decide) second
  exact ⟨_, reaches, rfl, command, made, own, answered⟩

end Modbus.Pipeline
