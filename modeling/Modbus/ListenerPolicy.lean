import Modbus.Listener

/-! The server on a listening socket and on a datagram socket: when serving returns,
what it asks the service, and what its task set holds meanwhile. -/
namespace Modbus

/-- What a receive from a socket that serves many peers comes to. A datagram that does not fit the
buffer is cut short. -/
def recvDatagramRequest (framing : Framing Header) (capacity : Nat) (received : Except ReadFailure (Bytes × Peer)) :
    Result (Header × RequestPdu × Peer) :=
  match received with
  | .error failure => .error failure.error
  | .ok (datagram, peer) =>
    match framing.decodeRequest (datagram.take capacity) with
    | .error e => .error e
    | .ok (header, pdu) => .ok (header, pdu, peer)

def connectionJob (Peer : Type) (framing : ServerFraming Header) (config : ServerConfig) :
    Job Peer (ConnectionTask Header) (Advance Header) where
  start _ := .new
  step requested task advance := task.step framing config requested advance
  finished := ConnectionTask.isFinished
  running := ConnectionTask.isRunning
  polling := ConnectionTask.isPolling
  takesUp := Advance.takesUp
  subscribes := true
  start_polling _ := rfl
  step_finished := ConnectionTask.step_finished
  finished_running := ConnectionTask.running_unfinished
  step_heeds := ConnectionTask.step_heeds
  step_takesUp := ConnectionTask.step_takesUp

def datagramJob (Peer : Type) (config : ServerConfig) :
    Job (MbapHeader × RequestPdu × Peer) DatagramTask DatagramAdvance where
  start item := .fresh item.1 item.2.1
  step _ task advance := task.step config advance
  finished := DatagramTask.isFinished
  running := DatagramTask.isRunning
  polling _ := false
  takesUp _ := false
  subscribes := false
  start_polling _ := rfl
  step_finished := by
    intro _ task _ ended
    cases task <;> cases ended
    rfl
  finished_running := by
    intro task ended
    cases task <;> cases ended
    rfl
  step_heeds _ := rfl
  step_takesUp := by
    intro _ _ _ _ _ takes
    cases takes

/-- `serve_framed`: accepting yields a transport to a peer, or fails. -/
def framedListener (Peer : Type) (framing : ServerFraming Header) (config : ServerConfig) :
    Listener (Result Peer) Peer (ConnectionTask Header) (Advance Header) where
  take
    | .ok peer => .got peer
    | .error e => .failed e
  job := connectionJob Peer framing config

/-- `serve_udp`: an I/O error is the socket's, any other error the datagram's. -/
def udpListener (Peer : Type) (config : ServerConfig) :
    Listener (Except ReadFailure (Bytes × Peer)) (MbapHeader × RequestPdu × Peer) DatagramTask DatagramAdvance where
  take received :=
    match recvDatagramRequest tcp Tcp.maxAduLen received with
    | .ok datagram => .got datagram
    | .error (.io kind os) => .failed (.io kind os)
    | .error e => .undecodable e
  job := datagramJob Peer config

namespace Listener

variable {ι α τ π : Type} {listener : Listener ι α τ π}

structure FollowsPolicy (state : State listener) : Prop where
  /-- An error is returned only where the hook, called with that error, completed with `Stop`. -/
  stopped : ∀ e, state.loop = .returned (.error e) → ∃ earlier outcome, listener.take outcome = .failed e ∧
    state.acts = earlier ++ [.outcome outcome, .ask e, .answer e .stop]
  shutDown : state.loop = .returned (.ok ()) → state.signal.requested = true
  drained : ∀ result, state.loop = .returned result →
    state.tasks.All fun work => listener.job.finished work.task = true
  /-- After a failure nothing is taken up before the hook has completed with `Continue`. -/
  continued : ∀ before outcome e after, state.acts = before ++ .outcome outcome :: after →
    listener.take outcome = .failed e → .take ∈ after → ∃ rest, after = .ask e :: .answer e .continue :: rest
  spawned : state.tasks.labels Work.item = state.acts.filterMap listener.accepted
  reported : ∀ before outcome e after, state.acts = before ++ .outcome outcome :: after →
    listener.take outcome = .undecodable e → ∃ rest, after = .report e :: rest
  asked : ∀ before e after, state.acts = before ++ .ask e :: after →
    ∃ earlier outcome, listener.take outcome = .failed e ∧ before = earlier ++ [.outcome outcome]

namespace State

variable {state : State listener}

theorem Kept.chain_from (kept : state.Kept) {before after : List (Act ι α)} {act : Act ι α}
    (split : state.acts = before ++ act :: after) : (act :: after).IsChain (Next listener) :=
  (List.isChain_append.mp (split ▸ kept.history)).2.1

theorem Kept.last_outcome (kept : state.Kept) {outcome : ι} : state.acts.getLast? ≠ some (.outcome outcome) := by
  intro ends
  have last := kept.last
  rw [ends] at last
  cases loop : state.loop with
  | draining result | returned result =>
    rw [loop] at last
    cases result <;> simp [LastAct] at last
  | _ =>
    rw [loop] at last
    cases last

theorem Kept.preceded (kept : state.Kept) {before after : List (Act ι α)} {act : Act ι α}
    (split : state.acts = before ++ act :: after) (answers : act ≠ .take) :
    ∃ earlier previous, before = earlier ++ [previous] ∧ Next listener previous act := by
  rcases List.eq_nil_or_concat before with rfl | ⟨earlier, previous, rfl⟩
  · exact absurd (kept.first act (by simp [split])) answers
  · rw [List.concat_eq_append, List.append_assoc, List.singleton_append] at split
    cases kept.chain_from split with
    | cons_cons next _ => exact ⟨earlier, previous, List.concat_eq_append, next⟩

theorem Kept.asked (kept : state.Kept) {before after : List (Act ι α)} {e : Error}
    (split : state.acts = before ++ .ask e :: after) :
    ∃ earlier outcome, listener.take outcome = .failed e ∧ before = earlier ++ [.outcome outcome] := by
  obtain ⟨earlier, previous, rfl, next⟩ := kept.preceded split (by simp)
  cases next with
  | failed took => exact ⟨earlier, _, took, rfl⟩

theorem Kept.followsPolicy (kept : state.Kept) : FollowsPolicy state where
  stopped := by
    intro e out
    have last := kept.last
    rw [out] at last
    obtain ⟨before, split⟩ := List.getLast?_eq_some_iff.mp last
    obtain ⟨earlier, previous, rfl, next⟩ := kept.preceded split (by simp)
    cases next with
    | asked =>
      rw [List.append_assoc, List.singleton_append] at split
      obtain ⟨start, outcome, took, rfl⟩ := kept.asked split
      exact ⟨start, outcome, took, by simpa using split⟩
  shutDown out := kept.told (.inr out)
  drained := kept.drained
  continued := by
    intro before outcome e after split failed takes
    cases kept.chain_from split with
    | singleton => cases takes
    | cons_cons next rest =>
      cases next with
      | got took | undecodable took => cases failed.symm.trans took
      | failed took =>
        cases failed.symm.trans took
        cases rest with
        | singleton => simp at takes
        | cons_cons answered rest =>
          cases answered with
          | @asked _ action =>
            cases action with
            | «continue» => exact ⟨_, rfl⟩
            | stop =>
              cases rest with
              | singleton => simp at takes
              | cons_cons next => cases next
  spawned := kept.items
  reported := by
    intro before outcome e after split undecodable
    cases kept.chain_from split with
    | singleton =>
      have ends : state.acts.getLast? = some (.outcome outcome) := by simp [split]
      exact absurd ends kept.last_outcome
    | cons_cons next _ =>
      cases next with
      | got took | failed took => cases undecodable.symm.trans took
      | undecodable took =>
        cases undecodable.symm.trans took
        exact ⟨_, rfl⟩
  asked := fun _ _ _ split => kept.asked split

theorem Kept.held_le_iff (kept : state.Kept) (waits : state.loop = .waiting ∨ state.loop = .accepting) :
    state.tasks.held ≤ state.tasks.unfinished ↔
      state.tasks.All fun work => listener.job.finished work.task = false := by
  apply JoinSet.Unjoined.held_le_iff
  apply kept.unjoined
  obtain waits | waits := waits
  all_goals
    rw [waits]
    rfl

end State

theorem udp_failed {Peer : Type} {config : ServerConfig} {received : Except ReadFailure (Bytes × Peer)} {e : Error}
    (failed : (udpListener Peer config).take received = .failed e) :
    ∃ failure, received = .error failure ∧ e = failure.error := by
  cases received with
  | error failure =>
    cases failed
    exact ⟨failure, rfl, rfl⟩
  | ok datagram =>
    obtain ⟨bytes, peer⟩ := datagram
    simp only [udpListener, recvDatagramRequest] at failed
    cases decoded : tcp.decodeRequest (bytes.take Tcp.maxAduLen) with
    | ok request =>
      rw [decoded] at failed
      cases failed
    | error refusal =>
      have framed := tcp_costsFrames.decodeRequest _ refusal decoded
      rw [decoded] at failed
      cases refusal with
      | io => cases framed
      | _ => cases failed

theorem udp_undecodable {Peer : Type} {config : ServerConfig} {datagram : Bytes} {peer : Peer} {e : Error}
    (failed : tcp.decodeRequest (datagram.take Tcp.maxAduLen) = .error e) :
    (udpListener Peer config).take (.ok (datagram, peer)) = .undecodable e := by
  have framed := tcp_costsFrames.decodeRequest _ e failed
  simp only [udpListener, recvDatagramRequest, failed]
  cases e with
  | io => cases framed
  | _ => rfl

/-- Serving a listener or a datagram socket, at every moment of every run. -/
theorem serving_follows_failure_policy {Header : Type} (Peer : Type) (framing : ServerFraming Header)
    (config : ServerConfig) :
    (∀ state, Reaches State.step (idle (framedListener Peer framing config)) state → FollowsPolicy state) ∧
    ∀ state, Reaches State.step (idle (udpListener Peer config)) state → FollowsPolicy state ∧
      (∀ before datagram peer e after, state.acts = before ++ .outcome (.ok (datagram, peer)) :: after →
        tcp.decodeRequest (datagram.take Tcp.maxAduLen) = .error e → ∃ rest, after = .report e :: rest) ∧
      ∀ before e after, state.acts = before ++ .ask e :: after →
        ∃ earlier failure, e = ReadFailure.error failure ∧ before = earlier ++ [.outcome (.error failure)] := by
  refine ⟨fun state reaches => (State.Kept.reached reaches).followsPolicy, ?_⟩
  intro state reaches
  have policy := (State.Kept.reached reaches).followsPolicy
  refine ⟨policy, ?_, ?_⟩
  · intro before datagram peer e after split failed
    exact policy.reported before _ e after split (udp_undecodable failed)
  · intro before e after split
    obtain ⟨earlier, outcome, failed, rfl⟩ := policy.asked before e after split
    obtain ⟨failure, rfl, same⟩ := udp_failed failed
    exact ⟨earlier, failure, same, rfl⟩

def failingAccept : List (Event (Result Nat) (Advance MbapHeader)) :=
  [.start, .poll, .outcome (.ok 5), .poll, .outcome (.error (.io .other (some 24))), .poll, .answered .stop,
    .task 0 .start, .task 0 (.connected .reject), .task 0 .disconnected, .join 0, .finish]

theorem failing_accept_stops : ∃ state,
    Reaches State.step (idle (framedListener Nat .tcp ⟨none⟩)) state ∧
    state.loop = .returned (.error (.io .other (some 24))) ∧
    (∃ earlier, state.acts = earlier ++ [.outcome (.error (.io .other (some 24))),
      .ask (.io .other (some 24)), .answer (.io .other (some 24)) .stop]) ∧
    state.tasks.labels Work.item = [5] := by
  have reaches : Reaches State.step (idle (framedListener Nat .tcp ⟨none⟩)) _ :=
    Run.follow failingAccept (fun _ _ _ => trivial) rfl
  have policy := (serving_follows_failure_policy Nat .tcp ⟨none⟩).1 _ reaches
  obtain ⟨earlier, outcome, took, acts⟩ := policy.stopped _ rfl
  refine ⟨_, reaches, rfl, ⟨earlier, ?_⟩, policy.spawned⟩
  cases outcome with
  | ok peer => cases took
  | error e =>
    cases took
    exact acts

/-- Whenever the loop waits for the next connection or datagram, the set holds no more entries than
there are unfinished tasks exactly if no task has finished so far. -/
theorem entries_within_unfinished_iff {Header : Type} (Peer : Type) (framing : ServerFraming Header)
    (config : ServerConfig) :
    (∀ state, Reaches State.step (idle (framedListener Peer framing config)) state →
      state.loop = .waiting ∨ state.loop = .accepting →
      (state.tasks.held ≤ state.tasks.unfinished ↔ state.tasks.All fun work => work.task.isFinished = false)) ∧
    ∀ state, Reaches State.step (idle (udpListener Peer config)) state →
      state.loop = .waiting ∨ state.loop = .accepting →
      (state.tasks.held ≤ state.tasks.unfinished ↔ state.tasks.All fun work => work.task.isFinished = false) :=
  ⟨fun _ reaches waits => (State.Kept.reached reaches).held_le_iff waits,
    fun _ reaches waits => (State.Kept.reached reaches).held_le_iff waits⟩

def oneDatagram : List (Event (Except ReadFailure (Bytes × Nat)) DatagramAdvance) :=
  [.start, .poll, .outcome (.ok ([0, 1, 0, 0, 0, 2, 17, 7], 5)), .task 0 .start]

theorem datagram_under_way_held : ∃ state, Reaches State.step (idle (udpListener Nat ⟨none⟩)) state ∧
    state.loop = .waiting ∧ state.tasks.held = 1 ∧ state.tasks.held ≤ state.tasks.unfinished := by
  have reaches : Reaches State.step (idle (udpListener Nat ⟨none⟩)) _ :=
    Run.follow oneDatagram (fun _ _ _ => trivial) rfl
  refine ⟨_, reaches, rfl, rfl, ?_⟩
  apply ((entries_within_unfinished_iff Nat .tcp ⟨none⟩).2 _ reaches (.inl rfl)).mpr
  intro entry inside
  obtain rfl := List.mem_singleton.mp inside
  rfl

theorem finished_datagram_still_held : ∃ state, Reaches State.step (idle (udpListener Nat ⟨none⟩)) state ∧
    state.loop = .waiting ∧ state.tasks.held = 1 ∧ state.tasks.unfinished = 0 := by
  have reaches : Reaches State.step (idle (udpListener Nat ⟨none⟩)) _ :=
    Run.follow (oneDatagram ++ [.task 0 (.answered (.ok none))]) (fun _ _ _ => trivial) rfl
  exact ⟨_, reaches, rfl, rfl, rfl⟩

end Listener

end Modbus
