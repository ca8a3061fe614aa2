import Modbus.TlsServer

/-! What the service is told of each connection that a listener takes up, however the
tasks of the connections and the loop are interleaved. Every connection has a story
of its own, from `on_connect` to `on_disconnect`, and no two have the same identifier. -/
namespace Modbus

/-- All that the service is told of one connection. -/
inductive Story : List Notification → Prop
  | rejected : Story [.connect .reject, .disconnect .rejected]
  | served {hooks : List Hook} {reason : Disconnect} : reason ≠ .rejected →
      (∀ e, reason = .failed e → hooks.getLast? = some (.error e)) →
      Story (.connect .accept :: hooks.map .hook ++ [.disconnect reason])

def Begun (told : List Notification) : Prop := ∃ story, Story story ∧ told <+: story

theorem ConnectionTask.step_failed {Header : Type} (framing : ServerFraming Header) (config : ServerConfig)
    (requested : Bool) (e : Error) (told : List Notification) :
    (∃ os, e = .io .unexpectedEof os ∧ step framing config requested ⟨.receiving, told⟩ (.received (.error e)) =
      some ⟨.disconnecting .closed, told⟩) ∨
    (∀ os, e ≠ .io .unexpectedEof os) ∧ step framing config requested ⟨.receiving, told⟩ (.received (.error e)) =
      some ⟨.reporting e (e.endsStream || !framing.boundary.isSelfLocating), told⟩ := by
  by_cases eof : ∃ os, e = .io .unexpectedEof os
  · obtain ⟨os, rfl⟩ := eof
    exact .inl ⟨os, rfl, rfl⟩
  · refine .inr ⟨fun os same => eof ⟨os, same⟩, ?_⟩
    cases e with
    | io kind os =>
      cases kind with
      | unexpectedEof => exact absurd ⟨os, rfl⟩ eof
      | _ => rfl
    | _ => rfl

/-- How far the story of a connection has come when its task stands here. -/
inductive Stands {Header : Type} : Phase Header → List Notification → Prop
  | fresh : Stands .fresh []
  | connecting : Stands .connecting []
  | rejecting : Stands (.disconnecting .rejected) [.connect .reject]
  | waiting {hooks : List Hook} : Stands .waiting (.connect .accept :: hooks.map .hook)
  | receiving {hooks : List Hook} : Stands .receiving (.connect .accept :: hooks.map .hook)
  | requesting {header : Header} {request : RequestPdu} {hooks : List Hook} :
      Stands (.requesting header request) (.connect .accept :: hooks.map .hook)
  | responding {header : Header} {response : ResponsePdu} {hooks : List Hook} :
      Stands (.responding header response) (.connect .accept :: hooks.map .hook)
  | reporting {e : Error} {ends : Bool} {hooks : List Hook} :
      Stands (.reporting e ends) (.connect .accept :: hooks.map .hook)
  | disconnecting {reason : Disconnect} {hooks : List Hook} : reason ≠ .rejected →
      (∀ e, reason = .failed e → hooks.getLast? = some (.error e)) →
      Stands (.disconnecting reason) (.connect .accept :: hooks.map .hook)
  | finished {outcome : Result Unit} {story : List Notification} : Story story → Stands (.finished outcome) story

namespace Stands

variable {Header : Type} {framing : ServerFraming Header} {config : ServerConfig} {requested : Bool}
  {phase : Phase Header} {told : List Notification} {task after : ConnectionTask Header}

theorem begun (stands : Stands phase told) : Begun told := by
  have goes_on (hooks : List Hook) : Begun (.connect .accept :: hooks.map .hook) :=
    ⟨_, @Story.served hooks .closed (by simp) (by simp), List.prefix_append ..⟩
  cases stands with
  | fresh | connecting => exact ⟨_, .rejected, List.nil_prefix⟩
  | rejecting => exact ⟨_, .rejected, List.prefix_append [Notification.connect .reject] _⟩
  | finished story => exact ⟨_, story, List.prefix_refl _⟩
  | _ => exact goes_on _

theorem story (stands : Stands task.phase task.told) (ended : task.isFinished = true) : Story task.told := by
  obtain ⟨phase, told⟩ := task
  cases stands with
  | finished story => exact story
  | _ => cases ended

theorem noted (hooks : List Hook) (hook : Hook) :
    Notification.connect .accept :: hooks.map .hook ++ [.hook hook] =
      .connect .accept :: (hooks ++ [hook]).map .hook := by
  simp

theorem reported (e : Error) (ends : Bool) (hooks : List Hook) :
    Stands (if ends then Phase.disconnecting (.failed e) else (.waiting : Phase Header))
      (.connect .accept :: hooks.map .hook ++ [.hook (.error e)]) := by
  rw [noted]
  cases ends with
  | false => exact .waiting
  | true => exact .disconnecting (by simp) (by simp)

theorem answered (header : Header) (request : RequestPdu) (answer : Answer) (hooks : List Hook) :
    Stands (match answer.response request.function with
        | none => .waiting
        | some response =>
          if framing.isBroadcast (framing.unit header) then .waiting else .responding header response)
      (.connect .accept :: hooks.map .hook ++ [.hook (.request (framing.unit header) request answer)]) := by
  rw [noted]
  split
  · exact .waiting
  · split
    · exact .waiting
    · exact .responding

theorem received {result : Result (Header × RequestPdu)} {hooks : List Hook}
    (stepped : ConnectionTask.step framing config requested ⟨.receiving, .connect .accept :: hooks.map .hook⟩
      (.received result) = some after) : Stands after.phase after.told := by
  rcases result with e | ⟨header, request⟩
  · rcases ConnectionTask.step_failed framing config requested e (.connect .accept :: hooks.map .hook) with
      ⟨_, _, closed⟩ | ⟨_, reports⟩
    · cases closed.symm.trans stepped
      exact .disconnecting (by simp) (by simp)
    · cases reports.symm.trans stepped
      exact .reporting
  · simp only [ConnectionTask.step, Option.some.injEq] at stepped
    subst stepped
    simp only
    split
    · exact .waiting
    · exact .requesting

theorem step (stands : Stands task.phase task.told) {advance : Advance Header}
    (stepped : task.step framing config requested advance = some after) : Stands after.phase after.told := by
  obtain ⟨phase, told⟩ := task
  cases stands with
  | fresh =>
    cases advance with
    | start =>
      cases stepped
      exact .connecting
    | _ => cases stepped
  | connecting =>
    cases advance with
    | connected answer =>
      cases answer <;> cases stepped
      · exact @waiting _ []
      · exact .rejecting
    | _ => cases stepped
  | rejecting =>
    cases advance with
    | disconnected =>
      cases stepped
      exact .finished .rejected
    | _ => cases stepped
  | waiting =>
    cases advance with
    | poll =>
      cases requested <;> cases stepped
      · exact .receiving
      · exact .disconnecting (by simp) (by simp)
    | _ => cases stepped
  | receiving =>
    cases advance with
    | pend =>
      cases stepped
      exact .waiting
    | received result => exact received stepped
    | _ => cases stepped
  | @requesting header request hooks =>
    cases advance with
    | answered answer =>
      cases stepped
      exact answered header request answer hooks
    | _ => cases stepped
  | responding =>
    cases advance with
    | sent result =>
      cases result <;> cases stepped
      · exact .reporting
      · exact .waiting
    | _ => cases stepped
  | @reporting e ends hooks =>
    cases advance with
    | reported =>
      cases stepped
      exact reported e ends hooks
    | _ => cases stepped
  | disconnecting served last =>
    cases advance with
    | disconnected =>
      cases stepped
      exact .finished (.served served last)
    | _ => cases stepped
  | finished => cases advance <;> cases stepped

end Stands

/-- A call made to the service for a connection over TLS. -/
inductive TlsNotification (Cert TlsError : Type) where
  | handshakeFailed (error : HandshakeError Cert TlsError)
  | connection (notification : Notification)

def TlsPhase.told {Header Cert TlsError : Type} :
    TlsPhase Header Cert TlsError → List (TlsNotification Cert TlsError)
  | .finished e => [.handshakeFailed e]
  | .connected _ task => task.told.map .connection
  | _ => []

/-- All that the service is told of one connection over TLS: that its handshake failed, or its story. -/
inductive TlsStory {Cert TlsError : Type} : List (TlsNotification Cert TlsError) → Prop
  | failed (error : HandshakeError Cert TlsError) : TlsStory [.handshakeFailed error]
  | served {story : List Notification} : Story story → TlsStory (story.map .connection)

section Tls

variable {Header Cert TlsError : Type} {general : String → TlsError} {framing : ServerFraming Header}
  {config : ServerConfig} {requested : Bool} {phase after : TlsPhase Header Cert TlsError}

def TlsPhase.Keeps : TlsPhase Header Cert TlsError → Prop
  | .connected _ task => Stands task.phase task.told
  | _ => True

theorem TlsPhase.Keeps.step (keeps : phase.Keeps) {advance : TlsAdvance Header Cert TlsError}
    (stepped : phase.step general framing config requested advance = some after) : after.Keeps := by
  cases step_moves stepped with
  | shaken => exact .connecting
  | connection moved => exact Stands.step keeps moved
  | _ => trivial

theorem TlsPhase.Keeps.begun (keeps : phase.Keeps) : ∃ story, TlsStory story ∧ phase.told <+: story := by
  cases phase with
  | connected cert task =>
    obtain ⟨story, whole, ahead⟩ := Stands.begun keeps
    exact ⟨_, .served whole, ahead.map _⟩
  | finished e => exact ⟨_, .failed e, List.prefix_refl _⟩
  | _ => exact ⟨_, .served .rejected, List.nil_prefix⟩

theorem TlsPhase.Keeps.story (keeps : phase.Keeps) (ended : phase.isFinished = true) : TlsStory phase.told := by
  cases phase with
  | connected cert task => exact .served (Stands.story keeps ended)
  | finished e => exact .failed e
  | _ => cases ended

end Tls

/-- The identifier that the connection with this number gets: the counter starts at 1 and wraps around. -/
def connectionId (accepted : Nat) : UInt64 := 1 + UInt64.ofNat accepted

/-- `UDP_CONNECTION`. -/
def udpConnection : UInt64 := 0

theorem connectionId_toNat {accepted : Nat} (few : accepted + 1 < 2 ^ 64) :
    (connectionId accepted).toNat = accepted + 1 := by
  rw [connectionId, UInt64.toNat_add, UInt64.toNat_ofNat', UInt64.toNat_one, Nat.mod_eq_of_lt (by omega),
    Nat.mod_eq_of_lt (by omega), Nat.add_comm]

namespace Listener.State

variable {ι α τ π ν : Type} {listener : Listener ι α τ π}

def identifiers (state : State listener) : List UInt64 :=
  (List.range state.tasks.spawned.length).map connectionId

theorem identifiers_distinct {state : State listener} (few : state.tasks.spawned.length < 2 ^ 64) :
    state.identifiers.Nodup ∧ udpConnection ∉ state.identifiers := by
  have value {i : Nat} (inside : i < state.tasks.spawned.length) : (connectionId i).toNat = i + 1 :=
    connectionId_toNat (by omega)
  constructor
  · refine List.Nodup.map_on ?_ List.nodup_range
    intro i there j here same
    have numbers := congrArg UInt64.toNat same
    rw [value (List.mem_range.mp there), value (List.mem_range.mp here)] at numbers
    omega
  · intro inside
    obtain ⟨i, there, same⟩ := List.mem_map.mp inside
    have number := congrArg UInt64.toNat same
    rw [value (List.mem_range.mp there)] at number
    cases number

/-- What the service has been told of every connection is the beginning of a story, and when serving
has returned it is a whole one. -/
structure Notified (told : τ → List ν) (Whole : List ν → Prop) (state : State listener) : Prop where
  begun : state.tasks.All fun work => ∃ story, Whole story ∧ told work.task <+: story
  whole : ∀ result, state.loop = .returned result → state.tasks.All fun work => Whole (told work.task)
  identified : state.tasks.spawned.length < 2 ^ 64 →
    state.identifiers.Nodup ∧ udpConnection ∉ state.identifiers

theorem notified {told : τ → List ν} {Whole : List ν → Prop} (Keeps : τ → Prop)
    (begins : ∀ item, Keeps (listener.job.start item))
    (goes : ∀ requested task advance after, Keeps task →
      listener.job.step requested task advance = some after → Keeps after)
    (begun : ∀ task, Keeps task → ∃ story, Whole story ∧ told task <+: story)
    (whole : ∀ task, Keeps task → listener.job.finished task = true → Whole (told task))
    {state : State listener} (reaches : Reaches State.step (idle listener) state) : state.Notified told Whole := by
  have kept : state.tasks.All fun work => Keeps work.task :=
    each (fun _ task => Keeps task) begins (fun _ => goes) reaches
  have drained := (Kept.reached reaches).drained
  exact ⟨fun entry inside => begun _ (kept entry inside),
    fun result out entry inside => whole _ (kept entry inside) (drained result out entry inside),
    identifiers_distinct⟩

end Listener.State

/-- What the service is told of each connection is the beginning of one story, from `on_connect` to
`on_disconnect`, and the whole of it once serving has returned. -/
theorem connections_told_once {Header : Type} (Cert TlsError Peer : Type) (general : String → TlsError)
    (framing : ServerFraming Header) (config : ServerConfig) :
    (∀ state, Reaches Listener.State.step (Listener.idle (framedListener Peer framing config)) state →
      state.Notified ConnectionTask.told Story) ∧
    ∀ state, Reaches Listener.State.step
        (Listener.idle (tlsListener Cert TlsError Peer general framing config)) state →
      state.Notified TlsPhase.told TlsStory := by
  constructor
  · intro state reaches
    exact Listener.State.notified (fun task => Stands task.phase task.told) (fun _ => .fresh)
      (fun _ _ _ _ stands stepped => stands.step stepped) (fun _ stands => stands.begun)
      (fun _ stands ended => stands.story ended) reaches
  · intro state reaches
    refine Listener.State.notified TlsPhase.Keeps ?_ (fun _ _ _ _ keeps stepped => keeps.step stepped)
      (fun _ keeps => keeps.begun) (fun _ keeps ended => keeps.story ended) reaches
    exact fun _ => trivial

/-- Of two connections one offers a certificate that is refused, the other is served until shutdown. -/
def refusedAndServed : List (Listener.Event (Result Nat) (TlsAdvance MbapHeader Nat String)) :=
  [.start, .poll, .outcome (.ok 5), .task 0 .start, .poll, .outcome (.ok 6), .task 1 .start,
    .task 1 (.handshake ⟨[(80, true)], .ok [80, 81]⟩), .task 0 (.handshake ⟨[(70, false)], .error ⟨"refused", none⟩⟩),
    .task 1 (.connection (.connected .accept)), .request, .task 0 .reported, .task 1 (.connection .poll), .poll,
    .task 1 (.connection .disconnected), .join 0, .join 1, .finish]

theorem refused_and_served_told_once : ∃ state,
    Reaches Listener.State.step (Listener.idle (tlsListener Nat String Nat id .tcp ⟨none⟩)) state ∧
    state.loop = .returned (.ok ()) ∧
    state.tasks.labels (fun work => work.task.told) = [[.handshakeFailed ⟨"refused", some 70⟩],
      [.connection (.connect .accept), .connection (.disconnect .shuttingDown)]] ∧
    (state.tasks.All fun work => TlsStory work.task.told) ∧ state.identifiers = [1, 2] := by
  have reaches : Reaches Listener.State.step (Listener.idle (tlsListener Nat String Nat id .tcp ⟨none⟩)) _ :=
    Run.follow refusedAndServed (fun _ _ _ => trivial) rfl
  have notified := (connections_told_once Nat String Nat id .tcp ⟨none⟩).2 _ reaches
  exact ⟨_, reaches, rfl, rfl, notified.whole _ rfl, rfl⟩

end Modbus
