import Modbus.Shutdown

/-! The server on a TLS listener. A connection is accepted before its handshake, and
the handshake runs in the task of the connection: one that stalls or fails is of
no consequence to the loop or to the other connections. -/
namespace Modbus

/-- Why a handshake failed: the failure of the TLS library, or one of the stream, told by its text. -/
structure HandshakeError (Cert TlsError : Type) where
  source : TlsError
  peerCert : Option Cert

/-- An I/O error, and the error of the TLS library that it may wrap. -/
structure StreamError (TlsError : Type) where
  message : String
  inner : Option TlsError

/-- What goes on in a handshake: the certificates the client offers, whether the verifier takes them,
and how it ends. -/
structure Handshake (Cert TlsError : Type) where
  verified : List (Cert × Bool)
  accepted : Except (StreamError TlsError) (List Cert)

section Handshake

variable {Cert TlsError : Type} (general : String → TlsError)

def tlsErrorSource (error : StreamError TlsError) : TlsError := error.inner.getD (general error.message)

def Handshake.rejectedCert (handshake : Handshake Cert TlsError) : Option Cert :=
  ((handshake.verified.filter (!·.2)).getLast?).map Prod.fst

def handshakeFramed (handshake : Handshake Cert TlsError) : Except (HandshakeError Cert TlsError) (Option Cert) :=
  match handshake.accepted with
  | .ok certs => .ok certs.head?
  | .error e => .error ⟨tlsErrorSource general e, handshake.rejectedCert⟩

end Handshake

inductive TlsPhase (Header Cert TlsError : Type) where
  | fresh
  | handshaking
  /-- `on_tls_handshake_failed` runs. -/
  | failing (error : HandshakeError Cert TlsError)
  | connected (cert : Option Cert) (task : ConnectionTask Header)
  | finished (error : HandshakeError Cert TlsError)

inductive TlsAdvance (Header Cert TlsError : Type) where
  | start
  | handshake (handshake : Handshake Cert TlsError)
  | reported
  | connection (advance : Advance Header)

namespace TlsPhase

variable {Header Cert TlsError : Type} (general : String → TlsError) (framing : ServerFraming Header)
  (config : ServerConfig)

/-- The task spawned by `serve_tls`. The handshake does not heed shutdown. -/
def step (requested : Bool) (phase : TlsPhase Header Cert TlsError) (advance : TlsAdvance Header Cert TlsError) :
    Option (TlsPhase Header Cert TlsError) :=
  match phase, advance with
  | .fresh, .start => some .handshaking
  | .handshaking, .handshake handshake =>
    match handshakeFramed general handshake with
    | .ok cert => some (.connected cert ⟨.connecting, []⟩)
    | .error e => some (.failing e)
  | .failing e, .reported => some (.finished e)
  | .connected cert task, .connection advance => (task.step framing config requested advance).map (.connected cert)
  | _, _ => none

def isFinished : TlsPhase Header Cert TlsError → Bool
  | .connected _ task => task.isFinished
  | .finished _ => true
  | _ => false

def isRunning : TlsPhase Header Cert TlsError → Bool
  | .failing _ => true
  | .connected _ task => task.isRunning
  | _ => false

def isPolling : TlsPhase Header Cert TlsError → Bool
  | .connected _ task => task.isPolling
  | _ => false

variable {general framing config} {requested : Bool} {phase next : TlsPhase Header Cert TlsError}
  {advance : TlsAdvance Header Cert TlsError}

inductive Moves (general : String → TlsError) (framing : ServerFraming Header) (config : ServerConfig)
    (requested : Bool) :
    TlsPhase Header Cert TlsError → TlsAdvance Header Cert TlsError → TlsPhase Header Cert TlsError → Prop
  | start : Moves general framing config requested .fresh .start .handshaking
  | shaken {handshake : Handshake Cert TlsError} {cert : Option Cert} :
      handshakeFramed general handshake = .ok cert →
      Moves general framing config requested .handshaking (.handshake handshake) (.connected cert ⟨.connecting, []⟩)
  | failed {handshake : Handshake Cert TlsError} {e : HandshakeError Cert TlsError} :
      handshakeFramed general handshake = .error e →
      Moves general framing config requested .handshaking (.handshake handshake) (.failing e)
  | reported {e : HandshakeError Cert TlsError} :
      Moves general framing config requested (.failing e) .reported (.finished e)
  | connection {cert : Option Cert} {task after : ConnectionTask Header} {advance : Advance Header} :
      task.step framing config requested advance = some after →
      Moves general framing config requested (.connected cert task) (.connection advance) (.connected cert after)

theorem step_moves (stepped : phase.step general framing config requested advance = some next) :
    Moves general framing config requested phase advance next := by
  cases phase with
  | fresh =>
    cases advance with
    | start =>
      cases stepped
      exact .start
    | _ => cases stepped
  | handshaking =>
    cases advance with
    | handshake handshake =>
      cases shaken : handshakeFramed general handshake with
      | ok cert =>
        simp only [step, shaken] at stepped
        cases stepped
        exact .shaken shaken
      | error e =>
        simp only [step, shaken] at stepped
        cases stepped
        exact .failed shaken
    | _ => cases stepped
  | failing e =>
    cases advance with
    | reported =>
      cases stepped
      exact .reported
    | _ => cases stepped
  | connected cert task =>
    cases advance with
    | connection advance =>
      obtain ⟨after, moved, rfl⟩ := Option.map_eq_some_iff.mp stepped
      exact .connection moved
    | _ => cases stepped
  | finished e => cases advance <;> cases stepped

theorem step_finished (ended : phase.isFinished = true) :
    phase.step general framing config requested advance = none := by
  cases went : phase.step general framing config requested advance with
  | none => rfl
  | some next =>
    cases step_moves went with
    | connection moved => cases (ConnectionTask.step_finished ended).symm.trans moved
    | _ => cases ended

theorem running_unfinished (ended : phase.isFinished = true) : phase.isRunning = false := by
  cases phase with
  | connected cert task => exact ConnectionTask.running_unfinished ended
  | finished => rfl
  | _ => cases ended

theorem step_heeds (stepped : phase.step general framing config true advance = some next) : next.isPolling = false := by
  cases step_moves stepped with
  | connection moved => exact ConnectionTask.step_heeds moved
  | _ => rfl

end TlsPhase

def TlsAdvance.takesUp {Header Cert TlsError : Type} : TlsAdvance Header Cert TlsError → Bool
  | .connection advance => advance.takesUp
  | _ => false

section Listener

variable {Header : Type} (Cert TlsError Peer : Type) (general : String → TlsError) (framing : ServerFraming Header)
  (config : ServerConfig)

/-- The task holds its receiver of the signal through the handshake. -/
def tlsJob : Job Peer (TlsPhase Header Cert TlsError) (TlsAdvance Header Cert TlsError) where
  start _ := .fresh
  step requested phase advance := phase.step general framing config requested advance
  finished := TlsPhase.isFinished
  running := TlsPhase.isRunning
  polling := TlsPhase.isPolling
  takesUp := TlsAdvance.takesUp
  subscribes := true
  start_polling _ := rfl
  step_finished := TlsPhase.step_finished
  finished_running := TlsPhase.running_unfinished
  step_heeds := TlsPhase.step_heeds
  step_takesUp := by
    intro requested phase advance next stepped takes
    cases TlsPhase.step_moves stepped with
    | connection moved => exact ConnectionTask.step_takesUp moved takes
    | _ => cases takes

/-- `serve_tls`: accepting yields a TCP stream to a peer, or fails. -/
def tlsListener : Listener (Result Peer) Peer (TlsPhase Header Cert TlsError) (TlsAdvance Header Cert TlsError) where
  take
    | .ok peer => .got peer
    | .error e => .failed e
  job := tlsJob Cert TlsError Peer general framing config

end Listener

namespace Listener.State

variable {ι α τ π : Type} {listener : Listener ι α τ π} {state : State listener} {entry : Spawned (Work α τ)}

theorem finish_waits (inside : entry ∈ state.tasks.spawned) (goes_on : listener.job.finished entry.task.task = false) :
    state.step .finish = none := by
  have unjoined : state.tasks.isEmpty = false := by
    by_contra empty
    have ended := state.tasks.all_finished (by simpa using empty) entry inside
    cases goes_on.symm.trans ended
  simp only [step, unjoined]
  split <;> rfl

theorem release_waits (subscribes : listener.job.subscribes = true) (inside : entry ∈ state.tasks.spawned)
    (goes_on : listener.job.finished entry.task.task = false) : state.step .release = none := by
  have subscribed : state.subscribed = true := by
    rw [subscribed, subscribes, Bool.true_and]
    apply Bool.or_eq_true_iff.mpr
    exact .inr (List.any_eq_true.mpr ⟨entry, inside, by rw [goes_on]; rfl⟩)
  simp [step, Signal.release, subscribed]

end Listener.State

/-- A TLS listener follows the policy of a plain one, but neither serving nor `shutdown` returns
while the handshake of any connection is under way. -/
theorem tls_serving_follows_policy {Header : Type} (Cert TlsError Peer : Type) (general : String → TlsError)
    (framing : ServerFraming Header) (config : ServerConfig) :
    ∀ state, Reaches Listener.State.step
        (Listener.idle (tlsListener Cert TlsError Peer general framing config)) state →
      Listener.FollowsPolicy state ∧ state.HeedsShutdown ∧ state.QuietAfterShutdown ∧
      ∀ entry ∈ state.tasks.spawned, entry.task.task.isFinished = false →
        state.step .finish = none ∧ state.step .release = none := by
  intro state reaches
  refine ⟨(Listener.State.Kept.reached reaches).followsPolicy, state.heedsShutdown,
    Listener.State.quietAfterShutdown reaches, ?_⟩
  intro entry inside goes_on
  exact ⟨Listener.State.finish_waits inside goes_on, Listener.State.release_waits rfl inside goes_on⟩

def silentClient : List (Listener.Event (Result Nat) (TlsAdvance MbapHeader Nat String)) :=
  [.start, .poll, .outcome (.ok 5), .task 0 .start, .request, .poll]

theorem silent_client_delays_shutdown : ∃ state,
    Reaches Listener.State.step (Listener.idle (tlsListener Nat String Nat id .tcp ⟨none⟩)) state ∧
    state.loop = .draining (.ok ()) ∧ state.step .finish = none ∧ state.step .release = none := by
  have reaches : Reaches Listener.State.step (Listener.idle (tlsListener Nat String Nat id .tcp ⟨none⟩)) _ :=
    Run.follow silentClient (fun _ _ _ => trivial) rfl
  have waits := (tls_serving_follows_policy Nat String Nat id .tcp ⟨none⟩ _ reaches).2.2.2
  exact ⟨_, reaches, rfl, waits _ List.mem_cons_self rfl⟩

end Modbus
