import Modbus.ListenerPolicy

/-! What shutting a server down promises. Once the signal is set, no future takes up
anything in a poll that begins later. Once `shutdown` has returned, no method of
the service runs. `shutdown` returns when nobody is subscribed, which is also so
before serving has begun. -/
namespace Modbus

namespace Listener

variable {ι α τ π : Type} {listener : Listener ι α τ π}

/-- A future that polls for something new: the loop, or a task. -/
inductive Poller where
  | loop
  | task (i : Nat)

def TakesUp (listener : Listener ι α τ π) : Poller → Event ι π → Prop
  | .loop, .outcome outcome => ∃ item, listener.take outcome = .got item
  | .task i, .task j advance => i = j ∧ listener.job.takesUp advance = true
  | _, _ => False

namespace State

def Polling (state : State listener) : Poller → Prop
  | .loop => state.loop = .accepting
  | .task i => ∃ entry, state.tasks.spawned[i]? = some entry ∧ listener.job.polling entry.task.task = true

/-- Once the signal is set, a future takes up nothing in a poll that is yet to begin. -/
def HeedsShutdown (state : State listener) : Prop :=
  state.signal.requested = true → ∀ poller, ¬state.Polling poller →
    ∀ later event next, Reaches State.step state later → later.step event = some next →
      ¬TakesUp listener poller event

/-- No method of the service is running, neither for the loop nor for a task. -/
structure Quiet (state : State listener) : Prop where
  loop : ∀ e, state.loop ≠ .asking e ∧ state.loop ≠ .hooking e ∧ state.loop ≠ .reporting e
  tasks : state.tasks.All fun work => listener.job.running work.task = false

/-- From when a call of `shutdown` returns it is quiet. -/
def QuietAfterShutdown (state : State listener) : Prop :=
  ∀ next, state.step .release = some next → ∀ later, Reaches State.step next later → Quiet later

variable {state next : State listener} {event : Event ι π} {poller : Poller}

theorem polling_of_takesUp (stepped : state.step event = some next) (takes : TakesUp listener poller event) :
    state.Polling poller := by
  cases step_moves stepped with
  | got accepting =>
    cases poller with
    | loop => exact accepting
    | task => cases takes
  | task advanced =>
    cases poller with
    | loop => cases takes
    | task i =>
      obtain ⟨rfl, takes⟩ := takes
      obtain ⟨work, task, found, moved, _⟩ := task_advanced advanced
      exact ⟨_, found, listener.job.step_takesUp moved takes⟩
  | failed _ took | undecodable _ took =>
    cases poller with
    | loop =>
      obtain ⟨item, got⟩ := takes
      cases got.symm.trans took
    | task => cases takes
  | _ => cases poller <;> cases takes

theorem polling_of_step (requested : state.signal.requested = true) (stepped : state.step event = some next)
    (polling : next.Polling poller) : state.Polling poller := by
  cases step_moves stepped with
  | request | release => cases poller <;> exact polling
  | listen _ unset | attend _ unset => cases requested.symm.trans unset
  | got =>
    cases poller with
    | loop => cases polling
    | task i =>
      obtain ⟨entry, found, polls⟩ := polling
      simp only [JoinSet.spawn, List.getElem?_append] at found
      split at found
      · exact ⟨entry, found, polls⟩
      · obtain rfl := List.mem_singleton.mp (List.mem_of_getElem? found)
        rw [listener.job.start_polling] at polls
        cases polls
  | task advanced =>
    cases poller with
    | loop => exact polling
    | task i =>
      obtain ⟨entry, found, polls⟩ := polling
      obtain ⟨work, task, _, moved, replaced⟩ := task_advanced advanced
      obtain ⟨rfl, rfl⟩ | before := JoinSet.found_put replaced found
      · rw [requested] at moved
        cases polls.symm.trans (listener.job.step_heeds moved)
      · exact ⟨entry, before, polls⟩
  | join _ joined =>
    cases poller with
    | loop => exact polling
    | task i =>
      obtain ⟨entry, found, polls⟩ := polling
      obtain ⟨work, there, _, replaced⟩ := JoinSet.join_some joined
      obtain ⟨rfl, rfl⟩ | before := JoinSet.found_put replaced found
      · exact ⟨_, there, polls⟩
      · exact ⟨entry, before, polls⟩
  | _ =>
    cases poller with
    | loop => cases polling
    | task => exact polling

theorem requested_step (requested : state.signal.requested = true) (stepped : state.step event = some next) :
    next.signal.requested = true := by
  cases step_moves stepped with
  | request => rfl
  | release released =>
    obtain ⟨_, _, rfl⟩ := Signal.release_some released
    rfl
  | _ => exact requested

theorem heedsShutdown (state : State listener) : state.HeedsShutdown := by
  intro requested poller idle later event next reaches stepped takes
  have heeding : later.signal.requested = true ∧ ¬later.Polling poller := by
    apply Run.invariant ⟨requested, idle⟩ _ reaches
    intro middle event after heeding _ moved
    exact ⟨requested_step heeding.1 moved, fun polls => heeding.2 (polling_of_step heeding.1 moved polls)⟩
  exact heeding.2 (polling_of_takesUp stepped takes)

def isStill : Loop → Bool
  | .unstarted | .waiting | .draining (.ok ()) | .returned _ => true
  | _ => false

/-- What is left once `shutdown` has returned. -/
structure Stilled (state : State listener) : Prop where
  requested : state.signal.requested = true
  loop : isStill state.loop = true
  finished : state.tasks.All fun work => listener.job.finished work.task = true

theorem Stilled.quiet (stilled : state.Stilled) : state.Quiet where
  loop e := by
    have still := stilled.loop
    refine ⟨?_, ?_, ?_⟩
    all_goals
      intro same
      rw [same] at still
      cases still
  tasks entry inside := listener.job.finished_running (stilled.finished entry inside)

theorem Stilled.step (stilled : state.Stilled) (stepped : state.step event = some next) : next.Stilled := by
  have requested := requested_step stilled.requested stepped
  have still := stilled.loop
  cases step_moves stepped with
  | request | release => exact ⟨requested, still, stilled.finished⟩
  | start | shutDown => exact ⟨requested, rfl, stilled.finished⟩
  | listen _ unset | attend _ unset => cases stilled.requested.symm.trans unset
  | pend here | defer here | got here | failed here | undecodable here | stopped here | resumed here
  | reported here =>
    rw [here] at still
    cases still
  | task advanced => exact absurd stilled.finished (task_unfinished advanced)
  | join _ joined => exact ⟨requested, still, stilled.finished.join joined⟩
  | finish => exact ⟨requested, rfl, stilled.finished⟩

theorem Kept.stilled (kept : state.Kept) (released : state.step .release = some next) : next.Stilled := by
  cases step_moves released with
  | release free =>
    obtain ⟨unsubscribed, _, rfl⟩ := Signal.release_some free
    cases loop : state.loop with
    | unstarted =>
      refine ⟨rfl, rfl, ?_⟩
      intro entry inside
      rw [kept.unstarted loop] at inside
      cases inside
    | returned result => exact ⟨rfl, rfl, kept.drained result loop⟩
    | _ => simp [subscribed, loop] at unsubscribed

theorem quietAfterShutdown (reached : Reaches State.step (idle listener) state) : state.QuietAfterShutdown := by
  intro next released later reaches
  have stilled := (Kept.reached reached).stilled released
  exact (Run.invariant stilled (fun _ _ _ held _ moved => held.step moved) reaches).quiet

end State

end Listener

def ConnectionTask.isBegun (task : ConnectionTask Header) : Bool :=
  match task.phase with
  | .fresh => false
  | _ => true

namespace LinkServer

variable {Header : Type} (framing : ServerFraming Header) (config : ServerConfig)

def TakesUp : LinkEvent Header → Prop
  | .advance .start => True
  | .advance advance => advance.takesUp = true
  | _ => False

/-- Once the signal is set nothing is taken up in a poll that is yet to begin. -/
def HeedsShutdown (state : LinkServer Header) : Prop :=
  ∀ later event next, Reaches (step framing config) state later → later.step framing config event = some next →
    ¬TakesUp event

def StaysQuiet (state : LinkServer Header) : Prop :=
  ∀ later, Reaches (step framing config) state later → later.task.isRunning = false

end LinkServer

namespace ConnectionTask

variable {Header : Type} {framing : ServerFraming Header} {config : ServerConfig} {requested : Bool}
  {task next : ConnectionTask Header} {advance : Advance Header}

theorem step_begun (stepped : task.step framing config requested advance = some next) : next.isBegun = true := by
  unfold step at stepped
  split at stepped
  all_goals cases stepped
  all_goals repeat' first | rfl | split

theorem step_start (stepped : task.step framing config requested .start = some next) : task.isBegun = false := by
  obtain ⟨phase, told⟩ := task
  cases phase with
  | fresh => rfl
  | _ => cases stepped

end ConnectionTask

namespace LinkServer

variable {Header : Type} {framing : ServerFraming Header} {config : ServerConfig} {state next : LinkServer Header}

/-- What is left to happen once the signal is set and the link begun. -/
structure Heeding (state : LinkServer Header) : Prop where
  requested : state.signal.requested = true
  begun : state.task.isBegun = true
  idle : state.task.isPolling = false

theorem Heeding.step (heeding : state.Heeding) {event : LinkEvent Header}
    (stepped : state.step framing config event = some next) : next.Heeding ∧ ¬TakesUp event := by
  cases event with
  | request =>
    cases stepped
    exact ⟨⟨rfl, heeding.begun, heeding.idle⟩, id⟩
  | release =>
    obtain ⟨signal, released, rfl⟩ := Option.map_eq_some_iff.mp stepped
    obtain ⟨_, _, rfl⟩ := Signal.release_some released
    exact ⟨⟨rfl, heeding.begun, heeding.idle⟩, id⟩
  | advance advance =>
    obtain ⟨task, moved, rfl⟩ := Option.map_eq_some_iff.mp stepped
    rw [heeding.requested] at moved
    refine ⟨⟨heeding.requested, ConnectionTask.step_begun moved, ConnectionTask.step_heeds moved⟩, ?_⟩
    intro takes
    cases advance with
    | start => cases heeding.begun.symm.trans (ConnectionTask.step_start moved)
    | _ => cases heeding.idle.symm.trans (ConnectionTask.step_takesUp moved takes)

/-- A link that was taken up before the signal was set yields nothing more; one that was not is
taken up all the same. -/
theorem heedsShutdown_iff (requested : state.signal.requested = true) (idle : state.task.isPolling = false) :
    HeedsShutdown framing config state ↔ state.task.isBegun = true := by
  constructor
  · intro heeds
    obtain ⟨signal, ⟨phase, told⟩⟩ := state
    cases phase with
    | fresh => exact absurd trivial (heeds _ (.advance .start) _ .start rfl)
    | _ => rfl
  · intro begun later event next reaches stepped
    have heeding : later.Heeding := Run.invariant ⟨requested, begun, idle⟩
      (fun _ _ _ held _ moved => (held.step moved).1) reaches
    exact (heeding.step stepped).2

theorem finished_step (ended : state.task.isFinished = true) {event : LinkEvent Header}
    (stepped : state.step framing config event = some next) : next.task.isFinished = true := by
  cases event with
  | request =>
    cases stepped
    exact ended
  | release =>
    obtain ⟨signal, _, rfl⟩ := Option.map_eq_some_iff.mp stepped
    exact ended
  | advance advance =>
    obtain ⟨task, moved, rfl⟩ := Option.map_eq_some_iff.mp stepped
    rw [ConnectionTask.step_finished ended] at moved
    cases moved

theorem staysQuiet_iff (released : state.step framing config .release = some next) :
    StaysQuiet framing config next ↔ state.task.isBegun = true := by
  obtain ⟨signal, free, rfl⟩ := Option.map_eq_some_iff.mp released
  obtain ⟨unsubscribed, _, _⟩ := Signal.release_some free
  constructor
  · intro quiet
    obtain ⟨_, ⟨phase, told⟩⟩ := state
    cases phase with
    | fresh => cases quiet _ (Reaches.once (.advance .start) rfl)
    | _ => rfl
  · intro begun later reaches
    have ended : state.task.isFinished = true := by
      obtain ⟨_, ⟨phase, told⟩⟩ := state
      cases phase with
      | finished => rfl
      | fresh => cases begun
      | _ => cases unsubscribed
    have still := @Run.invariant _ _ _ _ _ _ (fun server => server.task.isFinished = true) ended
      (fun _ _ _ held _ moved => finished_step held moved) reaches
    exact ConnectionTask.running_unfinished still

end LinkServer

/-- A server on a socket heeds shutdown and is quiet once `shutdown` has returned; a server on a
link if, and only if, serving had begun by then. -/
theorem shutdown_means_quiet {Header : Type} (Peer : Type) (framing : ServerFraming Header) (config : ServerConfig) :
    (∀ state, Reaches Listener.State.step (Listener.idle (framedListener Peer framing config)) state →
      state.HeedsShutdown ∧ state.QuietAfterShutdown) ∧
    (∀ state, Reaches Listener.State.step (Listener.idle (udpListener Peer config)) state →
      state.HeedsShutdown ∧ state.QuietAfterShutdown) ∧
    ∀ state : LinkServer Header,
      (state.signal.requested = true → state.task.isPolling = false →
        (LinkServer.HeedsShutdown framing config state ↔ state.task.isBegun = true)) ∧
      ∀ next, state.step framing config .release = some next →
        (LinkServer.StaysQuiet framing config next ↔ state.task.isBegun = true) := by
  refine ⟨?_, ?_, ?_⟩
  · intro state reaches
    exact ⟨state.heedsShutdown, Listener.State.quietAfterShutdown reaches⟩
  · intro state reaches
    exact ⟨state.heedsShutdown, Listener.State.quietAfterShutdown reaches⟩
  · intro state
    exact ⟨LinkServer.heedsShutdown_iff, fun next released => LinkServer.staysQuiet_iff released⟩

def shutDownWhileServing : List (Listener.Event (Result Nat) (Advance MbapHeader)) :=
  [.start, .poll, .outcome (.ok 5), .task 0 .start, .task 0 (.connected .accept), .task 0 .poll, .request,
    .task 0 .pend, .task 0 .poll, .poll, .task 0 .disconnected, .join 0, .finish]

theorem served_then_quiet : ∃ state next,
    Reaches Listener.State.step (Listener.idle (framedListener Nat .tcp ⟨none⟩)) state ∧
    state.step .release = some next ∧ state.tasks.spawned.length = 1 ∧ state.loop = .returned (.ok ()) ∧
    ∀ later, Reaches Listener.State.step next later → later.Quiet := by
  have reaches : Reaches Listener.State.step (Listener.idle (framedListener Nat .tcp ⟨none⟩)) _ :=
    Run.follow shutDownWhileServing (fun _ _ _ => trivial) rfl
  exact ⟨_, _, reaches, rfl, rfl, rfl, ((shutdown_means_quiet Nat .tcp ⟨none⟩).1 _ reaches).2 _ rfl⟩

/-- `shutdown` is called and returns before `serve_link` is polled: the service is then told of a
connection, and of its end. -/
theorem link_served_after_shutdown : ∃ state next later last,
    Reaches (LinkServer.step .tcp ⟨none⟩) .start state ∧ state.step .tcp ⟨none⟩ .release = some next ∧
    Reaches (LinkServer.step .tcp ⟨none⟩) next later ∧ later.task.phase = .connecting ∧
    Reaches (LinkServer.step .tcp ⟨none⟩) later last ∧
    last.task.told = [.connect .accept, .disconnect .shuttingDown] := by
  have told : Reaches (LinkServer.step .tcp ⟨none⟩) .start ⟨⟨true, false⟩, .new⟩ := Reaches.once .request rfl
  have begins : Reaches (LinkServer.step .tcp ⟨none⟩) ⟨⟨true, true⟩, .new⟩ ⟨⟨true, true⟩, ⟨.connecting, []⟩⟩ :=
    Reaches.once (.advance .start) rfl
  have ends : Reaches (LinkServer.step .tcp ⟨none⟩) ⟨⟨true, true⟩, ⟨.connecting, []⟩⟩ _ :=
    Run.follow [.advance (.connected .accept), .advance .poll, .advance .disconnected] (fun _ _ _ => trivial) rfl
  exact ⟨_, _, _, _, told, rfl, begins, rfl, ends, rfl⟩

end Modbus
