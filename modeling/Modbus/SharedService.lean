import Modbus.StreamPairing

/-! Any number of pipelined clients on TCP connections of their own, and a server that
gives all of them one service. Callers, background tasks, timers, the network, the
accept loop and the tasks of the connections take their steps in any order. What the
callers see is what they would see if the service had been called by one of them at a
time, each during its own call. -/
namespace Modbus

open Bytes Listener
open Pipeline (Shared Setting Command PipelineConfig KeySupply Task)

/-- A service each of whose methods takes effect at one moment. -/
structure AtomicService (σ : Type) where
  onConnect : σ → Acceptance × σ
  onRequest : UnitId → RequestPdu → σ → Answer × σ
  onError : Error → σ → σ
  onDisconnect : Disconnect → σ → σ

namespace AtomicService

variable {σ Header : Type}

/-- The method that a connection waits for completes: what was called, how the connection goes on, and
the state of the service. -/
def complete (service : AtomicService σ) (framing : ServerFraming Header) (state : σ) :
    Phase Header → Option (Notification × StreamPoll × σ)
  | .connecting =>
    let (answer, state) := service.onConnect state
    some (.connect answer, .connected answer, state)
  | .requesting header request =>
    let (answer, state) := service.onRequest (framing.unit header) request state
    some (.hook (.request (framing.unit header) request answer), .answered answer, state)
  | .reporting e _ => some (.hook (.error e), .reported, service.onError e state)
  | .disconnecting reason => some (.disconnect reason, .disconnected, service.onDisconnect reason state)
  | _ => none

/-- One call of the service, with its answer. -/
inductive Does (service : AtomicService σ) (state : σ) : Notification → σ → Prop
  | connect {answer : Acceptance} {next : σ} : service.onConnect state = (answer, next) →
      Does service state (.connect answer) next
  | request {unit : UnitId} {request : RequestPdu} {answer : Answer} {next : σ} :
      service.onRequest unit request state = (answer, next) →
      Does service state (.hook (.request unit request answer)) next
  | error {e : Error} : Does service state (.hook (.error e)) (service.onError e state)
  | disconnect {reason : Disconnect} : Does service state (.disconnect reason) (service.onDisconnect reason state)

/-- Calls of the service, one after the other. -/
inductive Leads (service : AtomicService σ) (start : σ) : List Notification → σ → Prop
  | start : Leads service start [] start
  | call {log : List Notification} {notification : Notification} {state next : σ} : Leads service start log state →
      service.Does state notification next → Leads service start (log ++ [notification]) next

end AtomicService

/-- What a step of a client shows: calls made and responses returned. A call is named by the client
and the number of the reply channel. -/
def moments (i : Nat) (before after : Shared) : List (Moment (Nat × Nat) Call ResponsePdu) :=
  (after.commands.drop before.commands.length).map (fun command =>
    .called (i, command.reply) ⟨command.unit, command.request⟩) ++
  (after.returned.drop before.returned.length).filterMap fun answer =>
    match answer.result with
    | .ok response => some (.returned (i, answer.reply) response)
    | .error _ => none

/-- The clients, the server, the state of the service, the calls it has got, and what the callers have
seen. A connection is named by its client. -/
structure TcpWorld (σ : Type) (line : TransportConfig) (config : ServerConfig) where
  clients : List ClientEnd
  server : State (framedServer Nat .tcp line config)
  service : σ
  log : List Notification
  history : List (Moment (Nat × Nat) Call ResponsePdu)

inductive TcpEvent where
  | client (i : Nat) (event : Pipeline.Event)
  | deliver (i count : Nat)
  | receive (i : Nat)
  | sever (i : Nat) (error : Error)
  | accept (i : Nat)
  | arrive (j count : Nat)
  | complete (j : Nat)
  | serve (event : Listener.Event (Result Nat) StreamPoll)

def Listener.Event.unassisted : Event (Result Nat) StreamPoll → Bool
  | .outcome (.ok _) => false
  | .task _ (.connected _) | .task _ (.arrive _) | .task _ (.answered _) | .task _ .reported
  | .task _ .disconnected => false
  | _ => true

namespace TcpWorld

variable {σ : Type} {line : TransportConfig} {config : ServerConfig}

def start (pipelines : List PipelineConfig) (service : σ) : TcpWorld σ line config :=
  ⟨pipelines.map .new, idle _, service, [], []⟩

def put (world : TcpWorld σ line config) (i : Nat) (before after : ClientEnd) : TcpWorld σ line config :=
  { world with
    clients := world.clients.set i after
    history := world.history ++ moments i before.shared after.shared }

def step (service : AtomicService σ) (setting : Setting) (world : TcpWorld σ line config) :
    TcpEvent → Option (TcpWorld σ line config)
  | .client i event => do
    let client ← world.clients[i]?
    if event.isReceive then none
    else
      let shared ← client.shared.step setting event
      some (world.put i client { client with shared := shared })
  | .deliver i count => do
    let client ← world.clients[i]?
    let bytes ← readable ((world.server.taskOf i).written.flatten.drop client.arrived) count
    some (world.put i client { client with
      reader := client.reader.arrive bytes
      arrived := client.arrived + bytes.val.length })
  | .receive i => do
    let client ← world.clients[i]?
    match client.reader.recvResponse tcp line none with
    | (none, _) => none
    | (some received, reader) =>
      let shared ← client.shared.step setting (.received received)
      some (world.put i client { client with shared := shared, reader := reader })
  | .sever i e => do
    let client ← world.clients[i]?
    let shared ← client.shared.step setting (.received (.error e))
    some (world.put i client { client with shared := shared })
  | .accept i =>
    if i < world.clients.length ∧ i ∉ world.server.tasks.labels Work.item then
      (world.server.step (.outcome (.ok i))).map ({ world with server := · })
    else none
  | .arrive j count => do
    let entry ← world.server.tasks.spawned[j]?
    let client ← world.clients[entry.task.item]?
    let bytes ← readable (client.shared.task.written.flatten.drop entry.task.task.arrived) count
    (world.server.step (.task j (.arrive bytes))).map ({ world with server := · })
  | .complete j => do
    let entry ← world.server.tasks.spawned[j]?
    let (notification, input, state) ← service.complete ServerFraming.tcp world.service entry.task.task.task.phase
    let server ← world.server.step (.task j input)
    some { world with server := server, service := state, log := world.log ++ [notification] }
  | .serve event =>
    if event.unassisted then (world.server.step event).map ({ world with server := · }) else none

end TcpWorld

/-- What a step of a client can show: nothing, a call, or a response that the task has handed out. -/
inductive Shows (i : Nat) (before after : Shared) : Prop
  | nothing : after.commands = before.commands → after.channels = before.channels → moments i before after = [] →
      Shows i before after
  | call {command : Command} : after.commands = before.commands ++ [command] → command.reply = before.channels →
      after.channels = before.channels + 1 →
      moments i before after = [.called (i, command.reply) ⟨command.unit, command.request⟩] → Shows i before after
  | returns {reply : Nat} {response : ResponsePdu} : after.commands = before.commands →
      after.channels = before.channels → ⟨reply, .ok response⟩ ∈ before.task.answers →
      moments i before after = [.returned (i, reply) response] → Shows i before after

theorem Shows.channels_le {i : Nat} {before after : Shared} (shows : Shows i before after) :
    before.channels ≤ after.channels := by
  cases shows <;> omega

theorem shows_still {i : Nat} {before after : Shared} (commands : after.commands = before.commands)
    (channels : after.channels = before.channels) (returned : after.returned = before.returned) :
    Shows i before after := by
  refine .nothing commands channels ?_
  simp [moments, commands, returned]

theorem shows_step {setting : Setting} {i : Nat} {before after : Shared} {event : Pipeline.Event}
    (took : before.step setting event = some after) : Shows i before after := by
  cases Shared.stepped took with
  | callers task nextTransaction channels commands allocated queue waiting returned =>
    rcases returned with same | ⟨⟨reply, result⟩, told, more⟩
    · exact shows_still commands channels same
    · cases result with
      | error e => exact .nothing commands channels (by simp [moments, commands, more])
      | ok response => exact .returns commands channels told (by simp [moments, commands, more])
  | allocate enters => exact .call rfl rfl rfl (by simp [moments])
  | enqueue | takeUp | received | expired => exact shows_still rfl rfl rfl

/-- Everything that can happen at a client whose server has written these bytes. -/
inductive ClientEnd.Moves (setting : Setting) (line : TransportConfig) (written : Bytes) (client : ClientEnd) :
    ClientEnd → Prop
  | own {event : Pipeline.Event} {shared : Shared} : event.isReceive = false →
      client.shared.step setting event = some shared → Moves setting line written client { client with shared := shared }
  | deliver {count : Nat} {bytes : {bytes : Bytes // bytes.length ≤ readChunk}} :
      readable (written.drop client.arrived) count = some bytes →
      Moves setting line written client { client with
        reader := client.reader.arrive bytes
        arrived := client.arrived + bytes.val.length }
  | receive {received : Result (MbapHeader × ResponsePdu)} {reader : Reader} {shared : Shared} :
      client.reader.recvResponse tcp line none = (some received, reader) →
      client.shared.step setting (.received received) = some shared →
      Moves setting line written client { client with shared := shared, reader := reader }
  | sever {e : Error} {shared : Shared} : client.shared.step setting (.received (.error e)) = some shared →
      Moves setting line written client { client with shared := shared }

namespace ClientEnd.Moves

variable {setting : Setting} {line : TransportConfig} {written : Bytes} {client after : ClientEnd}

theorem shared (moves : Moves setting line written client after) :
    after.shared = client.shared ∨ ∃ event, client.shared.step setting event = some after.shared := by
  cases moves with
  | own _ stepped | receive _ stepped | sever stepped => exact .inr ⟨_, stepped⟩
  | deliver => exact .inl rfl

theorem shows (moves : Moves setting line written client after) (i : Nat) : Shows i client.shared after.shared := by
  rcases moves.shared with same | ⟨event, stepped⟩
  · rw [same]
    exact shows_still rfl rfl rfl
  · exact shows_step stepped

theorem sound (moves : Moves setting line written client after) (before : client.shared.Sound) : after.shared.Sound := by
  rcases moves.shared with same | ⟨event, stepped⟩
  · rw [same]
    exact before
  · exact before.step stepped

theorem displaced (moves : Moves setting line written client after) (before : client.shared.Sound) :
    client.shared.task.displaced ⊆ after.shared.task.displaced := by
  rcases moves.shared with same | ⟨event, stepped⟩
  · rw [same]
    exact List.Subset.refl _
  · exact before.displaced stepped

theorem paired (moves : Moves setting line written client after) (desyncs : setting.timeoutDesyncs = true)
    (sound : client.shared.Sound) (apart : after.shared.task.displaced = []) {i : Nat} {work : StreamWork MbapHeader}
    {config : ServerConfig} (kept : work.Kept .tcp config) (puts : work.written.flatten = written)
    {order : List (Point (Nat × Nat) Call (RequestPdu × Answer))} {sent : List Command} {adus : List Bytes} {heard : Nat}
    (before : Paired i client work order sent adus heard) :
    ∃ sent adus heard, Paired i after work order sent adus heard := by
  cases moves with
  | own own stepped =>
    rcases Shared.own_step sound desyncs own stepped with still | ⟨command, adu, part, sends⟩
    · exact ⟨sent, adus, heard, before.still still fun _ => rfl⟩
    · exact ⟨_, _, heard, before.sends sound sends apart⟩
  | deliver next => exact ⟨sent, adus, heard, before.deliver (puts ▸ next)⟩
  | receive reads stepped => exact ⟨sent, adus, before.receive sound kept reads stepped⟩
  | sever stepped => exact ⟨sent, adus, heard, before.sever sound stepped⟩

end ClientEnd.Moves

def Notification.asking : Notification → Option (UnitId × RequestPdu × Answer)
  | .hook (.request unit request answer) => some (unit, request, answer)
  | _ => none

namespace TcpWorld

variable {σ : Type} {line : TransportConfig} {config : ServerConfig} {service : AtomicService σ} {setting : Setting}
  {start : σ} {world next : TcpWorld σ line config} {order : List (Point (Nat × Nat) Call (RequestPdu × Answer))}

/-- What holds in every state, with the moments at which the service was asked. -/
structure Kept (service : AtomicService σ) (start : σ) (world : TcpWorld σ line config)
    (order : List (Point (Nat × Nat) Call (RequestPdu × Answer))) : Prop where
  trace : Trace Call.Tells world.history order
  calls : ∀ (i : Nat) client, world.clients[i]? = some client → ∀ command ∈ client.shared.commands,
    .called (i, command.reply) ⟨command.unit, command.request⟩ ∈ world.history
  callers : ∀ i reply call, .called (i, reply) call ∈ world.history →
    ∃ client, world.clients[i]? = some client ∧ reply < client.shared.channels
  asked : order.map (fun point => (point.question.unit, point.answer)) = world.log.filterMap Notification.asking
  leads : service.Leads start world.log world.service
  apart : (world.server.tasks.labels Work.item).Nodup
  known : ∀ item ∈ world.server.tasks.labels Work.item, item < world.clients.length
  sound : ∀ (i : Nat) client, world.clients[i]? = some client → client.shared.Sound
  works : ∀ i, (world.server.taskOf i).Kept .tcp config
  paired : ∀ (i : Nat) client, world.clients[i]? = some client →
    ∃ sent adus heard, Paired i client (world.server.taskOf i) order sent adus heard

theorem start_kept (pipelines : List PipelineConfig) :
    Kept service start (.start pipelines start : TcpWorld σ line config) [] := by
  have fresh : ∀ (i : Nat) client, (pipelines.map ClientEnd.new)[i]? = some client →
      ∃ pipeline, client = ClientEnd.new pipeline := by
    intro i client found
    rw [List.getElem?_map] at found
    obtain ⟨pipeline, _, rfl⟩ := Option.map_eq_some_iff.mp found
    exact ⟨pipeline, rfl⟩
  refine ⟨.start, ?_, fun _ _ _ inside => absurd inside List.not_mem_nil, rfl, .start, List.nodup_nil,
    fun _ inside => absurd inside List.not_mem_nil, ?_, fun _ => .new, ?_⟩
  · intro i client found command inside
    obtain ⟨pipeline, rfl⟩ := fresh i client found
    cases inside
  · intro i client found
    obtain ⟨pipeline, rfl⟩ := fresh i client found
    exact .start pipeline
  · intro i client found
    obtain ⟨pipeline, rfl⟩ := fresh i client found
    exact ⟨[], [], 0, .new pipeline (by simp)⟩

theorem Kept.put (kept : Kept service start world order) {i : Nat} {client after : ClientEnd}
    (at_i : world.clients[i]? = some client) (shows : Shows i client.shared after.shared) (sound : after.shared.Sound)
    (paired : ∃ sent adus heard, Paired i after (world.server.taskOf i) order sent adus heard) :
    Kept service start (world.put i client after) order := by
  have bound := (List.getElem?_eq_some_iff.mp at_i).1
  have here : (world.clients.set i after)[i]? = some after := List.getElem?_set_self bound
  have found : ∀ {j : Nat} {other}, (world.clients.set i after)[j]? = some other →
      (j = i ∧ other = after) ∨ world.clients[j]? = some other := by
    intro j other at_j
    by_cases same : j = i
    · subst same
      cases here.symm.trans at_j
      exact .inl ⟨rfl, rfl⟩
    · rw [List.getElem?_set_ne (Ne.symm same)] at at_j
      exact .inr at_j
  have history : (world.put i client after).history = world.history ++ moments i client.shared after.shared := rfl
  refine ⟨?_, ?_, ?_, kept.asked, kept.leads, kept.apart, ?_, ?_, kept.works, ?_⟩
  · rw [history]
    cases shows with
    | nothing _ _ none_shown =>
      rw [none_shown, List.append_nil]
      exact kept.trace
    | call _ fresh _ shown =>
      rw [shown]
      refine kept.trace.call fun other inside => ?_
      obtain ⟨same, at_same, less⟩ := kept.callers _ _ _ inside
      cases at_i.symm.trans at_same
      omega
    | returns _ _ told shown =>
      obtain ⟨sent, adus, heard, before⟩ := kept.paired i client at_i
      obtain ⟨point, inside, op, tells⟩ := before.told _ _ told
      rw [shown, ← op]
      exact kept.trace.returns inside tells
  · intro j other at_j command inside
    rw [history]
    rcases found at_j with ⟨rfl, rfl⟩ | before
    · cases shows with
      | nothing commands | returns commands =>
        rw [commands] at inside
        exact List.mem_append_left _ (kept.calls j client at_i command inside)
      | call commands _ _ shown =>
        rw [commands] at inside
        rcases List.mem_append.mp inside with old | new
        · exact List.mem_append_left _ (kept.calls j client at_i command old)
        · rw [shown, List.mem_singleton.mp new]
          exact List.mem_append_right _ List.mem_cons_self
    · exact List.mem_append_left _ (kept.calls j other before command inside)
  · intro j reply call inside
    rw [history] at inside
    rcases List.mem_append.mp inside with old | new
    · obtain ⟨other, at_j, less⟩ := kept.callers j reply call old
      by_cases same : j = i
      · subst same
        cases at_i.symm.trans at_j
        exact ⟨after, here, Nat.lt_of_lt_of_le less shows.channels_le⟩
      · exact ⟨other, (List.getElem?_set_ne (Ne.symm same)).trans at_j, less⟩
    · cases shows with
      | nothing _ _ shown | returns _ _ _ shown => simp [shown] at new
      | call _ fresh more shown =>
        rw [shown] at new
        cases List.mem_singleton.mp new
        exact ⟨after, here, by omega⟩
  · intro item inside
    exact Nat.lt_of_lt_of_eq (kept.known item inside) (List.length_set).symm
  · intro j other at_j
    rcases found at_j with ⟨rfl, rfl⟩ | before
    · exact sound
    · exact kept.sound j other before
  · intro j other at_j
    rcases found at_j with ⟨rfl, rfl⟩ | before
    · exact paired
    · exact kept.paired j other before

theorem Kept.served (kept : Kept service start world order) {event : Event (Result Nat) StreamPoll}
    {server : State (framedServer Nat .tcp line config)} (stepped : world.server.step event = some server)
    (accepts : ∀ item, event = .outcome (.ok item) →
      item < world.clients.length ∧ item ∉ world.server.tasks.labels Work.item) :
    (server.tasks.labels Work.item).Nodup ∧
      (∀ item ∈ server.tasks.labels Work.item, item < world.clients.length) ∧
      ∀ i, (server.taskOf i).Kept .tcp config := by
  have labels : server.tasks.labels Work.item = world.server.tasks.labels Work.item ∨
      ∃ item, item < world.clients.length ∧ item ∉ world.server.tasks.labels Work.item ∧
        server.tasks.labels Work.item = world.server.tasks.labels Work.item ++ [item] := by
    rcases State.step_labels stepped with same | ⟨outcome, item, rfl, got, more⟩
    · exact .inl same
    · cases outcome with
      | error e => cases got
      | ok peer =>
        cases got
        exact .inr ⟨item, (accepts item rfl).1, (accepts item rfl).2, more⟩
  refine ⟨?_, ?_, ?_⟩
  · rcases labels with same | ⟨item, _, new, more⟩
    · rw [same]
      exact kept.apart
    · rw [more]
      exact List.nodup_append_comm.mp (List.nodup_cons.mpr ⟨new, kept.apart⟩)
  · intro item inside
    rcases labels with same | ⟨fresh, within, _, more⟩
    · exact kept.known item (same ▸ inside)
    · rw [more] at inside
      rcases List.mem_append.mp inside with old | new
      · exact kept.known item old
      · rw [List.mem_singleton.mp new]
        exact within
  · intro i
    rcases State.step_taskOf kept.apart stepped with ⟨j, advance, work, task, _, found, went, now, others⟩ | ⟨_, same⟩
    · by_cases mine : i = work.item
      · subst mine
        have before := kept.works work.item
        rw [State.taskOf_found kept.apart found] at before
        rw [now]
        exact before.step went
      · rw [others i mine]
        exact kept.works i
    · rw [same i]
      exact kept.works i

theorem Kept.repaired (kept : Kept service start world order) {event : Event (Result Nat) StreamPoll}
    {server : State (framedServer Nat .tcp line config)} (stepped : world.server.step event = some server)
    {points : List (Point (Nat × Nat) Call (RequestPdu × Answer))}
    (mine : ∀ j advance work task client sent adus heard, event = .task j advance →
      world.server.tasks.spawned[j]? = some ⟨work, false⟩ → world.clients[work.item]? = some client →
      work.task.Kept .tcp config → Paired work.item client work.task order sent adus heard →
      work.task.step .tcp line config world.server.signal.requested advance = some task →
      ∃ sent adus heard, Paired work.item client task points sent adus heard)
    (others : ∀ i client work sent adus heard,
      (∀ j advance entry, event = .task j advance → world.server.tasks.spawned[j]? = some entry → entry.task.item ≠ i) →
      Paired i client work order sent adus heard → Paired i client work points sent adus heard) :
    ∀ (i : Nat) client, world.clients[i]? = some client →
      ∃ sent adus heard, Paired i client (server.taskOf i) points sent adus heard := by
  intro i client at_i
  obtain ⟨sent, adus, heard, paired⟩ := kept.paired i client at_i
  rcases State.step_taskOf kept.apart stepped with
    ⟨j, advance, work, task, rfl, found, went, now, rest⟩ | ⟨none_of, same⟩
  · have before := State.taskOf_found kept.apart found
    by_cases this : i = work.item
    · subst this
      have works := kept.works work.item
      rw [before] at paired works
      rw [now]
      exact mine j advance work task client sent adus heard rfl found at_i works paired went
    · rw [rest i this]
      refine ⟨sent, adus, heard, others i client _ sent adus heard ?_ paired⟩
      intro k other entry same there
      cases same
      cases found.symm.trans there
      exact Ne.symm this
  · rw [same i]
    exact ⟨sent, adus, heard,
      others i client _ sent adus heard (fun j advance _ same => absurd same (none_of j advance)) paired⟩

theorem Kept.unasked (kept : Kept service start world order) {event : Event (Result Nat) StreamPoll}
    {server : State (framedServer Nat .tcp line config)} (stepped : world.server.step event = some server)
    (accepts : ∀ item, event = .outcome (.ok item) →
      item < world.clients.length ∧ item ∉ world.server.tasks.labels Work.item)
    (mine : ∀ j advance work task client sent adus heard, event = .task j advance →
      world.server.tasks.spawned[j]? = some ⟨work, false⟩ → world.clients[work.item]? = some client →
      work.task.Kept .tcp config → Paired work.item client work.task order sent adus heard →
      work.task.step .tcp line config world.server.signal.requested advance = some task →
      ∃ sent adus heard, Paired work.item client task order sent adus heard) :
    Kept service start { world with server := server } order := by
  obtain ⟨apart, known, works⟩ := kept.served stepped accepts
  exact ⟨kept.trace, kept.calls, kept.callers, kept.asked, kept.leads, apart, known, kept.sound, works,
    kept.repaired stepped mine fun _ _ _ _ _ _ _ paired => paired⟩

theorem Kept.calls_service (kept : Kept service start world order) {notification : Notification} {state : σ}
    (does : service.Does world.service notification state) (other : notification.asking = none) :
    Kept service start { world with service := state, log := world.log ++ [notification] } order :=
  { kept with
    asked := by
      rw [List.filterMap_append, List.filterMap_cons_none other, List.filterMap_nil, List.append_nil]
      exact kept.asked
    leads := kept.leads.call does }

theorem Kept.goes (kept : Kept service start world order) {j : Nat} {input : StreamPoll} (own : input.isOwn = true)
    {server : State (framedServer Nat .tcp line config)} (stepped : world.server.step (.task j input) = some server) :
    Kept service start { world with server := server } order := by
  refine kept.unasked stepped (by rintro _ ⟨⟩) ?_
  intro k advance work task client sent adus heard same _ _ works paired went
  cases same
  exact ⟨sent, adus, heard, paired.serves works own went⟩

/-- The service is asked for a request. This is the moment at which the call takes effect. -/
theorem Kept.asks (kept : Kept service start world order) {j : Nat}
    {entry : Spawned (Work Nat (StreamWork MbapHeader))} {header : MbapHeader} {request : RequestPdu} {answer : Answer}
    {state : σ} (found : world.server.tasks.spawned[j]? = some entry)
    (here : entry.task.task.task.phase = .requesting header request)
    (asked : service.onRequest header.unitId request world.service = (answer, state))
    {server : State (framedServer Nat .tcp line config)}
    (stepped : world.server.step (.task j (.answered answer)) = some server) :
    ∃ order, Kept service start { world with
      server := server
      service := state
      log := world.log ++ [.hook (.request header.unitId request answer)] } order := by
  obtain ⟨apart, known, works⟩ := kept.served stepped (by rintro _ ⟨⟩)
  rcases State.step_taskOf kept.apart stepped with ⟨k, advance, work, task, same, there, went, _⟩ | ⟨other, _⟩
  · cases same
    cases found.symm.trans there
    have item : work.item ∈ world.server.tasks.labels Work.item :=
      List.mem_map.mpr ⟨⟨work, false⟩, List.mem_of_getElem? found, rfl⟩
    obtain ⟨client, at_item⟩ : ∃ client, world.clients[work.item]? = some client :=
      ⟨_, List.getElem?_eq_getElem (kept.known _ item)⟩
    obtain ⟨sent, adus, heard, paired⟩ := kept.paired _ client at_item
    have before := kept.works work.item
    rw [State.taskOf_found kept.apart found] at paired before
    obtain ⟨_, earlier, split⟩ := before.requesting here
    have live : work.task.task.phase.isLive = true := by rw [here]; rfl
    have given : work.task.step .tcp line config world.server.signal.requested (.answered answer) = some task := went
    obtain ⟨dealings, reader, arrived, written⟩ := StreamWork.step_answered given
    obtain ⟨command, inside, unit, new, after⟩ := paired.asks split live dealings reader arrived written
    have called := kept.calls _ client at_item command (paired.issued inside)
    refine ⟨order ++ [pointOf work.item command request answer], kept.trace.effect called new, kept.calls,
      kept.callers, ?_, kept.leads.call (.request asked), apart, known, kept.sound, works, ?_⟩
    · rw [List.map_append, List.filterMap_append, kept.asked, ← unit]
      rfl
    · refine kept.repaired stepped ?_ ?_
      · intro k advance other next client' _ _ _ same at_k at_other _ _ went'
        cases same
        cases found.symm.trans at_k
        cases at_item.symm.trans at_other
        cases went.symm.trans went'
        exact ⟨sent, adus, heard, after⟩
      · intro i client' other _ _ _ foreign paired
        exact paired.other (foreign j _ _ rfl found)
  · exact absurd rfl (other j _)

theorem Kept.completes (kept : Kept service start world order) {j : Nat}
    {entry : Spawned (Work Nat (StreamWork MbapHeader))} {notification : Notification} {input : StreamPoll} {state : σ}
    (found : world.server.tasks.spawned[j]? = some entry)
    (completes : service.complete ServerFraming.tcp world.service entry.task.task.task.phase =
      some (notification, input, state))
    {server : State (framedServer Nat .tcp line config)} (stepped : world.server.step (.task j input) = some server) :
    ∃ order, Kept service start { world with
      server := server
      service := state
      log := world.log ++ [notification] } order := by
  cases phase : entry.task.task.task.phase with
  | requesting header request =>
    rw [phase] at completes
    cases completes
    exact kept.asks found phase rfl stepped
  | connecting =>
    rw [phase] at completes
    cases completes
    exact ⟨order, (kept.goes rfl stepped).calls_service (.connect rfl) rfl⟩
  | reporting e ends =>
    rw [phase] at completes
    cases completes
    exact ⟨order, (kept.goes rfl stepped).calls_service .error rfl⟩
  | disconnecting reason =>
    rw [phase] at completes
    cases completes
    exact ⟨order, (kept.goes rfl stepped).calls_service .disconnect rfl⟩
  | _ =>
    rw [phase] at completes
    cases completes

/-- Everything that can happen. -/
inductive Moves (service : AtomicService σ) (setting : Setting) (world : TcpWorld σ line config) :
    TcpWorld σ line config → Prop
  | client {i : Nat} {client after : ClientEnd} : world.clients[i]? = some client →
      client.Moves setting line (world.server.taskOf i).written.flatten after →
      Moves service setting world (world.put i client after)
  | accept {i : Nat} {server : State (framedServer Nat .tcp line config)} : i < world.clients.length →
      i ∉ world.server.tasks.labels Work.item → world.server.step (.outcome (.ok i)) = some server →
      Moves service setting world { world with server := server }
  | arrive {j count : Nat} {entry : Spawned (Work Nat (StreamWork MbapHeader))} {client : ClientEnd}
      {bytes : {bytes : Bytes // bytes.length ≤ readChunk}} {server : State (framedServer Nat .tcp line config)} :
      world.server.tasks.spawned[j]? = some entry → world.clients[entry.task.item]? = some client →
      readable (client.shared.task.written.flatten.drop entry.task.task.arrived) count = some bytes →
      world.server.step (.task j (.arrive bytes)) = some server →
      Moves service setting world { world with server := server }
  | complete {j : Nat} {entry : Spawned (Work Nat (StreamWork MbapHeader))} {notification : Notification}
      {input : StreamPoll} {state : σ} {server : State (framedServer Nat .tcp line config)} :
      world.server.tasks.spawned[j]? = some entry →
      service.complete ServerFraming.tcp world.service entry.task.task.task.phase = some (notification, input, state) →
      world.server.step (.task j input) = some server →
      Moves service setting world
        { world with server := server, service := state, log := world.log ++ [notification] }
  | serve {event : Event (Result Nat) StreamPoll} {server : State (framedServer Nat .tcp line config)} :
      event.unassisted = true → world.server.step event = some server →
      Moves service setting world { world with server := server }

theorem step_moves {event : TcpEvent} (stepped : world.step service setting event = some next) :
    Moves service setting world next := by
  cases event with
  | client i event =>
    simp only [step] at stepped
    obtain ⟨client, at_i, rest⟩ := Option.bind_eq_some_iff.mp stepped
    split at rest
    · cases rest
    · next own =>
      obtain ⟨shared, took, ⟨⟩⟩ := Option.bind_eq_some_iff.mp rest
      exact .client at_i (.own (by simpa using own) took)
  | deliver i count =>
    simp only [step] at stepped
    obtain ⟨client, at_i, rest⟩ := Option.bind_eq_some_iff.mp stepped
    obtain ⟨bytes, came, ⟨⟩⟩ := Option.bind_eq_some_iff.mp rest
    exact .client at_i (.deliver came)
  | receive i =>
    simp only [step] at stepped
    obtain ⟨client, at_i, rest⟩ := Option.bind_eq_some_iff.mp stepped
    split at rest
    · cases rest
    · next received reader reads =>
      obtain ⟨shared, took, ⟨⟩⟩ := Option.bind_eq_some_iff.mp rest
      exact .client at_i (.receive reads took)
  | sever i e =>
    simp only [step] at stepped
    obtain ⟨client, at_i, rest⟩ := Option.bind_eq_some_iff.mp stepped
    obtain ⟨shared, took, ⟨⟩⟩ := Option.bind_eq_some_iff.mp rest
    exact .client at_i (.sever took)
  | accept i =>
    simp only [step] at stepped
    split at stepped
    · next fresh =>
      obtain ⟨server, took, rfl⟩ := Option.map_eq_some_iff.mp stepped
      exact .accept fresh.1 fresh.2 took
    · cases stepped
  | arrive j count =>
    simp only [step] at stepped
    obtain ⟨entry, found, rest⟩ := Option.bind_eq_some_iff.mp stepped
    obtain ⟨client, at_item, rest⟩ := Option.bind_eq_some_iff.mp rest
    obtain ⟨bytes, came, rest⟩ := Option.bind_eq_some_iff.mp rest
    obtain ⟨server, took, rfl⟩ := Option.map_eq_some_iff.mp rest
    exact .arrive found at_item came took
  | complete j =>
    simp only [step] at stepped
    obtain ⟨entry, found, rest⟩ := Option.bind_eq_some_iff.mp stepped
    obtain ⟨⟨notification, input, state⟩, completes, rest⟩ := Option.bind_eq_some_iff.mp rest
    obtain ⟨server, took, ⟨⟩⟩ := Option.bind_eq_some_iff.mp rest
    exact .complete found completes took
  | serve event =>
    simp only [step] at stepped
    split at stepped
    · next own =>
      obtain ⟨server, took, rfl⟩ := Option.map_eq_some_iff.mp stepped
      exact .serve own took
    · cases stepped

/-- No client has put a request in the place of another that waits under the same identifier. -/
def Apart (world : TcpWorld σ line config) : Prop := ∀ client ∈ world.clients, client.shared.task.displaced = []

def Sound (world : TcpWorld σ line config) : Prop := ∀ client ∈ world.clients, client.shared.Sound

theorem Sound.moves (sound : world.Sound) (moves : Moves service setting world next) :
    next.Sound ∧ (next.Apart → world.Apart) := by
  cases moves with
  | accept | arrive | complete | serve => exact ⟨sound, fun apart => apart⟩
  | @client i client after at_i goes =>
    have before := sound client (List.mem_of_getElem? at_i)
    constructor
    · intro other inside
      rcases List.mem_or_eq_of_mem_set inside with old | rfl
      · exact sound other old
      · exact goes.sound before
    · intro apart other inside
      obtain ⟨j, at_j⟩ := List.getElem?_of_mem inside
      by_cases same : j = i
      · subst same
        cases at_i.symm.trans at_j
        have bound := (List.getElem?_eq_some_iff.mp at_i).1
        have none_after := apart after (List.mem_set bound after)
        exact List.subset_nil.mp (none_after ▸ goes.displaced before)
      · have still : (world.clients.set i after)[j]? = some other := (List.getElem?_set_ne (Ne.symm same)).trans at_j
        exact apart other (List.mem_of_getElem? still)

theorem Kept.moves (kept : Kept service start world order) (desyncs : setting.timeoutDesyncs = true)
    (apart : next.Apart) (moves : Moves service setting world next) : ∃ order, Kept service start next order := by
  cases moves with
  | @client i client after at_i goes =>
    have sound := kept.sound i client at_i
    have bound := (List.getElem?_eq_some_iff.mp at_i).1
    have none_after := apart after (List.mem_set bound after)
    obtain ⟨sent, adus, heard, paired⟩ := kept.paired i client at_i
    exact ⟨order, kept.put at_i (goes.shows i) (goes.sound sound)
      (goes.paired desyncs sound none_after (kept.works i) rfl paired)⟩
  | accept within fresh took =>
    refine ⟨order, kept.unasked took ?_ ?_⟩
    · rintro item ⟨⟩
      exact ⟨within, fresh⟩
    · rintro j advance work task client sent adus heard ⟨⟩
  | arrive found at_item came took =>
    refine ⟨order, kept.unasked took (by rintro item ⟨⟩) ?_⟩
    rintro j advance work task client sent adus heard ⟨⟩ there at_work works paired went
    cases found.symm.trans there
    cases at_item.symm.trans at_work
    obtain rfl := StreamWork.step_arrive went
    exact ⟨sent, adus, heard, paired.arrive came⟩
  | complete found completes took => exact kept.completes found completes took
  | serve own took =>
    refine ⟨order, kept.unasked took ?_ ?_⟩
    · rintro item rfl
      cases own
    · rintro j advance work task client sent adus heard rfl there at_work works paired went
      refine ⟨sent, adus, heard, paired.serves works ?_ went⟩
      cases advance with
      | arrive | answered => cases own
      | _ => rfl

theorem Kept.run (desyncs : setting.timeoutDesyncs = true) {pipelines : List PipelineConfig}
    (reaches : Reaches (TcpWorld.step service setting) (.start pipelines start) world) :
    world.Sound ∧ (world.Apart → ∃ order, Kept service start world order) := by
  have begun : Kept service start (.start pipelines start : TcpWorld σ line config) [] := start_kept pipelines
  have sound : (TcpWorld.start pipelines start : TcpWorld σ line config).Sound := by
    intro client inside
    obtain ⟨i, at_i⟩ := List.getElem?_of_mem inside
    exact begun.sound i client at_i
  apply Run.invariant ⟨sound, fun _ => ⟨[], begun⟩⟩ ?_ reaches
  rintro world event next ⟨sound, holds⟩ _ stepped
  have moves := step_moves stepped
  obtain ⟨after, earlier⟩ := sound.moves moves
  refine ⟨after, fun apart => ?_⟩
  obtain ⟨order, kept⟩ := holds (earlier apart)
  exact kept.moves desyncs apart moves

end TcpWorld

/-- Calls that return are returned what the service would have answered to one call at a time, until
a client's identifiers have come round to one in use. -/
theorem concurrent_calls_linearizable {σ : Type} (service : AtomicService σ) (start : σ) (keys : KeySupply)
    (pipelines : List PipelineConfig) {line : TransportConfig} {config : ServerConfig} {world : TcpWorld σ line config}
    (reaches : Reaches (TcpWorld.step service ⟨true, keys⟩) (.start pipelines start) world) (apart : world.Apart) :
    ∃ order, Linearizes Call.Tells world.history order ∧
      order.map (fun point => (point.question.unit, point.answer)) = world.log.filterMap Notification.asking ∧
      service.Leads start world.log world.service := by
  obtain ⟨_, holds⟩ := TcpWorld.Kept.run rfl reaches
  obtain ⟨order, kept⟩ := holds apart
  exact ⟨order, kept.trace.linearizes, kept.asked, kept.leads⟩

deriving instance DecidableEq for Call

def oneRegister : AtomicService RegisterValue where
  onConnect value := (.accept, value)
  onRequest _ request value :=
    match request with
    | .writeSingleRegister address written => (.ok (some (.writeSingleRegister address written)), written)
    | .readHoldingRegisters _ _ => (.ok (some (.readHoldingRegisters [value])), value)
    | _ => (.error .illegalFunction, value)
  onError _ value := value
  onDisconnect _ value := value

namespace TcpEvent

def asks (i : Nat) (request : RequestPdu) : List TcpEvent :=
  [.client i (.send ⟨1⟩ request), .client i (.allocate 0), .client i (.enqueue 0), .client i (.takeUp .done)]

def accepted (i : Nat) : List TcpEvent :=
  [.serve .poll, .accept i, .serve (.task i .start), .complete i, .arrive i 5, .arrive i 100, .serve (.task i .poll),
    .serve (.task i .receive)]

def answered (i : Nat) : List TcpEvent :=
  [.complete i, .serve (.task i (.send .done)), .deliver i 4, .deliver i 100, .receive i, .client i (.resolve 0)]

/-- The second client reads while the write of the first is on its way. -/
def crossing : List TcpEvent :=
  asks 0 (.writeSingleRegister ⟨0⟩ ⟨9⟩) ++ asks 1 (.readHoldingRegisters ⟨0⟩ ⟨1⟩) ++ [.serve .start] ++ accepted 0 ++
    accepted 1 ++ answered 1 ++ answered 0

end TcpEvent

/-- What the callers see is what the service would have answered to the read first. -/
theorem crossing_calls_linearized :
    let write : RequestPdu := .writeSingleRegister ⟨0⟩ ⟨9⟩
    let read : RequestPdu := .readHoldingRegisters ⟨0⟩ ⟨1⟩
    let start : TcpWorld RegisterValue .default ⟨none⟩ := .start [Pipeline.twoInFlight, Pipeline.twoInFlight] ⟨7⟩
    ∃ world, Reaches (TcpWorld.step oneRegister Pipeline.overTcp) start world ∧ world.Apart ∧
      world.history = [.called (0, 0) ⟨⟨1⟩, write⟩, .called (1, 0) ⟨⟨1⟩, read⟩,
        .returned (1, 0) (.readHoldingRegisters [⟨7⟩]), .returned (0, 0) (.writeSingleRegister ⟨0⟩ ⟨9⟩)] ∧
      ∃ order, Linearizes Call.Tells world.history order ∧
        order.map (fun point => (point.question.unit, point.answer)) =
          [(⟨1⟩, read, .ok (some (.readHoldingRegisters [⟨7⟩]))),
            (⟨1⟩, write, .ok (some (.writeSingleRegister ⟨0⟩ ⟨9⟩)))] := by
  intro write read start
  let ends := TcpEvent.crossing.foldlM (TcpWorld.step oneRegister Pipeline.overTcp) start
  have history : ends.map TcpWorld.history = some [.called (0, 0) ⟨⟨1⟩, write⟩, .called (1, 0) ⟨⟨1⟩, read⟩,
      .returned (1, 0) (.readHoldingRegisters [⟨7⟩]), .returned (0, 0) (.writeSingleRegister ⟨0⟩ ⟨9⟩)] := by
    decide +kernel
  have asked : ends.map (·.log.filterMap Notification.asking) = some
      [(⟨1⟩, read, .ok (some (.readHoldingRegisters [⟨7⟩]))),
        (⟨1⟩, write, .ok (some (.writeSingleRegister ⟨0⟩ ⟨9⟩)))] := by
    decide +kernel
  have displaced : ends.map (·.clients.map (·.shared.task.displaced)) = some [[], []] := by decide +kernel
  obtain ⟨world, followed, history⟩ := Option.map_eq_some_iff.mp history
  rw [followed] at asked displaced
  have reaches : Reaches (TcpWorld.step oneRegister Pipeline.overTcp) start world :=
    Run.follow TcpEvent.crossing (fun _ _ _ => trivial) followed
  have apart : world.Apart := by
    intro client inside
    have there : client.shared.task.displaced ∈ [[], []] := Option.some.inj displaced ▸ List.mem_map_of_mem inside
    simpa using there
  obtain ⟨order, linearizes, told, _⟩ :=
    concurrent_calls_linearizable oneRegister ⟨7⟩ Pipeline.countingKeys _ reaches apart
  exact ⟨world, reaches, apart, history, order, linearizes, told.trans (Option.some.inj asked)⟩

end Modbus
