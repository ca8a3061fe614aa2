import Modbus.Conduit
import Modbus.ConnectionStory
import Modbus.Pipeline

/-! The server on a listening socket, down to the bytes of its connections. The task
of a connection reads from a stream of its own, and keeps a record of its dealings:
each request it has taken off the stream, what the service answered to it, and the
response it has begun to write. -/
namespace Modbus

open Bytes

variable {Header Peer : Type}

/-- What has become of a request: the answer, once the service has given it, and the response, once
its write has begun. -/
structure Dealing (Header : Type) where
  header : Header
  request : RequestPdu
  answer : Option Answer
  response : Option Bytes

/-- A request that has just been taken off the stream. -/
def Dealing.new (header : Header) (request : RequestPdu) : Dealing Header := ⟨header, request, none, none⟩

/-- The task of a connection, with its end of the stream, how many bytes have arrived there, and what it
has written, response by response. -/
structure StreamWork (Header : Type) where
  task : ConnectionTask Header
  reader : Reader
  arrived : Nat
  dealings : List (Dealing Header)
  written : List Bytes

/-- What the task of a connection comes to next, or its stream. -/
inductive StreamPoll where
  | start
  | connected (answer : Acceptance)
  | poll
  | pend
  | arrive (bytes : {bytes : Bytes // bytes.length ≤ readChunk})
  | receive
  | sever (error : Error)
  | answered (answer : Answer)
  | send (write : Pipeline.Write)
  | reported
  | disconnected

def amend {α : Type} (change : α → α) (list : List α) : List α :=
  list.dropLast ++ (list.getLast?.map change).toList

@[simp] theorem amend_concat {α : Type} (change : α → α) (list : List α) (last : α) :
    amend change (list ++ [last]) = list ++ [change last] := by
  simp [amend]

theorem concat_found {α : Type} {list : List α} {last found : α} {j : Nat} :
    (list ++ [last])[j]? = some found ↔ list[j]? = some found ∨ (j = list.length ∧ found = last) := by
  rw [List.getElem?_append]
  split
  · next before =>
    refine ⟨.inl, fun either => either.resolve_right ?_⟩
    rintro ⟨rfl, _⟩
    exact absurd before (Nat.lt_irrefl _)
  · next beyond =>
    have none_there : list[j]? = none := List.getElem?_eq_none (by omega)
    rw [List.getElem?_singleton, none_there]
    by_cases last_place : j = list.length
    · simp [last_place, eq_comm]
    · simp [last_place, show j - list.length ≠ 0 by omega]

namespace StreamWork

def new : StreamWork Header := ⟨.new, .new ⟨0, [], none, .exact⟩, 0, [], []⟩

variable (framing : ServerFraming Header) (line : TransportConfig) (config : ServerConfig) (requested : Bool)

def go (work : StreamWork Header) (advance : Advance Header) : Option (StreamWork Header) :=
  (work.task.step framing config requested advance).map ({ work with task := · })

def take (work : StreamWork Header) (received : Result (Header × RequestPdu)) : Option (StreamWork Header) :=
  match received with
  | .ok (header, request) =>
    { work with dealings := work.dealings ++ [Dealing.new header request] }.go framing config requested
      (.received (.ok (header, request)))
  | .error e => work.go framing config requested (.received (.error e))

/-- The response under way is written, whole or as far as the stream accepts it. -/
def send (work : StreamWork Header) (header : Header) (response : ResponsePdu) (write : Pipeline.Write) :
    Option (StreamWork Header) :=
  match framing.encodeResponse header response with
  | .error e => work.go framing config requested (.sent (.error e))
  | .ok adu =>
    let dealings := amend (fun dealing => { dealing with response := some adu }) work.dealings
    match write with
    | .done =>
      { work with dealings := dealings, written := work.written ++ [adu] }.go framing config requested (.sent (.ok ()))
    | .failed accepted failure =>
      { work with dealings := dealings, written := work.written ++ [adu.take accepted] }.go framing config requested
        (.sent (.error failure.error))

/-- `serve_connection` on its stream. -/
def step (work : StreamWork Header) : StreamPoll → Option (StreamWork Header)
  | .start => work.go framing config requested .start
  | .connected answer => work.go framing config requested (.connected answer)
  | .poll => work.go framing config requested .poll
  | .pend => work.go framing config requested .pend
  | .arrive bytes =>
    if work.task.isFinished || work.task.isPolling then none
    else some { work with reader := work.reader.arrive bytes, arrived := work.arrived + bytes.val.length }
  | .receive =>
    match work.reader.recvRequest framing.toFraming line none with
    | (some received, reader) => { work with reader := reader }.take framing config requested received
    | (none, _) => none
  | .sever e => work.go framing config requested (.received (.error e))
  | .answered answer =>
    { work with dealings := amend (fun dealing => { dealing with answer := some answer }) work.dealings }.go framing
      config requested (.answered answer)
  | .send write =>
    match work.task.phase with
    | .responding header response => work.send framing config requested header response write
    | _ => none
  | .reported => work.go framing config requested .reported
  | .disconnected => work.go framing config requested .disconnected

end StreamWork

/-- The service has been called with a request, or its response is being written. -/
def Phase.isDealing : Phase Header → Bool
  | .requesting .. | .responding .. => true
  | _ => false

def Phase.isLive : Phase Header → Bool
  | .reporting _ ends => !ends
  | .disconnecting _ | .finished _ => false
  | _ => true

/-- A step that takes up a request, or follows from an answer to it. -/
def Advance.deals : Advance Header → Bool
  | .received (.ok _) | .answered _ => true
  | _ => false

namespace ConnectionTask

variable {framing : ServerFraming Header} {config : ServerConfig} {requested : Bool}
  {task next : ConnectionTask Header} {advance : Advance Header}

theorem step_undealing (stepped : task.step framing config requested advance = some next)
    (other : advance.deals = false) : next.phase.isDealing = false := by
  unfold step at stepped
  split at stepped
  all_goals cases stepped
  all_goals cases other
  all_goals repeat' first | rfl | split

theorem step_live (stepped : task.step framing config requested advance = some next)
    (live : next.phase.isLive = true) : task.phase.isLive = true := by
  obtain ⟨phase, told⟩ := task
  cases phase with
  | reporting e ends =>
    cases ends with
    | false => rfl
    | true =>
      cases advance <;> cases stepped
      cases live
  | disconnecting reason =>
    cases advance <;> cases stepped
    cases live
  | finished outcome => cases advance <;> cases stepped
  | _ => rfl

end ConnectionTask

def ServerFraming.skips (framing : ServerFraming Header) (config : ServerConfig) (header : Header) : Bool :=
  !framing.isBroadcast (framing.unit header) && config.unit.any (· != framing.unit header)

namespace StreamWork

variable {framing : ServerFraming Header} {line : TransportConfig} {config : ServerConfig} {requested : Bool}
  {work next : StreamWork Header} {input : StreamPoll}

/-- Everything a poll can do. -/
inductive Moves (framing : ServerFraming Header) (line : TransportConfig) (config : ServerConfig) (requested : Bool)
    (work : StreamWork Header) : StreamPoll → StreamWork Header → Prop
  | plain {input : StreamPoll} {advance : Advance Header} {task : ConnectionTask Header} : advance.deals = false →
      work.task.step framing config requested advance = some task →
      Moves framing line config requested work input { work with task := task }
  | arrive {bytes : {bytes : Bytes // bytes.length ≤ readChunk}} :
      (work.task.isFinished || work.task.isPolling) = false →
      Moves framing line config requested work (.arrive bytes)
        { work with reader := work.reader.arrive bytes, arrived := work.arrived + bytes.val.length }
  | took {header : Header} {request : RequestPdu} {reader : Reader} : work.task.phase = .receiving →
      work.reader.recvRequest framing.toFraming line none = (some (.ok (header, request)), reader) →
      Moves framing line config requested work .receive { work with
        task := { work.task with
          phase := if framing.skips config header then .waiting else .requesting header request }
        reader := reader
        dealings := work.dealings ++ [.new header request] }
  | failed {e : Error} {reader : Reader} {task : ConnectionTask Header} :
      work.reader.recvRequest framing.toFraming line none = (some (.error e), reader) →
      work.task.step framing config requested (.received (.error e)) = some task →
      Moves framing line config requested work .receive { work with task := task, reader := reader }
  | answered {header : Header} {request : RequestPdu} {answer : Answer} :
      work.task.phase = .requesting header request →
      Moves framing line config requested work (.answered answer) { work with
        task := {
          phase := match answer.response request.function with
            | none => .waiting
            | some response =>
              if framing.isBroadcast (framing.unit header) then .waiting else .responding header response
          told := work.task.told ++ [.hook (.request (framing.unit header) request answer)] }
        dealings := amend (fun dealing => { dealing with answer := some answer }) work.dealings }
  | sent {header : Header} {response : ResponsePdu} {adu : Bytes} : work.task.phase = .responding header response →
      framing.encodeResponse header response = .ok adu →
      Moves framing line config requested work (.send .done) { work with
        task := { work.task with phase := .waiting }
        dealings := amend (fun dealing => { dealing with response := some adu }) work.dealings
        written := work.written ++ [adu] }
  | broken {header : Header} {response : ResponsePdu} {adu : Bytes} {accepted : Nat} {failure : ReadFailure} :
      work.task.phase = .responding header response → framing.encodeResponse header response = .ok adu →
      Moves framing line config requested work (.send (.failed accepted failure)) { work with
        task := { work.task with phase := .reporting failure.error true }
        dealings := amend (fun dealing => { dealing with response := some adu }) work.dealings
        written := work.written ++ [adu.take accepted] }

theorem go_plain {advance : Advance Header} (other : advance.deals = false)
    (went : work.go framing config requested advance = some next) :
    Moves framing line config requested work input next := by
  obtain ⟨task, stepped, rfl⟩ := Option.map_eq_some_iff.mp went
  exact .plain other stepped

theorem take_moves {received : Result (Header × RequestPdu)} {reader : Reader}
    (reads : work.reader.recvRequest framing.toFraming line none = (some received, reader))
    (took : { work with reader := reader }.take framing config requested received = some next) :
    Moves framing line config requested work .receive next := by
  cases received with
  | error e =>
    obtain ⟨task, stepped, rfl⟩ := Option.map_eq_some_iff.mp took
    exact .failed reads stepped
  | ok frame =>
    obtain ⟨header, request⟩ := frame
    obtain ⟨task, stepped, rfl⟩ := Option.map_eq_some_iff.mp took
    obtain ⟨⟨phase, told⟩, _, _, _, _⟩ := work
    cases phase with
    | receiving =>
      cases stepped
      exact .took rfl reads
    | _ => cases stepped

theorem send_moves {header : Header} {response : ResponsePdu} {write : Pipeline.Write}
    (here : work.task.phase = .responding header response)
    (sent : work.send framing config requested header response write = some next) :
    Moves framing line config requested work (.send write) next := by
  unfold send at sent
  obtain ⟨⟨phase, told⟩, _, _, _, _⟩ := work
  obtain rfl : phase = .responding header response := here
  split at sent
  · exact go_plain rfl sent
  · next adu encoded =>
    cases write with
    | done =>
      cases sent
      exact .sent rfl encoded
    | failed accepted failure =>
      cases sent
      exact .broken rfl encoded

theorem step_arrive {bytes : {bytes : Bytes // bytes.length ≤ readChunk}}
    (stepped : work.step framing line config requested (.arrive bytes) = some next) :
    next = { work with reader := work.reader.arrive bytes, arrived := work.arrived + bytes.val.length } := by
  simp only [step] at stepped
  split at stepped <;> cases stepped
  rfl

theorem step_answered {answer : Answer}
    (stepped : work.step framing line config requested (.answered answer) = some next) :
    next.dealings = amend (fun dealing => { dealing with answer := some answer }) work.dealings ∧
      next.reader = work.reader ∧ next.arrived = work.arrived ∧ next.written = work.written := by
  obtain ⟨task, _, rfl⟩ := Option.map_eq_some_iff.mp stepped
  exact ⟨rfl, rfl, rfl, rfl⟩

theorem step_moves (stepped : work.step framing line config requested input = some next) :
    Moves framing line config requested work input next := by
  cases input with
  | arrive bytes =>
    simp only [step] at stepped
    split at stepped <;> cases stepped
    next idle => exact .arrive (by simpa using idle)
  | receive =>
    simp only [step] at stepped
    split at stepped
    · next received reader reads => exact take_moves reads stepped
    · cases stepped
  | answered answer =>
    obtain ⟨task, went, rfl⟩ := Option.map_eq_some_iff.mp stepped
    obtain ⟨⟨phase, told⟩, _, _, _, _⟩ := work
    cases phase with
    | requesting header request =>
      cases went
      exact .answered rfl
    | _ => cases went
  | send write =>
    simp only [step] at stepped
    split at stepped
    · next header response here => exact send_moves here stepped
    · cases stepped
  | _ => exact go_plain rfl stepped

end StreamWork

/-- The service is asked only for what is meant for this server, and what is written is its answer. -/
structure Dealing.Proper (framing : ServerFraming Header) (config : ServerConfig) (dealing : Dealing Header) : Prop where
  asked : ∀ answer, dealing.answer = some answer → framing.skips config dealing.header = false
  replied : ∀ adu, dealing.response = some adu → framing.isBroadcast (framing.unit dealing.header) = false ∧
    ∃ answer response, dealing.answer = some answer ∧ answer.response dealing.request.function = some response ∧
      framing.encodeResponse dealing.header response = .ok adu

theorem Dealing.Proper.new {framing : ServerFraming Header} {config : ServerConfig} (header : Header)
    (request : RequestPdu) : (Dealing.new header request).Proper framing config := by
  constructor
  all_goals
    intro _ impossible
    cases impossible

/-- What the connection is at is its last dealing. -/
def Attends (framing : ServerFraming Header) (config : ServerConfig) (phase : Phase Header)
    (dealings : List (Dealing Header)) : Prop :=
  match phase with
  | .requesting header request => framing.skips config header = false ∧
      ∃ earlier, dealings = earlier ++ [.new header request]
  | .responding header response => framing.isBroadcast (framing.unit header) = false ∧
      ∃ earlier request answer, dealings = earlier ++ [⟨header, request, some answer, none⟩] ∧
        answer.response request.function = some response ∧ framing.skips config header = false
  | _ => True

theorem attends_undealing {framing : ServerFraming Header} {config : ServerConfig} {phase : Phase Header}
    (other : phase.isDealing = false) (dealings : List (Dealing Header)) : Attends framing config phase dealings := by
  cases phase with
  | requesting | responding => cases other
  | _ => trivial

namespace StreamWork

/-- The responses whose write has begun, in order. -/
def replies (work : StreamWork Header) : List Bytes := work.dealings.filterMap Dealing.response

/-- The task has put nothing on the stream but its responses, one after the other. -/
structure Kept (framing : ServerFraming Header) (config : ServerConfig) (work : StreamWork Header) : Prop where
  proper : ∀ dealing ∈ work.dealings, dealing.Proper framing config
  attends : Attends framing config work.task.phase work.dealings
  wrote : work.written.flatten <+: work.replies.flatten
  whole : work.task.phase.isLive = true → work.written.flatten = work.replies.flatten

variable {framing : ServerFraming Header} {line : TransportConfig} {config : ServerConfig} {requested : Bool}
  {work next : StreamWork Header} {input : StreamPoll}

theorem Kept.new : Kept framing config (.new : StreamWork Header) :=
  ⟨fun _ inside => absurd inside List.not_mem_nil, trivial, List.prefix_refl _, fun _ => rfl⟩

theorem Kept.requesting (kept : work.Kept framing config) {header : Header} {request : RequestPdu}
    (here : work.task.phase = .requesting header request) :
    framing.skips config header = false ∧ ∃ earlier, work.dealings = earlier ++ [.new header request] := by
  have attends := kept.attends
  rw [here] at attends
  exact attends

theorem Kept.responding (kept : work.Kept framing config) {header : Header} {response : ResponsePdu}
    (here : work.task.phase = .responding header response) :
    framing.isBroadcast (framing.unit header) = false ∧
      ∃ earlier request answer, work.dealings = earlier ++ [⟨header, request, some answer, none⟩] ∧
        answer.response request.function = some response ∧ framing.skips config header = false := by
  have attends := kept.attends
  rw [here] at attends
  exact attends

theorem Kept.replied (kept : work.Kept framing config) {header : Header} {response : ResponsePdu} {adu part : Bytes}
    (here : work.task.phase = .responding header response) (encoded : framing.encodeResponse header response = .ok adu)
    (begins : part <+: adu) :
    let dealings := amend (fun dealing => { dealing with response := some adu }) work.dealings
    (∀ dealing ∈ dealings, dealing.Proper framing config) ∧
      dealings.filterMap Dealing.response = work.replies ++ [adu] ∧
      (work.written ++ [part]).flatten <+: (work.replies ++ [adu]).flatten := by
  obtain ⟨single, earlier, request, answer, split, responds, own⟩ := kept.responding here
  have whole := kept.whole (by rw [here]; rfl)
  have proper := kept.proper
  rw [split] at proper
  simp only [replies, split, amend_concat] at whole ⊢
  refine ⟨?_, ?_, ?_⟩
  · refine List.forall_mem_append.mpr ⟨(List.forall_mem_append.mp proper).1, List.forall_mem_singleton.mpr ⟨?_, ?_⟩⟩
    · exact fun _ _ => own
    · intro _ same
      cases same
      exact ⟨single, answer, response, rfl, responds, encoded⟩
  · simp
  · rw [List.flatten_append, List.flatten_append, whole, List.flatten_singleton, List.flatten_singleton]
    exact (List.prefix_append_right_inj _).mpr begins

theorem Kept.moves (kept : work.Kept framing config) (moves : Moves framing line config requested work input next) :
    next.Kept framing config := by
  cases moves with
  | plain other stepped =>
    exact ⟨kept.proper, attends_undealing (ConnectionTask.step_undealing stepped other) _, kept.wrote,
      fun live => kept.whole (ConnectionTask.step_live stepped live)⟩
  | arrive => exact ⟨kept.proper, kept.attends, kept.wrote, kept.whole⟩
  | failed _ stepped =>
    exact ⟨kept.proper, attends_undealing (ConnectionTask.step_undealing stepped rfl) _, kept.wrote,
      fun live => kept.whole (ConnectionTask.step_live stepped live)⟩
  | @took header request reader here reads =>
    have same : (work.dealings ++ [Dealing.new header request]).filterMap Dealing.response = work.replies := by
      rw [List.filterMap_append]
      exact List.append_nil _
    refine ⟨?_, ?_, ?_, ?_⟩
    · exact List.forall_mem_append.mpr ⟨kept.proper, List.forall_mem_singleton.mpr (.new header request)⟩
    · simp only
      split
      · trivial
      · next own => exact ⟨by simpa using own, _, rfl⟩
    · rw [replies, same]
      exact kept.wrote
    · intro _
      rw [replies, same]
      exact kept.whole (by rw [here]; rfl)
  | @answered header request answer here =>
    obtain ⟨own, earlier, split⟩ := kept.requesting here
    have whole := kept.whole (by rw [here]; rfl)
    have proper := kept.proper
    have changed : amend (fun dealing : Dealing Header => { dealing with answer := some answer }) work.dealings =
        earlier ++ [⟨header, request, some answer, none⟩] := by
      rw [split, amend_concat]
      rfl
    have same : (earlier ++ [(⟨header, request, some answer, none⟩ : Dealing Header)]).filterMap Dealing.response =
        work.replies := by
      rw [replies, split, List.filterMap_append, List.filterMap_append]
      rfl
    rw [split] at proper
    rw [changed]
    refine ⟨?_, ?_, ?_, ?_⟩
    · refine List.forall_mem_append.mpr ⟨(List.forall_mem_append.mp proper).1, List.forall_mem_singleton.mpr ⟨?_, ?_⟩⟩
      · exact fun _ _ => own
      · intro _ impossible
        cases impossible
    · simp only
      split
      · trivial
      · next response responds =>
        split
        · trivial
        · next single => exact ⟨by simpa using single, earlier, request, answer, rfl, responds, own⟩
    · rw [replies, same]
      exact kept.wrote
    · intro _
      rw [replies, same]
      exact whole
  | @sent header response adu here encoded =>
    obtain ⟨proper, more, _⟩ := kept.replied here encoded (List.prefix_refl adu)
    have whole := kept.whole (by rw [here]; rfl)
    have all : (work.written ++ [adu]).flatten = (work.replies ++ [adu]).flatten := by
      rw [List.flatten_append, List.flatten_append, whole]
    refine ⟨proper, trivial, ?_, ?_⟩
    · rw [replies, more, all]
    · intro _
      rw [replies, more, all]
  | @broken header response adu accepted failure here encoded =>
    obtain ⟨proper, more, wrote⟩ := kept.replied here encoded (List.take_prefix accepted adu)
    refine ⟨proper, trivial, ?_, ?_⟩
    · rw [replies, more]
      exact wrote
    · intro live
      cases live

theorem Kept.step (kept : work.Kept framing config)
    (stepped : work.step framing line config requested input = some next) : next.Kept framing config :=
  kept.moves (step_moves stepped)

theorem step_finished (ended : work.task.isFinished = true) :
    work.step framing line config requested input = none := by
  cases went : work.step framing line config requested input with
  | none => rfl
  | some next =>
    obtain ⟨⟨phase, told⟩, _, _, _, _⟩ := work
    cases step_moves went with
    | plain _ stepped | failed _ stepped => cases (ConnectionTask.step_finished ended).symm.trans stepped
    | arrive idle =>
      rw [ended] at idle
      cases idle
    | took here | answered here | sent here | broken here =>
      cases here
      cases ended

theorem step_heeds (stepped : work.step framing line config true input = some next) : next.task.isPolling = false := by
  cases step_moves stepped with
  | plain _ went | failed _ went => exact ConnectionTask.step_heeds went
  | arrive idle => exact (Bool.or_eq_false_iff.mp idle).2
  | took | answered =>
    simp only
    repeat' first | rfl | split
  | sent | broken => rfl

theorem take_polling {received : Result (Header × RequestPdu)}
    (took : work.take framing config requested received = some next) : work.task.isPolling = true := by
  have polls : ∀ {task after : ConnectionTask Header},
      task.step framing config requested (.received received) = some after → task.isPolling = true := by
    intro task after stepped
    obtain ⟨phase, told⟩ := task
    cases phase with
    | receiving => rfl
    | _ => cases stepped
  cases received with
  | ok frame =>
    obtain ⟨_, stepped, _⟩ := Option.map_eq_some_iff.mp took
    exact polls stepped
  | error e =>
    obtain ⟨_, stepped, _⟩ := Option.map_eq_some_iff.mp took
    exact polls stepped

theorem receive_polling (stepped : work.step framing line config requested .receive = some next) :
    work.task.isPolling = true := by
  simp only [step] at stepped
  split at stepped
  · have polls := take_polling stepped
    exact polls
  · cases stepped

end StreamWork

def streamJob (Peer : Type) (framing : ServerFraming Header) (line : TransportConfig) (config : ServerConfig) :
    Job Peer (StreamWork Header) StreamPoll where
  start _ := .new
  step requested work input := work.step framing line config requested input
  finished work := work.task.isFinished
  running work := work.task.isRunning
  polling work := work.task.isPolling
  takesUp
    | .receive => true
    | _ => false
  subscribes := true
  start_polling _ := rfl
  step_finished := StreamWork.step_finished
  finished_running := ConnectionTask.running_unfinished
  step_heeds := StreamWork.step_heeds
  step_takesUp := by
    intro _ _ input _ stepped takes
    cases input with
    | receive => exact StreamWork.receive_polling stepped
    | _ => cases takes

/-- `serve_framed`, with the streams of its connections. -/
def framedServer (Peer : Type) (framing : ServerFraming Header) (line : TransportConfig) (config : ServerConfig) :
    Listener (Result Peer) Peer (StreamWork Header) StreamPoll where
  take := (framedListener Peer framing config).take
  job := streamJob Peer framing line config

end Modbus
