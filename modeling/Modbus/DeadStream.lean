import Modbus.PipelineIdentifiers
import Modbus.SeveredFrame

/-! The pipelined client over a byte stream that has ended. The background task keeps one
receive going and starts the next before it looks at the result; on a stream that has
nothing more to give, that never stops. -/
namespace Modbus

open Bytes ByteStream

/-- Every further read returns the end of the stream, at once. -/
structure Dead (stream : Line) : Prop where
  arrivals : ∀ arrival ∈ stream.arrivals, arrival.time ≤ stream.now ∧
    ∃ chunk, arrival.read = .ok chunk ∧ chunk.val = []
  closed : ∃ time, stream.ending = some time ∧ time ≤ stream.now

/-- The stream behind a read that returned nothing. -/
def spent (stream : Line) : Line := { stream with arrivals := stream.arrivals.tail }

theorem Dead.spent {stream : Line} (dead : Dead stream) : Dead (spent stream) where
  arrivals arrival inside := dead.arrivals arrival (List.mem_of_mem_tail inside)
  closed := dead.closed

/-- The buffer does not hold a whole TCP frame. -/
def Tcp.Unfinished (buffer : Bytes) : Prop :=
  buffer.length < lengthPrefixLen ∨ lengthPrefixLen ≤ buffer.length ∧
    ∃ len, aduLen (buffer.take lengthPrefixLen) = .ok len ∧ len ≤ maxAduLen ∧ buffer.length < len

namespace Receive

variable {max len : Nat} {limit : Option Nat} {link after : Link} {e : Error}

theorem fillTo_unfilled (failed : fillTo max len limit link = (some (.error e), after))
    (ends : e.endsStream = true) : len ≤ max ∧ after.buffer.length < len := by
  unfold fillTo at failed
  split at failed
  · cases failed
    cases ends
  · refine ⟨by omega, ?_⟩
    rcases drove : drive (fillTurn len) limit link.buffer link.stream with ⟨outcome, buffer, stream⟩
    simp only [loop, drove] at failed
    cases failed
    obtain ⟨last, _, stops | ⟨_, _, awaits, outcome⟩⟩ :=
      drive_ending (fillTurn len) limit (fun _ => True) (fun _ _ _ => trivial) trivial drove
    · cases (fillTurn_stop stops).1
    · have short : last.length < len := by
        unfold fillTurn at awaits
        split at awaits
        · assumption
        · cases awaits
      obtain ⟨rfl, rfl⟩ := fillTurn_await awaits
      obtain ⟨rfl, _⟩ := readMore_yields outcome
      exact short

theorem fillTo_dead (dead : Dead link.stream) (small : len ≤ max) (short : link.buffer.length < len) :
    fillTo max len none link =
      (some (.error (endOfStream (!link.buffer.isEmpty))), ⟨spent link.stream, link.buffer⟩) := by
  obtain ⟨⟨now, arrivals, ending, timer⟩, buffer⟩ := link
  obtain ⟨time, closed, past⟩ := dead.closed
  simp only at closed past short
  subst closed
  have waits : fillTurn len buffer = .await buffer (readMore buffer (!buffer.isEmpty)) := if_pos short
  have read {time : Nat} (early : time ≤ now) : race timer now (some time) none none = (.read, now) := by
    simp [race, Within, Nat.max_eq_left early]
  rw [fillTo, if_neg (by omega)]
  cases arrivals with
  | nil =>
    simp only [loop, drive]
    unfold driveFrom
    simp only [waits, readMore, read past]
    rfl
  | cons arrival rest =>
    obtain ⟨early, chunk, ok, nothing⟩ := dead.arrivals arrival List.mem_cons_self
    simp only [loop, drive]
    unfold driveFrom
    simp only [waits, readMore, read early, ok, nothing, if_true]
    rfl

theorem readPrefixed_unfilled {prefixLen : Nat} {total : Bytes → Result Nat}
    (costs : ∀ bytes, CostsFrame (total bytes))
    (failed : readPrefixed max prefixLen total limit link = (some (.error e), after))
    (ends : e.endsStream = true) :
    after.buffer.length < prefixLen ∨ prefixLen ≤ after.buffer.length ∧
      ∃ len, total (after.buffer.take prefixLen) = .ok len ∧ len ≤ max ∧ after.buffer.length < len := by
  unfold readPrefixed at failed
  rcases filled : fillTo max prefixLen limit link with ⟨_ | early | _, middle⟩
  · rw [filled] at failed
    cases failed
  · rw [filled] at failed
    cases failed
    exact .inl (fillTo_unfilled filled ends).2
  · obtain ⟨_, enough⟩ := fillTo_ok filled
    simp only [filled, andThen] at failed
    cases announced : total (middle.buffer.take prefixLen) with
    | error refusal =>
      simp only [announced] at failed
      cases failed
      cases ends.symm.trans ((costs _).endsStream announced)
    | ok len =>
      simp only [announced] at failed
      rcases filling : fillTo max len limit middle with ⟨_ | late | _, last⟩
      · rw [filling] at failed
        cases failed
      · rw [filling] at failed
        cases failed
        obtain ⟨small, short⟩ := fillTo_unfilled filling ends
        obtain ⟨read, _, grown⟩ := fillTo_passes filling
        rw [List.nil_append] at grown
        have longer := congrArg List.length grown
        rw [List.length_append] at longer
        refine .inr ⟨by omega, len, ?_, small, short⟩
        rw [← grown, List.take_append_of_le_length enough, announced]
      · rw [filling] at failed
        cases failed

theorem readPrefixed_dead (dead : Dead link.stream) (unfinished : Tcp.Unfinished link.buffer) :
    readPrefixed Tcp.maxAduLen Tcp.lengthPrefixLen Tcp.aduLen none link =
      (some (.error (endOfStream (!link.buffer.isEmpty))), ⟨spent link.stream, link.buffer⟩) := by
  have bounded : Tcp.lengthPrefixLen ≤ Tcp.maxAduLen := by decide
  rw [readPrefixed]
  rcases unfinished with short | ⟨enough, len, announced, small, short⟩
  · rw [fillTo_dead dead bounded short]
    rfl
  · rw [fillTo_enough bounded enough]
    simp only [andThen, announced]
    rw [fillTo_dead dead small short]

end Receive

theorem recvResponse_unfinished {config : TransportConfig} {limit : Option Nat} {reader after : Reader}
    {midAdu : Bool}
    (failed : reader.recvResponse tcp config limit = (some (.error (endOfStream midAdu)), after)) :
    after.receiving = false ∧ Tcp.Unfinished after.link.buffer := by
  have ends := Receive.endOfStream_endsStream midAdu
  obtain ⟨link, receiving⟩ := reader
  unfold Reader.recvResponse recvAdu at failed
  cases receiving with
  | true => cases midAdu <;> cases failed
  | false =>
    rcases reading : Receive.readAdu tcp config .response limit link with ⟨_ | cause | adu, next⟩
    · simp [reading] at failed
    · simp only [reading, Bool.false_eq_true, if_false] at failed
      cases failed
      exact ⟨rfl, Receive.readPrefixed_unfilled Tcp.aduLen_costs reading ends⟩
    · simp only [reading, Bool.false_eq_true, if_false, Prod.mk.injEq, Option.some.injEq] at failed
      cases ends.symm.trans ((tcp_costsFrames.decodeResponse adu).endsStream failed.1)

theorem recvResponse_dead {config : TransportConfig} {reader : Reader} (dead : Dead reader.link.stream)
    (free : reader.receiving = false) (unfinished : Tcp.Unfinished reader.link.buffer) :
    reader.recvResponse tcp config none =
      (some (.error (endOfStream (!reader.link.buffer.isEmpty))),
        ⟨⟨spent reader.link.stream, reader.link.buffer⟩, false⟩) := by
  have reads : Receive.readAdu tcp config .response none reader.link =
      (some (.error (endOfStream (!reader.link.buffer.isEmpty))),
        ⟨spent reader.link.stream, reader.link.buffer⟩) := Receive.readPrefixed_dead dead unfinished
  simp only [Reader.recvResponse, recvAdu, free, Bool.false_eq_true, if_false, reads]
  rfl

namespace Pipeline

/-- The client and its task together with the stream that the task reads. -/
structure Session where
  shared : Shared
  reader : Reader

namespace Session

inductive Event where
  | receive
  | take (event : Pipeline.Event)

def start (config : PipelineConfig) (stream : Line) : Session := ⟨.start config, .new stream⟩

/-- A step, or nothing where it cannot be taken: the next receive is started whatever the last
one brought, and completes when the stream lets it. -/
def step (setting : Setting) (config : TransportConfig) (session : Session) : Event → Option Session
  | .receive =>
    if session.shared.ended then none
    else match session.reader.recvResponse tcp config none with
      | (some received, reader) =>
        (session.shared.step setting (.received received)).map fun shared => ⟨shared, reader⟩
      | (none, _) => none
  | .take (.received _) => none
  | .take event => (session.shared.step setting event).map fun shared => ⟨shared, session.reader⟩

variable {setting : Setting} {config : TransportConfig} {session next : Session}

theorem step_receive (stepped : session.step setting config .receive = some next) :
    session.shared.ended = false ∧ ∃ received task,
      session.reader.recvResponse tcp config none = (some received, next.reader) ∧
      session.shared.task.receive received = some task ∧ next.shared = { session.shared with task := task } := by
  rw [step] at stepped
  split at stepped
  · cases stepped
  next running =>
    split at stepped
    next received reader reading =>
      obtain ⟨shared, took, rfl⟩ := Option.map_eq_some_iff.mp stepped
      rcases Shared.onTask_inv took with ⟨ended, _⟩ | ⟨ended, task, acted, rfl⟩
      · exact absurd ended running
      · exact ⟨ended, received, task, reading, acted, rfl⟩
    · cases stepped

theorem step_take {event : Pipeline.Event} (stepped : session.step setting config (.take event) = some next) :
    (∀ received, event ≠ .received received) ∧ session.shared.step setting event = some next.shared ∧
      next.reader = session.reader := by
  cases event with
  | received => cases stepped
  | _ =>
    obtain ⟨shared, took, rfl⟩ := Option.map_eq_some_iff.mp stepped
    exact ⟨by simp, took, rfl⟩

theorem step_shared {event : Event} (stepped : session.step setting config event = some next) :
    ∃ event, session.shared.step setting event = some next.shared := by
  cases event with
  | receive =>
    obtain ⟨running, received, task, _, acted, same⟩ := step_receive stepped
    refine ⟨.received received, ?_⟩
    rw [same, Shared.step, Shared.onTask_running running, acted]
    rfl
  | take event => exact ⟨event, (step_take stepped).2.1⟩

theorem sound {pipeline : PipelineConfig} {stream : Line}
    (reaches : Reaches (step setting config) (start pipeline stream) session) : session.shared.Sound := by
  induction reaches with
  | start => exact .start pipeline
  | step _ _ stepped sound =>
    obtain ⟨_, took⟩ := step_shared stepped
    exact sound.step took

/-- The connection is given up and the stream has nothing more to give. -/
structure Lost (session : Session) : Prop where
  desynchronized : session.shared.task.desynchronized = true
  inFlight : session.shared.task.inFlight = ∅
  free : session.reader.receiving = false
  dead : Dead session.reader.link.stream
  unfinished : Tcp.Unfinished session.reader.link.buffer

theorem Lost.desynchronize (lost : session.Lost) :
    session.shared.task.desynchronize = some session.shared.task := by
  have given := lost.desynchronized
  have nothing := lost.inFlight
  generalize session.shared.task = task at given nothing
  obtain ⟨inFlight, deadlines, issued, desynchronized, written, answers, delivered, displaced⟩ := task
  simp only at given nothing
  subst given nothing
  rfl

def idled (session : Session) : Session :=
  ⟨session.shared, ⟨⟨spent session.reader.link.stream, session.reader.link.buffer⟩, false⟩⟩

theorem Lost.idled (lost : session.Lost) : session.idled.Lost where
  desynchronized := lost.desynchronized
  inFlight := lost.inFlight
  free := rfl
  dead := lost.dead.spent
  unfinished := lost.unfinished

theorem Lost.receives (lost : session.Lost) (running : session.shared.ended = false) :
    session.step setting config .receive = some session.idled := by
  rw [step, if_neg (by simp [running]), recvResponse_dead lost.dead lost.free lost.unfinished]
  simp only [Shared.step, Shared.onTask_running running, Task.receive, lost.desynchronize]
  rfl

def forget (session : Session) (key : Nat) : Session :=
  ⟨{ session.shared with
    task := { session.shared.task with deadlines := session.shared.task.deadlines.erase key } },
    session.reader⟩

theorem expire_nothing {task : Task} (nothing : task.inFlight = ∅) (key : Nat) :
    task.expire setting key = some { task with deadlines := task.deadlines.erase key } := by
  unfold Task.expire
  cases timer : task.deadlines.lookup key with
  | none =>
    have same : task.deadlines.erase key = task.deadlines :=
      AList.ext (List.kerase_of_notMem_keys (AList.lookup_eq_none.mp timer))
    rw [same]
  | some transaction =>
    simp only [nothing, AList.lookup_empty]

theorem Lost.step (lost : session.Lost) {event : Event}
    (stepped : session.step setting config event = some next) : next.Lost := by
  cases event with
  | receive =>
    rw [lost.receives (step_receive stepped).1] at stepped
    cases stepped
    exact lost.idled
  | take event =>
    obtain ⟨others, took, same⟩ := step_take stepped
    obtain ⟨given, nothing⟩ : next.shared.task.desynchronized = true ∧ next.shared.task.inFlight = ∅ := by
      obtain ⟨desynchronized, inFlight, _, _, _⟩ := lost
      generalize next.shared = after at took
      cases Shared.step_moves took with
      | takeUp heads taken =>
        rw [Task.takeUp, if_pos desynchronized] at taken
        cases taken
        exact ⟨desynchronized, inFlight⟩
      | received => exact absurd rfl (others _)
      | expired taken =>
        rw [expire_nothing inFlight] at taken
        cases taken
        exact ⟨desynchronized, inFlight⟩
      | _ => exact ⟨desynchronized, inFlight⟩
    refine ⟨given, nothing, ?_, ?_, ?_⟩
    all_goals rw [same]
    · exact lost.free
    · exact lost.dead
    · exact lost.unfinished

theorem lost_of_failed {midAdu : Bool} (sound : session.shared.Sound)
    (failing : session.reader.recvResponse tcp config none = (some (.error (endOfStream midAdu)), next.reader))
    (stepped : session.step setting config .receive = some next)
    (dead : Dead next.reader.link.stream) : next.Lost := by
  obtain ⟨_, received, task, reading, acted, same⟩ := step_receive stepped
  obtain ⟨free, unfinished⟩ := recvResponse_unfinished failing
  cases reading.symm.trans failing
  obtain ⟨after, gave, givenUp, _⟩ := Task.desynchronize_givenUp sound.ledger.timed
  cases Option.some.inj (gave.symm.trans acted)
  obtain ⟨shared, reader⟩ := next
  cases same
  exact ⟨givenUp.desynchronized, givenUp.inFlight, free, dead, unfinished⟩

theorem Lost.along (lost : session.Lost) (reaches : Reaches (Session.step setting config) session next) :
    next.Lost :=
  Run.invariant lost (fun _ _ _ lost _ stepped => lost.step stepped) reaches

theorem ended_along (ended : session.shared.ended = true)
    (reaches : Reaches (Session.step setting config) session next) : next.shared.ended = true := by
  induction reaches with
  | start => exact ended
  | @step state next event _ _ stepped ended =>
    cases event with
    | receive => exact absurd ended (by simp [(step_receive stepped).1])
    | take event =>
      obtain ⟨_, took, _⟩ := step_take stepped
      generalize next.shared = after at took
      cases Shared.step_moves took with
      | finish => rfl
      | _ => exact ended

/-- The steps that the loop itself can take: a receive completes, a command is taken up, a timer
runs out, or there are no more handles. -/
def Loops (session : Session) : Event → Prop
  | .receive => session.shared.ended = false
  | .take (.takeUp _) => session.shared.ended = false ∧ session.shared.queue ≠ []
  | .take (.expired key) => session.shared.ended = false ∧ key ∈ session.shared.task.deadlines
  | .take .finish => session.shared.ended = false ∧ session.shared.handles = 0 ∧ session.shared.queue = []
  | .take _ => False

/-- Answering a command with the refusal, or ending with the last handle. -/
inductive WindsUp (session : Session) : Session → Prop
  | answers {command : Command} {queue : List Command} (heads : session.shared.queue = command :: queue) :
      WindsUp session ⟨{ session.shared with
        task := session.shared.task.answer command.reply (.error .desynchronized)
        queue := queue }, session.reader⟩
  | ends (unused : session.shared.handles = 0) :
      WindsUp session ⟨{ session.shared with ended := true }, session.reader⟩

/-- From here on the loop completes no receive and does nothing but wind up. -/
def OnlyWindsUp (setting : Setting) (config : TransportConfig) (session : Session) : Prop :=
  ∀ state event next, Reaches (step setting config) session state → state.Loops event →
    state.step setting config event = some next → event ≠ .receive ∧ state.WindsUp next

theorem Lost.loops (lost : session.Lost) {event : Event} (loops : session.Loops event)
    (stepped : session.step setting config event = some next) :
    (event = .receive ∧ next = session.idled) ∨ session.WindsUp next ∨
      ∃ key ∈ session.shared.task.deadlines, next = session.forget key := by
  cases event with
  | receive =>
    rw [lost.receives loops] at stepped
    exact .inl ⟨rfl, (Option.some.inj stepped).symm⟩
  | take event =>
    obtain ⟨_, took, same⟩ := step_take stepped
    obtain ⟨shared, reader⟩ := next
    cases same
    refine .inr ?_
    cases event with
    | takeUp write =>
      obtain ⟨running, pending⟩ := loops
      obtain ⟨command, queue, heads⟩ := List.exists_cons_of_ne_nil pending
      rw [Shared.takeUp_running running heads, Task.takeUp, if_pos lost.desynchronized] at took
      cases took
      exact .inl (.answers heads)
    | expired key =>
      obtain ⟨running, inside⟩ := loops
      rw [Shared.step, Shared.onTask_running running, expire_nothing lost.inFlight] at took
      cases took
      exact .inr ⟨key, inside, rfl⟩
    | finish =>
      obtain ⟨_, unused, empty⟩ := loops
      rw [Shared.step, if_pos ⟨unused, empty⟩] at took
      cases took
      exact .inl (.ends unused)
    | _ => exact loops.elim

theorem Lost.repeats (lost : session.Lost) (running : session.shared.ended = false) (n : Nat) :
    ∃ idle, (fun state => state.bind (·.step setting config .receive))^[n] (some session) = some idle ∧
      idle.Lost ∧ idle.shared = session.shared ∧
      idle.reader.link.stream.now = session.reader.link.stream.now := by
  induction n with
  | zero => exact ⟨session, rfl, lost, rfl, rfl⟩
  | succ n ih =>
    obtain ⟨idle, ran, stillLost, same, now⟩ := ih
    rw [Function.iterate_succ_apply', ran]
    exact ⟨idle.idled, stillLost.receives (same ▸ running), stillLost.idled, same, now⟩

end Session

/-- A stream that ends does not quiet the task: as long as it runs, receives complete one after the
other, at once and without effect. -/
theorem dead_stream_read_on {setting : Setting} {config : TransportConfig} {pipeline : PipelineConfig}
    {stream : Line} {before failed later : Session} {midAdu : Bool}
    (reached : Reaches (Session.step setting config) (.start pipeline stream) before)
    (failing : before.reader.recvResponse tcp config none =
      (some (.error (endOfStream midAdu)), failed.reader))
    (stepped : before.step setting config .receive = some failed)
    (dead : Dead failed.reader.link.stream)
    (since : Reaches (Session.step setting config) failed later) :
    (later.OnlyWindsUp setting config ↔ later.shared.ended = true) ∧
      (later.shared.ended = false → ∀ n, ∃ idle,
        (fun state => state.bind (·.step setting config .receive))^[n] (some later) = some idle ∧
        idle.shared = later.shared ∧
        idle.reader.link.stream.now = later.reader.link.stream.now) ∧
      ∀ event next, later.Loops event → later.step setting config event = some next →
        (event = .receive ∧ next = later.idled) ∨ later.WindsUp next ∨
          ∃ key ∈ later.shared.task.deadlines, next = later.forget key := by
  have lost : later.Lost := (Session.lost_of_failed (Session.sound reached) failing stepped dead).along since
  refine ⟨⟨fun winds => ?_, fun ended => ?_⟩, fun running n => ?_, fun event next loops => lost.loops loops⟩
  · by_contra running
    have running : later.shared.ended = false := by simpa using running
    exact (winds later .receive _ .start running (lost.receives running)).1 rfl
  · intro state event next reaches loops took
    have past := Session.ended_along ended reaches
    have running : state.shared.ended = false := by
      cases event with
      | receive => exact loops
      | take event =>
        cases event with
        | takeUp | expired | finish => exact loops.1
        | _ => exact loops.elim
    exact absurd past (by simp [running])
  · obtain ⟨idle, ran, _, same, now⟩ := lost.repeats running n
    exact ⟨idle, ran, same, now⟩

/-- A peer that accepts the connection and closes it. -/
def hungUp : Line := ⟨0, [], some 0, .exact⟩

theorem hungUp_dead : Dead hungUp where
  arrivals := by simp [hungUp]
  closed := ⟨0, rfl, Nat.le_refl 0⟩

theorem hungUp_unfinished : Tcp.Unfinished [] := .inl (by decide)

/-- The session whose first receive met the end of that stream. -/
def hungUpOn : Session :=
  ⟨{ Shared.start twoInFlight with task := { Task.start with desynchronized := true } }, .new hungUp⟩

theorem hungUpOn_lost : hungUpOn.Lost := ⟨rfl, rfl, rfl, hungUp_dead, hungUp_unfinished⟩

theorem hungUp_fails : (Session.start twoInFlight hungUp).reader.recvResponse tcp .default none =
    (some (.error (endOfStream false)), hungUpOn.reader) :=
  recvResponse_dead hungUp_dead rfl hungUp_unfinished

theorem hungUp_step :
    (Session.start twoInFlight hungUp).step overTcp .default .receive = some hungUpOn := by
  rw [Session.step, if_neg (by simp [Session.start, Shared.start]), hungUp_fails]
  rfl

/-- A thousand receives on, nothing has happened and no time has passed. -/
theorem hung_up_read_on : ∃ idle,
    (fun state => state.bind (·.step overTcp .default .receive))^[1000] (some hungUpOn) = some idle ∧
      idle.shared = hungUpOn.shared ∧
      idle.reader.link.stream.now = hungUpOn.reader.link.stream.now :=
  (dead_stream_read_on .start hungUp_fails hungUp_step hungUp_dead .start).2.1 rfl 1000

/-- The peer hangs up, the first receive fails, and the next one is started and completes. -/
theorem receive_after_hang_up :
    (Session.start twoInFlight hungUp).step overTcp .default .receive = some hungUpOn ∧
      hungUpOn.shared.task.desynchronized = true ∧ Dead hungUpOn.reader.link.stream ∧
      hungUpOn.step overTcp .default .receive = some hungUpOn.idled ∧
      ¬hungUpOn.OnlyWindsUp overTcp .default := by
  have again : hungUpOn.step overTcp .default .receive = some hungUpOn.idled := hungUpOn_lost.receives rfl
  refine ⟨hungUp_step, rfl, hungUp_dead, again, fun winds => ?_⟩
  exact (winds hungUpOn .receive _ .start rfl again).1 rfl

end Pipeline

end Modbus
