import Modbus.PipelineExchange
import Modbus.StreamServer

/-! A pipelined client and the task of its connection, with the bytes under way between
them. The commands that were sent, the dealings of the server with them, and the
responses that came back run in step, however far each end has got. So a response is
handed to the caller whose request the service was asked. -/
namespace Modbus

open Bytes Listener
open Pipeline (Shared Setting Command PipelineConfig KeySupply Task)

/-- A client's end of its connection. -/
structure ClientEnd where
  shared : Shared
  reader : Reader
  arrived : Nat

def ClientEnd.new (config : PipelineConfig) : ClientEnd := ⟨.start config, .new ⟨0, [], none, .exact⟩, 0⟩

def Pipeline.Event.isReceive : Event → Bool
  | .received _ => true
  | _ => false

/-- The request that the service was asked has the caller's encoding, and the response is its answer as it
reads on the wire. -/
def Call.Tells (call : Call) (asked : RequestPdu × Answer) (response : ResponsePdu) : Prop :=
  asked.1.encode = call.request.encode ∧ ∃ given pdu, asked.2.response asked.1.function = some given ∧
    given.encode = .ok pdu ∧ ResponsePdu.decode pdu = .ok response

/-- The service was asked for a command of this client. -/
def pointOf (i : Nat) (command : Command) (request : RequestPdu) (answer : Answer) :
    Point (Nat × Nat) Call (RequestPdu × Answer) :=
  ⟨(i, command.reply), ⟨command.unit, command.request⟩, (request, answer)⟩

/-- A connection deals with a command. -/
structure Heard (command : Command) (dealing : Dealing MbapHeader) : Prop where
  header : dealing.header = ⟨command.transaction, command.unit⟩
  request : dealing.request.encode = command.request.encode

/-- The two ends of a connection: the first `sent` commands have been written, one for each dealing
taken up, and the first `heard` responses have arrived. -/
structure Paired (i : Nat) (client : ClientEnd) (work : StreamWork MbapHeader)
    (order : List (Point (Nat × Nat) Call (RequestPdu × Answer))) (sent : List Command) (adus : List Bytes)
    (heard : Nat) : Prop where
  encoded : List.Forall₂ (fun command adu =>
    tcp.encodeRequest ⟨command.transaction, command.unit⟩ command.request = .ok adu) sent adus
  issued : sent ⊆ client.shared.commands
  once : (sent.map Command.reply).Nodup
  pending : ∀ command ∈ client.shared.pending, command ∉ sent
  whole : client.shared.task.desynchronized = false → client.shared.task.written.flatten = adus.flatten
  up : work.task.phase.isLive = true →
    Conduit adus client.shared.task.written.flatten work.arrived work.dealings.length work.reader
  dealt : ∀ (j : Nat) dealing, work.dealings[j]? = some dealing →
    ∃ command, sent[j]? = some command ∧ Heard command dealing
  asked : ∀ point ∈ order, point.op.1 = i → ∃ (j : Nat) (command : Command) (dealing : Dealing MbapHeader)
    (answer : Answer), sent[j]? = some command ∧
    work.dealings[j]? = some dealing ∧ dealing.answer = some answer ∧ point = pointOf i command dealing.request answer
  answered : ∀ (j : Nat) command dealing answer, sent[j]? = some command → work.dealings[j]? = some dealing →
    dealing.answer = some answer → pointOf i command dealing.request answer ∈ order
  settled : ∀ last, heard = last + 1 → ∃ dealing adu, work.dealings[last]? = some dealing ∧
    dealing.response = some adu
  down : client.shared.task.desynchronized = false → Conduit work.replies work.written.flatten client.arrived
    ((work.dealings.take heard).filterMap Dealing.response).length client.reader
  waits : client.shared.task.desynchronized = false → ∀ (j : Nat) command, sent[j]? = some command →
    (heard ≤ j ∨ ∀ dealing, work.dealings[j]? = some dealing → dealing.response = none) →
    ∃ key, client.shared.task.inFlight.lookup command.transaction = some ⟨command.reply, key⟩
  told : ∀ reply response, ⟨reply, .ok response⟩ ∈ client.shared.task.answers →
    ∃ point ∈ order, point.op = (i, reply) ∧ Call.Tells point.question point.answer response

namespace Paired

variable {i : Nat} {client : ClientEnd} {work : StreamWork MbapHeader}
  {order : List (Point (Nat × Nat) Call (RequestPdu × Answer))} {sent : List Command} {adus : List Bytes}
  {heard : Nat}

theorem new (pipeline : PipelineConfig)
    (others : ∀ point ∈ order, point.op.1 ≠ i) : Paired i (.new pipeline) .new order [] [] 0 where
  encoded := .nil
  issued := List.nil_subset _
  once := List.nodup_nil
  pending := by simp
  whole _ := rfl
  up _ := .new
  dealt := by simp [StreamWork.new]
  asked point inside mine := absurd mine (others point inside)
  answered := by simp
  settled := by simp
  down _ := .new
  waits := by simp
  told := by simp [ClientEnd.new, Shared.start, Pipeline.Task.start]

theorem other (paired : Paired i client work order sent adus heard)
    {point : Point (Nat × Nat) Call (RequestPdu × Answer)} (foreign : point.op.1 ≠ i) :
    Paired i client work (order ++ [point]) sent adus heard :=
  { paired with
    asked := by
      intro other inside mine
      rcases List.mem_append.mp inside with before | last
      · exact paired.asked other before mine
      · rw [List.mem_singleton.mp last] at mine
        exact absurd mine foreign
    answered := fun j command dealing answer at_j there given =>
      List.mem_append_left _ (paired.answered j command dealing answer at_j there given)
    told := by
      intro reply response inside
      obtain ⟨other, there, rest⟩ := paired.told reply response inside
      exact ⟨other, List.mem_append_left _ there, rest⟩ }

theorem lengths (paired : Paired i client work order sent adus heard) : sent.length = adus.length :=
  paired.encoded.length_eq

theorem dealings_le (paired : Paired i client work order sent adus heard) : work.dealings.length ≤ adus.length := by
  rw [← paired.lengths]
  by_contra more
  have beyond := List.getElem?_eq_getElem (show sent.length < work.dealings.length by omega)
  obtain ⟨command, there, _⟩ := paired.dealt _ _ beyond
  exact absurd (List.getElem?_eq_some_iff.mp there).1 (Nat.lt_irrefl _)

theorem encoded_at (paired : Paired i client work order sent adus heard) {k : Nat} {adu : Bytes}
    (at_k : adus[k]? = some adu) : ∃ command, sent[k]? = some command ∧
      tcp.encodeRequest ⟨command.transaction, command.unit⟩ command.request = .ok adu := by
  obtain ⟨size, each⟩ := List.forall₂_iff_get.mp paired.encoded
  obtain ⟨within, rfl⟩ := List.getElem?_eq_some_iff.mp at_k
  exact ⟨sent[k], List.getElem?_eq_getElem _, each k (size ▸ within) within⟩

theorem heard_le (paired : Paired i client work order sent adus heard) : heard ≤ work.dealings.length := by
  cases heard with
  | zero => exact Nat.zero_le _
  | succ last =>
    obtain ⟨_, _, there, _⟩ := paired.settled last rfl
    exact (List.getElem?_eq_some_iff.mp there).1

theorem same_index (paired : Paired i client work order sent adus heard) {j k : Nat} {one two : Command}
    (at_j : sent[j]? = some one) (at_k : sent[k]? = some two) (same : one.reply = two.reply) : j = k := by
  have first : (sent.map Command.reply)[j]? = some one.reply := by rw [List.getElem?_map, at_j]; rfl
  have second : (sent.map Command.reply)[k]? = some one.reply := by rw [List.getElem?_map, at_k, same]; rfl
  obtain ⟨within, at_first⟩ := List.getElem?_eq_some_iff.mp first
  obtain ⟨inside, at_second⟩ := List.getElem?_eq_some_iff.mp second
  exact (List.Nodup.getElem_inj_iff paired.once).mp (at_first.trans at_second.symm)

end Paired

namespace Pipeline

theorem Shared.Sound.reply_inj {shared : Shared} (sound : shared.Sound) {one two : Command}
    (first : one ∈ shared.commands) (second : two ∈ shared.commands) (same : one.reply = two.reply) : one = two := by
  have once : (shared.commands.map Command.reply).Nodup := by
    rw [sound.made]
    exact List.nodup_range
  exact List.inj_on_of_nodup_map once first second same

/-- A step of a client that puts nothing on the stream and returns nothing new. -/
structure Still (shared after : Shared) : Prop where
  commands : shared.commands ⊆ after.commands
  pending : ∀ command ∈ after.pending, command ∈ shared.pending ∨ command ∉ shared.commands
  written : after.task.written = shared.task.written
  answers : ∀ reply response, ⟨reply, .ok response⟩ ∈ after.task.answers → ⟨reply, .ok response⟩ ∈ shared.task.answers
  usable : after.task.desynchronized = false → shared.task.desynchronized = false ∧
    after.task.inFlight = shared.task.inFlight

theorem Still.callers {shared after : Shared} (task : after.task = shared.task)
    (commands : after.commands = shared.commands) (allocated : after.allocated = shared.allocated)
    (queue : after.queue = shared.queue) : Still shared after := by
  refine ⟨by rw [commands]; exact List.Subset.refl _, ?_, by rw [task], ?_, ?_⟩
  · intro command inside
    rw [Shared.pending, allocated, queue] at inside
    exact .inl inside
  · rw [task]
    exact fun _ _ inside => inside
  · rw [task]
    exact fun usable => ⟨usable, rfl⟩

theorem Still.givenUp {shared : Shared} {task : Task} (givenUp : shared.task.GivenUp [] task)
    (written : task.written = shared.task.written) : Still shared { shared with task := task } := by
  refine ⟨List.Subset.refl _, fun _ inside => .inl inside, written, (givenUp.unsuccessful (by simp)).2, ?_⟩
  intro usable
  cases givenUp.desynchronized.symm.trans usable

/-- Taking up a command costs the connection, or puts its request on the stream. -/
theorem Task.takeUp_sends {setting : Setting} {command : Command} {write : Write} {task after : Task}
    (timed : task.Timed) (took : task.takeUp setting command write = some after) :
    (after.written = task.written ∧ after.desynchronized = true) ∨
    ∃ adu, tcp.encodeRequest ⟨command.transaction, command.unit⟩ command.request = .ok adu ∧
      task.desynchronized = false ∧
      ((after.written = task.written ++ [adu] ∧ after.desynchronized = false ∧
          (∃ key, after.inFlight = task.inFlight.insert command.transaction ⟨command.reply, key⟩) ∧
          after.displaced = task.displaced ++ ((task.inFlight.lookup command.transaction).map Entry.reply).toList) ∨
        (∃ accepted, after.written = task.written ++ [adu.take accepted]) ∧ after.desynchronized = true) := by
  unfold takeUp at took
  split at took
  · next flag =>
    cases took
    exact .inl ⟨rfl, flag⟩
  · next usable =>
    have running : task.desynchronized = false := by simpa using usable
    simp only [sendRequest, ClientFraming.tcp] at took
    cases encoded : tcp.encodeRequest ⟨command.transaction, command.unit⟩ command.request with
    | error e =>
      obtain ⟨middle, gave, givenUp, written⟩ := failAll_givenUp timed (command.transaction :: task.issued) task.written
        [⟨command.reply, .error e⟩]
      simp only [encoded] at took
      cases gave.symm.trans took
      exact .inl ⟨written, givenUp.desynchronized⟩
    | ok adu =>
      simp only [encoded] at took
      cases write with
      | done =>
        cases took
        exact .inr ⟨adu, rfl, running, .inl ⟨rfl, running, ⟨_, rfl⟩, rfl⟩⟩
      | failed accepted failure =>
        obtain ⟨middle, gave, givenUp, written⟩ := failAll_givenUp timed (command.transaction :: task.issued)
          (task.written ++ [adu.take accepted]) [⟨command.reply, .error failure.error⟩]
        cases gave.symm.trans took
        exact .inr ⟨adu, rfl, running, .inr ⟨⟨accepted, written⟩, givenUp.desynchronized⟩⟩

theorem Shared.Sound.displaced {setting : Setting} {shared after : Shared} {event : Event} (sound : shared.Sound)
    (took : shared.step setting event = some after) : shared.task.displaced ⊆ after.task.displaced := by
  cases Shared.stepped took with
  | callers task =>
    rw [task]
    exact List.Subset.refl _
  | allocate | enqueue => exact List.Subset.refl _
  | takeUp heads taken => exact (sound.takeUp heads taken).displaced
  | received taken => exact ((Task.received sound.ledger.timed taken).moves sound.ledger).displaced
  | expired taken => exact ((Task.expired sound.ledger.timed taken).moves sound.ledger).displaced

/-- A step of a client that begins to write the request of this command. -/
structure Sends (shared after : Shared) (command : Command) (adu part : Bytes) : Prop where
  encoded : tcp.encodeRequest ⟨command.transaction, command.unit⟩ command.request = .ok adu
  usable : shared.task.desynchronized = false
  taken : command ∈ shared.pending
  commands : after.commands = shared.commands
  pending : ∀ other ∈ after.pending, other ∈ shared.pending ∧ other ≠ command
  begins : part <+: adu
  written : after.task.written = shared.task.written ++ [part]
  answers : ∀ reply response, ⟨reply, .ok response⟩ ∈ after.task.answers → ⟨reply, .ok response⟩ ∈ shared.task.answers
  registered : after.task.desynchronized = false → part = adu ∧
    (∃ key, after.task.inFlight = shared.task.inFlight.insert command.transaction ⟨command.reply, key⟩) ∧
    after.task.displaced = shared.task.displaced ++
      ((shared.task.inFlight.lookup command.transaction).map Entry.reply).toList

theorem Shared.takeUp_sends {setting : Setting} {shared : Shared} {command : Command} {queue : List Command}
    {write : Write} {task : Task} (sound : shared.Sound) (heads : shared.queue = command :: queue)
    (took : shared.task.takeUp setting command write = some task) :
    Still shared { shared with task := task, queue := queue } ∨
      ∃ adu part, Sends shared { shared with task := task, queue := queue } command adu part := by
  have unsuccessful := (Task.takenUp sound.ledger.timed took).unsuccessful.2
  have left := Sound.tail_sublist heads
  obtain ⟨_, _, _, apart⟩ := sound.head heads
  rcases Task.takeUp_sends sound.ledger.timed took with
    ⟨written, flag⟩ | ⟨adu, encoded, usable, ⟨written, _, registered, displaced⟩ | ⟨⟨accepted, written⟩, flag⟩⟩
  · refine .inl ⟨List.Subset.refl _, fun other inside => .inl (left.subset inside), written, unsuccessful, ?_⟩
    intro usable
    cases flag.symm.trans usable
  all_goals
    have taken : command ∈ shared.pending := (perm_takeUp heads).mem_iff.mpr List.mem_cons_self
    have others : ∀ other ∈ shared.allocated ++ queue, other ∈ shared.pending ∧ other ≠ command := by
      intro other inside
      refine ⟨left.subset inside, ?_⟩
      rintro rfl
      exact apart other inside List.mem_cons_self
  · exact .inr ⟨adu, adu, encoded, usable, taken, rfl, others, List.prefix_refl _, written, unsuccessful,
      fun _ => ⟨rfl, registered, displaced⟩⟩
  · refine .inr ⟨adu, adu.take accepted, encoded, usable, taken, rfl, others, List.take_prefix _ _, written,
      unsuccessful, ?_⟩
    intro usable
    cases flag.symm.trans usable

theorem Shared.own_step {setting : Setting} {shared after : Shared} {event : Event} (sound : shared.Sound)
    (desyncs : setting.timeoutDesyncs = true) (own : event.isReceive = false)
    (took : shared.step setting event = some after) :
    Still shared after ∨ ∃ command adu part, Sends shared after command adu part := by
  cases Shared.stepped took with
  | callers task _ _ commands allocated queue => exact .inl (.callers task commands allocated queue)
  | allocate enters =>
    refine .inl ⟨List.subset_append_left _ _, ?_, rfl, fun _ _ inside => inside, fun usable => ⟨usable, rfl⟩⟩
    intro command inside
    rcases List.mem_cons.mp ((perm_allocate shared _).mem_iff.mp inside) with rfl | old
    · refine .inr fun made => ?_
      exact absurd (sound.made_lt made) (Nat.lt_irrefl _)
    · exact .inl old
  | enqueue inside =>
    refine .inl ⟨List.Subset.refl _, ?_, rfl, fun _ _ inside => inside, fun usable => ⟨usable, rfl⟩⟩
    intro command there
    exact .inl ((perm_enqueue inside).mem_iff.mp there)
  | takeUp heads taken =>
    rcases takeUp_sends sound heads taken with still | ⟨adu, part, sends⟩
    · exact .inl still
    · exact .inr ⟨_, adu, part, sends⟩
  | received => cases own
  | expired taken =>
    have unsuccessful := (Task.expired sound.ledger.timed taken).unsuccessful.2
    refine .inl ⟨List.Subset.refl _, fun _ inside => .inl inside, Task.expire_written taken, unsuccessful, ?_⟩
    intro usable
    cases Task.expired sound.ledger.timed taken with
    | unset | stale => exact ⟨usable, rfl⟩
    | alone stays => cases stays.symm.trans desyncs
    | together _ _ _ givenUp => cases givenUp.desynchronized.symm.trans usable

end Pipeline

namespace Paired

variable {i : Nat} {client : ClientEnd} {work : StreamWork MbapHeader}
  {order : List (Point (Nat × Nat) Call (RequestPdu × Answer))} {sent : List Command} {adus : List Bytes}
  {heard : Nat} {after : Shared}

theorem still (paired : Paired i client work order sent adus heard) (still : Pipeline.Still client.shared after)
    {reader : Reader} (reads : after.task.desynchronized = false → reader = client.reader) :
    Paired i { client with shared := after, reader := reader } work order sent adus heard :=
  { paired with
    issued := List.Subset.trans paired.issued still.commands
    pending := by
      intro command inside there
      rcases still.pending command inside with old | new
      · exact paired.pending command old there
      · exact new (paired.issued there)
    whole := by
      intro usable
      rw [still.written]
      exact paired.whole (still.usable usable).1
    up := by
      intro live
      rw [still.written]
      exact paired.up live
    down := by
      intro usable
      rw [reads usable]
      exact paired.down (still.usable usable).1
    waits := by
      intro usable
      obtain ⟨before, same⟩ := still.usable usable
      simp only [same]
      exact paired.waits before
    told := fun reply response inside => paired.told reply response (still.answers reply response inside) }

theorem sends (paired : Paired i client work order sent adus heard) (sound : client.shared.Sound) {command : Command}
    {adu part : Bytes} (sends : Pipeline.Sends client.shared after command adu part)
    (apart : after.task.displaced = []) :
    Paired i { client with shared := after } work order (sent ++ [command]) (adus ++ [adu]) heard := by
  have new : command ∉ sent := paired.pending command sends.taken
  have made : command ∈ client.shared.commands := sound.issued sends.taken
  have whole := paired.whole sends.usable
  have flat : after.task.written.flatten = client.shared.task.written.flatten ++ part := by
    rw [sends.written, List.flatten_append, List.flatten_singleton]
  exact { paired with
    encoded := List.rel_append paired.encoded (.cons sends.encoded .nil)
    issued := by
      rw [sends.commands]
      exact List.append_subset.mpr ⟨paired.issued, by simpa using made⟩
    once := by
      rw [List.map_append]
      refine List.nodup_append_comm.mp (List.nodup_cons.mpr ⟨?_, paired.once⟩)
      intro inside
      obtain ⟨other, there, same⟩ := List.mem_map.mp inside
      exact new (sound.reply_inj (paired.issued there) made same ▸ there)
    pending := by
      intro other inside there
      obtain ⟨before, differs⟩ := sends.pending other inside
      rcases List.mem_append.mp there with old | last
      · exact paired.pending other before old
      · exact differs (List.mem_singleton.mp last)
    whole := by
      intro usable
      rw [flat, whole, (sends.registered usable).1, List.flatten_append, List.flatten_singleton]
    up := by
      intro live
      rw [flat]
      exact (paired.up live).write whole paired.dealings_le sends.begins
    dealt := by
      intro j dealing there
      obtain ⟨other, at_j, same⟩ := paired.dealt j dealing there
      exact ⟨other, concat_found.mpr (.inl at_j), same⟩
    asked := by
      intro point inside mine
      obtain ⟨j, other, dealing, answer, at_j, rest⟩ := paired.asked point inside mine
      exact ⟨j, other, dealing, answer, concat_found.mpr (.inl at_j), rest⟩
    answered := by
      intro j other dealing answer at_j there given
      rcases concat_found.mp at_j with before | ⟨rfl, rfl⟩
      · exact paired.answered j other dealing answer before there given
      · obtain ⟨_, inside, _⟩ := paired.dealt _ _ there
        exact absurd (List.getElem?_eq_some_iff.mp inside).1 (Nat.lt_irrefl _)
    down := fun usable => paired.down sends.usable
    waits := by
      intro usable j other at_j unanswered
      obtain ⟨_, ⟨key, table⟩, displaced⟩ := sends.registered usable
      rw [apart] at displaced
      have free : client.shared.task.inFlight.lookup command.transaction = none := by
        simpa using (List.append_eq_nil_iff.mp displaced.symm).2
      simp only [table]
      rcases concat_found.mp at_j with before | ⟨rfl, rfl⟩
      · obtain ⟨old, found⟩ := paired.waits sends.usable j other before unanswered
        refine ⟨old, Task.lookup_insert_iff.mpr (.inr ⟨?_, found⟩)⟩
        intro same
        rw [same] at found
        cases free.symm.trans found
      · exact ⟨key, Task.lookup_insert_iff.mpr (.inl ⟨rfl, rfl⟩)⟩
    told := fun reply response inside => paired.told reply response (sends.answers reply response inside) }

/-- What a client receives is the response of the next of the dealings that has one. -/
theorem next_response (paired : Paired i client work order sent adus heard) {config : ServerConfig}
    (kept : work.Kept .tcp config) (usable : client.shared.task.desynchronized = false) {line : TransportConfig}
    {received : Result (MbapHeader × ResponsePdu)} {reader : Reader}
    (reads : client.reader.recvResponse tcp line none = (some received, reader)) :
    ∃ k dealing frame, heard ≤ k ∧ work.dealings[k]? = some dealing ∧ dealing.response = some frame ∧
      received = tcp.decodeResponse frame ∧
      Conduit work.replies work.written.flatten client.arrived
        ((work.dealings.take (k + 1)).filterMap Dealing.response).length reader := by
  have announced : ∀ frame ∈ work.replies, Tcp.Announced frame := by
    intro frame inside
    obtain ⟨dealing, there, begun⟩ := List.mem_filterMap.mp inside
    obtain ⟨_, _, _, _, _, encoded⟩ := (kept.proper dealing there).replied frame begun
    exact Tcp.response_announced encoded
  obtain ⟨frame, found, rfl, conduit⟩ := (paired.down usable).recvResponse announced reads
  have ahead : ((work.dealings.drop heard).filterMap Dealing.response)[0]? = some frame := by
    rw [StreamWork.replies, ← List.take_append_drop heard work.dealings, List.filterMap_append,
      List.take_append_drop, List.getElem?_append_right (Nat.le_refl _), Nat.sub_self] at found
    exact found
  obtain ⟨later, split⟩ : ∃ later, (work.dealings.drop heard).filterMap Dealing.response = frame :: later := by
    cases rest : (work.dealings.drop heard).filterMap Dealing.response with
    | nil => simp [rest] at ahead
    | cons first later =>
      rw [rest] at ahead
      cases ahead
      exact ⟨later, rfl⟩
  obtain ⟨silent, dealing, coming, parts, without, begun, _⟩ := List.filterMap_eq_cons_iff.mp split
  have here : work.dealings[heard + silent.length]? = some dealing := by
    rw [← List.getElem?_drop, parts]
    simp
  have count : ((work.dealings.take (heard + silent.length + 1)).filterMap Dealing.response).length =
      ((work.dealings.take heard).filterMap Dealing.response).length + 1 := by
    have nothing : silent.filterMap Dealing.response = [] := List.filterMap_eq_nil_iff.mpr without
    rw [Nat.add_assoc, List.take_add, parts, List.take_length_add_append, List.filterMap_append, List.filterMap_append,
      nothing]
    simp [begun]
  refine ⟨heard + silent.length, dealing, frame, Nat.le_add_right _ _, here, begun, rfl, ?_⟩
  rw [count]
  exact conduit

/-- The client has taken the response of this dealing off the stream, and nothing else has changed. -/
theorem took (paired : Paired i client work order sent adus heard) {k : Nat} {dealing : Dealing MbapHeader}
    {frame : Bytes} {reader : Reader} (later : heard ≤ k) (there : work.dealings[k]? = some dealing)
    (begun : dealing.response = some frame)
    (conduit : Conduit work.replies work.written.flatten client.arrived
      ((work.dealings.take (k + 1)).filterMap Dealing.response).length reader) :
    Paired i { client with reader := reader } work order sent adus (k + 1) :=
  { paired with
    settled := by
      rintro last same
      cases same
      exact ⟨dealing, frame, there, begun⟩
    down := fun _ => conduit
    waits := by
      intro usable j command at_j unanswered
      exact paired.waits usable j command at_j (unanswered.imp_left fun beyond => by omega) }

theorem returned (paired : Paired i client work order sent adus heard) {config : ServerConfig}
    (kept : work.Kept .tcp config) (usable : client.shared.task.desynchronized = false) {k : Nat}
    {dealing : Dealing MbapHeader} {frame : Bytes} (later : heard ≤ k) (there : work.dealings[k]? = some dealing)
    (begun : dealing.response = some frame) {header : MbapHeader} {response : ResponsePdu}
    (decoded : tcp.decodeResponse frame = .ok (header, response)) {reader : Reader} {entry : Pipeline.Entry}
    {task : Task}
    (skipped : Paired i { client with reader := reader } work order sent adus (k + 1))
    (resolved : client.shared.task.Resolved entry.key header.transactionId entry (.ok response) task) :
    Paired i { client with shared := { client.shared with task := task }, reader := reader } work order sent adus
      (k + 1) := by
  obtain ⟨command, at_k, header_same, request_same⟩ := paired.dealt k dealing there
  obtain ⟨_, answer, given, answers, responds, encoded⟩ :=
    (kept.proper dealing (List.mem_of_getElem? there)).replied frame begun
  obtain ⟨rfl, pdu, spoken, read⟩ := Framing.response_conveyed Tcp.seals encoded decoded
  have transaction : dealing.header.transactionId = command.transaction := by rw [header_same]
  obtain ⟨key, found⟩ := paired.waits usable k command at_k (.inl later)
  obtain rfl : entry = ⟨command.reply, key⟩ := by
    have same := resolved.found
    rw [transaction, found] at same
    exact (Option.some.inj same).symm
  have point := paired.answered k command dealing answer at_k there answers
  exact { skipped with
    whole := by
      intro usable
      rw [resolved.desynchronized] at usable
      rw [resolved.written]
      exact skipped.whole usable
    up := by
      intro live
      rw [resolved.written]
      exact skipped.up live
    down := by
      intro usable
      rw [resolved.desynchronized] at usable
      exact skipped.down usable
    waits := by
      intro _ j other at_j unanswered
      obtain ⟨old, waiting⟩ := skipped.waits usable j other at_j unanswered
      refine ⟨old, ?_⟩
      rw [resolved.inFlight]
      refine Task.lookup_erase_iff.mpr ⟨?_, waiting⟩
      intro same
      rw [same, transaction, found] at waiting
      have index := paired.same_index at_k at_j (congrArg Pipeline.Entry.reply (Option.some.inj waiting))
      subst index
      rcases unanswered with beyond | silent
      · omega
      · cases begun.symm.trans (silent dealing there)
    told := by
      intro reply success inside
      rw [resolved.answers] at inside
      rcases List.mem_append.mp inside with before | last
      · exact paired.told reply success before
      · cases List.mem_singleton.mp last
        exact ⟨_, point, rfl, request_same, given, pdu, responds, spoken, read⟩ }

theorem receive (paired : Paired i client work order sent adus heard) (sound : client.shared.Sound)
    {config : ServerConfig} (kept : work.Kept .tcp config) {line : TransportConfig} {setting : Setting}
    {received : Result (MbapHeader × ResponsePdu)} {reader : Reader}
    (reads : client.reader.recvResponse tcp line none = (some received, reader))
    (stepped : client.shared.step setting (.received received) = some after) :
    ∃ heard, Paired i { client with shared := after, reader := reader } work order sent adus heard := by
  cases flag : client.shared.task.desynchronized with
  | true =>
    have empty := sound.ledger.quiet flag
    cases Shared.stepped stepped with
    | callers task _ _ commands allocated queue =>
      refine ⟨heard, paired.still (.callers task commands allocated queue) ?_⟩
      intro usable
      rw [task] at usable
      cases flag.symm.trans usable
    | received taken =>
      cases Task.received sound.ledger.timed taken with
      | answered resolved =>
        have found := resolved.found
        simp [empty] at found
      | late =>
        refine ⟨heard, paired.still (.callers rfl rfl rfl rfl) ?_⟩
        intro usable
        cases flag.symm.trans usable
      | failed givenUp written =>
        refine ⟨heard, paired.still (.givenUp givenUp written) ?_⟩
        intro usable
        cases givenUp.desynchronized.symm.trans usable
  | false =>
    obtain ⟨k, dealing, frame, later, there, begun, came, conduit⟩ := paired.next_response kept flag reads
    have skipped := paired.took later there begun conduit
    cases Shared.stepped stepped with
    | callers task _ _ commands allocated queue =>
      exact ⟨k + 1, skipped.still (.callers task commands allocated queue) fun _ => rfl⟩
    | received taken =>
      cases Task.received sound.ledger.timed taken with
      | answered resolved => exact ⟨k + 1, paired.returned kept flag later there begun came.symm skipped resolved⟩
      | late => exact ⟨k + 1, skipped⟩
      | failed givenUp written =>
        refine ⟨heard, paired.still (.givenUp givenUp written) ?_⟩
        intro usable
        cases givenUp.desynchronized.symm.trans usable

theorem sever (paired : Paired i client work order sent adus heard) (sound : client.shared.Sound) {setting : Setting}
    {e : Error} (stepped : client.shared.step setting (.received (.error e)) = some after) :
    Paired i { client with shared := after } work order sent adus heard := by
  cases Shared.stepped stepped with
  | callers task _ _ commands allocated queue =>
    exact paired.still (.callers task commands allocated queue) fun _ => rfl
  | received taken =>
    cases Task.received sound.ledger.timed taken with
    | late => exact paired
    | failed givenUp written => exact paired.still (.givenUp givenUp written) fun _ => rfl

theorem deliver (paired : Paired i client work order sent adus heard) {count : Nat}
    {chunk : {bytes : Bytes // bytes.length ≤ readChunk}}
    (next : readable (work.written.flatten.drop client.arrived) count = some chunk) :
    Paired i { client with reader := client.reader.arrive chunk, arrived := client.arrived + chunk.val.length } work order
      sent adus heard :=
  { paired with down := fun usable => (paired.down usable).arrive next }

section Serving

theorem goes (paired : Paired i client work order sent adus heard) {task : ConnectionTask MbapHeader}
    (live : task.phase.isLive = true → work.task.phase.isLive = true) :
    Paired i client { work with task := task } order sent adus heard :=
  { paired with up := fun alive => paired.up (live alive) }

theorem arrive (paired : Paired i client work order sent adus heard) {count : Nat}
    {chunk : {bytes : Bytes // bytes.length ≤ readChunk}}
    (next : readable (client.shared.task.written.flatten.drop work.arrived) count = some chunk) :
    Paired i client { work with reader := work.reader.arrive chunk, arrived := work.arrived + chunk.val.length } order
      sent adus heard :=
  { paired with up := fun live => (paired.up live).arrive next }

theorem fails (paired : Paired i client work order sent adus heard) {task : ConnectionTask MbapHeader} {reader : Reader}
    (dead : task.phase.isLive = false) :
    Paired i client { work with task := task, reader := reader } order sent adus heard :=
  { paired with
    up := by
      intro live
      cases dead.symm.trans live }

theorem takes (paired : Paired i client work order sent adus heard) (live : work.task.phase.isLive = true)
    {line : TransportConfig} {header : MbapHeader} {request : RequestPdu} {reader : Reader}
    (reads : work.reader.recvRequest tcp line none = (some (.ok (header, request)), reader))
    (task : ConnectionTask MbapHeader) :
    Paired i client { work with
      task := task
      reader := reader
      dealings := work.dealings ++ [.new header request] } order sent adus heard := by
  have announced : ∀ frame ∈ adus, Tcp.Announced frame := by
    intro frame inside
    obtain ⟨k, at_k⟩ := List.mem_iff_getElem?.mp inside
    obtain ⟨_, _, encoded⟩ := paired.encoded_at at_k
    exact Tcp.request_announced encoded
  obtain ⟨frame, found, came, conduit⟩ := (paired.up live).recvRequest announced reads
  obtain ⟨command, at_last, encoded⟩ := paired.encoded_at found
  obtain ⟨named, pdu, wrote, decoded⟩ := Framing.request_conveyed Tcp.seals encoded came.symm
  have again : request.encode = command.request.encode := by
    obtain ⟨wire, size, _⟩ := RequestPdu.decode_ok.mp decoded
    rw [wrote, RequestPdu.encode_ok.mpr ⟨wire, size⟩]
  have within : heard ≤ work.dealings.length := paired.heard_le
  have replies : (work.dealings ++ [Dealing.new header request]).filterMap Dealing.response = work.replies := by
    rw [List.filterMap_append]
    exact List.append_nil _
  exact { paired with
    up := by
      intro _
      rw [List.length_append]
      exact conduit
    dealt := by
      intro j dealing there
      rcases concat_found.mp there with before | ⟨rfl, rfl⟩
      · exact paired.dealt j dealing before
      · exact ⟨command, at_last, named, again⟩
    asked := by
      intro point inside mine
      obtain ⟨j, other, dealing, answer, at_j, there, rest⟩ := paired.asked point inside mine
      exact ⟨j, other, dealing, answer, at_j, concat_found.mpr (.inl there), rest⟩
    answered := by
      intro j other dealing answer at_j there given
      rcases concat_found.mp there with before | ⟨rfl, rfl⟩
      · exact paired.answered j other dealing answer at_j before given
      · cases given
    settled := by
      intro last same
      obtain ⟨dealing, adu, there, begun⟩ := paired.settled last same
      exact ⟨dealing, adu, concat_found.mpr (.inl there), begun⟩
    down := by
      intro usable
      rw [StreamWork.replies, replies, List.take_append_of_le_length within]
      exact paired.down usable
    waits := by
      intro usable j other at_j unanswered
      refine paired.waits usable j other at_j (unanswered.imp_right fun silent dealing there => ?_)
      exact silent dealing (concat_found.mpr (.inl there)) }

/-- Where the last of the dealings has no response yet, the client has not got that far. -/
theorem heard_le_earlier (paired : Paired i client work order sent adus heard) {earlier : List (Dealing MbapHeader)}
    {last : Dealing MbapHeader} (split : work.dealings = earlier ++ [last]) (silent : last.response = none) :
    heard ≤ earlier.length := by
  cases heard with
  | zero => exact Nat.zero_le _
  | succ position =>
    obtain ⟨dealing, adu, there, begun⟩ := paired.settled position rfl
    rw [split] at there
    rcases concat_found.mp there with before | ⟨_, rfl⟩
    · exact (List.getElem?_eq_some_iff.mp before).1
    · cases silent.symm.trans begun

/-- The server deals with the last request it has taken up. What this does to the points and to the stream
back is for the caller to say. -/
theorem amended (paired : Paired i client work order sent adus heard) {earlier : List (Dealing MbapHeader)}
    {last now : Dealing MbapHeader} (split : work.dealings = earlier ++ [last]) (silent : last.response = none)
    (live : work.task.phase.isLive = true) {next : StreamWork MbapHeader} (dealings : next.dealings = earlier ++ [now])
    (header : now.header = last.header) (request : now.request = last.request)
    (reader : next.reader = work.reader) (arrived : next.arrived = work.arrived)
    {points : List (Point (Nat × Nat) Call (RequestPdu × Answer))}
    (asked : ∀ point ∈ points, point.op.1 = i → ∃ (j : Nat) (command : Command) (dealing : Dealing MbapHeader)
      (answer : Answer), sent[j]? = some command ∧ (earlier ++ [now])[j]? = some dealing ∧
        dealing.answer = some answer ∧ point = pointOf i command dealing.request answer)
    (answered : ∀ (j : Nat) command dealing answer, sent[j]? = some command → (earlier ++ [now])[j]? = some dealing →
      dealing.answer = some answer → pointOf i command dealing.request answer ∈ points)
    (down : client.shared.task.desynchronized = false → Conduit next.replies next.written.flatten client.arrived
      ((earlier.take heard).filterMap Dealing.response).length client.reader)
    (grows : order ⊆ points) : Paired i client next points sent adus heard := by
  have within := paired.heard_le_earlier split silent
  exact { paired with
    up := by
      intro _
      have conduit := paired.up live
      rw [split, List.length_append] at conduit
      rw [dealings, reader, arrived, List.length_append]
      exact conduit
    dealt := by
      intro j dealing there
      rw [dealings] at there
      rcases concat_found.mp there with before | ⟨rfl, rfl⟩
      · refine paired.dealt j dealing ?_
        rw [split]
        exact concat_found.mpr (.inl before)
      · obtain ⟨command, at_j, named, again⟩ := paired.dealt earlier.length last (by
          rw [split]
          exact concat_found.mpr (.inr ⟨rfl, rfl⟩))
        exact ⟨command, at_j, header.trans named, request ▸ again⟩
    asked := by rwa [dealings]
    answered := by rwa [dealings]
    settled := by
      intro position same
      obtain ⟨dealing, adu, there, begun⟩ := paired.settled position same
      rw [split] at there
      rcases concat_found.mp there with before | ⟨_, rfl⟩
      · rw [dealings]
        exact ⟨dealing, adu, concat_found.mpr (.inl before), begun⟩
      · cases silent.symm.trans begun
    down := by
      intro usable
      rw [dealings, List.take_append_of_le_length within]
      exact down usable
    waits := by
      intro usable j command at_j unanswered
      refine paired.waits usable j command at_j ?_
      by_cases early : j < earlier.length
      · refine unanswered.imp_right fun quiet dealing there => ?_
        rw [split, List.getElem?_append_left early] at there
        rw [dealings] at quiet
        exact quiet dealing (concat_found.mpr (.inl there))
      · exact .inl (by omega)
    told := by
      intro reply response inside
      obtain ⟨point, there, rest⟩ := paired.told reply response inside
      exact ⟨point, grows there, rest⟩ }

/-- The service has answered the request at hand, for a command it had not been asked for before. -/
theorem asks (paired : Paired i client work order sent adus heard) {earlier : List (Dealing MbapHeader)}
    {header : MbapHeader} {request : RequestPdu} {answer : Answer}
    (split : work.dealings = earlier ++ [.new header request]) (live : work.task.phase.isLive = true)
    {next : StreamWork MbapHeader}
    (dealings : next.dealings = amend (fun dealing => { dealing with answer := some answer }) work.dealings)
    (reader : next.reader = work.reader) (arrived : next.arrived = work.arrived)
    (written : next.written = work.written) :
    ∃ command ∈ sent, command.unit = header.unitId ∧ (i, command.reply) ∉ order.map Point.op ∧
      Paired i client next (order ++ [pointOf i command request answer]) sent adus heard := by
  obtain ⟨command, at_last, named, _⟩ := paired.dealt earlier.length (.new header request) (by
    rw [split]
    exact concat_found.mpr (.inr ⟨rfl, rfl⟩))
  have changed : next.dealings = earlier ++ [⟨header, request, some answer, none⟩] := by
    rw [dealings, split, amend_concat]
    rfl
  have before : ∀ point ∈ order, point.op.1 = i → ∃ (j : Nat) (command : Command) (dealing : Dealing MbapHeader)
      (answer : Answer), sent[j]? = some command ∧ earlier[j]? = some dealing ∧ dealing.answer = some answer ∧
        point = pointOf i command dealing.request answer := by
    intro point inside mine
    obtain ⟨j, other, dealing, given, at_j, there, answers, same⟩ := paired.asked point inside mine
    rw [split] at there
    rcases concat_found.mp there with earlier_one | ⟨_, rfl⟩
    · exact ⟨j, other, dealing, given, at_j, earlier_one, answers, same⟩
    · cases answers
  refine ⟨command, List.mem_of_getElem? at_last, (congrArg MbapHeader.unitId named).symm, ?_, ?_⟩
  · intro inside
    obtain ⟨point, there, same⟩ := List.mem_map.mp inside
    obtain ⟨j, other, dealing, given, at_j, place, _, rfl⟩ := before point there (congrArg Prod.fst same)
    have index := paired.same_index at_j at_last (congrArg Prod.snd same)
    exact absurd (List.getElem?_eq_some_iff.mp place).1 (by omega)
  · refine paired.amended split rfl live changed rfl rfl reader arrived ?_ ?_ ?_ (List.subset_append_left _ _)
    · intro point inside mine
      rcases List.mem_append.mp inside with old | latest
      · obtain ⟨j, other, dealing, given, at_j, place, rest⟩ := before point old mine
        exact ⟨j, other, dealing, given, at_j, concat_found.mpr (.inl place), rest⟩
      · exact ⟨_, command, _, answer, at_last, concat_found.mpr (.inr ⟨rfl, rfl⟩), rfl, List.mem_singleton.mp latest⟩
    · intro j other dealing given at_j there answers
      rcases concat_found.mp there with old | ⟨rfl, rfl⟩
      · refine List.mem_append_left _ (paired.answered j other dealing given at_j ?_ answers)
        rw [split]
        exact concat_found.mpr (.inl old)
      · cases at_last.symm.trans at_j
        cases answers
        exact List.mem_append_right _ List.mem_cons_self
    · intro usable
      have conduit := paired.down usable
      rw [StreamWork.replies, split, List.take_append_of_le_length (paired.heard_le_earlier split rfl),
        List.filterMap_append] at conduit
      rw [StreamWork.replies, changed, written, List.filterMap_append]
      exact conduit

theorem replies (paired : Paired i client work order sent adus heard) {earlier : List (Dealing MbapHeader)}
    {header : MbapHeader} {request : RequestPdu} {answer : Answer} {adu part : Bytes}
    (split : work.dealings = earlier ++ [⟨header, request, some answer, none⟩]) (live : work.task.phase.isLive = true)
    (whole : work.written.flatten = work.replies.flatten) (begins : part <+: adu) {next : StreamWork MbapHeader}
    (dealings : next.dealings = amend (fun dealing => { dealing with response := some adu }) work.dealings)
    (reader : next.reader = work.reader) (arrived : next.arrived = work.arrived)
    (written : next.written = work.written ++ [part]) : Paired i client next order sent adus heard := by
  have changed : next.dealings = earlier ++ [⟨header, request, some answer, some adu⟩] := by
    rw [dealings, split, amend_concat]
  refine paired.amended split rfl live changed rfl rfl reader arrived ?_ ?_ ?_ (List.Subset.refl _)
  · intro point inside mine
    obtain ⟨j, command, dealing, given, at_j, there, answers, same⟩ := paired.asked point inside mine
    rw [split] at there
    rcases concat_found.mp there with before | ⟨rfl, rfl⟩
    · exact ⟨j, command, dealing, given, at_j, concat_found.mpr (.inl before), answers, same⟩
    · exact ⟨_, command, _, given, at_j, concat_found.mpr (.inr ⟨rfl, rfl⟩), answers, same⟩
  · intro j command dealing given at_j there answers
    rcases concat_found.mp there with before | ⟨rfl, rfl⟩
    · refine paired.answered j command dealing given at_j ?_ answers
      rw [split]
      exact concat_found.mpr (.inl before)
    · refine paired.answered _ command ⟨header, request, some answer, none⟩ given at_j ?_ answers
      rw [split]
      exact concat_found.mpr (.inr ⟨rfl, rfl⟩)
  · intro usable
    have within := paired.heard_le_earlier split rfl
    have conduit := paired.down usable
    rw [split, List.take_append_of_le_length within] at conduit
    have few : ((earlier.take heard).filterMap Dealing.response).length ≤ work.replies.length := by
      rw [StreamWork.replies, split, List.filterMap_append, List.length_append]
      exact Nat.le_trans ((List.take_sublist _ _).filterMap _).length_le (Nat.le_add_right _ _)
    have more : next.replies = work.replies ++ [adu] := by
      simp [StreamWork.replies, changed, split]
    rw [more, written, List.flatten_append, List.flatten_singleton]
    exact conduit.write whole few begins

end Serving

end Paired

theorem ConnectionTask.step_severed {config : ServerConfig} {requested : Bool} {task next : ConnectionTask MbapHeader}
    {e : Error} (stepped : task.step .tcp config requested (.received (.error e)) = some next) :
    next.phase.isLive = false := by
  obtain ⟨phase, told⟩ := task
  cases phase with
  | receiving =>
    rcases step_failed .tcp config requested e told with ⟨_, _, closed⟩ | ⟨_, reports⟩
    · cases closed.symm.trans stepped
      rfl
    · cases reports.symm.trans stepped
      have fixed : (!ServerFraming.tcp.boundary.isSelfLocating) = true := rfl
      simp [Phase.isLive, fixed]
  | _ => cases stepped

/-- What a task does without bytes from the network or an answer from the service. -/
def StreamPoll.isOwn : StreamPoll → Bool
  | .arrive _ | .answered _ => false
  | _ => true

theorem Paired.serves {i : Nat} {client : ClientEnd} {work next : StreamWork MbapHeader}
    {order : List (Point (Nat × Nat) Call (RequestPdu × Answer))} {sent : List Command} {adus : List Bytes}
    {heard : Nat} {line : TransportConfig} {config : ServerConfig} {requested : Bool} {input : StreamPoll}
    (paired : Paired i client work order sent adus heard) (kept : work.Kept .tcp config) (own : input.isOwn = true)
    (stepped : work.step .tcp line config requested input = some next) :
    Paired i client next order sent adus heard := by
  cases StreamWork.step_moves stepped with
  | plain _ went => exact paired.goes (ConnectionTask.step_live went)
  | arrive | answered => cases own
  | took here reads => exact paired.takes (by rw [here]; rfl) reads _
  | failed _ went => exact paired.fails (ConnectionTask.step_severed went)
  | sent here encoded =>
    obtain ⟨_, earlier, request, answer, split, _⟩ := kept.responding here
    have live : work.task.phase.isLive = true := by rw [here]; rfl
    exact paired.replies split live (kept.whole live) (List.prefix_refl _) rfl rfl rfl rfl
  | broken here encoded =>
    obtain ⟨_, earlier, request, answer, split, _⟩ := kept.responding here
    have live : work.task.phase.isLive = true := by rw [here]; rfl
    exact paired.replies split live (kept.whole live) (List.take_prefix _ _) rfl rfl rfl rfl

end Modbus
