import Modbus.FrameErrors
import Modbus.PipelineIdentifiers

/-! What one caller of the pipelined client can cost the others: the slots that
bound the requests in flight, and a request that does not encode. -/
namespace Modbus.Pipeline

namespace Shared

variable {setting : Setting} {shared after : Shared} {event : Event}

def slots (shared : Shared) : Nat :=
  shared.permits + shared.entering.length + shared.allocated.length + shared.waiting.length

theorem release_slots {reply : Nat} (waits : reply ∈ shared.waiting) :
    (shared.release reply).slots = shared.slots := by
  have shorter := List.length_erase_of_mem waits
  have some_one := List.length_pos_of_mem waits
  simp only [slots, release]
  omega

theorem step_slots (took : shared.step setting event = some after) : after.slots = shared.slots := by
  cases step_moves took with
  | still | takeUp | received | expired | clone | dropHandle | finish => rfl
  | send _ free =>
    simp only [slots, List.length_append, List.length_singleton]
    omega
  | allocate enters =>
    obtain ⟨inside, _⟩ := List.getElem?_eq_some_iff.mp enters
    simp only [slots, List.length_append, List.length_singleton, List.length_eraseIdx_of_lt inside]
    omega
  | enqueue inside =>
    have shorter := List.length_erase_of_mem inside
    have some_one := List.length_pos_of_mem inside
    simp only [slots, List.length_append, List.length_singleton]
    omega
  | abandon waits | resolve _ waits => exact release_slots waits

theorem run_slots {Allowed : Shared → Event → Prop} {config : PipelineConfig}
    (run : Run (Shared.step setting) Allowed (.start config) shared) :
    shared.slots = config.maxInFlight.toNat := by
  have kept : ∀ state event next, state.slots = config.maxInFlight.toNat → Allowed state event →
      Shared.step setting state event = some next → next.slots = config.maxInFlight.toNat := by
    intro state event next kept _ took
    rw [step_slots took, kept]
  exact @Run.invariant _ _ _ _ _ _ (fun state => state.slots = config.maxInFlight.toNat) rfl kept run

end Shared

def Task.replies (task : Task) : List Nat := task.inFlight.entries.map fun registered => registered.2.reply

theorem Task.mem_replies {task : Task} {reply : Nat} : reply ∈ task.replies ↔ task.Held reply := by
  rw [← Task.mem_failures_reply, Task.failures, List.map_map]
  rfl

theorem Task.Ledger.replies_once {task : Task} {channels : Nat} (ledger : task.Ledger channels) :
    task.replies.Nodup := by
  have once := ledger.failures_once
  rwa [Task.failures, List.map_map] at once

theorem pending_bounded {setting : Setting} {Allowed : Shared → Event → Prop} {config : PipelineConfig}
    {shared : Shared} (run : Run (Shared.step setting) Allowed (.start config) shared) :
    (shared.task.replies.filter (· ∈ shared.waiting)).length ≤ config.maxInFlight.toNat := by
  have once := (Shared.Sound.run run).ledger.replies_once
  have waits : shared.task.replies.filter (· ∈ shared.waiting) ⊆ shared.waiting := by
    intro reply inside
    simpa using (List.mem_filter.mp inside).2
  have fewer := ((once.filter _).subperm waits).length_le
  have slots := Shared.run_slots run
  simp only [Shared.slots] at slots
  omega

/-- No caller drops its future while its request is queued or in the table. -/
def Patient (shared : Shared) : Event → Prop
  | .abandon reply => ¬shared.task.Held reply ∧ ∀ command ∈ shared.queue, command.reply ≠ reply
  | _ => True

/-- Every request queued or in the table has its caller waiting. -/
structure Attended (shared : Shared) : Prop where
  held : ∀ reply, shared.task.Held reply → reply ∈ shared.waiting
  queued : ∀ command ∈ shared.queue, command.reply ∈ shared.waiting

namespace Attended

variable {setting : Setting} {shared after : Shared} {event : Event}

theorem release (attended : Attended shared) {reply : Nat} (gone : ¬shared.task.Held reply)
    (taken : ∀ command ∈ shared.queue, command.reply ≠ reply) : Attended (shared.release reply) where
  held other held := by
    refine (List.mem_erase_of_ne ?_).mpr (attended.held other held)
    rintro rfl
    exact gone held
  queued command inside := (List.mem_erase_of_ne (taken command inside)).mpr (attended.queued command inside)

theorem acted (attended : Attended shared) {task : Task} {taken : List Nat}
    {queue : List Command} (moves : shared.task.Moves shared.channels taken task)
    (fresh : ∀ reply ∈ taken, reply ∈ shared.waiting) (left : queue ⊆ shared.queue) :
    Attended { shared with task := task, queue := queue } where
  held reply held := by
    obtain (old | told) | new := moves.known reply (.inl held)
    · exact attended.held reply old
    · obtain ⟨answer, inside, same⟩ := List.mem_map.mp told
      refine absurd ?_ (moves.ledger.unanswered reply held)
      exact List.mem_map.mpr ⟨answer, moves.answers inside, same⟩
    · exact fresh reply new
  queued command inside := attended.queued command (left inside)

theorem enqueue (attended : Attended shared) (command : Command) (allocated : List Command) :
    Attended { shared with
      allocated := allocated
      queue := shared.queue ++ [command]
      waiting := shared.waiting ++ [command.reply] } where
  held reply held := List.mem_append_left _ (attended.held reply held)
  queued other inside := by
    obtain old | new := List.mem_append.mp inside
    · exact List.mem_append_left _ (attended.queued other old)
    · rw [List.mem_singleton.mp new]
      exact List.mem_append_right _ List.mem_cons_self

theorem step (attended : Attended shared) (sound : shared.Sound) (patient : Patient shared event)
    (took : shared.step setting event = some after) : Attended after := by
  cases Shared.step_moves took with
  | still => exact attended
  | send | allocate | clone | dropHandle | finish => exact ⟨attended.held, attended.queued⟩
  | enqueue => exact attended.enqueue _ _
  | abandon => exact attended.release patient.1 patient.2
  | @resolve answer told =>
    have known : shared.task.Answered answer.reply := List.mem_map_of_mem told
    have gone : ¬shared.task.Held answer.reply := fun held => sound.ledger.unanswered _ held known
    have taken : ∀ command ∈ shared.queue, command.reply ≠ answer.reply := by
      intro command inside same
      refine sound.new command (List.mem_append_right _ inside) (.inr ?_)
      rw [same]
      exact known
    have left := attended.release gone taken
    exact ⟨left.held, left.queued⟩
  | takeUp heads taken =>
    refine attended.acted (sound.takeUp heads taken) ?_ ?_
    · intro reply mine
      rw [List.mem_singleton.mp mine]
      exact attended.queued _ (by rw [heads]; exact List.mem_cons_self)
    · rw [heads]
      exact List.subset_cons_self _ _
  | received taken =>
    exact attended.acted ((Task.received sound.ledger.timed taken).moves sound.ledger) (by simp)
      (List.Subset.refl _)
  | expired taken =>
    exact attended.acted ((Task.expired sound.ledger.timed taken).moves sound.ledger) (by simp)
      (List.Subset.refl _)

theorem start (config : PipelineConfig) : Attended (.start config) where
  held reply held := absurd held (Task.not_held_of_empty rfl reply)
  queued _ inside := absurd inside List.not_mem_nil

theorem run {config : PipelineConfig}
    (run : Run (Shared.step setting) Patient (.start config) shared) : Attended shared := by
  have both : shared.Sound ∧ Attended shared := by
    apply Run.invariant ⟨Shared.Sound.start config, Attended.start config⟩ ?_ run
    intro before event after holds patient took
    exact ⟨holds.1.step took, holds.2.step holds.1 patient took⟩
  exact both.2

end Attended

/-- The requests in the table whose callers still wait never exceed the configured number; nor does
the table, if no caller drops its future too early. -/
theorem in_flight_bounded (setting : Setting) (config : PipelineConfig) :
    (∀ shared, Run (Shared.step setting) Anything (.start config) shared →
      (shared.task.replies.filter (· ∈ shared.waiting)).length ≤ config.maxInFlight.toNat) ∧
    ∀ shared, Run (Shared.step setting) Patient (.start config) shared →
      shared.task.inFlight.entries.length ≤ config.maxInFlight.toNat := by
  refine ⟨fun shared run => pending_bounded run, fun shared run => ?_⟩
  have attended := Attended.run run
  have all : shared.task.replies.filter (· ∈ shared.waiting) = shared.task.replies := by
    apply List.filter_eq_self.mpr
    intro reply inside
    simpa using attended.held reply (Task.mem_replies.mp inside)
  have bounded := pending_bounded run
  rw [all] at bounded
  simpa [Task.replies] using bounded

def oneInFlight : PipelineConfig := ⟨60000, 1⟩

/-- A request is registered and answered, and its slot taken again. -/
theorem answered_slot_taken_again : ∃ shared,
    Run (Shared.step overTcp) Patient (.start oneInFlight) shared ∧ shared.returned.length = 1 ∧
    shared.task.inFlight.entries.length = 1 ∧
    shared.task.inFlight.entries.length ≤ oneInFlight.maxInFlight.toNat := by
  have run : Run (Shared.step overTcp) Patient (.start oneInFlight) _ :=
    Run.follow [.send ⟨1⟩ readOne, .allocate 0, .enqueue 0, .takeUp .done,
      .received (.ok (⟨⟨1⟩, ⟨1⟩⟩, .readHoldingRegisters [⟨100⟩])), .resolve 0,
      .send ⟨1⟩ readOne, .allocate 0, .enqueue 1, .takeUp .done] (by simp [Patient]) rfl
  exact ⟨_, run, rfl, rfl, (in_flight_bounded overTcp oneInFlight).2 _ run⟩

/-- With one slot, a caller drops its future after its request has been written: the slot goes
to the next caller at once, and the table holds both requests. -/
theorem dropped_future_keeps_its_entry : ∃ shared,
    Run (Shared.step overTcp) Anything (.start oneInFlight) shared ∧
    oneInFlight.maxInFlight.toNat < shared.task.inFlight.entries.length :=
  ⟨_, Run.follow [.send ⟨1⟩ readOne, .allocate 0, .enqueue 0, .takeUp .done, .abandon 0,
    .send ⟨1⟩ readOne, .allocate 0, .enqueue 1, .takeUp .done] (fun _ _ _ => trivial) rfl, by decide⟩

theorem unencodable_adu {request : RequestPdu} (refused : ∀ pdu, request.encode ≠ .ok pdu)
    (header : MbapHeader) : ∃ e, tcp.encodeRequest header request = .error e := by
  cases encoded : tcp.encodeRequest header request with
  | error e => exact ⟨e, rfl⟩
  | ok adu =>
    have trips : tcp.RoundTrips id := Framing.roundTrips Tcp.seals
    obtain ⟨pdu, encodes⟩ := (trips.request_encodes header request).mp ⟨adu, encoded⟩
    exact absurd encodes (refused pdu)

/-- A request that fails alone: its caller is told the encoding error, nothing is written, and flag,
table and timers are as they were. -/
structure FailsAlone (e : Error) (reply : Nat) (task after : Task) : Prop where
  told : ⟨reply, .error e⟩ ∈ after.answers
  written : after.written = task.written
  desynchronized : after.desynchronized = task.desynchronized
  inFlight : after.inFlight = task.inFlight
  deadlines : after.deadlines = task.deadlines

theorem resolves_first {setting : Setting} {shared : Shared} {reply : Nat} {old new : List Answer}
    {result : Result ResponsePdu} (waits : reply ∈ shared.waiting)
    (answers : shared.task.answers = old ++ ⟨reply, result⟩ :: new)
    (first : reply ∉ old.map Answer.reply) :
    shared.step setting (.resolve reply) =
      some { shared.release reply with returned := shared.returned ++ [⟨reply, result⟩] } := by
  have found : shared.task.answers.find? (·.reply == reply) = some ⟨reply, result⟩ := by
    rw [answers, List.find?_append, List.find?_eq_none.mpr]
    · simp
    · intro answer inside same
      exact first (List.mem_map.mpr ⟨answer, inside, by simpa using same⟩)
  simp only [Shared.step, found, if_pos waits]

/-- In no state does a request that does not encode fail alone: in use the connection is given up,
and once given up the caller is told something else. -/
theorem unencodable_request_never_alone (setting : Setting) (config : PipelineConfig) {shared : Shared}
    (run : Run (Shared.step setting) Anything (.start config) shared) {command : Command}
    {queue : List Command} (heads : shared.queue = command :: queue) (running : shared.ended = false)
    (refused : ∀ pdu, command.request.encode ≠ .ok pdu) (write : Write) :
    ∃ e after, tcp.encodeRequest (ClientFraming.tcp.requestHeader command.unit command.transaction)
        command.request = .error e ∧
      shared.step setting (.takeUp write) = some after ∧ after.task.written = shared.task.written ∧
      (command.reply ∈ shared.waiting → ∃ last, after.step setting (.resolve command.reply) = some last ∧
        last.returned = shared.returned ++ [⟨command.reply,
          .error (if shared.task.desynchronized then .desynchronized else e)⟩]) ∧
      (shared.task.desynchronized = false →
        after.task.desynchronized = true ∧ after.task.inFlight = ∅ ∧
        ∀ transaction entry, shared.task.inFlight.lookup transaction = some entry →
          ⟨entry.reply, .error .desynchronized⟩ ∈ after.task.answers) ∧
      ¬FailsAlone e command.reply shared.task after.task := by
  have sound := Shared.Sound.run run
  obtain ⟨_, new, _, _⟩ := sound.head heads
  have first : command.reply ∉ shared.task.answers.map Answer.reply := fun told => new (.inr told)
  obtain ⟨e, fails⟩ := unencodable_adu refused (ClientFraming.tcp.requestHeader command.unit command.transaction)
  have steps : ∀ task, shared.task.takeUp setting command write = some task →
      shared.step setting (.takeUp write) = some { shared with task := task, queue := queue } := by
    intro task took
    rw [Shared.takeUp_running running heads, took]
    rfl
  cases flag : shared.task.desynchronized with
  | true =>
    have took : shared.task.takeUp setting command write =
        some (shared.task.answer command.reply (.error .desynchronized)) := by rw [Task.takeUp, if_pos flag]
    refine ⟨e, _, fails, steps _ took, rfl, ?_, by rintro ⟨⟩, ?_⟩
    · intro waits
      exact ⟨_, resolves_first waits rfl first, rfl⟩
    · intro alone
      obtain old | told := List.mem_append.mp alone.told
      · exact first (List.mem_map_of_mem old)
      · cases List.mem_singleton.mp told
        cases tcp_costsFrames.encodeRequest _ _ _ fails
  | false =>
    obtain ⟨task, took, givenUp, written⟩ :=
      Task.takeUp_unencodable setting write sound.ledger.timed flag fails
    refine ⟨e, _, fails, steps _ took, written, ?_, fun _ => ⟨givenUp.desynchronized, givenUp.inFlight, ?_⟩, ?_⟩
    · intro waits
      have answers : task.answers = shared.task.answers ++ ⟨command.reply, .error e⟩ :: shared.task.failures :=
        givenUp.answers.trans (List.append_assoc _ _ _)
      exact ⟨_, resolves_first waits answers first, rfl⟩
    · intro transaction entry found
      have failed := Task.mem_failures.mpr ⟨transaction, entry, found, rfl⟩
      dsimp only
      rw [givenUp.answers]
      exact List.mem_append_right _ failed
    · intro alone
      have same := alone.desynchronized
      rw [givenUp.desynchronized, flag] at same
      cases same

def readNone : RequestPdu := .readHoldingRegisters ⟨0⟩ ⟨0⟩

/-- One request in flight, and one that does not encode in the queue. -/
def withUnencodable : List Event :=
  [.send ⟨1⟩ readOne, .allocate 0, .enqueue 0, .takeUp .done, .send ⟨1⟩ readNone, .allocate 0, .enqueue 1]

theorem unencodable_request_returns : ∃ shared after last,
    Run (Shared.step overTcp) Anything (.start twoInFlight) shared ∧
    shared.step overTcp (.takeUp .done) = some after ∧ after.task.written = shared.task.written ∧
    after.step overTcp (.resolve 1) = some last ∧
    last.returned = [⟨1, .error (.outOfRange "quantity" 0 1 125)⟩] := by
  have run : Run (Shared.step overTcp) Anything (.start twoInFlight) _ :=
    Run.follow withUnencodable (fun _ _ _ => trivial) rfl
  obtain ⟨e, after, fails, took, written, returns, _⟩ := unencodable_request_never_alone overTcp twoInFlight run
    rfl rfl (by intro pdu encoded; cases encoded) .done
  obtain ⟨last, resolved, returned⟩ := returns (by decide)
  cases fails
  exact ⟨_, after, last, run, took, written, resolved, returned⟩

/-- The request in flight is failed and the connection given up, on account of another caller's
request that never reached the wire. -/
theorem unencodable_request_fails_the_others : ∃ shared after,
    Run (Shared.step overTcp) Anything (.start twoInFlight) shared ∧ shared.task.Held 0 ∧
    shared.task.desynchronized = false ∧ shared.step overTcp (.takeUp .done) = some after ∧
    after.task.written = shared.task.written ∧ after.task.desynchronized = true ∧
    after.task.inFlight.entries = [] ∧
    after.task.answers = [⟨1, .error (.outOfRange "quantity" 0 1 125)⟩, ⟨0, .error .desynchronized⟩] := by
  have run : Run (Shared.step overTcp) Anything (.start twoInFlight) _ :=
    Run.follow withUnencodable (fun _ _ _ => trivial) rfl
  exact ⟨_, _, run, ⟨⟨1⟩, ⟨0, _⟩, rfl, rfl⟩, rfl, rfl, rfl, rfl, rfl, rfl⟩

end Modbus.Pipeline
