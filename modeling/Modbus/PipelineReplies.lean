import Modbus.PipelineIdentifiers

/-! The reply discipline of the background task: who is answered, with what, and
what a step leaves in the table and among the timers. -/
namespace Modbus.Pipeline

/-- Why a step may answer a channel. -/
inductive Justified (shared : Shared) : Event → Answer → Prop
  | frame {header : MbapHeader} {response : ResponsePdu} {entry : Entry} {command : Command}
      (found : shared.task.inFlight.lookup header.transactionId = some entry)
      (made : command ∈ shared.commands) (own : command.reply = entry.reply)
      (bears : header.transactionId = command.transaction) :
      Justified shared (.received (.ok (header, response))) ⟨entry.reply, .ok response⟩
  | timeout {key : Nat} {transaction : TransactionId} {entry : Entry}
      (found : shared.task.inFlight.lookup transaction = some entry) (own : entry.key = key) :
      Justified shared (.expired key) ⟨entry.reply, .error (.timeout "response")⟩
  | unsent {write : Write} {command : Command} {queue : List Command} {e : Error}
      (heads : shared.queue = command :: queue)
      (fails : (shared.task.sendRequest write
        (ClientFraming.tcp.requestHeader command.unit command.transaction) command.request).1 =
          .error e) :
      Justified shared (.takeUp write) ⟨command.reply, .error e⟩
  | desynchronized {event : Event} {reply : Nat} :
      Justified shared event ⟨reply, .error .desynchronized⟩

/-- What a step may do to the replies. -/
structure Disciplined (setting : Setting) (shared : Shared) (event : Event) (after : Shared) : Prop where
  answers : ∃ new, after.task.answers = shared.task.answers ++ new ∧
    ∀ answer ∈ new, Justified shared event answer
  leaves : ∀ transaction entry, shared.task.inFlight.lookup transaction = some entry →
    after.task.inFlight.lookup transaction = some entry ∨ after.task.Answered entry.reply
  stays : shared.task.desynchronized = true → after.task.desynchronized = true ∧
    after.task.inFlight = ∅ ∧ after.task.written = shared.task.written
  apart : setting.timeoutDesyncs = false → ∀ key, event = .expired key →
    after.task.desynchronized = shared.task.desynchronized ∧
    ∀ transaction entry, shared.task.inFlight.lookup transaction = some entry → entry.key ≠ key →
      after.task.inFlight.lookup transaction = some entry

section Steps

variable {setting : Setting} {shared : Shared} {event : Event} {task : Task}

theorem Disciplined.still {after : Shared} (ledger : shared.task.Ledger shared.channels)
    (same : after.task = shared.task) : Disciplined setting shared event after := by
  refine ⟨⟨[], ?_, ?_⟩, ?_, ?_, ?_⟩
  · rw [same, List.append_nil]
  · intro answer inside
    cases inside
  · intro transaction entry found
    rw [same]
    exact .inl found
  · intro flag
    rw [same]
    exact ⟨flag, ledger.quiet flag, rfl⟩
  · intro _ key _
    rw [same]
    exact ⟨rfl, fun _ _ found _ => found⟩

theorem failures_justified {answer : Answer} (inside : answer ∈ task.failures) :
    Justified shared event answer := by
  obtain ⟨transaction, entry, _, rfl⟩ := Task.mem_failures.mp inside
  exact .desynchronized

theorem Task.GivenUp.leaves {before after : Task} {first : List Answer} (givenUp : before.GivenUp first after)
    {transaction : TransactionId} {entry : Entry}
    (found : before.inFlight.lookup transaction = some entry) : after.Answered entry.reply := by
  rw [Task.Answered, givenUp.answers, List.map_append]
  exact List.mem_append_right _ (Task.mem_failures_reply.mpr ⟨transaction, entry, found, rfl⟩)

theorem Task.Resolved.leaves {before after : Task} {key : Nat} {transaction other : TransactionId}
    {entry kept : Entry} {result : Result ResponsePdu}
    (resolved : before.Resolved key transaction entry result after)
    (found : before.inFlight.lookup other = some kept) :
    after.inFlight.lookup other = some kept ∨ after.Answered kept.reply := by
  by_cases same : other = transaction
  · rw [same, resolved.found] at found
    cases found
    refine .inr ?_
    rw [Task.Answered, resolved.answers, List.map_append]
    exact List.mem_append_right _ List.mem_cons_self
  · refine .inl ?_
    rw [resolved.inFlight, Task.lookup_erase_iff]
    exact ⟨same, found⟩

theorem Task.Resolved.own {before after : Task} {key : Nat} {transaction : TransactionId}
    {entry : Entry} {result : Result ResponsePdu}
    (resolved : before.Resolved key transaction entry result after) (paired : before.Paired) :
    entry.key = key := by
  obtain ⟨mine, there, same⟩ := paired key transaction resolved.timer
  rw [resolved.found] at there
  cases there
  exact same

theorem takeUp_disciplined {write : Write} {command : Command} {queue : List Command}
    (sound : shared.Sound) (heads : shared.queue = command :: queue)
    (absent : shared.task.inFlight.lookup command.transaction = none)
    (took : shared.task.takeUp setting command write = some task) :
    Disciplined setting shared (.takeUp write) { shared with task := task, queue := queue } := by
  cases Task.takenUp sound.ledger.timed took with
  | refused flag =>
    refine ⟨⟨_, rfl, ?_⟩, fun _ _ found => .inl found,
      fun _ => ⟨flag, sound.ledger.quiet flag, rfl⟩, nofun⟩
    intro answer inside
    rw [List.mem_singleton.mp inside]
    exact .desynchronized
  | registered usable _ issued written =>
    refine ⟨⟨[], (List.append_nil _).symm, ?_⟩, ?_, ?_, nofun⟩
    · intro answer inside
      cases inside
    · intro transaction entry found
      refine .inl (Task.lookup_insert_iff.mpr (.inr ⟨?_, found⟩))
      intro same
      rw [same, absent] at found
      cases found
    · intro set
      rw [usable] at set
      cases set
  | failed usable unsent givenUp =>
    refine ⟨⟨_, (givenUp.answers.trans (List.append_assoc _ _ _)), ?_⟩,
      fun _ _ found => .inr (givenUp.leaves found), ?_, nofun⟩
    · intro answer inside
      rcases List.mem_append.mp inside with own | other
      · rw [List.mem_singleton.mp own]
        exact .unsent heads unsent
      · exact failures_justified other
    · intro set
      rw [usable] at set
      cases set

theorem receive_disciplined {received : Result (MbapHeader × ResponsePdu)} (sound : shared.Sound)
    (took : shared.task.receive received = some task) :
    Disciplined setting shared (.received received) { shared with task := task } := by
  cases Task.received sound.ledger.timed took with
  | answered resolved _ =>
    obtain ⟨named, made⟩ := sound.ledger.named _ _ resolved.found
    obtain ⟨command, inside, own⟩ := sound.command made
    refine ⟨⟨_, resolved.answers, ?_⟩, fun _ _ found => resolved.leaves found, ?_, nofun⟩
    · intro answer fresh
      rw [List.mem_singleton.mp fresh]
      refine .frame resolved.found inside own ?_
      rw [named, sound.named command inside, own]
    · intro flag
      exact absurd flag (sound.ledger.usable resolved.found)
  | late => exact .still sound.ledger rfl
  | failed givenUp written =>
    refine ⟨⟨_, givenUp.answers.trans (List.append_assoc _ _ _), ?_⟩,
      fun _ _ found => .inr (givenUp.leaves found),
      fun _ => ⟨givenUp.desynchronized, givenUp.inFlight, written⟩, nofun⟩
    intro answer inside
    exact failures_justified inside

theorem expire_disciplined {key : Nat} (sound : shared.Sound) (paired : shared.task.Paired)
    (took : shared.task.expire setting key = some task) :
    Disciplined setting shared (.expired key) { shared with task := task } := by
  cases Task.expired sound.ledger.timed took with
  | unset => exact .still sound.ledger rfl
  | @stale transaction timer gone =>
    obtain ⟨entry, registered, _⟩ := paired key transaction timer
    rw [gone] at registered
    cases registered
  | alone _ resolved _ =>
    have own := resolved.own paired
    refine ⟨⟨_, resolved.answers, ?_⟩, fun _ _ found => resolved.leaves found,
      fun flag => absurd flag (sound.ledger.usable resolved.found), ?_⟩
    · intro answer fresh
      rw [List.mem_singleton.mp fresh]
      exact .timeout resolved.found own
    · intro _ other same
      cases same
      refine ⟨resolved.desynchronized, ?_⟩
      intro theirs kept found differs
      refine (resolved.inFlight ▸ Task.lookup_erase_iff.mpr ⟨?_, found⟩)
      rintro rfl
      rw [resolved.found] at found
      cases found
      exact differs own
  | @together transaction entry alone _ desyncs resolved _ givenUp =>
    refine ⟨⟨[⟨entry.reply, .error (.timeout "response")⟩] ++ alone.failures, ?_, ?_⟩, ?_,
      fun flag => absurd flag (sound.ledger.usable resolved.found), ?_⟩
    · rw [givenUp.answers, resolved.answers, List.append_nil, List.append_assoc]
    · intro answer inside
      rcases List.mem_append.mp inside with mine | other
      · rw [List.mem_singleton.mp mine]
        exact .timeout resolved.found (resolved.own paired)
      · exact failures_justified other
    · intro theirs kept found
      refine .inr ?_
      rcases resolved.leaves found with still | told
      · exact givenUp.leaves still
      · rw [Task.Answered, givenUp.answers, List.append_nil, List.map_append]
        exact List.mem_append_left _ told
    · intro stays
      rw [desyncs] at stays
      cases stays

theorem step_disciplined {after : Shared} (sound : shared.Sound) (distinct : shared.Distinct)
    (took : shared.step setting event = some after) : Disciplined setting shared event after := by
  cases Shared.stepped took with
  | callers task => exact .still sound.ledger task
  | allocate enters => exact .still sound.ledger rfl
  | enqueue inside => exact .still sound.ledger rfl
  | takeUp heads taken =>
    refine takeUp_disciplined sound heads (distinct.absent _ ?_) taken
    exact (Shared.perm_takeUp heads).mem_iff.mpr List.mem_cons_self
  | received taken => exact receive_disciplined sound taken
  | expired taken => exact expire_disciplined sound distinct.tidy.paired taken

end Steps

/-- Where no identifier is handed out while a request under it is outstanding, every channel is
answered at most once, timers correspond, and nothing panics. -/
theorem replies_disciplined (setting : Setting) (config : PipelineConfig) {shared : Shared}
    (run : Run (Shared.step setting) Shared.Unused (.start config) shared) :
    (shared.task.answers.map Answer.reply).Nodup ∧
    (∀ key transaction, shared.task.deadlines.lookup key = some transaction ↔
      ∃ entry, shared.task.inFlight.lookup transaction = some entry ∧ entry.key = key) ∧
    (shared.task.desynchronized = true → shared.task.inFlight = ∅) ∧
    ∀ event, ∃ after, shared.step setting event = some after ∧
      Disciplined setting shared event after := by
  have sound := Shared.Sound.run run
  have distinct := Shared.Distinct.run run
  refine ⟨sound.ledger.once, ?_, sound.ledger.quiet, ?_⟩
  · intro key transaction
    constructor
    · exact distinct.tidy.paired key transaction
    · intro ⟨entry, found, same⟩
      rw [← same]
      exact sound.ledger.timed transaction entry found
  · intro event
    obtain ⟨after, took⟩ := sound.steps event
    exact ⟨after, took, step_disciplined sound distinct took⟩

/-- One request in flight, whose timer runs out next. -/
theorem expiring_request_disciplined : ∃ shared key after,
    Run (Shared.step overTcp) Shared.Unused (.start twoInFlight) shared ∧ shared.task.Held 0 ∧
    shared.task.deadlines.lookup key = some (idOf 0) ∧
    shared.step overTcp (.expired key) = some after ∧
    Disciplined overTcp shared (.expired key) after := by
  obtain ⟨shared, run, serving⟩ := serving_one Shared.Unused Shared.Unused.onlyAllocations
    fun _ _ _ => ⟨by simp [Shared.pending, Shared.start], rfl⟩
  obtain ⟨entry, registered, first⟩ := serving.registered
  obtain ⟨_, timers, _, steps⟩ := replies_disciplined overTcp twoInFlight run
  obtain ⟨after, took, disciplined⟩ := steps (.expired entry.key)
  exact ⟨shared, entry.key, after, run, ⟨_, entry, registered, first⟩,
    (timers _ _).mpr ⟨entry, registered, rfl⟩, took, disciplined⟩

/-- No identifier is handed out while the table holds a request under it; it may
still be queued. -/
def Unregistered (shared : Shared) : Event → Prop
  | .allocate _ => shared.task.inFlight.lookup shared.nextTransaction = none
  | _ => True

theorem Unregistered.onlyAllocations : Shared.OnlyAllocations Unregistered := by
  intro between event other
  cases event with
  | allocate caller => exact absurd rfl (other caller)
  | _ => trivial

/-- The request with this number. -/
def numbered (number : Nat) : Command := ⟨idOf number, ⟨1⟩, readOne, number⟩

/-- The task has not run yet. The first caller waits, and those after it have given up. -/
structure Queued (count : Nat) (shared : Shared) : Prop where
  sound : shared.Sound
  handled : 0 < shared.handles
  permit : 0 < shared.permits
  channels : shared.channels = count
  nobody : shared.entering = []
  allocated : shared.allocated = []
  queue : shared.queue = (List.range count).map numbered
  waiting : 0 ∈ shared.waiting
  running : shared.ended = false
  task : shared.task = .start

theorem Queued.more {count : Nat} {shared : Shared} (queued : Queued count shared) (later : count ≠ 0) :
    ∃ after, Run (Shared.step overTcp) Unregistered shared after ∧ Queued (count + 1) after := by
  have empty : ∀ transaction, shared.task.inFlight.lookup transaction = none := by
    intro transaction
    rw [queued.task]
    exact AList.lookup_empty transaction
  have submits : Run (Shared.step overTcp) Unregistered shared (shared.submitted ⟨1⟩ readOne) :=
    Shared.submits overTcp Unregistered ⟨1⟩ readOne queued.handled queued.permit
      (by rw [queued.task]; rfl) queued.nobody queued.allocated Unregistered.onlyAllocations fun _ _ _ => empty _
  have waits : count ∈ (shared.submitted ⟨1⟩ readOne).waiting := by
    simp [Shared.submitted, queued.channels]
  have leaves : (shared.submitted ⟨1⟩ readOne).step overTcp (.abandon count) =
      some ((shared.submitted ⟨1⟩ readOne).release count) := if_pos waits
  have run := submits.step (show Unregistered _ (.abandon count) from trivial) leaves
  refine ⟨_, run, ⟨queued.sound.along run, queued.handled, Nat.succ_pos _,
    congrArg (· + 1) queued.channels, queued.nobody, queued.allocated, ?_, ?_, queued.running, queued.task⟩⟩
  · simp [Shared.submitted, Shared.release, queued.queue, queued.channels, queued.sound.numbered,
      List.range_succ, numbered]
  · apply (List.mem_erase_of_ne later.symm).mpr
    exact List.mem_append_left _ queued.waiting

theorem queued_one : ∃ shared,
    Run (Shared.step overTcp) Unregistered (.start twoInFlight) shared ∧ Queued 1 shared := by
  have run : Run (Shared.step overTcp) Unregistered (.start twoInFlight)
      ((Shared.start twoInFlight).submitted ⟨1⟩ readOne) :=
    Shared.submits overTcp Unregistered ⟨1⟩ readOne (by decide) (by decide) rfl rfl rfl
      Unregistered.onlyAllocations fun _ _ _ => rfl
  exact ⟨_, run, ⟨.run run, Nat.one_pos, Nat.one_pos, rfl, rfl, rfl, rfl, List.mem_cons_self, rfl, rfl⟩⟩

theorem queued_many (count : Nat) : ∃ shared,
    Run (Shared.step overTcp) Unregistered (.start twoInFlight) shared ∧ Queued (count + 1) shared := by
  induction count with
  | zero => exact queued_one
  | succ count ih =>
    obtain ⟨shared, reached, queued⟩ := ih
    obtain ⟨after, run, more⟩ := queued.more (Nat.succ_ne_zero count)
    exact ⟨after, reached.trans run, more⟩

theorem drains (numbers : List Nat) (last : List Command) {transaction : TransactionId} {entry : Entry}
    {shared : Shared} (sound : shared.Sound) (running : shared.ended = false)
    (usable : shared.task.desynchronized = false)
    (queue : shared.queue = numbers.map numbered ++ last)
    (found : shared.task.inFlight.lookup transaction = some entry)
    (others : ∀ number ∈ numbers, transaction ≠ idOf number) :
    ∃ after, Run (Shared.step overTcp) Unregistered shared after ∧ after.ended = false ∧
      after.task.desynchronized = false ∧ after.queue = last ∧ after.waiting = shared.waiting ∧
      after.task.inFlight.lookup transaction = some entry := by
  induction numbers generalizing shared with
  | nil => exact ⟨shared, .start, running, usable, queue, rfl, found⟩
  | cons number rest ih =>
    obtain ⟨issued, written, takes⟩ := Shared.takes_up overTcp queue running usable sound.ledger.timed
      (readOne_sends _ _)
    obtain ⟨after, run, left⟩ := ih (sound.step takes) running usable rfl
      (Task.lookup_insert_iff.mpr (.inr ⟨others number List.mem_cons_self, found⟩))
      fun other inside => others other (List.mem_cons_of_mem _ inside)
    have taking : Unregistered shared (.takeUp .done) := trivial
    exact ⟨after, (Run.start.step taking takes).trans run, left⟩

theorem range_ends (count : Nat) :
    List.range (count + 1 + 1) = 0 :: (List.range' 1 count ++ [count + 1]) := by
  rw [List.range_eq_range', List.range'_succ, List.range'_1_concat, Nat.zero_add, Nat.add_comm 1 count]

/-- No identifier is handed out while the table holds it, and still the first caller's entry is
lost: 65536 commands are queued before the task takes up any. -/
theorem queued_identifier_loses_an_entry : ∃ shared transaction entry after,
    Run (Shared.step overTcp) Unregistered (.start twoInFlight) shared ∧
    shared.task.inFlight.lookup transaction = some entry ∧ entry.reply ∈ shared.waiting ∧
    shared.step overTcp (.takeUp .done) = some after ∧
    after.task.inFlight.lookup transaction ≠ some entry ∧ ¬after.task.Answered entry.reply ∧
    after.task.deadlines.lookup entry.key = some transaction ∧
    ∀ other, after.task.inFlight.lookup transaction = some other → other.key ≠ entry.key := by
  obtain ⟨before, reached, queued⟩ := queued_many (65534 + 1)
  have usable : before.task.desynchronized = false := by
    rw [queued.task]
    rfl
  have order : before.queue =
      numbered 0 :: ((List.range' 1 65534).map numbered ++ [numbered 65535]) := by
    rw [queued.queue, range_ends]
    simp only [List.map_cons, List.map_append, List.map_nil]
  obtain ⟨issued, written, takes⟩ := Shared.takes_up overTcp order queued.running usable
    queued.sound.ledger.timed (readOne_sends _ _)
  have others : ∀ number ∈ List.range' 1 65534, idOf 0 ≠ idOf number := by
    intro number inside
    rw [List.mem_range'_1] at inside
    rw [ne_eq, idOf_inj]
    omega
  obtain ⟨shared, drained, running, open_, queue, waiting, found⟩ :=
    drains (List.range' 1 65534) [numbered 65535] (queued.sound.step takes) queued.running usable rfl
      (AList.lookup_insert _) others
  have taking : Unregistered before (.takeUp .done) := trivial
  have run := (reached.step taking takes).trans drained
  have sound := Shared.Sound.run run
  obtain ⟨_, _, last⟩ := Shared.takes_up overTcp queue running open_ sound.ledger.timed
    (readOne_sends _ _)
  have timer := sound.ledger.timed _ _ found
  have fresh := countingKeys.pick_ne timer
  have again : idOf 65535 = idOf 0 := idOf_inj.mpr rfl
  have replaced := AList.lookup_insert (a := idOf 65535)
    (b := (⟨65535, countingKeys.pick shared.task.deadlines.keys⟩ : Entry)) shared.task.inFlight
  rw [again] at replaced
  refine ⟨shared, idOf 0, _, _, run, found, ?_, last, ?_, ?_, ?_, ?_⟩
  · rw [waiting]
    exact queued.waiting
  · intro same
    have entries := replaced.symm.trans (again ▸ same)
    cases entries
  · exact sound.ledger.unanswered 0 ⟨_, _, found, rfl⟩
  · exact Task.lookup_insert_iff.mpr (.inr ⟨fresh, timer⟩)
  · intro other there
    have entries := replaced.symm.trans (again ▸ there)
    cases entries
    exact fresh.symm

end Modbus.Pipeline
