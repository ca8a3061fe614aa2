import Modbus.Pipeline

/-! What the background task can do in one step. Each action is characterised by
the task it leaves, given that every registered request still has its timer; no
action then panics. -/
namespace Modbus.Pipeline.Task

section Lookup

variable {α β : Type} [DecidableEq α] {table : AList fun _ : α => β} {a b : α} {x y : β}

theorem lookup_erase_iff : (table.erase b).lookup a = some x ↔ a ≠ b ∧ table.lookup a = some x := by
  by_cases same : a = b
  · subst same
    simp [AList.lookup_erase]
  · simp [AList.lookup_erase_ne same, same]

theorem lookup_insert_iff : (table.insert b y).lookup a = some x ↔
    (a = b ∧ y = x) ∨ (a ≠ b ∧ table.lookup a = some x) := by
  by_cases same : a = b
  · subst same
    simp [AList.lookup_insert]
  · simp [AList.lookup_insert_ne same, same]

end Lookup

/-- Every registered request has a timer under its key. -/
def Timed (task : Task) : Prop :=
  ∀ transaction entry, task.inFlight.lookup transaction = some entry →
    task.deadlines.lookup entry.key = some transaction

/-- What every registered caller is told when the connection is given up. -/
def failures (task : Task) : List Answer :=
  task.inFlight.entries.map fun registered => ⟨registered.2.reply, .error .desynchronized⟩

/-- The timers left when those of every registered request are cancelled. -/
def Cancelled (task : Task) (deadlines : AList fun _ : Nat => TransactionId) : Prop :=
  ∀ key transaction, deadlines.lookup key = some transaction ↔
    task.deadlines.lookup key = some transaction ∧
      ∀ registered entry, task.inFlight.lookup registered = some entry → entry.key ≠ key

theorem mem_failures {task : Task} {answer : Answer} :
    answer ∈ task.failures ↔ ∃ transaction entry,
      task.inFlight.lookup transaction = some entry ∧ answer = ⟨entry.reply, .error .desynchronized⟩ := by
  rw [failures, List.mem_map]
  constructor
  · rintro ⟨⟨transaction, entry⟩, inside, rfl⟩
    exact ⟨transaction, entry, AList.mem_lookup_iff.mpr inside, rfl⟩
  · rintro ⟨transaction, entry, found, rfl⟩
    exact ⟨⟨transaction, entry⟩, AList.mem_lookup_iff.mp found, rfl⟩

theorem removeTimer_found {task : Task} {key : Nat} {transaction : TransactionId}
    (found : task.deadlines.lookup key = some transaction) :
    task.removeTimer key = some { task with deadlines := task.deadlines.erase key } := by
  have inside : key ∈ task.deadlines := AList.lookup_isSome.mp (by simp [found])
  rw [removeTimer, if_pos inside]

theorem failEach_timed (entries : List (Sigma fun _ : TransactionId => Entry)) (task : Task)
    (timed : ∀ registered ∈ entries,
      task.deadlines.lookup registered.2.key = some registered.1)
    (distinct : (entries.map Sigma.fst).Nodup) :
    ∃ deadlines, failEach entries task = some { task with
        deadlines := deadlines
        answers := task.answers ++
          entries.map fun registered => ⟨registered.2.reply, .error .desynchronized⟩ } ∧
      ∀ key transaction, deadlines.lookup key = some transaction ↔
        task.deadlines.lookup key = some transaction ∧
          ∀ registered ∈ entries, registered.2.key ≠ key := by
  induction entries generalizing task with
  | nil => exact ⟨task.deadlines, by simp [failEach], by simp⟩
  | cons registered rest ih =>
    obtain ⟨transaction, entry⟩ := registered
    have mine := timed _ List.mem_cons_self
    obtain ⟨absent, distinct⟩ := List.nodup_cons.mp distinct
    have others : ∀ registered ∈ rest, entry.key ≠ registered.2.key := by
      intro registered inside same
      have theirs := timed registered (List.mem_cons_of_mem _ inside)
      rw [← same, mine] at theirs
      exact absent (List.mem_map.mpr ⟨registered, inside, (Option.some.inj theirs).symm⟩)
    have still : ∀ registered ∈ rest, ({ task with deadlines := task.deadlines.erase entry.key }.answer
        entry.reply (.error .desynchronized)).deadlines.lookup registered.2.key =
          some registered.1 := by
      intro registered inside
      exact lookup_erase_iff.mpr ⟨(others registered inside).symm,
        timed registered (List.mem_cons_of_mem _ inside)⟩
    obtain ⟨deadlines, failed, left⟩ := ih _ still distinct
    refine ⟨deadlines, ?_, ?_⟩
    · rw [failEach, removeTimer_found mine]
      refine failed.trans ?_
      simp [answer]
    · intro key other
      rw [left, answer, lookup_erase_iff]
      simp only [List.forall_mem_cons]
      constructor
      · rintro ⟨⟨differs, found⟩, free⟩
        exact ⟨found, fun same => differs same.symm, free⟩
      · rintro ⟨found, differs, free⟩
        exact ⟨⟨fun same => differs same.symm, found⟩, free⟩

theorem failAll_timed {task : Task} (timed : task.Timed) :
    ∃ deadlines, task.failAll = some { task with
        inFlight := ∅
        deadlines := deadlines
        answers := task.answers ++ task.failures } ∧ task.Cancelled deadlines := by
  obtain ⟨deadlines, failed, left⟩ := failEach_timed task.inFlight.entries { task with inFlight := ∅ }
    (fun registered inside => timed registered.1 registered.2 (AList.mem_lookup_iff.mpr inside))
    task.inFlight.nodupKeys
  refine ⟨deadlines, failed, fun key transaction => (left key transaction).trans ?_⟩
  refine and_congr_right fun _ => ⟨fun free registered entry found => ?_, fun free registered inside => ?_⟩
  · exact free ⟨registered, entry⟩ (AList.mem_lookup_iff.mp found)
  · exact free registered.1 registered.2 (AList.mem_lookup_iff.mpr inside)

/-- The connection is given up, after the given answers. -/
structure GivenUp (task : Task) (first : List Answer) (after : Task) : Prop where
  desynchronized : after.desynchronized = true
  inFlight : after.inFlight = ∅
  deadlines : task.Cancelled after.deadlines
  answers : after.answers = task.answers ++ first ++ task.failures
  delivered : after.delivered = task.delivered
  displaced : after.displaced = task.displaced

theorem failAll_givenUp {task : Task} (timed : task.Timed) (issued : List TransactionId)
    (written : List Bytes) (first : List Answer) :
    ∃ after, failAll { task with
        issued := issued
        written := written
        desynchronized := true
        answers := task.answers ++ first } = some after ∧
      task.GivenUp first after ∧ after.written = written := by
  obtain ⟨deadlines, failed, cancelled⟩ := failAll_timed
    (show Timed { task with
      issued := issued
      written := written
      desynchronized := true
      answers := task.answers ++ first } from timed)
  exact ⟨_, failed, ⟨rfl, rfl, cancelled, rfl, rfl, rfl⟩, rfl⟩

theorem desynchronize_givenUp {task : Task} (timed : task.Timed) :
    ∃ after, task.desynchronize = some after ∧ task.GivenUp [] after ∧ after.written = task.written := by
  obtain ⟨after, failed, givenUp, kept⟩ := failAll_givenUp timed task.issued task.written []
  rw [List.append_nil] at failed
  exact ⟨after, failed, givenUp, kept⟩

theorem takeUp_unencodable (setting : Setting) {command : Command} (write : Write) {task : Task} {e : Error}
    (timed : task.Timed) (usable : task.desynchronized = false)
    (fails : tcp.encodeRequest (ClientFraming.tcp.requestHeader command.unit command.transaction)
      command.request = .error e) :
    ∃ after, task.takeUp setting command write = some after ∧
      task.GivenUp [⟨command.reply, .error e⟩] after ∧ after.written = task.written := by
  have running : ¬task.desynchronized = true := by simp [usable]
  rw [takeUp, if_neg running]
  simp only [sendRequest, fails]
  exact failAll_givenUp timed (command.transaction :: task.issued) task.written
    [⟨command.reply, .error e⟩]

/-- Taking up a command: it is refused, or registered, or its write fails. -/
inductive TakenUp (keys : KeySupply) (command : Command) (write : Write) (task : Task) : Task → Prop
  | refused (flag : task.desynchronized = true) :
      TakenUp keys command write task (task.answer command.reply (.error .desynchronized))
  | registered (usable : task.desynchronized = false)
      (sent : (task.sendRequest write
        (ClientFraming.tcp.requestHeader command.unit command.transaction) command.request).1 = .ok ())
      (issued : List TransactionId) (written : List Bytes) :
      TakenUp keys command write task
        ({ task with issued := issued, written := written }.register keys command)
  | failed {e : Error} {after : Task} (usable : task.desynchronized = false)
      (unsent : (task.sendRequest write
        (ClientFraming.tcp.requestHeader command.unit command.transaction) command.request).1 = .error e)
      (givenUp : task.GivenUp [⟨command.reply, .error e⟩] after) :
      TakenUp keys command write task after

theorem takeUp_some (setting : Setting) (command : Command) (write : Write) {task : Task}
    (timed : task.Timed) : ∃ after, task.takeUp setting command write = some after ∧
      TakenUp setting.keys command write task after := by
  rcases Bool.eq_false_or_eq_true task.desynchronized with flag | usable
  · rw [takeUp, if_pos flag]
    exact ⟨_, rfl, .refused flag⟩
  · cases encoded : tcp.encodeRequest
      (ClientFraming.tcp.requestHeader command.unit command.transaction) command.request with
    | error e =>
      obtain ⟨after, failed, givenUp, _⟩ := takeUp_unencodable setting write timed usable encoded
      exact ⟨after, failed, .failed usable (by simp only [sendRequest, encoded]) givenUp⟩
    | ok adu =>
      have running : ¬task.desynchronized = true := by simp [usable]
      rw [takeUp, if_neg running]
      simp only [sendRequest, encoded]
      cases write with
      | done =>
        have sent : (task.sendRequest .done (ClientFraming.tcp.requestHeader command.unit
            command.transaction) command.request).1 = .ok () := by simp only [sendRequest, encoded]
        exact ⟨_, rfl, .registered usable sent (command.transaction :: task.issued)
          (task.written ++ [adu])⟩
      | failed accepted failure =>
        obtain ⟨after, failed, givenUp, _⟩ := failAll_givenUp timed (command.transaction :: task.issued)
          (task.written ++ [adu.take accepted]) [⟨command.reply, .error failure.error⟩]
        exact ⟨after, failed, .failed usable (by simp only [sendRequest, encoded]) givenUp⟩

theorem takenUp {setting : Setting} {command : Command} {write : Write} {task after : Task}
    (timed : task.Timed) (took : task.takeUp setting command write = some after) :
    TakenUp setting.keys command write task after := by
  obtain ⟨left, takes, taken⟩ := takeUp_some setting command write timed
  cases Option.some.inj (takes.symm.trans took)
  exact taken

/-- The request under this identifier is answered and leaves the table, with one of
the timers set for the identifier. -/
structure Resolved (task : Task) (key : Nat) (transaction : TransactionId) (entry : Entry)
    (result : Result ResponsePdu) (after : Task) : Prop where
  timer : task.deadlines.lookup key = some transaction
  found : task.inFlight.lookup transaction = some entry
  inFlight : after.inFlight = task.inFlight.erase transaction
  deadlines : after.deadlines = task.deadlines.erase key
  answers : after.answers = task.answers ++ [⟨entry.reply, result⟩]
  desynchronized : after.desynchronized = task.desynchronized
  displaced : after.displaced = task.displaced
  written : after.written = task.written

theorem Resolved.timed {task after : Task} {key : Nat} {transaction : TransactionId} {entry : Entry}
    {result : Result ResponsePdu} (resolved : task.Resolved key transaction entry result after)
    (timed : task.Timed) : after.Timed := by
  intro other kept inside
  rw [resolved.inFlight, lookup_erase_iff] at inside
  rw [resolved.deadlines, lookup_erase_iff]
  refine ⟨?_, timed other kept inside.2⟩
  rintro rfl
  have same := (timed other kept inside.2).symm.trans resolved.timer
  exact inside.1 (Option.some.inj same)

theorem receive_registered {task : Task} {header : MbapHeader} {response : ResponsePdu} {entry : Entry}
    (found : task.inFlight.lookup header.transactionId = some entry)
    (timer : task.deadlines.lookup entry.key = some header.transactionId) :
    task.receive (.ok (header, response)) = some { task with
      inFlight := task.inFlight.erase header.transactionId
      deadlines := task.deadlines.erase entry.key
      delivered := task.delivered ++ [(entry.reply, header, response)]
      answers := task.answers ++ [⟨entry.reply, .ok response⟩] } := by
  have cancels : removeTimer entry.key { task with
      inFlight := task.inFlight.erase header.transactionId } = some { task with
        inFlight := task.inFlight.erase header.transactionId
        deadlines := task.deadlines.erase entry.key } := removeTimer_found timer
  simp only [receive, found, cancels]
  rfl

/-- Receiving: the registered caller is answered, a late reply is dropped, or the
connection is given up. -/
inductive Received (task : Task) : Result (MbapHeader × ResponsePdu) → Task → Prop
  | answered {header : MbapHeader} {response : ResponsePdu} {entry : Entry} {after : Task}
      (resolved : task.Resolved entry.key header.transactionId entry (.ok response) after)
      (delivered : after.delivered = task.delivered ++ [(entry.reply, header, response)]) :
      Received task (.ok (header, response)) after
  | late {received : Result (MbapHeader × ResponsePdu)} : Received task received task
  | failed {received : Result (MbapHeader × ResponsePdu)} {after : Task}
      (givenUp : task.GivenUp [] after) (written : after.written = task.written) :
      Received task received after

theorem receive_some (received : Result (MbapHeader × ResponsePdu)) {task : Task}
    (timed : task.Timed) :
    ∃ after, task.receive received = some after ∧ Received task received after := by
  obtain ⟨given, failed, givenUp, written⟩ := desynchronize_givenUp timed
  cases received with
  | error e => exact ⟨given, failed, .failed givenUp written⟩
  | ok frame =>
    obtain ⟨header, response⟩ := frame
    cases found : task.inFlight.lookup header.transactionId with
    | some entry =>
      have timer := timed _ _ found
      exact ⟨_, receive_registered found timer,
        .answered ⟨timer, found, rfl, rfl, rfl, rfl, rfl, rfl⟩ rfl⟩
    | none =>
      simp only [receive, found]
      by_cases issued : header.transactionId ∈ task.issued
      · simp only [issued, if_true]
        exact ⟨task, rfl, .late⟩
      · simp only [issued, if_false]
        exact ⟨given, failed, .failed givenUp written⟩

theorem received {received : Result (MbapHeader × ResponsePdu)} {task after : Task}
    (timed : task.Timed) (took : task.receive received = some after) :
    Received task received after := by
  obtain ⟨left, takes, taken⟩ := receive_some received timed
  cases Option.some.inj (takes.symm.trans took)
  exact taken

/-- A timer runs out: it is not in the queue, or its request is gone, or the request
fails, alone or with every other. -/
inductive Expired (setting : Setting) (key : Nat) (task : Task) : Task → Prop
  | unset : Expired setting key task task
  | stale {transaction : TransactionId} (timer : task.deadlines.lookup key = some transaction)
      (gone : task.inFlight.lookup transaction = none) :
      Expired setting key task { task with deadlines := task.deadlines.erase key }
  | alone {transaction : TransactionId} {entry : Entry} {after : Task}
      (stays : setting.timeoutDesyncs = false)
      (resolved : task.Resolved key transaction entry (.error (.timeout "response")) after)
      (delivered : after.delivered = task.delivered) : Expired setting key task after
  | together {transaction : TransactionId} {entry : Entry} {middle after : Task}
      (desyncs : setting.timeoutDesyncs = true)
      (resolved : task.Resolved key transaction entry (.error (.timeout "response")) middle)
      (delivered : middle.delivered = task.delivered) (givenUp : middle.GivenUp [] after) :
      Expired setting key task after

theorem expire_some (setting : Setting) (key : Nat) {task : Task} (timed : task.Timed) :
    ∃ after, task.expire setting key = some after ∧ Expired setting key task after := by
  unfold expire
  cases timer : task.deadlines.lookup key with
  | none => exact ⟨task, rfl, .unset⟩
  | some transaction =>
    cases found : task.inFlight.lookup transaction with
    | none =>
      simp only [found]
      exact ⟨_, rfl, .stale timer found⟩
    | some entry =>
      have resolved : task.Resolved key transaction entry (.error (.timeout "response"))
          ({ task with
            deadlines := task.deadlines.erase key
            inFlight := task.inFlight.erase transaction }.answer entry.reply
              (.error (.timeout "response"))) :=
        ⟨timer, found, rfl, rfl, rfl, rfl, rfl, rfl⟩
      simp only [found]
      cases desyncs : setting.timeoutDesyncs with
      | false => exact ⟨_, rfl, .alone desyncs resolved rfl⟩
      | true =>
        obtain ⟨after, failed, givenUp, _⟩ := desynchronize_givenUp (resolved.timed timed)
        exact ⟨after, failed, .together desyncs resolved rfl givenUp⟩

theorem expired {setting : Setting} {key : Nat} {task after : Task} (timed : task.Timed)
    (took : task.expire setting key = some after) : Expired setting key task after := by
  obtain ⟨left, takes, taken⟩ := expire_some setting key timed
  cases Option.some.inj (takes.symm.trans took)
  exact taken

end Modbus.Pipeline.Task
