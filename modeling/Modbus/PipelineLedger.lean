import Modbus.PipelineTask

/-! The ledger of reply channels: every channel is named by the number of the
allocation that made it, and is pending, registered or answered. It is kept by
every step, whatever callers, peer and clock do. -/
namespace Modbus.Pipeline

/-- A timer set is none of those already there. -/
theorem KeySupply.pick_ne (keys : KeySupply) {deadlines : AList fun _ : Nat => TransactionId} {key : Nat}
    {transaction : TransactionId} (found : deadlines.lookup key = some transaction) :
    key ≠ keys.pick deadlines.keys := by
  intro same
  apply keys.fresh deadlines.keys
  rw [← same]
  exact AList.mem_keys.mp (AList.lookup_isSome.mp (by rw [found]; rfl))

namespace Task

def Held (task : Task) (reply : Nat) : Prop :=
  ∃ transaction entry, task.inFlight.lookup transaction = some entry ∧ entry.reply = reply

def Answered (task : Task) (reply : Nat) : Prop := reply ∈ task.answers.map Answer.reply

/-- The task has taken up the command that holds this channel. -/
def Known (task : Task) (reply : Nat) : Prop := task.Held reply ∨ task.Answered reply

/-- What the task knows of the channels made so far. -/
structure Ledger (task : Task) (channels : Nat) : Prop where
  timed : task.Timed
  quiet : task.desynchronized = true → task.inFlight = ∅
  named : ∀ transaction entry, task.inFlight.lookup transaction = some entry →
    transaction = idOf entry.reply ∧ entry.reply < channels
  once : (task.answers.map Answer.reply).Nodup
  made : ∀ reply, task.Answered reply → reply < channels
  unanswered : ∀ reply, task.Held reply → ¬task.Answered reply

/-- One action of the task: it takes up these channels and loses none, unless one
entry took the place of another. -/
structure Moves (task : Task) (channels : Nat) (taken : List Nat) (after : Task) : Prop where
  ledger : after.Ledger channels
  known : ∀ reply, after.Known reply → task.Known reply ∨ reply ∈ taken
  kept : ∀ reply, task.Known reply ∨ reply ∈ taken → after.Known reply ∨ reply ∈ after.displaced
  displaced : task.displaced ⊆ after.displaced
  answers : task.answers ⊆ after.answers

section Empty

variable {task : Task} (empty : task.inFlight = ∅)
include empty

theorem not_held_of_empty (reply : Nat) : ¬task.Held reply := by
  rintro ⟨transaction, entry, found, _⟩
  simp [empty] at found

/-- With no request in flight only the answers are left to account for. -/
theorem ledger_of_empty {channels : Nat} (once : (task.answers.map Answer.reply).Nodup)
    (made : ∀ reply, task.Answered reply → reply < channels) : task.Ledger channels where
  timed transaction entry found := by simp [empty] at found
  quiet _ := empty
  named transaction entry found := by simp [empty] at found
  once := once
  made := made
  unanswered reply held := absurd held (not_held_of_empty empty reply)

end Empty

section Actions

variable {task middle after : Task} {channels : Nat}

theorem start_ledger (channels : Nat) : Task.start.Ledger channels := by
  have empty : Task.start.inFlight = ∅ := rfl
  apply ledger_of_empty empty List.nodup_nil
  intro reply answered
  simp [Answered, Task.start] at answered

theorem Ledger.mono (ledger : task.Ledger channels) {more : Nat} (grown : channels ≤ more) :
    task.Ledger more where
  timed := ledger.timed
  quiet := ledger.quiet
  named transaction entry found :=
    ⟨(ledger.named transaction entry found).1,
      Nat.lt_of_lt_of_le (ledger.named transaction entry found).2 grown⟩
  once := ledger.once
  made reply answered := Nat.lt_of_lt_of_le (ledger.made reply answered) grown
  unanswered := ledger.unanswered

theorem Ledger.known_lt (ledger : task.Ledger channels) {reply : Nat} (known : task.Known reply) :
    reply < channels := by
  rcases known with ⟨transaction, entry, found, rfl⟩ | answered
  · exact (ledger.named transaction entry found).2
  · exact ledger.made reply answered

theorem Ledger.usable (ledger : task.Ledger channels) {transaction : TransactionId} {entry : Entry}
    (found : task.inFlight.lookup transaction = some entry) : ¬task.desynchronized = true := by
  intro flag
  simp [ledger.quiet flag] at found

theorem Ledger.still (ledger : task.Ledger channels) : task.Moves channels [] task where
  ledger := ledger
  known reply known := .inl known
  kept reply known := by simpa using known.imp_right (fun none => absurd none List.not_mem_nil)
  displaced := List.Subset.refl _
  answers := List.Subset.refl _

theorem Moves.trans {taken : List Nat} (first : task.Moves channels taken middle)
    (second : middle.Moves channels [] after) : task.Moves channels taken after where
  ledger := second.ledger
  known reply known := by
    rcases second.known reply known with known | none
    · exact first.known reply known
    · exact absurd none List.not_mem_nil
  kept reply known := by
    rcases first.kept reply known with known | displaced
    · exact second.kept reply (.inl known)
    · exact .inr (second.displaced displaced)
  displaced := List.Subset.trans first.displaced second.displaced
  answers := List.Subset.trans first.answers second.answers

/-- An identifier in the table was there before, unless its request is a new one. -/
theorem Moves.found {taken : List Nat} (moves : task.Moves channels taken after)
    (ledger : task.Ledger channels) {transaction : TransactionId} {entry : Entry}
    (found : after.inFlight.lookup transaction = some entry) (old : entry.reply ∉ taken) :
    ∃ before, task.inFlight.lookup transaction = some before := by
  have held : after.Held entry.reply := ⟨transaction, entry, found, rfl⟩
  rcases moves.known entry.reply (.inl held) with (⟨other, before, there, same⟩ | told) | fresh
  · have names : other = transaction := by
      rw [(ledger.named _ _ there).1, (moves.ledger.named _ _ found).1, same]
    exact ⟨before, names ▸ there⟩
  · obtain ⟨answer, inside, same⟩ := List.mem_map.mp told
    refine absurd ?_ (moves.ledger.unanswered _ held)
    exact List.mem_map.mpr ⟨answer, moves.answers inside, same⟩
  · exact absurd fresh old

theorem mem_failures_reply {reply : Nat} :
    reply ∈ task.failures.map Answer.reply ↔ task.Held reply := by
  rw [List.mem_map]
  constructor
  · rintro ⟨answer, inside, rfl⟩
    obtain ⟨transaction, entry, found, rfl⟩ := mem_failures.mp inside
    exact ⟨transaction, entry, found, rfl⟩
  · rintro ⟨transaction, entry, found, rfl⟩
    exact ⟨_, mem_failures.mpr ⟨transaction, entry, found, rfl⟩, rfl⟩

/-- The table holds no channel twice: its identifiers are distinct, and each is that
of the channel's number. -/
theorem Ledger.failures_once (ledger : task.Ledger channels) :
    (task.failures.map Answer.reply).Nodup := by
  apply List.Nodup.of_map idOf
  have keys : (task.failures.map Answer.reply).map idOf = task.inFlight.entries.map Sigma.fst := by
    rw [failures, List.map_map, List.map_map]
    apply List.map_congr_left
    intro registered inside
    exact (ledger.named registered.1 registered.2 (AList.mem_lookup_iff.mpr inside)).1.symm
  rw [keys]
  exact task.inFlight.nodupKeys

theorem Ledger.once_more (ledger : task.Ledger channels) (answer : Answer)
    (new : ¬task.Answered answer.reply) : ((task.answers ++ [answer]).map Answer.reply).Nodup := by
  rw [List.map_append, List.nodup_append]
  refine ⟨ledger.once, List.nodup_singleton _, ?_⟩
  intro reply old other fresh same
  rw [List.map_singleton, List.mem_singleton] at fresh
  subst same fresh
  exact new old

theorem GivenUp.moves {first : List Answer} (givenUp : task.GivenUp first after)
    (ledger : task.Ledger channels) (once : (first.map Answer.reply).Nodup)
    (new : ∀ reply ∈ first.map Answer.reply, reply < channels ∧ ¬task.Known reply) :
    task.Moves channels (first.map Answer.reply) after := by
  have answered : ∀ reply, after.Answered reply ↔
      task.Known reply ∨ reply ∈ first.map Answer.reply := by
    intro reply
    rw [Answered, givenUp.answers, List.map_append, List.map_append, List.mem_append,
      List.mem_append, mem_failures_reply, Known, Answered]
    tauto
  have known : ∀ reply, after.Known reply ↔ after.Answered reply := fun reply =>
    or_iff_right (not_held_of_empty givenUp.inFlight reply)
  refine ⟨ledger_of_empty givenUp.inFlight ?_ ?_, ?_, ?_, ?_, ?_⟩
  · rw [givenUp.answers, List.map_append, List.map_append, List.nodup_append, List.nodup_append]
    refine ⟨⟨ledger.once, once, ?_⟩, ledger.failures_once, ?_⟩
    · rintro reply old _ fresh rfl
      exact (new reply fresh).2 (.inr old)
    · rintro reply told _ failed rfl
      have held := mem_failures_reply.mp failed
      rcases List.mem_append.mp told with old | fresh
      · exact ledger.unanswered reply held old
      · exact (new reply fresh).2 (.inl held)
  · intro reply told
    rcases (answered reply).mp told with old | fresh
    · exact ledger.known_lt old
    · exact (new reply fresh).1
  · intro reply told
    exact (answered reply).mp ((known reply).mp told)
  · intro reply told
    exact .inl ((known reply).mpr ((answered reply).mpr told))
  · rw [givenUp.displaced]
    exact List.Subset.refl _
  · rw [givenUp.answers, List.append_assoc]
    exact List.subset_append_left _ _

theorem Resolved.moves {key : Nat} {transaction : TransactionId} {entry : Entry}
    {result : Result ResponsePdu} (resolved : task.Resolved key transaction entry result after)
    (ledger : task.Ledger channels) : task.Moves channels [] after := by
  have held : task.Held entry.reply := ⟨transaction, entry, resolved.found, rfl⟩
  have answered : ∀ reply, after.Answered reply ↔ task.Answered reply ∨ reply = entry.reply := by
    intro reply
    rw [Answered, resolved.answers, List.map_append, List.mem_append, Answered]
    simp
  have left : ∀ other kept, after.inFlight.lookup other = some kept →
      task.inFlight.lookup other = some kept ∧ kept.reply ≠ entry.reply := by
    intro other kept found
    rw [resolved.inFlight, lookup_erase_iff] at found
    refine ⟨found.2, fun same => found.1 ?_⟩
    rw [(ledger.named _ _ found.2).1, (ledger.named _ _ resolved.found).1, same]
  refine ⟨⟨resolved.timed ledger.timed, ?_, ?_, ?_, ?_, ?_⟩, ?_, ?_, ?_, ?_⟩
  · intro flag
    rw [resolved.desynchronized] at flag
    exact absurd flag (ledger.usable resolved.found)
  · intro other kept found
    exact ledger.named other kept (left other kept found).1
  · rw [resolved.answers]
    exact ledger.once_more _ (ledger.unanswered entry.reply held)
  · intro reply told
    rcases (answered reply).mp told with old | rfl
    · exact ledger.made reply old
    · exact ledger.known_lt (.inl held)
  · rintro reply ⟨other, kept, found, rfl⟩ told
    obtain ⟨before, differs⟩ := left other kept found
    rcases (answered _).mp told with old | same
    · exact ledger.unanswered _ ⟨other, kept, before, rfl⟩ old
    · exact differs same
  · rintro reply (⟨other, kept, found, rfl⟩ | told)
    · exact .inl (.inl ⟨other, kept, (left other kept found).1, rfl⟩)
    · rcases (answered reply).mp told with old | rfl
      · exact .inl (.inr old)
      · exact .inl (.inl held)
  · rintro reply ((⟨other, kept, found, rfl⟩ | old) | none)
    · by_cases same : other = transaction
      · have entries : kept = entry := by
          rw [same, resolved.found] at found
          exact (Option.some.inj found).symm
        exact .inl (.inr ((answered _).mpr (.inr (by rw [entries]))))
      · refine .inl (.inl ⟨other, kept, ?_, rfl⟩)
        rw [resolved.inFlight, lookup_erase_iff]
        exact ⟨same, found⟩
    · exact .inl (.inr ((answered reply).mpr (.inl old)))
    · exact absurd none List.not_mem_nil
  · rw [resolved.displaced]
    exact List.Subset.refl _
  · rw [resolved.answers]
    exact List.subset_append_left _ _

section TakeUp

variable {command : Command} (ledger : task.Ledger channels) (made : command.reply < channels)
  (new : ¬task.Known command.reply)
include ledger made new

theorem refused_moves (flag : task.desynchronized = true) :
    task.Moves channels [command.reply] (task.answer command.reply (.error .desynchronized)) := by
  have empty := ledger.quiet flag
  have still : (task.answer command.reply (.error .desynchronized)).inFlight = ∅ := empty
  have answered : ∀ reply, (task.answer command.reply (.error .desynchronized)).Answered reply ↔
      task.Answered reply ∨ reply = command.reply := by
    intro reply
    simp [Answered, answer]
  refine ⟨ledger_of_empty still ?_ ?_, ?_, ?_, List.Subset.refl _, List.subset_append_left _ _⟩
  · exact ledger.once_more ⟨command.reply, _⟩ fun old => new (.inr old)
  · intro reply told
    rcases (answered reply).mp told with old | rfl
    · exact ledger.made reply old
    · exact made
  · rintro reply (held | told)
    · exact absurd held (not_held_of_empty still reply)
    · rcases (answered reply).mp told with old | rfl
      · exact .inl (.inr old)
      · exact .inr List.mem_cons_self
  · rintro reply ((held | old) | fresh)
    · exact absurd held (not_held_of_empty empty reply)
    · exact .inl (.inr ((answered reply).mpr (.inl old)))
    · exact .inl (.inr ((answered reply).mpr (.inr (List.mem_singleton.mp fresh))))

/-- A new entry may take the place of an older one. The older caller then has no
answer to wait for, but every other entry keeps its timer. -/
theorem registered_moves (keys : KeySupply) (named : command.transaction = idOf command.reply)
    (flag : task.desynchronized = false) (issued : List TransactionId) (written : List Bytes) :
    task.Moves channels [command.reply]
      ({ task with issued := issued, written := written }.register keys command) := by
  refine ⟨⟨?_, ?_, ?_, ledger.once, ledger.made, ?_⟩, ?_, ?_,
    List.subset_append_left _ _, List.Subset.refl _⟩
  · intro transaction entry found
    rcases lookup_insert_iff.mp found with ⟨rfl, rfl⟩ | ⟨_, before⟩
    · exact lookup_insert_iff.mpr (.inl ⟨rfl, rfl⟩)
    · have timer := ledger.timed transaction entry before
      exact lookup_insert_iff.mpr (.inr ⟨keys.pick_ne timer, timer⟩)
  · intro set
    exact absurd (flag.symm.trans set) (by decide)
  · intro transaction entry found
    rcases lookup_insert_iff.mp found with ⟨rfl, rfl⟩ | ⟨_, before⟩
    · exact ⟨named, made⟩
    · exact ledger.named transaction entry before
  · rintro reply ⟨transaction, entry, found, rfl⟩ told
    rcases lookup_insert_iff.mp found with ⟨rfl, rfl⟩ | ⟨_, before⟩
    · exact new (.inr told)
    · exact ledger.unanswered _ ⟨transaction, entry, before, rfl⟩ told
  · rintro reply (⟨transaction, entry, found, rfl⟩ | told)
    · rcases lookup_insert_iff.mp found with ⟨rfl, rfl⟩ | ⟨_, before⟩
      · exact .inr List.mem_cons_self
      · exact .inl (.inl ⟨transaction, entry, before, rfl⟩)
    · exact .inl (.inr told)
  · rintro reply ((⟨transaction, entry, found, rfl⟩ | old) | mine)
    · by_cases same : transaction = command.transaction
      · rw [same] at found
        refine .inr (List.mem_append_right _ ?_)
        simp [found]
      · exact .inl (.inl ⟨transaction, entry, lookup_insert_iff.mpr (.inr ⟨same, found⟩), rfl⟩)
    · exact .inl (.inr old)
    · refine .inl (.inl ⟨command.transaction, _, lookup_insert_iff.mpr (.inl ⟨rfl, rfl⟩), ?_⟩)
      exact (List.mem_singleton.mp mine).symm

theorem TakenUp.moves {keys : KeySupply} {write : Write} (taken : TakenUp keys command write task after)
    (named : command.transaction = idOf command.reply) : task.Moves channels [command.reply] after := by
  cases taken with
  | refused flag => exact refused_moves ledger made new flag
  | registered usable _ issued written =>
    exact registered_moves ledger made new keys named usable issued written
  | failed _ _ givenUp =>
    apply givenUp.moves ledger (List.nodup_singleton _)
    intro reply mine
    rw [List.mem_singleton.mp mine]
    exact ⟨made, new⟩

end TakeUp

theorem Received.moves {received : Result (MbapHeader × ResponsePdu)} (ledger : task.Ledger channels)
    (taken : task.Received received after) : task.Moves channels [] after := by
  cases taken with
  | answered resolved _ => exact resolved.moves ledger
  | late => exact ledger.still
  | failed givenUp _ => exact givenUp.moves ledger List.nodup_nil (by simp)

theorem Expired.moves {setting : Setting} {key : Nat} (ledger : task.Ledger channels)
    (taken : Expired setting key task after) : task.Moves channels [] after := by
  cases taken with
  | unset => exact ledger.still
  | @stale transaction timer gone =>
    refine ⟨⟨?_, ledger.quiet, ledger.named, ledger.once, ledger.made, ledger.unanswered⟩,
      ledger.still.known, ledger.still.kept, List.Subset.refl _, List.Subset.refl _⟩
    intro other entry found
    have theirs := ledger.timed other entry found
    refine lookup_erase_iff.mpr ⟨fun same => ?_, theirs⟩
    rw [same, timer] at theirs
    rw [← Option.some.inj theirs, gone] at found
    cases found
  | alone _ resolved _ => exact resolved.moves ledger
  | together _ resolved _ givenUp =>
    have first := resolved.moves ledger
    exact first.trans (givenUp.moves first.ledger List.nodup_nil (by simp))

end Actions

end Task

end Modbus.Pipeline
