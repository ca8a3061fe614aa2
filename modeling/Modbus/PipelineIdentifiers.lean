import Modbus.PipelineSteps

/-! Identifiers in use. As long as none is handed out while a request under it is
outstanding, no entry of the table takes the place of another, and table and timers
stay paired. The counter does not see to that itself. -/
namespace Modbus.Pipeline

namespace Task

/-- Every timer is that of the request registered under its identifier. -/
def Paired (task : Task) : Prop :=
  ∀ key transaction, task.deadlines.lookup key = some transaction →
    ∃ entry, task.inFlight.lookup transaction = some entry ∧ entry.key = key

/-- No entry has taken the place of another, and no timer outlives its request. -/
structure Tidy (task : Task) : Prop where
  paired : task.Paired
  displaced : task.displaced = []

section Actions

variable {setting : Setting} {task after : Task}

theorem GivenUp.tidy {first : List Answer} (givenUp : task.GivenUp first after) (tidy : task.Tidy) :
    after.Tidy := by
  refine ⟨?_, givenUp.displaced.trans tidy.displaced⟩
  intro key transaction found
  obtain ⟨before, free⟩ := (givenUp.deadlines key transaction).mp found
  obtain ⟨entry, registered, same⟩ := tidy.paired key transaction before
  exact absurd same (free transaction entry registered)

theorem Resolved.tidy {key : Nat} {transaction : TransactionId} {entry : Entry}
    {result : Result ResponsePdu} (resolved : task.Resolved key transaction entry result after)
    (tidy : task.Tidy) : after.Tidy := by
  refine ⟨?_, resolved.displaced.trans tidy.displaced⟩
  intro other theirs found
  rw [resolved.deadlines, lookup_erase_iff] at found
  obtain ⟨kept, registered, same⟩ := tidy.paired other theirs found.2
  refine ⟨kept, ?_, same⟩
  rw [resolved.inFlight, lookup_erase_iff]
  refine ⟨?_, registered⟩
  rintro rfl
  obtain ⟨mine, there, key⟩ := tidy.paired _ _ resolved.timer
  rw [registered] at there
  exact found.1 (same.symm.trans ((Option.some.inj there) ▸ key))

theorem register_tidy (keys : KeySupply) {command : Command} (tidy : task.Tidy)
    (absent : task.inFlight.lookup command.transaction = none) (issued : List TransactionId)
    (written : List Bytes) :
    ({ task with issued := issued, written := written }.register keys command).Tidy := by
  refine ⟨?_, ?_⟩
  · intro key transaction found
    rcases lookup_insert_iff.mp found with ⟨rfl, rfl⟩ | ⟨_, before⟩
    · exact ⟨_, lookup_insert_iff.mpr (.inl ⟨rfl, rfl⟩), rfl⟩
    · obtain ⟨entry, registered, same⟩ := tidy.paired key transaction before
      refine ⟨entry, lookup_insert_iff.mpr (.inr ⟨?_, registered⟩), same⟩
      intro names
      rw [names, absent] at registered
      cases registered
  · simp [register, tidy.displaced, absent]

theorem TakenUp.tidy {keys : KeySupply} {command : Command} {write : Write}
    (taken : TakenUp keys command write task after) (tidy : task.Tidy)
    (absent : task.inFlight.lookup command.transaction = none) : after.Tidy := by
  cases taken with
  | refused _ => exact ⟨tidy.paired, tidy.displaced⟩
  | registered _ _ issued written => exact register_tidy keys tidy absent issued written
  | failed _ _ givenUp => exact givenUp.tidy tidy

theorem Received.tidy {received : Result (MbapHeader × ResponsePdu)}
    (taken : task.Received received after) (tidy : task.Tidy) : after.Tidy := by
  cases taken with
  | answered resolved _ => exact resolved.tidy tidy
  | late => exact tidy
  | failed givenUp _ => exact givenUp.tidy tidy

theorem Expired.tidy {key : Nat} (taken : Expired setting key task after) (tidy : task.Tidy) :
    after.Tidy := by
  cases taken with
  | unset => exact tidy
  | @stale transaction timer gone =>
    obtain ⟨entry, registered, _⟩ := tidy.paired key transaction timer
    rw [gone] at registered
    cases registered
  | alone _ resolved _ => exact resolved.tidy tidy
  | together _ resolved _ givenUp => exact givenUp.tidy (resolved.tidy tidy)

end Actions

end Task

namespace Shared

/-- Identifiers of pending requests differ, and none of them is registered; so no
caller loses its channel. -/
structure Distinct (shared : Shared) : Prop where
  apart : (shared.pending.map Command.transaction).Nodup
  absent : ∀ command ∈ shared.pending, shared.task.inFlight.lookup command.transaction = none
  tidy : shared.task.Tidy
  awaited : ∀ reply ∈ shared.waiting,
    (∃ command ∈ shared.queue, command.reply = reply) ∨ shared.task.Known reply

/-- No identifier is handed out while a request under it is outstanding. -/
def Unused (shared : Shared) : Event → Prop
  | .allocate _ => (∀ command ∈ shared.pending, command.transaction ≠ shared.nextTransaction) ∧
      shared.task.inFlight.lookup shared.nextTransaction = none
  | _ => True

namespace Distinct

variable {setting : Setting} {shared after : Shared} {event : Event}

theorem start (config : PipelineConfig) : (Shared.start config).Distinct where
  apart := List.nodup_nil
  absent := by simp [Shared.start, pending]
  tidy := by
    refine ⟨?_, rfl⟩
    intro key transaction found
    simp [Shared.start, Task.start] at found
  awaited := by simp [Shared.start]

theorem acted (distinct : shared.Distinct) (sound : shared.Sound) {task : Task} {taken : List Nat}
    {queue : List Command} (moves : shared.task.Moves shared.channels taken task) (tidy : task.Tidy)
    (left : (shared.allocated ++ queue).Sublist shared.pending)
    (others : ∀ command ∈ shared.allocated ++ queue, ∀ reply ∈ taken,
      command.transaction ≠ idOf reply)
    (covered : ∀ command ∈ shared.queue, command ∈ queue ∨ command.reply ∈ taken) :
    Distinct { shared with task := task, queue := queue } := by
  have keeps : ∀ reply, shared.task.Known reply ∨ reply ∈ taken → task.Known reply := by
    intro reply known
    have kept := moves.kept reply known
    rw [tidy.displaced] at kept
    exact kept.resolve_right List.not_mem_nil
  refine ⟨distinct.apart.sublist (left.map Command.transaction), ?_, tidy, ?_⟩
  · intro command inside
    rw [Option.eq_none_iff_forall_ne_some]
    intro entry found
    by_cases fresh : entry.reply ∈ taken
    · exact others command inside _ fresh (moves.ledger.named _ _ found).1
    · obtain ⟨before, there⟩ := moves.found sound.ledger found fresh
      rw [distinct.absent command (left.subset inside)] at there
      cases there
  · intro reply waits
    rcases distinct.awaited reply waits with ⟨command, inside, rfl⟩ | known
    · rcases covered command inside with still | fresh
      · exact .inl ⟨command, still, rfl⟩
      · exact .inr (keeps _ (.inr fresh))
    · exact .inr (keeps reply (.inl known))

theorem step (distinct : shared.Distinct) (sound : shared.Sound) (unused : shared.Unused event)
    (took : shared.step setting event = some after) : after.Distinct := by
  cases stepped took with
  | callers task nextTransaction channels commands allocated queue waiting returned =>
    have same : after.pending = shared.pending := by rw [pending, pending, allocated, queue]
    refine ⟨?_, ?_, ?_, ?_⟩
    · rw [same]; exact distinct.apart
    · rw [same, task]; exact distinct.absent
    · rw [task]; exact distinct.tidy
    · rw [task, queue]
      intro reply waits
      exact distinct.awaited reply (waiting waits)
  | @allocate caller unit request enters =>
    have order := perm_allocate shared ⟨shared.nextTransaction, unit, request, shared.channels⟩
    refine ⟨?_, ?_, distinct.tidy, distinct.awaited⟩
    · refine ((order.map Command.transaction).nodup_iff).mpr (List.nodup_cons.mpr ⟨?_, distinct.apart⟩)
      intro inside
      obtain ⟨command, there, same⟩ := List.mem_map.mp inside
      exact unused.1 command there same
    · intro command inside
      rcases List.mem_cons.mp (order.mem_iff.mp inside) with rfl | old
      · exact unused.2
      · exact distinct.absent command old
  | @enqueue command inside =>
    have order := perm_enqueue inside
    refine ⟨((order.map Command.transaction).nodup_iff).mpr distinct.apart,
      fun other there => distinct.absent other (order.subset there), distinct.tidy, ?_⟩
    intro reply waits
    rcases List.mem_append.mp waits with old | fresh
    · rcases distinct.awaited reply old with ⟨queued, there, same⟩ | known
      · exact .inl ⟨queued, List.mem_append_left _ there, same⟩
      · exact .inr known
    · exact .inl ⟨command, List.mem_append_right _ List.mem_cons_self,
        (List.mem_singleton.mp fresh).symm⟩
  | @takeUp write command queue task heads taken =>
    have order := perm_takeUp heads
    have apart := List.nodup_cons.mp (((order.map Command.transaction).nodup_iff).mp distinct.apart)
    have absent := distinct.absent command (order.mem_iff.mpr List.mem_cons_self)
    have tidy := (Task.takenUp sound.ledger.timed taken).tidy distinct.tidy absent
    refine distinct.acted sound (sound.takeUp heads taken) tidy (Sound.tail_sublist heads) ?_ ?_
    · intro other there reply fresh same
      rw [List.mem_singleton.mp fresh, ← (sound.head heads).2.2.1] at same
      exact apart.1 (List.mem_map.mpr ⟨other, there, same⟩)
    · intro other there
      rw [heads] at there
      rcases List.mem_cons.mp there with rfl | still
      · exact .inr List.mem_cons_self
      · exact .inl still
  | received taken =>
    have received := Task.received sound.ledger.timed taken
    exact distinct.acted sound (received.moves sound.ledger) (received.tidy distinct.tidy)
      (List.Sublist.refl _) (by simp) fun _ there => .inl there
  | expired taken =>
    have expired := Task.expired sound.ledger.timed taken
    exact distinct.acted sound (expired.moves sound.ledger) (expired.tidy distinct.tidy)
      (List.Sublist.refl _) (by simp) fun _ there => .inl there

theorem run {config : PipelineConfig} (run : Run (Shared.step setting) Unused (.start config) shared) :
    shared.Distinct := by
  have both : shared.Sound ∧ shared.Distinct := by
    apply Run.invariant ⟨Sound.start config, Distinct.start config⟩ ?_ run
    intro before event after holds unused took
    exact ⟨holds.1.step took, holds.2.step holds.1 unused took⟩
  exact both.2

end Distinct

/-- A caller that has an identifier and whose request is still to be answered. -/
def Outstanding (shared : Shared) (reply : Nat) : Prop :=
  (∃ command ∈ shared.pending, command.reply = reply) ∨ shared.task.Held reply

/-- When an identifier is handed out, no request is outstanding whose own was handed
out a multiple of 65535 allocations before. -/
def Spaced (shared : Shared) : Event → Prop
  | .allocate _ => ∀ reply, shared.Outstanding reply → ¬65535 ∣ shared.channels - reply
  | _ => True

theorem Sound.few {shared : Shared} (sound : shared.Sound) (few : shared.channels < 65535) :
    ∀ reply, shared.Outstanding reply → ¬65535 ∣ shared.channels - reply := by
  intro reply outstanding divides
  have made : reply < shared.channels := by
    rcases outstanding with ⟨command, inside, rfl⟩ | held
    · exact sound.made_lt (sound.issued inside)
    · exact sound.ledger.known_lt (.inl held)
  have large := Nat.le_of_dvd (by omega) divides
  omega

theorem Sound.unused {shared : Shared} (sound : shared.Sound) {event : Event}
    (spaced : shared.Spaced event) : shared.Unused event := by
  cases event with
  | allocate caller =>
    have differs : ∀ reply, shared.Outstanding reply → reply < shared.channels →
        idOf reply ≠ shared.nextTransaction := by
      intro reply outstanding made same
      rw [sound.numbered, idOf_inj] at same
      exact spaced reply outstanding (Nat.dvd_of_mod_eq_zero (Nat.sub_mod_eq_zero_of_mod_eq same.symm))
    refine ⟨?_, ?_⟩
    · intro command inside
      rw [sound.named command (sound.issued inside)]
      exact differs _ (.inl ⟨command, inside, rfl⟩) (sound.made_lt (sound.issued inside))
    · rw [Option.eq_none_iff_forall_ne_some]
      intro entry found
      obtain ⟨named, made⟩ := sound.ledger.named _ _ found
      exact differs _ (.inr ⟨_, entry, found, rfl⟩) made named.symm
  | _ => trivial

/-- A caller has gone all the way from its permit to waiting for its reply. -/
def submitted (unit : UnitId) (request : RequestPdu) (shared : Shared) : Shared :=
  let command := ⟨shared.nextTransaction, unit, request, shared.channels⟩
  { shared with
    permits := shared.permits - 1
    nextTransaction := next shared.nextTransaction
    channels := shared.channels + 1
    queue := shared.queue ++ [command]
    waiting := shared.waiting ++ [shared.channels]
    commands := shared.commands ++ [command] }

/-- Which steps may be taken is restricted at most where an identifier is handed out. -/
def OnlyAllocations (Allowed : Shared → Event → Prop) : Prop :=
  ∀ between event, (∀ caller, event ≠ .allocate caller) → Allowed between event

theorem Unused.onlyAllocations : OnlyAllocations Unused := by
  intro between event other
  cases event with
  | allocate caller => exact absurd rfl (other caller)
  | _ => trivial

theorem Spaced.onlyAllocations : OnlyAllocations Spaced := by
  intro between event other
  cases event with
  | allocate caller => exact absurd rfl (other caller)
  | _ => trivial

section Schedule

variable (setting : Setting) (Allowed : Shared → Event → Prop) {shared : Shared}

theorem submits (unit : UnitId) (request : RequestPdu) (handled : 0 < shared.handles)
    (permit : 0 < shared.permits) (usable : shared.task.desynchronized = false)
    (nobody : shared.entering = []) (none : shared.allocated = [])
    (free : OnlyAllocations Allowed)
    (allocates : ∀ permits entering caller,
      Allowed { shared with permits := permits, entering := entering } (.allocate caller)) :
    Run (Shared.step setting) Allowed shared (shared.submitted unit request) := by
  let entered : Shared := { shared with
    permits := shared.permits - 1
    entering := [(unit, request)] }
  let command : Command := ⟨shared.nextTransaction, unit, request, shared.channels⟩
  let numbered : Shared := { shared with
    permits := shared.permits - 1
    nextTransaction := next shared.nextTransaction
    channels := shared.channels + 1
    allocated := [command]
    commands := shared.commands ++ [command] }
  have enters : shared.step setting (.send unit request) = some entered := by
    simp [Shared.step, handled, permit, usable, nobody, entered]
  have allots : entered.step setting (.allocate 0) = some numbered := by
    simp [Shared.step, entered, numbered, none, nobody, command]
  have queues : numbered.step setting (.enqueue shared.channels) =
      some (shared.submitted unit request) := by
    simp [Shared.step, numbered, submitted, none, command]
  refine ((Run.start.step (free _ _ ?_) enters).step (allocates _ _ _) allots).step
    (free _ _ ?_) queues
  all_goals
    intro caller same
    cases same

theorem takes_up {command : Command} {queue : List Command} (heads : shared.queue = command :: queue)
    (running : shared.ended = false) (usable : shared.task.desynchronized = false)
    (timed : shared.task.Timed)
    (sends : (shared.task.sendRequest .done
      (ClientFraming.tcp.requestHeader command.unit command.transaction) command.request).1 = .ok ()) :
    ∃ issued written, shared.step setting (.takeUp .done) = some { shared with
      task := { shared.task with issued := issued, written := written }.register setting.keys command
      queue := queue } := by
  obtain ⟨task, took, taken⟩ := Task.takeUp_some setting command .done timed
  cases taken with
  | refused flag =>
    rw [usable] at flag
    cases flag
  | registered _ _ issued written =>
    refine ⟨issued, written, ?_⟩
    rw [takeUp_running running heads, took]
    rfl
  | failed _ unsent _ =>
    rw [sends] at unsent
    cases unsent

theorem responds (shared : Shared) (header : MbapHeader) (response : ResponsePdu) {entry : Entry}
    (running : shared.ended = false)
    (found : shared.task.inFlight.lookup header.transactionId = some entry)
    (timer : shared.task.deadlines.lookup entry.key = some header.transactionId)
    (waits : entry.reply ∈ shared.waiting)
    (free : OnlyAllocations Allowed) :
    ∃ after answers delivered returned deadlines, Run (Shared.step setting) Allowed shared after ∧
      after = { shared with
        permits := shared.permits + 1
        waiting := shared.waiting.erase entry.reply
        returned := returned
        task := { shared.task with
          inFlight := shared.task.inFlight.erase header.transactionId
          deadlines := deadlines
          delivered := delivered
          answers := answers } } := by
  have receives : shared.task.receive (.ok (header, response)) = some _ :=
    Task.receive_registered found timer
  let answered : Shared := { shared with task := { shared.task with
    inFlight := shared.task.inFlight.erase header.transactionId
    deadlines := shared.task.deadlines.erase entry.key
    delivered := shared.task.delivered ++ [(entry.reply, header, response)]
    answers := shared.task.answers ++ [⟨entry.reply, .ok response⟩] } }
  have receipt : shared.step setting (.received (.ok (header, response))) = some answered := by
    rw [Shared.step, onTask_running running, receives]
    rfl
  obtain ⟨answer, picked⟩ : ∃ answer, answered.task.answers.find? (·.reply == entry.reply) =
      some answer := by
    apply Option.isSome_iff_exists.mp
    rw [List.find?_isSome]
    exact ⟨⟨entry.reply, .ok response⟩, List.mem_append_right _ List.mem_cons_self, by simp⟩
  have returns : answered.step setting (.resolve entry.reply) =
      some { answered.release entry.reply with returned := answered.returned ++ [answer] } := by
    have still : entry.reply ∈ answered.waiting := waits
    simp [Shared.step, picked, still]
  refine ⟨_, _, _, _, _, (Run.start.step (free _ _ ?_) receipt).step (free _ _ ?_) returns, rfl⟩
  all_goals
    intro caller same
    cases same

end Schedule

end Shared

/-- Where identifiers are handed out far enough apart, a request is registered under one
no other request holds, and no caller that waits has lost its channel. -/
theorem identifiers_unique_while_outstanding (setting : Setting) (config : PipelineConfig)
    {shared : Shared} (run : Run (Shared.step setting) Shared.Spaced (.start config) shared) :
    (∀ command queue, shared.queue = command :: queue →
      shared.task.inFlight.lookup command.transaction = none) ∧
    shared.task.displaced = [] ∧
    ∀ reply ∈ shared.waiting, shared.ended = false ∧
      ((∃ command ∈ shared.queue, command.reply = reply) ∨ shared.task.Known reply) := by
  have unused : Run (Shared.step setting) Shared.Unused (.start config) shared :=
    run.mono (fun _ reached => Shared.Sound.run reached) fun _ _ sound spaced => sound.unused spaced
  have distinct := Shared.Distinct.run unused
  refine ⟨?_, distinct.tidy.displaced, ?_⟩
  · intro command queue heads
    apply distinct.absent command
    rw [Shared.pending, heads]
    exact List.mem_append_right _ List.mem_cons_self
  · intro reply waits
    refine ⟨?_, distinct.awaited reply waits⟩
    rw [← Bool.not_eq_true]
    intro ended
    rw [(Shared.Closing.run run).nobody ended] at waits
    cases waits

/-- A delay queue that numbers its timers upwards. -/
def countingKeys : KeySupply where
  pick keys := keys.max?.getD 0 + 1
  fresh _ inside := Nat.not_succ_le_self _ (List.le_max?_getD_of_mem inside)

def overTcp : Setting := ⟨true, countingKeys⟩

def readOne : RequestPdu := .readHoldingRegisters ⟨0⟩ ⟨1⟩

def twoInFlight : PipelineConfig := ⟨60000, 2⟩

theorem readOne_sends (task : Task) (transaction : TransactionId) :
    (task.sendRequest .done (ClientFraming.tcp.requestHeader ⟨1⟩ transaction) readOne).1 = .ok () :=
  rfl

/-- The first caller waits for an answer, and every later request has had its own. -/
structure Serving (count : Nat) (shared : Shared) : Prop where
  sound : shared.Sound
  handled : 0 < shared.handles
  permit : 0 < shared.permits
  channels : shared.channels = count
  nobody : shared.entering = []
  none : shared.allocated = []
  queue : shared.queue = []
  waiting : shared.waiting = [0]
  running : shared.ended = false
  usable : shared.task.desynchronized = false
  registered : ∃ entry, shared.task.inFlight.lookup (idOf 0) = some entry ∧ entry.reply = 0

def Anything (_ : Shared) (_ : Event) : Prop := True

theorem Serving.submits {count : Nat} {shared : Shared} (serving : Serving count shared)
    (Allowed : Shared → Event → Prop)
    (free : Shared.OnlyAllocations Allowed)
    (allocates : ∀ permits entering caller,
      Allowed { shared with permits := permits, entering := entering } (.allocate caller)) :
    Run (Shared.step overTcp) Allowed shared (shared.submitted ⟨1⟩ readOne) :=
  Shared.submits overTcp Allowed ⟨1⟩ readOne serving.handled serving.permit serving.usable
    serving.nobody serving.none free allocates

theorem Serving.heads {count : Nat} {shared : Shared} (serving : Serving count shared) :
    (shared.submitted ⟨1⟩ readOne).queue = ⟨idOf count, ⟨1⟩, readOne, count⟩ :: [] := by
  simp [Shared.submitted, serving.queue, serving.channels, serving.sound.numbered]

theorem Serving.serve {count : Nat} {shared : Shared} (serving : Serving count shared)
    (later : count ≠ 0) (other : idOf 0 ≠ idOf count) :
    ∃ after, Run (Shared.step overTcp) Anything shared after ∧ Serving (count + 1) after := by
  obtain ⟨entry, registered, first⟩ := serving.registered
  obtain ⟨issued, written, takes⟩ := Shared.takes_up overTcp serving.heads serving.running
    serving.usable serving.sound.ledger.timed (readOne_sends _ _)
  have waits : count ∈ (shared.submitted ⟨1⟩ readOne).waiting := by
    simp [Shared.submitted, serving.channels]
  obtain ⟨after, answers, delivered, returned, deadlines, responds, same⟩ :=
    Shared.responds overTcp Anything { shared.submitted ⟨1⟩ readOne with
        task := Task.register countingKeys ⟨idOf count, ⟨1⟩, readOne, count⟩
          { shared.task with issued := issued, written := written }
        queue := [] }
      ⟨idOf count, ⟨1⟩⟩ (.readHoldingRegisters [⟨100⟩]) serving.running (AList.lookup_insert _)
      (AList.lookup_insert _) waits fun _ _ _ => trivial
  have submits := serving.submits Anything (fun _ _ _ => trivial) fun _ _ _ => trivial
  have run := (submits.step trivial takes).trans responds
  have sound := serving.sound.along run
  rw [same] at run sound
  refine ⟨_, run, ⟨sound, serving.handled, Nat.succ_pos _, congrArg (· + 1) serving.channels,
    serving.nobody, serving.none, rfl, ?_, serving.running, serving.usable, ?_⟩⟩
  · simp [Shared.submitted, serving.waiting, serving.channels, later.symm]
  · exact ⟨entry, Task.lookup_erase_iff.mpr ⟨other, Task.lookup_insert_iff.mpr (.inr ⟨other, registered⟩)⟩,
      first⟩

theorem serving_one (Allowed : Shared → Event → Prop)
    (free : Shared.OnlyAllocations Allowed)
    (allocates : ∀ permits entering caller, Allowed { Shared.start twoInFlight with
      permits := permits, entering := entering } (.allocate caller)) :
    ∃ shared, Run (Shared.step overTcp) Allowed (.start twoInFlight) shared ∧ Serving 1 shared := by
  have sound := Shared.Sound.start twoInFlight
  have submits : Run (Shared.step overTcp) Allowed (.start twoInFlight)
      ((Shared.start twoInFlight).submitted ⟨1⟩ readOne) :=
    Shared.submits overTcp Allowed ⟨1⟩ readOne (by decide) (by decide) rfl rfl rfl free allocates
  obtain ⟨issued, written, takes⟩ := Shared.takes_up overTcp
    (show ((Shared.start twoInFlight).submitted ⟨1⟩ readOne).queue =
      ⟨⟨1⟩, ⟨1⟩, readOne, 0⟩ :: [] from rfl) rfl rfl sound.ledger.timed (readOne_sends _ _)
  have taking : ∀ caller, Event.takeUp .done ≠ .allocate caller := by
    intro caller same
    cases same
  have run := submits.step (free _ _ taking) takes
  refine ⟨_, run, ⟨sound.along run, Nat.one_pos, Nat.one_pos, rfl, rfl, rfl, rfl, rfl, rfl, rfl, ?_⟩⟩
  exact ⟨_, AList.lookup_insert _, rfl⟩

theorem serving_many (count : Nat) (inside : count < 65535) : ∃ shared,
    Run (Shared.step overTcp) Anything (.start twoInFlight) shared ∧ Serving (count + 1) shared := by
  induction count with
  | zero => exact serving_one Anything (fun _ _ _ => trivial) fun _ _ _ => trivial
  | succ count ih =>
    obtain ⟨shared, reached, serving⟩ := ih (by omega)
    have other : idOf 0 ≠ idOf (count + 1) := by
      rw [ne_eq, idOf_inj]
      omega
    obtain ⟨after, run, serves⟩ := serving.serve (Nat.succ_ne_zero count) other
    exact ⟨after, reached.trans run, serves⟩

/-- A second request while the first is unanswered. -/
theorem second_identifier_unused : ∃ shared,
    Run (Shared.step overTcp) Shared.Spaced (.start twoInFlight) shared ∧
    shared.queue = [⟨⟨2⟩, ⟨1⟩, readOne, 1⟩] ∧ shared.task.Held 0 ∧
    shared.task.inFlight.lookup ⟨2⟩ = none ∧ shared.task.displaced = [] := by
  obtain ⟨shared, reached, serving⟩ := serving_one Shared.Spaced Shared.Spaced.onlyAllocations fun _ _ _ =>
    (Shared.Sound.start twoInFlight).few (by decide)
  have one : shared.channels < 65535 := by
    rw [serving.channels]
    decide
  have run := reached.trans (serving.submits Shared.Spaced Shared.Spaced.onlyAllocations
    fun _ _ _ => serving.sound.few one)
  have unique := identifiers_unique_while_outstanding overTcp twoInFlight run
  obtain ⟨entry, registered, first⟩ := serving.registered
  exact ⟨_, run, serving.heads, ⟨_, entry, registered, first⟩, unique.1 _ _ serving.heads, unique.2.1⟩

/-- The counter comes round to an identifier still in use: the request under it is displaced, its
caller still waits, and nothing holds its channel any more. -/
theorem reused_identifier_drops_a_caller : ∃ shared command entry after,
    Run (Shared.step overTcp) Anything (.start twoInFlight) shared ∧
    shared.queue = [command] ∧ shared.task.inFlight.lookup command.transaction = some entry ∧
    shared.step overTcp (.takeUp .done) = some after ∧
    entry.reply ∈ after.task.displaced ∧ entry.reply ∈ after.waiting ∧
    ¬after.task.Known entry.reply := by
  obtain ⟨before, reached, serving⟩ := serving_many 65534 (by decide)
  obtain ⟨entry, registered, first⟩ := serving.registered
  obtain ⟨issued, written, takes⟩ := Shared.takes_up overTcp serving.heads serving.running
    serving.usable serving.sound.ledger.timed (readOne_sends _ _)
  have run := reached.trans (serving.submits Anything (fun _ _ _ => trivial) fun _ _ _ => trivial)
  have again : idOf 65535 = idOf 0 := idOf_inj.mpr rfl
  have found : before.task.inFlight.lookup (idOf 65535) = some entry := again ▸ registered
  refine ⟨_, _, entry, _, run, serving.heads, found, takes, ?_, ?_, ?_⟩
  · refine List.mem_append_right _ ?_
    rw [show (before.submitted ⟨1⟩ readOne).task = before.task from rfl, found]
    exact List.mem_cons_self
  · exact List.mem_append_left _ (by rw [serving.waiting, first]; exact List.mem_cons_self)
  · rintro (⟨transaction, held, there, same⟩ | told)
    · have after := (Shared.Sound.run run).step takes
      have named := (after.ledger.named transaction held there).1
      rw [same, first, ← again] at named
      rw [named] at there
      have mine := (AList.lookup_insert _).symm.trans there
      cases Option.some.inj mine
      exact absurd (show 65535 = 0 from same.trans first) (by decide)
    · exact serving.sound.ledger.unanswered _ ⟨_, entry, registered, rfl⟩ told

end Modbus.Pipeline
