import Modbus.PipelineLedger

/-! Steps of the whole pipeline: what one step can change, and what holds in every
state, whatever callers, peer and clock do. No step panics. -/
namespace Modbus.Pipeline.Shared

/-- Commands made and not yet taken up by the task. -/
def pending (shared : Shared) : List Command := shared.allocated ++ shared.queue

/-- What one step changes. -/
inductive Stepped (setting : Setting) (shared : Shared) : Event → Shared → Prop
  | callers {event : Event} {after : Shared} (task : after.task = shared.task)
      (nextTransaction : after.nextTransaction = shared.nextTransaction)
      (channels : after.channels = shared.channels) (commands : after.commands = shared.commands)
      (allocated : after.allocated = shared.allocated) (queue : after.queue = shared.queue)
      (waiting : after.waiting ⊆ shared.waiting)
      (returned : after.returned = shared.returned ∨
        ∃ answer ∈ shared.task.answers, after.returned = shared.returned ++ [answer]) :
      Stepped setting shared event after
  | allocate {caller : Nat} {unit : UnitId} {request : RequestPdu}
      (enters : shared.entering[caller]? = some (unit, request)) :
      Stepped setting shared (.allocate caller) { shared with
        entering := shared.entering.eraseIdx caller
        nextTransaction := next shared.nextTransaction
        channels := shared.channels + 1
        allocated := shared.allocated ++ [⟨shared.nextTransaction, unit, request, shared.channels⟩]
        commands := shared.commands ++ [⟨shared.nextTransaction, unit, request, shared.channels⟩] }
  | enqueue {command : Command} (inside : command ∈ shared.allocated) :
      Stepped setting shared (.enqueue command.reply) { shared with
        allocated := shared.allocated.erase command
        queue := shared.queue ++ [command]
        waiting := shared.waiting ++ [command.reply] }
  | takeUp {write : Write} {command : Command} {queue : List Command} {task : Task}
      (heads : shared.queue = command :: queue)
      (took : shared.task.takeUp setting command write = some task) :
      Stepped setting shared (.takeUp write) { shared with task := task, queue := queue }
  | received {received : Result (MbapHeader × ResponsePdu)} {task : Task}
      (took : shared.task.receive received = some task) :
      Stepped setting shared (.received received) { shared with task := task }
  | expired {key : Nat} {task : Task} (took : shared.task.expire setting key = some task) :
      Stepped setting shared (.expired key) { shared with task := task }

/-- The steps that have an effect, each under its condition; every other one does nothing. -/
inductive Moves (setting : Setting) (shared : Shared) : Event → Shared → Prop
  | still {event : Event} : Moves setting shared event shared
  | send {unit : UnitId} {request : RequestPdu} (handled : 0 < shared.handles) (free : 0 < shared.permits) :
      Moves setting shared (.send unit request) { shared with
        permits := shared.permits - 1
        entering := shared.entering ++ [(unit, request)] }
  | allocate {caller : Nat} {unit : UnitId} {request : RequestPdu}
      (enters : shared.entering[caller]? = some (unit, request)) :
      Moves setting shared (.allocate caller) { shared with
        entering := shared.entering.eraseIdx caller
        nextTransaction := next shared.nextTransaction
        channels := shared.channels + 1
        allocated := shared.allocated ++ [⟨shared.nextTransaction, unit, request, shared.channels⟩]
        commands := shared.commands ++ [⟨shared.nextTransaction, unit, request, shared.channels⟩] }
  | enqueue {command : Command} (inside : command ∈ shared.allocated) :
      Moves setting shared (.enqueue command.reply) { shared with
        allocated := shared.allocated.erase command
        queue := shared.queue ++ [command]
        waiting := shared.waiting ++ [command.reply] }
  | abandon {reply : Nat} (waits : reply ∈ shared.waiting) :
      Moves setting shared (.abandon reply) (shared.release reply)
  | resolve {answer : Answer} (told : answer ∈ shared.task.answers) (waits : answer.reply ∈ shared.waiting) :
      Moves setting shared (.resolve answer.reply)
        { shared.release answer.reply with returned := shared.returned ++ [answer] }
  | takeUp {write : Write} {command : Command} {queue : List Command} {task : Task}
      (heads : shared.queue = command :: queue)
      (took : shared.task.takeUp setting command write = some task) :
      Moves setting shared (.takeUp write) { shared with task := task, queue := queue }
  | received {received : Result (MbapHeader × ResponsePdu)} {task : Task}
      (took : shared.task.receive received = some task) :
      Moves setting shared (.received received) { shared with task := task }
  | expired {key : Nat} {task : Task} (took : shared.task.expire setting key = some task) :
      Moves setting shared (.expired key) { shared with task := task }
  | clone (handled : 0 < shared.handles) :
      Moves setting shared .clone { shared with handles := shared.handles + 1 }
  | dropHandle (unused : 1 < shared.handles ∨ (shared.handles = 1 ∧ shared.idle = true)) :
      Moves setting shared .dropHandle { shared with handles := shared.handles - 1 }
  | finish (closed : shared.handles = 0) : Moves setting shared .finish { shared with ended := true }

section Inversion

variable {setting : Setting} {shared after : Shared} {event : Event}

theorem onTask_inv {act : Task → Option Task} (took : shared.onTask act = some after) :
    (shared.ended = true ∧ after = shared) ∨
      (shared.ended = false ∧ ∃ task, act shared.task = some task ∧
        after = { shared with task := task }) := by
  unfold onTask at took
  cases ended : shared.ended with
  | true =>
    rw [ended, if_pos rfl] at took
    exact .inl ⟨rfl, (Option.some.inj took).symm⟩
  | false =>
    rw [ended, if_neg (by decide)] at took
    obtain ⟨task, acted, rfl⟩ := Option.map_eq_some_iff.mp took
    exact .inr ⟨rfl, task, acted, rfl⟩

theorem onTask_running (running : shared.ended = false) (act : Task → Option Task) :
    shared.onTask act = (act shared.task).map fun task => { shared with task := task } := by
  unfold onTask
  exact if_neg (by simp [running])

theorem takeUp_running (running : shared.ended = false) {command : Command} {queue : List Command}
    (heads : shared.queue = command :: queue) (write : Write) :
    shared.step setting (.takeUp write) = (shared.task.takeUp setting command write).map fun task =>
      { shared with task := task, queue := queue } := by
  have goesOn : ¬shared.ended = true := by simp [running]
  simp only [step, heads, onTask_running running, Option.map_map, if_neg goesOn]
  rfl

theorem onTask_some {act : Task → Option Task} {task : Task} (acts : act shared.task = some task) :
    ∃ after, shared.onTask act = some after := by
  unfold onTask
  rw [acts]
  split
  all_goals exact ⟨_, rfl⟩

/-- The task takes up the head of the queue, or there is nothing to be done. -/
theorem takeUp_inv {write : Write} (took : shared.step setting (.takeUp write) = some after) :
    after = shared ∨ ∃ command queue task, shared.queue = command :: queue ∧
      shared.task.takeUp setting command write = some task ∧
      after = { shared with task := task, queue := queue } := by
  simp only [step] at took
  split at took
  · cases took; exact .inl rfl
  · next command queue heads =>
    obtain ⟨middle, acted, rfl⟩ := Option.map_eq_some_iff.mp took
    rcases onTask_inv acted with ⟨ended, rfl⟩ | ⟨ended, task, taken, rfl⟩
    · rw [if_pos ended]; exact .inl rfl
    · have running : ¬shared.ended = true := by simp [ended]
      rw [if_neg running]
      exact .inr ⟨command, queue, task, heads, taken, rfl⟩

theorem step_moves (took : shared.step setting event = some after) : Moves setting shared event after := by
  cases event with
  | send unit request =>
    simp only [step] at took
    split at took
    · next free => cases took; exact .send free.1 free.2.1
    · cases took; exact .still
  | allocate caller =>
    simp only [step] at took
    split at took
    · cases took; exact .still
    · next unit request enters => cases took; exact .allocate enters
  | enqueue reply =>
    simp only [step] at took
    split at took
    · cases took; exact .still
    · next command found =>
      have same : command.reply = reply := by simpa using List.find?_some found
      subst same
      cases took
      exact .enqueue (List.mem_of_find?_eq_some found)
  | abandon reply =>
    simp only [step] at took
    split at took
    · next waits => cases took; exact .abandon waits
    · cases took; exact .still
  | resolve reply =>
    simp only [step] at took
    split at took
    · next answer found =>
      have same : answer.reply = reply := by simpa using List.find?_some found
      subst same
      split at took
      · next waits => cases took; exact .resolve (List.mem_of_find?_eq_some found) waits
      · cases took; exact .still
    · cases took; exact .still
  | takeUp write =>
    obtain rfl | ⟨command, queue, task, heads, taken, rfl⟩ := takeUp_inv took
    · exact .still
    · exact .takeUp heads taken
  | received received =>
    obtain ⟨_, rfl⟩ | ⟨_, task, taken, rfl⟩ := onTask_inv took
    · exact .still
    · exact .received taken
  | expired key =>
    obtain ⟨_, rfl⟩ | ⟨_, task, taken, rfl⟩ := onTask_inv took
    · exact .still
    · exact .expired taken
  | clone =>
    simp only [step] at took
    split at took
    · next handled => cases took; exact .clone handled
    · cases took; exact .still
  | dropHandle =>
    simp only [step] at took
    split at took
    · next unused => cases took; exact .dropHandle unused
    · cases took; exact .still
  | finish =>
    simp only [step] at took
    split at took
    · next closed => cases took; exact .finish closed.1
    · cases took; exact .still

theorem stepped (took : shared.step setting event = some after) :
    Stepped setting shared event after := by
  cases step_moves took with
  | still | send | clone | dropHandle | finish =>
    exact .callers rfl rfl rfl rfl rfl rfl (List.Subset.refl _) (.inl rfl)
  | abandon => exact .callers rfl rfl rfl rfl rfl rfl List.erase_subset (.inl rfl)
  | resolve told => exact .callers rfl rfl rfl rfl rfl rfl List.erase_subset (.inr ⟨_, told, rfl⟩)
  | allocate enters => exact .allocate enters
  | enqueue inside => exact .enqueue inside
  | takeUp heads taken => exact .takeUp heads taken
  | received taken => exact .received taken
  | expired taken => exact .expired taken

end Inversion

/-- Every channel is that of one allocation, and the task knows none that is pending. -/
structure Sound (shared : Shared) : Prop where
  numbered : shared.nextTransaction = idOf shared.channels
  made : shared.commands.map Command.reply = List.range shared.channels
  named : ∀ command ∈ shared.commands, command.transaction = idOf command.reply
  issued : shared.pending ⊆ shared.commands
  once : (shared.pending.map Command.reply).Nodup
  new : ∀ command ∈ shared.pending, ¬shared.task.Known command.reply
  ledger : shared.task.Ledger shared.channels
  returned : shared.returned ⊆ shared.task.answers

section Pending

variable {shared : Shared} {command : Command} {queue : List Command}

theorem perm_allocate (shared : Shared) (command : Command) :
    (shared.allocated ++ [command] ++ shared.queue).Perm (command :: shared.pending) := by
  rw [List.append_assoc]
  exact List.perm_middle

theorem perm_enqueue (inside : command ∈ shared.allocated) :
    (shared.allocated.erase command ++ (shared.queue ++ [command])).Perm shared.pending := by
  rw [← List.append_assoc]
  refine (List.perm_append_singleton _ _).trans ?_
  exact (List.perm_cons_erase inside).symm.append_right shared.queue

theorem perm_takeUp (heads : shared.queue = command :: queue) :
    shared.pending.Perm (command :: (shared.allocated ++ queue)) := by
  rw [pending, heads]
  exact List.perm_middle

end Pending

namespace Sound

variable {setting : Setting} {shared after : Shared} {event : Event}

theorem start (config : PipelineConfig) : (Shared.start config).Sound where
  numbered := rfl
  made := rfl
  named := by simp [Shared.start]
  issued := List.nil_subset _
  once := List.nodup_nil
  new := by simp [Shared.start, pending]
  ledger := Task.start_ledger 0
  returned := List.nil_subset _

theorem made_lt (sound : shared.Sound) {command : Command} (inside : command ∈ shared.commands) :
    command.reply < shared.channels := by
  have numbers := List.mem_map_of_mem (f := Command.reply) inside
  rw [sound.made] at numbers
  exact List.mem_range.mp numbers

theorem command (sound : shared.Sound) {reply : Nat} (made : reply < shared.channels) :
    ∃ command ∈ shared.commands, command.reply = reply := by
  apply List.mem_map.mp
  rw [sound.made]
  exact List.mem_range.mpr made

/-- The task has acted, and these commands are left in its queue. -/
theorem acted (sound : shared.Sound) {task : Task} {taken : List Nat} {queue : List Command}
    (moves : shared.task.Moves shared.channels taken task)
    (left : (shared.allocated ++ queue).Sublist shared.pending)
    (apart : ∀ command ∈ shared.allocated ++ queue, command.reply ∉ taken) :
    Sound { shared with task := task, queue := queue } where
  numbered := sound.numbered
  made := sound.made
  named := sound.named
  issued := List.Subset.trans left.subset sound.issued
  once := sound.once.sublist (left.map Command.reply)
  new command inside known := by
    rcases moves.known command.reply known with old | fresh
    · exact sound.new command (left.subset inside) old
    · exact apart command inside fresh
  ledger := moves.ledger
  returned := List.Subset.trans sound.returned moves.answers

/-- The head of the queue is made, named and unknown to the task, and no other
pending command holds its channel. -/
theorem head (sound : shared.Sound) {command : Command} {queue : List Command}
    (heads : shared.queue = command :: queue) :
    command.reply < shared.channels ∧ ¬shared.task.Known command.reply ∧
      command.transaction = idOf command.reply ∧
      ∀ other ∈ shared.allocated ++ queue, other.reply ∉ [command.reply] := by
  have first := perm_takeUp heads
  have inside : command ∈ shared.pending := first.mem_iff.mpr List.mem_cons_self
  refine ⟨sound.made_lt (sound.issued inside), sound.new command inside,
    sound.named command (sound.issued inside), ?_⟩
  have once := ((first.map Command.reply).nodup_iff).mp sound.once
  intro other there same
  exact (List.nodup_cons.mp once).1 (List.mem_map.mpr ⟨other, there, List.mem_singleton.mp same⟩)

theorem tail_sublist {command : Command} {queue : List Command}
    (heads : shared.queue = command :: queue) :
    (shared.allocated ++ queue).Sublist shared.pending := by
  rw [pending, heads]
  exact (List.Sublist.refl _).append (List.sublist_cons_self command queue)

theorem takeUp (sound : shared.Sound) {command : Command} {queue : List Command} {write : Write}
    {task : Task} (heads : shared.queue = command :: queue)
    (took : shared.task.takeUp setting command write = some task) :
    shared.task.Moves shared.channels [command.reply] task := by
  obtain ⟨made, new, named, _⟩ := sound.head heads
  exact (Task.takenUp sound.ledger.timed took).moves sound.ledger made new named

theorem allocate (sound : shared.Sound) (entering : List (UnitId × RequestPdu)) (unit : UnitId)
    (request : RequestPdu) : Sound { shared with
      entering := entering
      nextTransaction := next shared.nextTransaction
      channels := shared.channels + 1
      allocated := shared.allocated ++ [⟨shared.nextTransaction, unit, request, shared.channels⟩]
      commands := shared.commands ++ [⟨shared.nextTransaction, unit, request, shared.channels⟩] } := by
  let command : Command := ⟨shared.nextTransaction, unit, request, shared.channels⟩
  have order := perm_allocate shared command
  have unmade : ∀ other ∈ shared.pending, other.reply ≠ shared.channels := by
    intro other inside
    exact Nat.ne_of_lt (sound.made_lt (sound.issued inside))
  refine ⟨?_, ?_, ?_, ?_, ?_, ?_, sound.ledger.mono (Nat.le_succ _), sound.returned⟩
  · rw [sound.numbered, next_idOf]
  · rw [List.map_append, sound.made, List.range_succ]
    rfl
  · intro other inside
    rcases List.mem_append.mp inside with old | fresh
    · exact sound.named other old
    · rw [List.mem_singleton.mp fresh]
      exact sound.numbered
  · intro other inside
    rcases List.mem_cons.mp (order.mem_iff.mp inside) with rfl | old
    · exact List.mem_append_right _ List.mem_cons_self
    · exact List.mem_append_left _ (sound.issued old)
  · refine ((order.map Command.reply).nodup_iff).mpr (List.nodup_cons.mpr ⟨?_, sound.once⟩)
    intro inside
    obtain ⟨other, there, same⟩ := List.mem_map.mp inside
    exact unmade other there same
  · intro other inside known
    rcases List.mem_cons.mp (order.mem_iff.mp inside) with rfl | old
    · exact Nat.lt_irrefl _ (sound.ledger.known_lt known)
    · exact sound.new other old known

theorem step (sound : shared.Sound) (took : shared.step setting event = some after) :
    after.Sound := by
  cases stepped took with
  | callers task nextTransaction channels commands allocated queue waiting returned =>
    have same : after.pending = shared.pending := by rw [pending, pending, allocated, queue]
    refine ⟨?_, ?_, ?_, ?_, ?_, ?_, ?_, ?_⟩
    · rw [nextTransaction, channels, sound.numbered]
    · rw [commands, channels, sound.made]
    · rw [commands]; exact sound.named
    · rw [same, commands]; exact sound.issued
    · rw [same]; exact sound.once
    · rw [same, task]; exact sound.new
    · rw [task, channels]; exact sound.ledger
    · rw [task]
      rcases returned with same | ⟨answer, inside, more⟩
      · rw [same]; exact sound.returned
      · rw [more]
        exact List.append_subset.mpr ⟨sound.returned, List.cons_subset.mpr ⟨inside, List.nil_subset _⟩⟩
  | allocate enters => exact sound.allocate _ _ _
  | @enqueue command inside =>
    have order := perm_enqueue inside
    exact ⟨sound.numbered, sound.made, sound.named,
      List.Subset.trans order.subset sound.issued,
      ((order.map Command.reply).nodup_iff).mpr sound.once,
      fun other there => sound.new other (order.subset there), sound.ledger, sound.returned⟩
  | takeUp heads taken =>
    exact sound.acted (sound.takeUp heads taken) (tail_sublist heads) (sound.head heads).2.2.2
  | received taken =>
    exact sound.acted ((Task.received sound.ledger.timed taken).moves sound.ledger)
      (List.Sublist.refl _) fun _ _ => List.not_mem_nil
  | expired taken =>
    exact sound.acted ((Task.expired sound.ledger.timed taken).moves sound.ledger)
      (List.Sublist.refl _) fun _ _ => List.not_mem_nil

/-- No step panics. -/
theorem steps (sound : shared.Sound) (event : Event) :
    ∃ after, shared.step setting event = some after := by
  cases event with
  | takeUp write =>
    simp only [Shared.step]
    split
    · exact ⟨_, rfl⟩
    · next command queue heads =>
      obtain ⟨task, acts, _⟩ := Task.takeUp_some setting command write sound.ledger.timed
      obtain ⟨after, took⟩ := onTask_some acts
      exact ⟨_, by rw [took]; rfl⟩
  | received received =>
    obtain ⟨task, acts, _⟩ := Task.receive_some received sound.ledger.timed
    exact onTask_some acts
  | expired key =>
    obtain ⟨task, acts, _⟩ := Task.expire_some setting key sound.ledger.timed
    exact onTask_some acts
  | resolve reply =>
    simp only [Shared.step]
    split
    · split
      all_goals exact ⟨_, rfl⟩
    · exact ⟨_, rfl⟩
  | clone | finish | dropHandle | send | allocate | enqueue | abandon =>
    simp only [Shared.step]
    split
    all_goals exact ⟨_, rfl⟩

theorem along {Allowed : Shared → Event → Prop} (sound : shared.Sound)
    (run : Run (Shared.step setting) Allowed shared after) : after.Sound :=
  run.invariant sound fun _ _ _ sound _ took => sound.step took

theorem run {Allowed : Shared → Event → Prop} {config : PipelineConfig}
    (run : Run (Shared.step setting) Allowed (.start config) shared) : shared.Sound :=
  (start config).along run

end Sound

/-- The task ends when no handle is left, and the last handle goes when no caller
borrows it. -/
structure Closing (shared : Shared) : Prop where
  ended : shared.ended = true → shared.handles = 0
  handles : shared.handles = 0 → shared.idle = true

namespace Closing

variable {setting : Setting} {shared after : Shared} {event : Event}

theorem busy (closing : shared.Closing) (busy : shared.idle = false) (ended : after.ended = shared.ended)
    (handles : after.handles = shared.handles) : after.Closing := by
  have handled : shared.handles ≠ 0 := by
    intro none
    rw [closing.handles none] at busy
    cases busy
  refine ⟨?_, ?_⟩
  · intro closed
    rw [ended] at closed
    exact absurd (closing.ended closed) handled
  · intro none
    rw [handles] at none
    exact absurd none handled

theorem of_eq (closing : shared.Closing) (ended : after.ended = shared.ended)
    (handles : after.handles = shared.handles) (idle : after.idle = shared.idle) : after.Closing := by
  refine ⟨?_, ?_⟩
  · rw [ended, handles]; exact closing.ended
  · rw [handles, idle]; exact closing.handles

theorem step (closing : shared.Closing) (took : shared.step setting event = some after) :
    after.Closing := by
  have occupied : ∀ reply ∈ shared.waiting, shared.idle = false := by
    intro reply waits
    cases none : shared.waiting with
    | nil => rw [none] at waits; cases waits
    | cons first rest => simp [idle, none]
  cases step_moves took with
  | still => exact closing
  | send handled =>
    refine ⟨closing.ended, ?_⟩
    intro none
    exact absurd none (Nat.ne_of_gt handled)
  | allocate enters =>
    refine closing.busy ?_ rfl rfl
    cases none : shared.entering with
    | nil => simp [none] at enters
    | cons first rest => simp [idle, none]
  | enqueue inside =>
    refine closing.busy ?_ rfl rfl
    cases none : shared.allocated with
    | nil => rw [none] at inside; cases inside
    | cons first rest => simp [idle, none]
  | abandon waits | resolve _ waits => exact closing.busy (occupied _ waits) rfl rfl
  | takeUp | received | expired => exact closing.of_eq rfl rfl rfl
  | clone handled =>
    refine ⟨fun closed => absurd (closing.ended closed) (Nat.ne_of_gt handled), ?_⟩
    intro none
    cases none
  | dropHandle unused =>
    refine ⟨fun closed => ?_, fun none => ?_⟩
    · have none := closing.ended closed
      simp only [none]
    · obtain more | ⟨_, free⟩ := unused
      · simp only at none
        omega
      · exact free
  | finish closed => exact ⟨fun _ => closed, closing.handles⟩

/-- When the task has ended, no caller is left waiting. -/
theorem nobody (closing : shared.Closing) (ended : shared.ended = true) : shared.waiting = [] := by
  have none := closing.handles (closing.ended ended)
  simp only [idle, Bool.and_eq_true, List.isEmpty_iff] at none
  exact none.2

theorem run {Allowed : Shared → Event → Prop} {config : PipelineConfig}
    (run : Run (Shared.step setting) Allowed (.start config) shared) : shared.Closing := by
  refine run.invariant ⟨?_, ?_⟩ fun _ _ _ closing _ took => closing.step took
  · intro closed
    cases closed
  · intro none
    cases none

end Closing

end Modbus.Pipeline.Shared
