import Mathlib.Data.List.Chain
import Modbus.JoinSet
import Modbus.ServeTasks

/-! The loop that serves a listening socket. It takes up one connection or datagram
after the other, each in a task of its own, asks the service what to do when the
socket fails, and waits for all tasks before it returns. -/
namespace Modbus

/-- A kind of task spawned for what a listener takes up, and what is known of every such task. -/
structure Job (α τ π : Type) where
  start : α → τ
  step : Bool → τ → π → Option τ
  finished : τ → Bool
  running : τ → Bool
  /-- In the middle of a poll, past the shutdown signal. -/
  polling : τ → Bool
  takesUp : π → Bool
  subscribes : Bool
  start_polling : ∀ item, polling (start item) = false
  step_finished : ∀ {requested task advance}, finished task = true → step requested task advance = none
  finished_running : ∀ {task}, finished task = true → running task = false
  step_heeds : ∀ {task advance next}, step true task advance = some next → polling next = false
  step_takesUp : ∀ {requested task advance next}, step requested task advance = some next →
    takesUp advance = true → polling task = true

/-- What the loop makes of a result of accepting or receiving. -/
inductive Taken (α : Type) where
  | got (item : α)
  | failed (error : Error)
  | undecodable (error : Error)

/-- A socket: what its results are taken for, and the tasks they are given. -/
structure Listener (ι α τ π : Type) where
  take : ι → Taken α
  job : Job α τ π

inductive AcceptErrorAction where
  | «continue» | stop
  deriving DecidableEq, Repr

/-- A task, with what it was spawned for. -/
structure Work (α τ : Type) where
  item : α
  task : τ

namespace Listener

inductive Loop where
  | unstarted
  | waiting
  | accepting
  | asking (error : Error)
  | hooking (error : Error)
  /-- `on_error` runs for a datagram that did not decode. -/
  | reporting (error : Error)
  | draining (result : Result Unit)
  | returned (result : Result Unit)
  deriving DecidableEq

/-- What the loop does, in order: it starts to accept or receive, gets a result, spawns a task,
calls the hook and gets its answer, or reports to `on_error`. -/
inductive Act (ι α : Type) where
  | take
  | outcome (outcome : ι)
  | spawn (item : α)
  | ask (error : Error)
  | answer (error : Error) (action : AcceptErrorAction)
  | report (error : Error)
  | reported (error : Error)

inductive Event (ι π : Type) where
  | request
  | release
  | start
  | poll
  | pend
  | outcome (outcome : ι)
  | answered (action : AcceptErrorAction)
  | reported
  | task (i : Nat) (advance : π)
  | join (i : Nat)
  | finish

variable {ι α τ π : Type}

structure State (listener : Listener ι α τ π) where
  signal : Signal
  loop : Loop
  tasks : JoinSet fun work : Work α τ => listener.job.finished work.task
  acts : List (Act ι α)

variable (listener : Listener ι α τ π)

def idle : State listener := ⟨.unset, .unstarted, .empty, []⟩

variable {listener}

namespace State

/-- The loop holds a receiver while it is under way, and so may its tasks. -/
def subscribed (state : State listener) : Bool :=
  (match state.loop with
    | .unstarted | .returned _ => false
    | _ => true) ||
  listener.job.subscribes && state.tasks.spawned.any fun entry => !listener.job.finished entry.task.task

def proceed (state : State listener) (loop : Loop) (acts : List (Act ι α)) : State listener :=
  { state with loop := loop, acts := state.acts ++ acts }

/-- The loops of `serve_framed` and `next_accept`, and of `serve_udp` and `next_datagram`. Only the
latter meet what does not decode. -/
def step (state : State listener) : Event ι π → Option (State listener)
  | .request => some { state with signal := state.signal.request }
  | .release => (state.signal.release state.subscribed).map ({ state with signal := · })
  | .start =>
    match state.loop with
    | .unstarted => some (state.proceed .waiting [.take])
    | _ => none
  | .poll =>
    match state.loop with
    | .waiting => some (state.proceed (if state.signal.requested then .draining (.ok ()) else .accepting) [])
    | .asking e => some (state.proceed (if state.signal.requested then .draining (.ok ()) else .hooking e) [])
    | _ => none
  | .pend =>
    match state.loop with
    | .accepting => some (state.proceed .waiting [])
    | .hooking e => some (state.proceed (.asking e) [])
    | _ => none
  | .outcome outcome =>
    match state.loop with
    | .accepting =>
      match listener.take outcome with
      | .got item => some { state.proceed .waiting [.outcome outcome, .spawn item, .take] with
          tasks := state.tasks.spawn ⟨item, listener.job.start item⟩ }
      | .failed e => some (state.proceed (.asking e) [.outcome outcome, .ask e])
      | .undecodable e => some (state.proceed (.reporting e) [.outcome outcome, .report e])
    | _ => none
  | .answered action =>
    match state.loop with
    | .hooking e =>
      match action with
      | .stop => some (state.proceed (.draining (.error e)) [.answer e .stop])
      | .continue => some (state.proceed .waiting [.answer e .continue, .take])
    | _ => none
  | .reported =>
    match state.loop with
    | .reporting e => some (state.proceed .waiting [.reported e, .take])
    | _ => none
  | .task i advance =>
    (state.tasks.advance i fun work =>
      (listener.job.step state.signal.requested work.task advance).map ({ work with task := · })).map
      ({ state with tasks := · })
  | .join i =>
    match state.loop with
    | .draining _ => (state.tasks.join i).map ({ state with tasks := · })
    | _ => none
  | .finish =>
    match state.loop with
    | .draining result => if state.tasks.isEmpty then some (state.proceed (.returned result) []) else none
    | _ => none

/-- Everything a step can do. -/
inductive Moves (state : State listener) : Event ι π → State listener → Prop
  | request : Moves state .request { state with signal := state.signal.request }
  | release {signal : Signal} : state.signal.release state.subscribed = some signal →
      Moves state .release { state with signal := signal }
  | start : state.loop = .unstarted → Moves state .start (state.proceed .waiting [.take])
  | shutDown : (state.loop = .waiting ∨ ∃ e, state.loop = .asking e) → state.signal.requested = true →
      Moves state .poll (state.proceed (.draining (.ok ())) [])
  | listen : state.loop = .waiting → state.signal.requested = false →
      Moves state .poll (state.proceed .accepting [])
  | attend {e : Error} : state.loop = .asking e → state.signal.requested = false →
      Moves state .poll (state.proceed (.hooking e) [])
  | pend : state.loop = .accepting → Moves state .pend (state.proceed .waiting [])
  | defer {e : Error} : state.loop = .hooking e → Moves state .pend (state.proceed (.asking e) [])
  | got {outcome : ι} {item : α} : state.loop = .accepting → listener.take outcome = .got item →
      Moves state (.outcome outcome) { state.proceed .waiting [.outcome outcome, .spawn item, .take] with
        tasks := state.tasks.spawn ⟨item, listener.job.start item⟩ }
  | failed {outcome : ι} {e : Error} : state.loop = .accepting → listener.take outcome = .failed e →
      Moves state (.outcome outcome) (state.proceed (.asking e) [.outcome outcome, .ask e])
  | undecodable {outcome : ι} {e : Error} : state.loop = .accepting →
      listener.take outcome = .undecodable e →
      Moves state (.outcome outcome) (state.proceed (.reporting e) [.outcome outcome, .report e])
  | stopped {e : Error} : state.loop = .hooking e →
      Moves state (.answered .stop) (state.proceed (.draining (.error e)) [.answer e .stop])
  | resumed {e : Error} : state.loop = .hooking e →
      Moves state (.answered .continue) (state.proceed .waiting [.answer e .continue, .take])
  | reported {e : Error} : state.loop = .reporting e →
      Moves state .reported (state.proceed .waiting [.reported e, .take])
  | task {i : Nat} {advance : π} {tasks : JoinSet fun work : Work α τ => listener.job.finished work.task} :
      state.tasks.advance i (fun work =>
        (listener.job.step state.signal.requested work.task advance).map ({ work with task := · })) = some tasks →
      Moves state (.task i advance) { state with tasks := tasks }
  | join {i : Nat} {result : Result Unit}
      {tasks : JoinSet fun work : Work α τ => listener.job.finished work.task} :
      state.loop = .draining result → state.tasks.join i = some tasks →
      Moves state (.join i) { state with tasks := tasks }
  | finish {result : Result Unit} : state.loop = .draining result → state.tasks.isEmpty = true →
      Moves state .finish (state.proceed (.returned result) [])

theorem step_moves {state next : State listener} {event : Event ι π} (stepped : state.step event = some next) :
    state.Moves event next := by
  cases event with
  | request =>
    cases stepped
    exact .request
  | release =>
    obtain ⟨signal, released, rfl⟩ := Option.map_eq_some_iff.mp stepped
    exact .release released
  | start =>
    simp only [step] at stepped
    split at stepped <;> cases stepped
    exact .start ‹_›
  | poll =>
    simp only [step] at stepped
    split at stepped
    next at_select =>
      cases flag : state.signal.requested with
      | true =>
        rw [flag] at stepped
        cases stepped
        exact .shutDown (.inl at_select) flag
      | false =>
        rw [flag] at stepped
        cases stepped
        exact .listen at_select flag
    next e at_select =>
      cases flag : state.signal.requested with
      | true =>
        rw [flag] at stepped
        cases stepped
        exact .shutDown (.inr ⟨e, at_select⟩) flag
      | false =>
        rw [flag] at stepped
        cases stepped
        exact .attend at_select flag
    · cases stepped
  | pend =>
    simp only [step] at stepped
    split at stepped <;> cases stepped
    · exact .pend ‹_›
    · exact .defer ‹_›
  | outcome outcome =>
    simp only [step] at stepped
    split at stepped
    next accepting =>
      split at stepped <;> cases stepped
      · exact .got accepting ‹_›
      · exact .failed accepting ‹_›
      · exact .undecodable accepting ‹_›
    · cases stepped
  | answered action =>
    simp only [step] at stepped
    split at stepped
    next e hooking =>
      cases action <;> cases stepped
      · exact .resumed hooking
      · exact .stopped hooking
    · cases stepped
  | reported =>
    simp only [step] at stepped
    split at stepped <;> cases stepped
    exact .reported ‹_›
  | task i advance =>
    obtain ⟨tasks, advanced, rfl⟩ := Option.map_eq_some_iff.mp stepped
    exact .task advanced
  | join i =>
    simp only [step] at stepped
    split at stepped
    next draining =>
      obtain ⟨tasks, joined, rfl⟩ := Option.map_eq_some_iff.mp stepped
      exact .join draining joined
    · cases stepped
  | finish =>
    simp only [step] at stepped
    split at stepped
    next draining =>
      split at stepped <;> cases stepped
      exact .finish draining ‹_›
    · cases stepped

theorem task_advanced {state : State listener} {i : Nat} {advance : π}
    {tasks : JoinSet fun work : Work α τ => listener.job.finished work.task}
    (advanced : state.tasks.advance i (fun work =>
      (listener.job.step state.signal.requested work.task advance).map ({ work with task := · })) = some tasks) :
    ∃ work task, state.tasks.spawned[i]? = some ⟨work, false⟩ ∧
      listener.job.step state.signal.requested work.task advance = some task ∧
      tasks.spawned = state.tasks.spawned.set i ⟨{ work with task := task }, false⟩ := by
  obtain ⟨work, after, found, went, replaced⟩ := JoinSet.advance_some advanced
  obtain ⟨task, stepped, rfl⟩ := Option.map_eq_some_iff.mp went
  exact ⟨work, task, found, stepped, replaced⟩

theorem task_unfinished {state : State listener} {i : Nat} {advance : π}
    {tasks : JoinSet fun work : Work α τ => listener.job.finished work.task}
    (advanced : state.tasks.advance i (fun work =>
      (listener.job.step state.signal.requested work.task advance).map ({ work with task := · })) = some tasks) :
    ¬state.tasks.All fun work => listener.job.finished work.task = true := by
  intro ended
  obtain ⟨work, task, found, stepped, _⟩ := task_advanced advanced
  rw [listener.job.step_finished (ended _ (List.mem_of_getElem? found))] at stepped
  cases stepped

end State

/-- Which act may come right after which. -/
inductive Next (listener : Listener ι α τ π) : Act ι α → Act ι α → Prop
  | took {outcome : ι} : Next listener .take (.outcome outcome)
  | got {outcome : ι} {item : α} : listener.take outcome = .got item →
      Next listener (.outcome outcome) (.spawn item)
  | failed {outcome : ι} {e : Error} : listener.take outcome = .failed e →
      Next listener (.outcome outcome) (.ask e)
  | undecodable {outcome : ι} {e : Error} : listener.take outcome = .undecodable e →
      Next listener (.outcome outcome) (.report e)
  | spawned {item : α} : Next listener (.spawn item) .take
  | asked {e : Error} {action : AcceptErrorAction} : Next listener (.ask e) (.answer e action)
  | continued {e : Error} : Next listener (.answer e .continue) .take
  | reported {e : Error} : Next listener (.report e) (.reported e)
  | onwards {e : Error} : Next listener (.reported e) .take

def accepted (listener : Listener ι α τ π) : Act ι α → Option α
  | .outcome outcome =>
    match listener.take outcome with
    | .got item => some item
    | _ => none
  | _ => none

def LastAct (last : Option (Act ι α)) : Loop → Prop
  | .unstarted => last = none
  | .waiting | .accepting => last = some .take
  | .asking e | .hooking e => last = some (.ask e)
  | .reporting e => last = some (.report e)
  | .draining (.error e) | .returned (.error e) => last = some (.answer e .stop)
  | .draining (.ok ()) | .returned (.ok ()) => last = some .take ∨ ∃ e, last = some (.ask e)

def Loop.isLeaving : Loop → Bool
  | .draining _ | .returned _ => true
  | _ => false

namespace State

/-- What holds in every state. -/
structure Kept (state : State listener) : Prop where
  history : state.acts.IsChain (Next listener)
  first : ∀ act ∈ state.acts.head?, act = .take
  last : LastAct state.acts.getLast? state.loop
  items : state.tasks.labels Work.item = state.acts.filterMap listener.accepted
  unstarted : state.loop = .unstarted → state.tasks.spawned = []
  told : state.loop = .draining (.ok ()) ∨ state.loop = .returned (.ok ()) → state.signal.requested = true
  unjoined : state.loop.isLeaving = false → state.tasks.Unjoined
  drained : ∀ result, state.loop = .returned result →
    state.tasks.All fun work => listener.job.finished work.task = true

theorem idle_kept : (idle listener).Kept where
  history := .nil
  first := by simp [idle]
  last := rfl
  items := rfl
  unstarted _ := rfl
  told := by simp [idle]
  unjoined _ := by simp [idle, JoinSet.empty, JoinSet.Unjoined]
  drained := by simp [idle]

variable {state next : State listener} {loop : Loop} {event : Event ι π}

theorem Kept.turn (kept : state.Kept) (last : LastAct state.acts.getLast? loop) (begun : loop ≠ .unstarted)
    (told : loop = .draining (.ok ()) ∨ loop = .returned (.ok ()) → state.signal.requested = true)
    (leaving : loop.isLeaving = false → state.loop.isLeaving = false)
    (drained : ∀ result, loop = .returned result →
      state.tasks.All fun work => listener.job.finished work.task = true) :
    (state.proceed loop []).Kept where
  history := by simpa [proceed] using kept.history
  first := by simpa [proceed] using kept.first
  last := by simpa [proceed] using last
  items := by simpa [proceed] using kept.items
  unstarted same := absurd same begun
  told := told
  unjoined stays := kept.unjoined (leaving stays)
  drained := drained

theorem Kept.acts {act : Act ι α} {acts : List (Act ι α)} (kept : state.Kept)
    (tasks : JoinSet fun work : Work α τ => listener.job.finished work.task)
    (follows : state.acts = [] ∧ act = .take ∨ ∃ last, state.acts.getLast? = some last ∧ Next listener last act)
    (chain : (act :: acts).IsChain (Next listener)) (last : LastAct (act :: acts).getLast? loop)
    (items : tasks.labels Work.item = state.tasks.labels Work.item ++ (act :: acts).filterMap listener.accepted)
    (unjoined : tasks.Unjoined) (begun : loop ≠ .unstarted) (told : loop ≠ .draining (.ok ()))
    (stays : ∀ result, loop ≠ .returned result) :
    State.Kept { state.proceed loop (act :: acts) with tasks := tasks } where
  history := by
    apply List.isChain_append.mpr
    refine ⟨kept.history, chain, ?_⟩
    intro last ends head begins
    cases begins
    obtain ⟨nothing, _⟩ | ⟨before, same, next⟩ := follows
    · simp [nothing] at ends
    · cases same.symm.trans ends
      exact next
  first := by
    obtain ⟨nothing, rfl⟩ | ⟨before, same, _⟩ := follows
    · simp [proceed, nothing]
    · have some_acts : state.acts ≠ [] := by
        intro nothing
        simp [nothing] at same
      simpa [proceed, List.head?_append_of_ne_nil _ some_acts] using kept.first
  last := by simpa [proceed, List.getLast?_append, List.getLast?_cons] using last
  items := by
    simp only [proceed, List.filterMap_append]
    rw [items, kept.items]
  unstarted same := absurd same begun
  told out := (out.elim told (stays _)).elim
  unjoined _ := unjoined
  drained result out := absurd out (stays result)

theorem Kept.works (kept : state.Kept) {tasks : JoinSet fun work : Work α τ => listener.job.finished work.task}
    (items : tasks.labels Work.item = state.tasks.labels Work.item)
    (some_task : state.tasks.spawned ≠ []) (unjoined : state.loop.isLeaving = false → tasks.Unjoined)
    (finished : state.tasks.All (fun work => listener.job.finished work.task = true) →
      tasks.All fun work => listener.job.finished work.task = true) :
    State.Kept { state with tasks := tasks } where
  history := kept.history
  first := kept.first
  last := kept.last
  items := items.trans kept.items
  unstarted fresh := absurd (kept.unstarted fresh) some_task
  told := kept.told
  unjoined := unjoined
  drained result out := finished (kept.drained result out)

theorem Kept.step (kept : state.Kept) (stepped : state.step event = some next) : next.Kept := by
  have last := kept.last
  cases step_moves stepped with
  | request => exact { kept with told := fun _ => rfl }
  | release released =>
    obtain ⟨_, _, rfl⟩ := Signal.release_some released
    exact { kept with told := fun _ => rfl }
  | start fresh =>
    rw [fresh] at last
    apply kept.acts state.tasks
    · exact .inl ⟨List.getLast?_eq_none_iff.mp last, rfl⟩
    all_goals simp [LastAct, accepted, kept.unjoined, fresh, Loop.isLeaving]
  | shutDown here requested =>
    apply kept.turn
    · obtain waiting | ⟨e, asking⟩ := here
      · rw [waiting] at last
        exact .inl last
      · rw [asking] at last
        exact .inr ⟨e, last⟩
    · simp
    · exact fun _ => requested
    · simp [Loop.isLeaving]
    · simp
  | listen here | attend here | pend here | defer here =>
    rw [here] at last
    apply kept.turn
    · exact last
    all_goals simp [here, Loop.isLeaving]
  | got here took | failed here took | undecodable here took =>
    have underWay : state.tasks.Unjoined := kept.unjoined (by rw [here]; rfl)
    rw [here] at last
    apply kept.acts
    · exact .inr ⟨_, last, .took⟩
    · simp [took, Next.got, Next.failed, Next.undecodable, Next.spawned]
    all_goals simp [took, LastAct, accepted, underWay, underWay.spawn]
  | stopped here | resumed here =>
    have underWay : state.tasks.Unjoined := kept.unjoined (by rw [here]; rfl)
    rw [here] at last
    apply kept.acts state.tasks
    · exact .inr ⟨_, last, .asked⟩
    · simp [Next.continued]
    all_goals simp [LastAct, accepted, underWay]
  | reported here =>
    have underWay : state.tasks.Unjoined := kept.unjoined (by rw [here]; rfl)
    rw [here] at last
    apply kept.acts state.tasks
    · exact .inr ⟨_, last, .reported⟩
    · simp [Next.onwards]
    all_goals simp [LastAct, accepted, underWay]
  | task advanced =>
    obtain ⟨work, task, found, _, replaced⟩ := task_advanced advanced
    apply kept.works (JoinSet.labels_put found (by rfl) replaced) (List.ne_nil_of_mem (List.mem_of_getElem? found))
    · intro underWay
      exact (kept.unjoined underWay).advance advanced
    · exact fun ended => absurd ended (task_unfinished advanced)
  | join draining joined =>
    obtain ⟨_, found, _, _⟩ := JoinSet.join_some joined
    apply kept.works (JoinSet.labels_join joined) (List.ne_nil_of_mem (List.mem_of_getElem? found))
    · intro underWay
      rw [draining] at underWay
      cases underWay
    · exact fun ended => ended.join joined
  | @finish result draining empty =>
    rw [draining] at last
    apply kept.turn
    · cases result <;> exact last
    · simp
    · intro out
      obtain rfl : result = .ok () := by simpa using out
      exact kept.told (.inl draining)
    · simp [Loop.isLeaving]
    · intro _ _
      exact JoinSet.all_finished empty

theorem Kept.reached (reaches : Reaches State.step (idle listener) state) : state.Kept :=
  Run.invariant idle_kept (fun _ _ _ kept _ stepped => kept.step stepped) reaches

theorem each_step (Keeps : α → τ → Prop) (begins : ∀ item, Keeps item (listener.job.start item))
    (goes : ∀ item requested task advance after, Keeps item task →
      listener.job.step requested task advance = some after → Keeps item after)
    (kept : state.tasks.All fun work => Keeps work.item work.task) (stepped : state.step event = some next) :
    next.tasks.All fun work => Keeps work.item work.task := by
  cases step_moves stepped with
  | got here took =>
    intro entry inside
    rcases List.mem_append.mp inside with before | last
    · exact kept entry before
    · obtain rfl := List.mem_singleton.mp last
      exact begins _
  | task advanced =>
    obtain ⟨work, task, found, went, replaced⟩ := task_advanced advanced
    have held : Keeps work.item work.task := kept _ (List.mem_of_getElem? found)
    intro entry inside
    rw [replaced] at inside
    rcases List.mem_or_eq_of_mem_set inside with before | rfl
    · exact kept entry before
    · exact goes _ _ _ _ _ held went
  | join _ joined => exact kept.join joined
  | _ => exact kept

theorem some_step (Keeps : α → τ → Prop)
    (goes : ∀ item requested task advance after, Keeps item task →
      listener.job.step requested task advance = some after → Keeps item after)
    (stepped : state.step event = some next)
    (there : ∃ entry ∈ state.tasks.spawned, Keeps entry.task.item entry.task.task) :
    ∃ entry ∈ next.tasks.spawned, Keeps entry.task.item entry.task.task := by
  cases step_moves stepped with
  | got here took =>
    obtain ⟨entry, inside, holds⟩ := there
    exact ⟨entry, List.mem_append_left _ inside, holds⟩
  | task advanced =>
    obtain ⟨work, task, found, went, replaced⟩ := task_advanced advanced
    have kept : Keeps work.item work.task → Keeps work.item task := fun holds => goes _ _ _ _ _ holds went
    exact JoinSet.some_put (P := fun work : Work α τ => Keeps work.item work.task) found replaced kept there
  | join _ joined =>
    obtain ⟨work, found, _, replaced⟩ := JoinSet.join_some joined
    exact JoinSet.some_put (P := fun work : Work α τ => Keeps work.item work.task) found replaced id there
  | _ => exact there

theorem each (Keeps : α → τ → Prop) (begins : ∀ item, Keeps item (listener.job.start item))
    (goes : ∀ item requested task advance after, Keeps item task →
      listener.job.step requested task advance = some after → Keeps item after)
    (reaches : Reaches State.step (idle listener) state) :
    state.tasks.All fun work => Keeps work.item work.task := by
  apply Run.invariant (by simp [idle, JoinSet.empty, JoinSet.All]) ?_ reaches
  intro state event next kept _ stepped
  exact each_step Keeps begins goes kept stepped

theorem step_labels (stepped : state.step event = some next) :
    next.tasks.labels Work.item = state.tasks.labels Work.item ∨ ∃ outcome item, event = .outcome outcome ∧
      listener.take outcome = .got item ∧ next.tasks.labels Work.item = state.tasks.labels Work.item ++ [item] := by
  cases step_moves stepped with
  | got _ took => exact .inr ⟨_, _, rfl, took, JoinSet.labels_spawn _⟩
  | task advanced =>
    obtain ⟨work, task, found, _, replaced⟩ := task_advanced advanced
    have same : Work.item { work with task := task } = Work.item work := rfl
    exact .inl (JoinSet.labels_put found same replaced)
  | join _ joined => exact .inl (JoinSet.labels_join joined)
  | _ => exact .inl rfl

section TaskOf

variable [DecidableEq α]

def taskOf (state : State listener) (item : α) : τ :=
  ((state.tasks.spawned.find? fun entry => entry.task.item == item).map fun entry => entry.task.task).getD
    (listener.job.start item)

theorem taskOf_found (apart : (state.tasks.labels Work.item).Nodup) {i : Nat} {entry : Spawned (Work α τ)}
    (found : state.tasks.spawned[i]? = some entry) : state.taskOf entry.task.item = entry.task.task := by
  obtain ⟨before, after, split⟩ := List.append_of_mem (List.mem_of_getElem? found)
  have first : state.tasks.spawned.find? (fun other => other.task.item == entry.task.item) = some entry := by
    refine List.find?_eq_some_iff_append.mpr ⟨beq_self_eq_true _, before, after, split, ?_⟩
    intro other inside
    rw [JoinSet.labels, split, List.map_append, List.map_cons] at apart
    have differ := List.disjoint_of_nodup_append apart (List.mem_map_of_mem inside)
    simp only [Bool.not_eq_true', beq_eq_false_iff_ne]
    intro same
    exact differ (same ▸ List.mem_cons_self)
  rw [taskOf, first]
  rfl

theorem taskOf_absent {item : α} (absent : ∀ entry ∈ state.tasks.spawned, entry.task.item ≠ item) :
    state.taskOf item = listener.job.start item := by
  have nothing : state.tasks.spawned.find? (fun other => other.task.item == item) = none :=
    List.find?_eq_none.mpr fun entry inside => by simpa using absent entry inside
  rw [taskOf, nothing]
  rfl

theorem taskOf_put {tasks : JoinSet fun work : Work α τ => listener.job.finished work.task} {i : Nat}
    {work : Work α τ} {task : τ} {joined : Bool} (apart : (state.tasks.labels Work.item).Nodup)
    (found : state.tasks.spawned[i]? = some ⟨work, false⟩)
    (replaced : tasks.spawned = state.tasks.spawned.set i ⟨{ work with task := task }, joined⟩) :
    taskOf { state with tasks := tasks } work.item = task ∧
      ∀ item, item ≠ work.item → taskOf { state with tasks := tasks } item = state.taskOf item := by
  have still : (tasks.labels Work.item).Nodup := by
    have same : Work.item { work with task := task } = Work.item work := rfl
    rw [JoinSet.labels_put found same replaced]
    exact apart
  have bound := (List.getElem?_eq_some_iff.mp found).1
  constructor
  · have here : tasks.spawned[i]? = some ⟨{ work with task := task }, joined⟩ := by
      rw [replaced, List.getElem?_set_self bound]
    exact @taskOf_found _ _ _ _ _ { state with tasks := tasks } _ still _ _ here
  · intro item other
    by_cases there : ∃ entry ∈ state.tasks.spawned, entry.task.item = item
    · obtain ⟨entry, inside, rfl⟩ := there
      obtain ⟨j, at_j⟩ := List.mem_iff_getElem?.mp inside
      have differ : i ≠ j := by
        rintro rfl
        cases found.symm.trans at_j
        exact other rfl
      have kept : tasks.spawned[j]? = some entry := by
        rw [replaced, List.getElem?_set_ne differ, at_j]
      rw [taskOf_found apart at_j]
      exact @taskOf_found _ _ _ _ _ { state with tasks := tasks } _ still _ _ kept
    · have absent : ∀ entry ∈ state.tasks.spawned, entry.task.item ≠ item :=
        fun entry inside same => there ⟨entry, inside, same⟩
      rw [taskOf_absent absent, taskOf_absent]
      intro entry inside
      rw [replaced] at inside
      rcases List.mem_or_eq_of_mem_set inside with before | rfl
      · exact absent entry before
      · exact Ne.symm other

theorem step_taskOf (apart : (state.tasks.labels Work.item).Nodup) (stepped : state.step event = some next) :
    (∃ i advance work task, event = .task i advance ∧ state.tasks.spawned[i]? = some ⟨work, false⟩ ∧
      listener.job.step state.signal.requested work.task advance = some task ∧ next.taskOf work.item = task ∧
      ∀ item, item ≠ work.item → next.taskOf item = state.taskOf item) ∨
    (∀ i advance, event ≠ .task i advance) ∧ ∀ item, next.taskOf item = state.taskOf item := by
  cases step_moves stepped with
  | @got outcome fresh here took =>
    refine .inr ⟨by simp, ?_⟩
    intro item
    simp only [taskOf, JoinSet.spawn, List.find?_append]
    cases state.tasks.spawned.find? fun entry => entry.task.item == item with
    | some entry => rfl
    | none =>
      by_cases same : fresh = item <;> simp [same]
  | task advanced =>
    obtain ⟨work, task, found, went, replaced⟩ := task_advanced advanced
    have put := taskOf_put apart found replaced
    exact .inl ⟨_, _, work, task, rfl, found, went, put.1, put.2⟩
  | join _ joined =>
    obtain ⟨work, found, _, replaced⟩ := JoinSet.join_some joined
    have put := @taskOf_put _ _ _ _ _ _ _ _ _ work work.task true apart found replaced
    refine .inr ⟨by simp, ?_⟩
    intro item
    by_cases same : item = work.item
    · rw [same, put.1, taskOf_found apart found]
    · exact put.2 item same
  | _ => exact .inr ⟨by simp, fun _ => rfl⟩

end TaskOf

end State

end Listener

end Modbus
