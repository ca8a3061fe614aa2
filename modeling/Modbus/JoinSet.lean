import Mathlib.Data.List.Count

/-! A set of tasks that run on their own. It keeps the entry of a task that has
finished until the task is joined. Every task ever spawned is listed, in order,
with a mark on those whose entry is gone. -/

variable {τ : Type}

/-- A task that was spawned, and whether it has been joined. -/
structure Spawned (τ : Type) where
  task : τ
  joined : Bool

structure JoinSet (finished : τ → Bool) where
  spawned : List (Spawned τ)
  finished_of_joined : ∀ entry ∈ spawned, entry.joined = true → finished entry.task = true

namespace JoinSet

variable {finished : τ → Bool}

def empty : JoinSet finished := ⟨[], by simp⟩

def spawn (set : JoinSet finished) (task : τ) : JoinSet finished where
  spawned := set.spawned ++ [⟨task, false⟩]
  finished_of_joined := by
    intro entry inside joined
    rcases List.mem_append.mp inside with before | last
    · exact set.finished_of_joined entry before joined
    · obtain rfl := List.mem_singleton.mp last
      cases joined

/-- Replace an entry, by one that is joined only if its task has finished. -/
def put (set : JoinSet finished) (i : Nat) (entry : Spawned τ)
    (ended : entry.joined = true → finished entry.task = true) : JoinSet finished where
  spawned := set.spawned.set i entry
  finished_of_joined := by
    intro other inside joined
    rcases List.mem_or_eq_of_mem_set inside with before | rfl
    · exact set.finished_of_joined other before joined
    · exact ended joined

/-- A task that is still in the set goes on, if it can. -/
def advance (set : JoinSet finished) (i : Nat) (go : τ → Option τ) : Option (JoinSet finished) :=
  match set.spawned[i]? with
  | some ⟨task, false⟩ => (go task).map fun next => set.put i ⟨next, false⟩ nofun
  | _ => none

/-- A finished task leaves the set. -/
def join (set : JoinSet finished) (i : Nat) : Option (JoinSet finished) :=
  match set.spawned[i]? with
  | some ⟨task, false⟩ => if ended : finished task = true then some (set.put i ⟨task, true⟩ fun _ => ended) else none
  | _ => none

def held (set : JoinSet finished) : Nat := set.spawned.countP (!·.joined)

/-- Tasks that have not finished. -/
def unfinished (set : JoinSet finished) : Nat := set.spawned.countP fun entry => !finished entry.task

def isEmpty (set : JoinSet finished) : Bool := set.spawned.all (·.joined)

/-- Every task that was spawned. -/
def All (set : JoinSet finished) (P : τ → Prop) : Prop := ∀ entry ∈ set.spawned, P entry.task

variable {set next : JoinSet finished} {i : Nat} {P : τ → Prop}

theorem advance_some {go : τ → Option τ} (advanced : set.advance i go = some next) :
    ∃ task after, set.spawned[i]? = some ⟨task, false⟩ ∧ go task = some after ∧
      next.spawned = set.spawned.set i ⟨after, false⟩ := by
  unfold advance at advanced
  split at advanced
  next task found =>
    obtain ⟨after, went, rfl⟩ := Option.map_eq_some_iff.mp advanced
    exact ⟨task, after, found, went, rfl⟩
  · cases advanced

theorem join_some (joined : set.join i = some next) :
    ∃ task, set.spawned[i]? = some ⟨task, false⟩ ∧ finished task = true ∧
      next.spawned = set.spawned.set i ⟨task, true⟩ := by
  unfold join at joined
  split at joined
  next task found =>
    split at joined
    next ended =>
      cases joined
      exact ⟨task, found, ended, rfl⟩
    · cases joined
  · cases joined

theorem found_put {j : Nat} {new entry : Spawned τ} (replaced : next.spawned = set.spawned.set i new)
    (found : next.spawned[j]? = some entry) : j = i ∧ entry = new ∨ set.spawned[j]? = some entry := by
  rw [replaced, List.getElem?_set] at found
  split at found
  next same =>
    split at found <;> cases found
    exact .inl ⟨same.symm, rfl⟩
  · exact .inr found

/-- What holds of some task still does once a task has been replaced by one of which it also holds. -/
theorem some_put {old new : Spawned τ} (found : set.spawned[i]? = some old)
    (replaced : next.spawned = set.spawned.set i new) (kept : P old.task → P new.task)
    (there : ∃ entry ∈ set.spawned, P entry.task) : ∃ entry ∈ next.spawned, P entry.task := by
  obtain ⟨entry, inside, holds⟩ := there
  obtain ⟨j, at_j⟩ := List.mem_iff_getElem?.mp inside
  have bound : i < set.spawned.length := (List.getElem?_eq_some_iff.mp found).1
  by_cases same : i = j
  · subst same
    cases found.symm.trans at_j
    refine ⟨new, ?_, kept holds⟩
    rw [replaced]
    exact List.mem_set bound new
  · refine ⟨entry, List.mem_iff_getElem?.mpr ⟨j, ?_⟩, holds⟩
    rw [replaced, List.getElem?_set_ne same]
    exact at_j

theorem All.join (all : set.All P) (joined : set.join i = some next) : next.All P := by
  obtain ⟨task, found, _, replaced⟩ := join_some joined
  have same : P task := all _ (List.mem_of_getElem? found)
  intro entry inside
  rw [replaced] at inside
  rcases List.mem_or_eq_of_mem_set inside with before | rfl
  · exact all entry before
  · exact same

theorem all_finished (empty : set.isEmpty = true) : set.All (finished · = true) := by
  intro entry inside
  exact set.finished_of_joined entry inside (List.all_eq_true.mp empty entry inside)

/-- What the tasks keep of themselves, in the order they were spawned. -/
def labels {α : Type} (set : JoinSet finished) (label : τ → α) : List α :=
  set.spawned.map fun entry => label entry.task

variable {α : Type} {label : τ → α}

@[simp] theorem labels_spawn (task : τ) : (set.spawn task).labels label = set.labels label ++ [label task] := by
  simp [labels, spawn]

theorem labels_put {task after : τ} {joined : Bool} (found : set.spawned[i]? = some ⟨task, false⟩)
    (same : label after = label task) (replaced : next.spawned = set.spawned.set i ⟨after, joined⟩) :
    next.labels label = set.labels label := by
  simp only [labels, replaced, List.map_set, same]
  apply List.ext_getElem?
  intro j
  rw [List.getElem?_set]
  split
  · next here =>
    subst here
    obtain ⟨bound, at_i⟩ := List.getElem?_eq_some_iff.mp found
    simp [bound, at_i]
  · rfl

theorem labels_join (joined : set.join i = some next) : next.labels label = set.labels label := by
  obtain ⟨task, found, _, replaced⟩ := join_some joined
  exact labels_put found rfl replaced

def Unjoined (set : JoinSet finished) : Prop := ∀ entry ∈ set.spawned, entry.joined = false

theorem Unjoined.spawn {task : τ} (none : set.Unjoined) : (set.spawn task).Unjoined := by
  intro entry inside
  rcases List.mem_append.mp inside with before | last
  · exact none entry before
  · obtain rfl := List.mem_singleton.mp last
    rfl

theorem Unjoined.advance {go : τ → Option τ} (none : set.Unjoined) (advanced : set.advance i go = some next) :
    next.Unjoined := by
  obtain ⟨task, after, _, _, replaced⟩ := advance_some advanced
  intro entry inside
  rw [replaced] at inside
  rcases List.mem_or_eq_of_mem_set inside with before | rfl
  · exact none entry before
  · rfl

theorem Unjoined.held_le_iff (none : set.Unjoined) :
    set.held ≤ set.unfinished ↔ set.All (finished · = false) := by
  have whole : set.held = set.spawned.length :=
    List.countP_eq_length.mpr fun entry inside => by simp [none entry inside]
  have most : set.unfinished ≤ set.spawned.length := List.countP_le_length
  constructor
  · intro bounded entry inside
    have all : set.unfinished = set.spawned.length := by omega
    simpa using List.countP_eq_length.mp all entry inside
  · intro running
    have all : set.unfinished = set.spawned.length :=
      List.countP_eq_length.mpr fun entry inside => by simp [running entry inside]
    omega

end JoinSet
