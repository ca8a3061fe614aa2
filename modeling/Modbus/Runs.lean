import Mathlib.Data.List.Nodup
import Mathlib.Data.List.Sublists

/-! Runs of a machine whose steps may fail: what every allowed step keeps holds wherever
a run leads. What is asked and answered in a run is told apart by tags, which come round
again, or explained by the order in which operations take effect. -/

section Runs

variable {σ ε : Type}

/-- The states reached from `start` by steps that do not fail. -/
inductive Run (step : σ → ε → Option σ) (Allowed : σ → ε → Prop) (start : σ) : σ → Prop
  | start : Run step Allowed start start
  | step {state next : σ} {event : ε} : Run step Allowed start state → Allowed state event →
      step state event = some next → Run step Allowed start next

namespace Run

variable {step : σ → ε → Option σ} {Allowed Permitted : σ → ε → Prop} {start state middle : σ}

theorem invariant {Holds : σ → Prop} (initially : Holds start)
    (kept : ∀ state event next, Holds state → Allowed state event → step state event = some next →
      Holds next) (run : Run step Allowed start state) : Holds state := by
  induction run with
  | start => exact initially
  | step _ allowed stepped ih => exact kept _ _ _ ih allowed stepped

theorem mono {Holds : σ → Prop} (holds : ∀ state, Run step Allowed start state → Holds state)
    (permits : ∀ state event, Holds state → Allowed state event → Permitted state event)
    (run : Run step Allowed start state) : Run step Permitted start state := by
  induction run with
  | start => exact .start
  | step reached allowed stepped ih => exact .step ih (permits _ _ (holds _ reached) allowed) stepped

theorem trans (first : Run step Allowed start middle) (second : Run step Allowed middle state) :
    Run step Allowed start state := by
  induction second with
  | start => exact first
  | step _ allowed stepped ih => exact .step ih allowed stepped

theorem follow (events : List ε) (allowed : ∀ state, ∀ event ∈ events, Allowed state event)
    (followed : events.foldlM step start = some state) : Run step Allowed start state := by
  induction events generalizing start with
  | nil =>
    cases followed
    exact .start
  | cons event rest ih =>
    rw [List.foldlM_cons] at followed
    obtain ⟨next, stepped, followed⟩ := Option.bind_eq_some_iff.mp followed
    have later := ih (fun state other inside => allowed state other (List.mem_cons_of_mem _ inside)) followed
    exact (Run.start.step (allowed start event List.mem_cons_self) stepped).trans later

end Run

abbrev Reaches (step : σ → ε → Option σ) : σ → σ → Prop := Run step fun _ _ => True

theorem Reaches.next {step : σ → ε → Option σ} {start state next : σ} (reaches : Reaches step start state)
    (event : ε) (stepped : step state event = some next) : Reaches step start next :=
  .step reaches trivial stepped

theorem Reaches.once {step : σ → ε → Option σ} {start next : σ} (event : ε)
    (stepped : step start event = some next) : Reaches step start next :=
  Run.start.step trivial stepped

end Runs

section Tags

variable {Tag Question Answer : Type}

/-- Whatever bears this tag answers some question asked under it. -/
def Correlated (tag : Nat → Tag) (questions : List Question) (Answers : Question → Answer → Prop)
    (label : Tag) (answer : Answer) : Prop :=
  ∃ number question, questions[number]? = some question ∧ tag number = label ∧ Answers question answer

namespace Correlated

variable {tag : Nat → Tag} {questions more : List Question} {Answers Later : Question → Answer → Prop}
  {label : Tag} {answer : Answer} {question : Question} {number period : Nat}

theorem mono (correlated : Correlated tag questions Answers label answer) (grows : questions <+: more)
    (later : ∀ question, Answers question answer → Later question answer) :
    Correlated tag more Later label answer := by
  obtain ⟨number, question, asked, tagged, answers⟩ := correlated
  obtain ⟨rest, rfl⟩ := grows
  have inside := (List.getElem?_eq_some_iff.mp asked).1
  exact ⟨number, question, (List.getElem?_append_left inside).trans asked, tagged, later question answers⟩

/-- While the tags have not come round, an answer is to the question that bears its tag. -/
theorem own (cyclic : ∀ first second, tag first = tag second → first % period = second % period)
    (few : questions.length ≤ period) (asked : questions[number]? = some question)
    (correlated : Correlated tag questions Answers (tag number) answer) : Answers question answer := by
  obtain ⟨other, theirs, there, tagged, answers⟩ := correlated
  have inside := (List.getElem?_eq_some_iff.mp asked).1
  have within := (List.getElem?_eq_some_iff.mp there).1
  have same := cyclic other number tagged
  rw [Nat.mod_eq_of_lt (by omega), Nat.mod_eq_of_lt (by omega)] at same
  subst same
  cases asked.symm.trans there
  exact answers

end Correlated

end Tags

section Linearization

inductive Moment (Op Question Reply : Type) where
  | called (op : Op) (question : Question)
  | returned (op : Op) (reply : Reply)
  deriving DecidableEq

/-- An operation that has taken effect, with the answer it was given. -/
structure Point (Op Question Answer : Type) where
  op : Op
  question : Question
  answer : Answer
  deriving DecidableEq

variable {Op Question Answer Reply : Type}

/-- The operations took effect in this order, each at most once and between its call and its return,
and what they returned tells what was answered. -/
structure Linearizes (Tells : Question → Answer → Reply → Prop) (history : List (Moment Op Question Reply))
    (order : List (Point Op Question Answer)) : Prop where
  once : (order.map Point.op).Nodup
  called : ∀ point ∈ order, .called point.op point.question ∈ history
  returned : ∀ op reply, .returned op reply ∈ history →
    ∃ point ∈ order, point.op = op ∧ Tells point.question point.answer reply
  inTime : ∀ first ∈ order, ∀ second ∈ order, ∀ reply,
    [.returned first.op reply, .called second.op second.question].Sublist history → [first, second].Sublist order

/-- A history in which it is also seen when the operations take effect. -/
inductive Trace (Tells : Question → Answer → Reply → Prop) :
    List (Moment Op Question Reply) → List (Point Op Question Answer) → Prop
  | start : Trace Tells [] []
  | call {history : List (Moment Op Question Reply)} {order : List (Point Op Question Answer)} {op : Op}
      {question : Question} : Trace Tells history order → (∀ other, .called op other ∉ history) →
      Trace Tells (history ++ [.called op question]) order
  | effect {history : List (Moment Op Question Reply)} {order : List (Point Op Question Answer)}
      {point : Point Op Question Answer} : Trace Tells history order →
      .called point.op point.question ∈ history → point.op ∉ order.map Point.op →
      Trace Tells history (order ++ [point])
  | returns {history : List (Moment Op Question Reply)} {order : List (Point Op Question Answer)}
      {point : Point Op Question Answer} {reply : Reply} : Trace Tells history order → point ∈ order →
      Tells point.question point.answer reply →
      Trace Tells (history ++ [.returned point.op reply]) order

theorem pair_sublist_concat {α : Type} {a b last : α} {list : List α} (inside : [a, b].Sublist (list ++ [last])) :
    [a, b].Sublist list ∨ (a ∈ list ∧ b = last) := by
  obtain ⟨front, back, split, early, late⟩ := List.sublist_append_iff.mp inside
  rcases List.sublist_singleton.mp late with rfl | rfl
  · rw [List.append_nil] at split
    exact .inl (split ▸ early)
  · obtain ⟨rfl, rfl⟩ : front = [a] ∧ b = last := by
      have same := List.append_inj' (show [a] ++ [b] = front ++ [last] from split) rfl
      exact ⟨same.1.symm, by simpa using same.2⟩
    exact .inr ⟨List.singleton_sublist.mp early, rfl⟩

namespace Trace

variable {Tells : Question → Answer → Reply → Prop} {history : List (Moment Op Question Reply)}
  {order : List (Point Op Question Answer)}

theorem linearizes (trace : Trace Tells history order) : Linearizes Tells history order := by
  induction trace with
  | start => exact ⟨List.nodup_nil, by simp, by simp, by simp⟩
  | @call history order op question _ new ih =>
    refine ⟨ih.once, fun point inside => List.mem_append_left _ (ih.called point inside), ?_, ?_⟩
    · intro other reply inside
      exact ih.returned other reply (by simpa using inside)
    · intro first one second two reply pair
      rcases pair_sublist_concat pair with before | ⟨_, last⟩
      · exact ih.inTime first one second two reply before
      · cases last
        exact absurd (ih.called second two) (new _)
  | @effect history order point _ asked new ih =>
    have unreturned : ∀ reply, .returned point.op reply ∉ history := by
      intro reply inside
      obtain ⟨other, there, same, _⟩ := ih.returned point.op reply inside
      exact new (same ▸ List.mem_map_of_mem there)
    refine ⟨?_, ?_, ?_, ?_⟩
    · rw [List.map_append]
      exact List.nodup_append_comm.mp (List.nodup_cons.mpr ⟨new, ih.once⟩)
    · intro other inside
      rcases List.mem_append.mp inside with before | last
      · exact ih.called other before
      · rw [List.mem_singleton.mp last]
        exact asked
    · intro op reply inside
      obtain ⟨other, there, rest⟩ := ih.returned op reply inside
      exact ⟨other, List.mem_append_left _ there, rest⟩
    · intro first one second two reply pair
      rcases List.mem_append.mp one with before | last
      · rcases List.mem_append.mp two with earlier | latest
        · exact (ih.inTime first before second earlier reply pair).trans (List.sublist_append_left _ _)
        · rw [List.mem_singleton.mp latest]
          exact (List.singleton_sublist.mpr before).append (List.Sublist.refl [point])
      · rw [List.mem_singleton.mp last] at pair
        exact absurd (pair.subset List.mem_cons_self) (unreturned reply)
  | @returns history order point reply _ there tells ih =>
    refine ⟨ih.once, fun other inside => List.mem_append_left _ (ih.called other inside), ?_, ?_⟩
    · intro op other inside
      rcases List.mem_append.mp inside with before | last
      · exact ih.returned op other before
      · cases List.mem_singleton.mp last
        exact ⟨point, there, rfl, tells⟩
    · intro first one second two other pair
      rcases pair_sublist_concat pair with before | ⟨_, last⟩
      · exact ih.inTime first one second two other before
      · cases last

end Trace

end Linearization
