import Mathlib.Algebra.Group.Nat.Defs
import Modbus.ByteParser
import Modbus.ByteStream

/-! Operations that a program may not survive. Checked arithmetic, indexing and slicing have
no value where they are out of range; the rules say when they have one. A parser or a loop
with such operations in it mirrors the one without them as long as they all have values. -/
namespace Panic

/-- A number that an unsigned word of this width holds. -/
def fits (bits n : Nat) : Option Nat := if n < 2 ^ bits then some n else none

def add (bits a b : Nat) : Option Nat := fits bits (a + b)

def mul (bits a b : Nat) : Option Nat := fits bits (a * b)

def sub (a b : Nat) : Option Nat := if b ≤ a then some (a - b) else none

/-- A shift by the width of the word or more is refused; bits that fall out are not. -/
def shl (bits a count : Nat) : Option Nat := if count < bits then some (a <<< count % 2 ^ bits) else none

/-- Split in two; a drain from the front takes the first part and leaves the second. -/
def splitAt (xs : List α) (count : Nat) : Option (List α × List α) :=
  if count ≤ xs.length then some (xs.take count, xs.drop count) else none

def splitFirst : List α → Option (α × List α)
  | [] => none
  | x :: xs => some (x, xs)

/-- A slice taken for an array of this length. -/
def array (count : Nat) (xs : List α) : Option (List α) := if xs.length = count then some xs else none

/-- All runs of `size` neighbours. -/
def windows (xs : List α) (size : Nat) : Option (List (List α)) :=
  if size = 0 then none
  else some ((List.range (xs.length + 1 - size)).map fun i => (xs.drop i).take size)

theorem add_eq {bits a b : Nat} (small : a + b < 2 ^ bits) : add bits a b = some (a + b) := if_pos small

theorem mul_eq {bits a b : Nat} (small : a * b < 2 ^ bits) : mul bits a b = some (a * b) := if_pos small

theorem sub_eq {a b : Nat} (enough : b ≤ a) : sub a b = some (a - b) := if_pos enough

theorem shl_eq {bits count : Nat} (short : count < bits) (a : Nat) :
    shl bits a count = some (a <<< count % 2 ^ bits) := if_pos short

theorem splitAt_eq {xs : List α} {count : Nat} (inside : count ≤ xs.length) :
    splitAt xs count = some (xs.take count, xs.drop count) := if_pos inside

theorem windows_eq {size : Nat} (positive : size ≠ 0) (xs : List α) :
    windows xs size = some ((List.range (xs.length + 1 - size)).map fun i => (xs.drop i).take size) :=
  if_neg positive

theorem ite_eq {c : Prop} [Decidable c] {p p' : Option α} {a a' : α} (first : c → p = some a)
    (second : ¬c → p' = some a') : (if c then p else p') = some (if c then a else a') := by
  split
  next holds => exact first holds
  next fails => exact second fails

theorem bind_eq {p : Option α} {f : α → Option β} {a : α} {b : β} (first : p = some a)
    (second : f a = some b) : (p >>= f) = some b := by
  rw [first]
  exact second

theorem mapM_eq {f : α → Option β} {g : α → β} {xs : List α} (has : ∀ x ∈ xs, f x = some (g x)) :
    xs.mapM f = some (xs.map g) := by
  induction xs with
  | nil => rfl
  | cons x xs ih =>
    have later := ih fun y inside => has y (List.mem_cons_of_mem x inside)
    rw [List.mapM_cons, has x List.mem_cons_self, later]
    rfl

end Panic

namespace Bytes

/-- A parser in which an operation may fail for good. -/
structure CheckedParser (ε α : Type) where
  run : Bytes → Option (Except (ErrMode ε) (α × Bytes))

namespace CheckedParser

protected def bind (p : CheckedParser ε α) (f : α → CheckedParser ε β) : CheckedParser ε β := ⟨fun input =>
  match p.run input with
  | some (.ok (a, middle)) => (f a).run middle
  | some (.error e) => some (.error e)
  | none => none⟩

instance : Monad (CheckedParser ε) where
  pure a := ⟨fun input => some (.ok (a, input))⟩
  bind := CheckedParser.bind

/-- A parser without such an operation. -/
def total (p : Parser ε α) : CheckedParser ε α := ⟨fun input => some (p.run input)⟩

/-- The value of an operation, if it has one. -/
def expect (operation : Option α) : CheckedParser ε α := ⟨fun input => operation.map fun a => .ok (a, input)⟩

/-- Whatever the input, every operation has a value and the outcome is that of the other parser. -/
def Agrees (p : CheckedParser ε α) (q : Parser ε α) : Prop := ∀ input, p.run input = some (q.run input)

namespace Agrees

theorem total (p : Parser ε α) : Agrees (total p) p := fun _ => rfl

theorem pure (a : α) : Agrees (pure a : CheckedParser ε α) (pure a) := fun _ => rfl

theorem bind {p : CheckedParser ε α} {q : Parser ε α} {f : α → CheckedParser ε β} {g : α → Parser ε β}
    (first : Agrees p q) (second : ∀ a input rest, q.run input = .ok (a, rest) → Agrees (f a) (g a)) :
    Agrees (p >>= f) (q >>= g) := by
  intro input
  show (CheckedParser.bind p f).run input = some ((Parser.bind q g).run input)
  unfold CheckedParser.bind Parser.bind
  simp only [first input]
  rcases parsed : q.run input with e | ⟨a, middle⟩
  · rfl
  · exact second a input middle parsed middle

theorem expect {operation : Option α} {a : α} {f : α → CheckedParser ε β} {q : Parser ε β}
    (has : operation = some a) (next : Agrees (f a) q) : Agrees (expect operation >>= f) q := by
  intro input
  subst has
  exact next input

theorem ite {c : Prop} [Decidable c] {p p' : CheckedParser ε α} {q q' : Parser ε α}
    (first : c → Agrees p q) (second : ¬c → Agrees p' q') :
    Agrees (if c then p else p') (if c then q else q') := by
  split
  next holds => exact first holds
  next fails => exact second fails

end Agrees

end CheckedParser

end Bytes

namespace ByteStream

variable {capacity : Nat} {ε σ τ ρ π : Type}

/-- The same wait on the other side of a translation of states and results. -/
structure Await.Mirrors (capacity : Nat) (f : σ → τ) (g : ρ → π) (pending : Await ε σ ρ) (image : Await ε τ π) :
    Prop where
  timer : image.timer = pending.timer
  data : ∀ bytes, bytes.length ≤ capacity → image.data bytes = f (pending.data bytes)
  elapsed : image.elapsed = (g pending.elapsed.1, f pending.elapsed.2)
  ended : image.ended = (g pending.ended.1, f pending.ended.2)
  failed : ∀ failure, image.failed failure = (g (pending.failed failure).1, f (pending.failed failure).2)

inductive Turn.Mirrors (capacity : Nat) (f : σ → τ) (g : ρ → π) : Turn ε σ ρ → Turn ε τ π → Prop
  | stop {result : ρ} {state : σ} : Mirrors capacity f g (.stop result state) (.stop (g result) (f state))
  | await {state : σ} {pending : Await ε σ ρ} {image : Await ε τ π} :
      pending.Mirrors capacity f g image → Mirrors capacity f g (.await state pending) (.await (f state) image)

theorem drive_mirrors {turn : σ → Turn ε σ ρ} {image : τ → Turn ε τ π} {f : σ → τ} {g : ρ → π}
    (mirrors : ∀ state, (turn state).Mirrors capacity f g (image (f state))) (limit : Option Nat)
    (state : σ) (stream : ByteStream capacity ε) :
    drive image limit (f state) stream =
      ((drive turn limit state stream).1.map g, f (drive turn limit state stream).2.1,
        (drive turn limit state stream).2.2) := by
  obtain ⟨now, arrivals, ending⟩ := stream
  simp only [drive]
  induction arrivals generalizing now state with
  | nil =>
    have mirrored := mirrors state
    unfold driveFrom
    generalize turn state = turned at mirrored
    generalize image (f state) = imaged at mirrored
    cases mirrored with
    | stop => rfl
    | await same =>
      simp only [same.timer, same.elapsed, same.ended]
      split <;> rfl
  | cons arrival rest ih =>
    have mirrored := mirrors state
    unfold driveFrom
    generalize turn state = turned at mirrored
    generalize image (f state) = imaged at mirrored
    cases mirrored with
    | stop => rfl
    | await same =>
      simp only [same.timer, same.elapsed, same.ended]
      split
      · cases arrival.read with
        | error failure => simp only [same.failed, Option.map_some]
        | ok chunk =>
          by_cases nothing : chunk.val = []
          · simp only [nothing, if_true, Option.map_some]
          · simp only [nothing, if_false, same.data chunk.val chunk.property]
            exact ih _ _
      · rfl
      · rfl

/-- A loop on a stream that ends comes to a result, and the stream still ends. -/
theorem drive_returns (turn : σ → Turn ε σ ρ) (state : σ) {stream : ByteStream capacity ε} {closing : Nat}
    (ends : stream.ending = some closing) :
    ∃ result next after, drive turn none state stream = (some result, next, after) ∧
      after.ending = some closing := by
  obtain ⟨result, next, after, drove, outcome, same⟩ := drive_rule turn none
    (fun _ current => current.ending = some closing)
    (fun result _ after => (∃ outcome, result = some outcome) ∧ after.ending = some closing)
    (fun state current result next after held steps => by
      cases steps with
      | abandoned _ never =>
        obtain ⟨_, unready⟩ := never rfl
        unfold ready at unready
        split at unready
        · cases held.symm.trans unready
        · cases unready
      | _ => exact ⟨⟨_, rfl⟩, held⟩)
    (fun state current next after held steps => by
      cases steps with
      | data => exact held)
    ends
  obtain ⟨outcome, rfl⟩ := outcome
  exact ⟨outcome, next, after, drove, same⟩

end ByteStream
