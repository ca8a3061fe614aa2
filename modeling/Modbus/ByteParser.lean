import Modbus.ByteWords

/-! Parsers over a partial byte input. A parser that runs out of input reports
how many bytes are missing. Each rule below says exactly which inputs a parser
accepts, so a layout can be read off a parser without unfolding it. -/
namespace Bytes

/-- The appetite of a parser that ran out of input. -/
inductive Needed where
  | size (bytes : Nat)
  | unknown
  deriving DecidableEq, Repr

inductive ErrMode (ε : Type) where
  | incomplete (needed : Needed)
  | backtrack (failure : ε)
  | cut (failure : ε)
  deriving DecidableEq, Repr

/-- A parser either consumes a prefix of its input or fails. -/
structure Parser (ε α : Type) where
  run : Bytes → Except (ErrMode ε) (α × Bytes)

namespace Parser

protected def bind (p : Parser ε α) (f : α → Parser ε β) : Parser ε β := ⟨fun input =>
  match p.run input with
  | .ok (a, middle) => (f a).run middle
  | .error e => .error e⟩

instance : Monad (Parser ε) where
  pure a := ⟨fun input => .ok (a, input)⟩
  bind := Parser.bind

def fail (e : ErrMode ε) : Parser ε α := ⟨fun _ => .error e⟩

def beU8 : Parser ε UInt8 := ⟨fun
  | byte :: rest => .ok (byte, rest)
  | [] => .error (.incomplete (.size 1))⟩

def beU16 : Parser ε UInt16 := ⟨fun
  | hi :: lo :: rest => .ok (ofBe hi lo, rest)
  | input => .error (.incomplete (.size (2 - input.length)))⟩

def take (count : Nat) : Parser ε Bytes := ⟨fun input =>
  if input.length < count then .error (.incomplete (.size (count - input.length)))
  else .ok (input.take count, input.drop count)⟩

def rest : Parser ε Bytes := ⟨fun input => .ok (input, [])⟩

/-- Bytes not yet consumed. -/
def remaining : Parser ε Nat := ⟨fun input => .ok (input.length, input)⟩

/-- A sequence fails with its first parser, or with the second on what the first has left. -/
theorem bind_error {p : Parser ε α} {f : α → Parser ε β} {input : Bytes} {failure : ErrMode ε}
    (failed : (p >>= f).run input = .error failure) :
    p.run input = .error failure ∨
      ∃ a middle, p.run input = .ok (a, middle) ∧ (f a).run middle = .error failure := by
  have ran : (Parser.bind p f).run input = .error failure := failed
  unfold Parser.bind at ran
  rcases parsed : p.run input with other | ⟨a, middle⟩
  · simp only [parsed] at ran
    cases ran
    exact .inl rfl
  · simp only [parsed] at ran
    exact .inr ⟨a, middle, rfl, ran⟩

/-- On every input the parser's failures are among these. -/
def Fails (P : ErrMode ε → Prop) (p : Parser ε α) : Prop :=
  ∀ input failure, p.run input = .error failure → P failure

namespace Fails

variable {P : ErrMode ε → Prop}

theorem pure (a : α) : Fails P (pure a : Parser ε α) := by
  intro input failure failed
  cases failed

theorem rest : Fails P (rest : Parser ε Bytes) := by
  intro input failure failed
  cases failed

theorem remaining : Fails P (remaining : Parser ε Nat) := by
  intro input failure failed
  cases failed

theorem fail {failure : ErrMode ε} (holds : P failure) : Fails P (fail failure : Parser ε α) := by
  intro input other failed
  cases failed
  exact holds

theorem bind {p : Parser ε α} {f : α → Parser ε β} (first : Fails P p)
    (second : ∀ a, Fails P (f a)) : Fails P (p >>= f) := by
  intro input failure failed
  rcases bind_error failed with failed | ⟨a, middle, _, failed⟩
  · exact first input failure failed
  · exact second a middle failure failed

theorem ite {c : Prop} [Decidable c] {p q : Parser ε α} (first : Fails P p) (second : Fails P q) :
    Fails P (if c then p else q) := by
  split
  · exact first
  · exact second

variable (short : ∀ needed, P (.incomplete needed))
include short

theorem beU8 : Fails P (beU8 : Parser ε UInt8) := by
  intro input failure failed
  cases input with
  | nil =>
    cases failed
    exact short _
  | cons => cases failed

theorem beU16 : Fails P (beU16 : Parser ε UInt16) := by
  intro input failure failed
  match input with
  | [] | [_] =>
    cases failed
    exact short _
  | _ :: _ :: _ => cases failed

theorem take (count : Nat) : Fails P (take count : Parser ε Bytes) := by
  intro input failure failed
  unfold Parser.take at failed
  simp only at failed
  split at failed
  · cases failed
    exact short _
  · cases failed

end Fails

@[simp] theorem bind_ok {p : Parser ε α} {f : α → Parser ε β} {input output : Bytes} {b : β} :
    (p >>= f).run input = .ok (b, output) ↔
      ∃ a middle, p.run input = .ok (a, middle) ∧ (f a).run middle = .ok (b, output) := by
  show (Parser.bind p f).run input = .ok (b, output) ↔ _
  unfold Parser.bind
  cases h : p.run input with
  | error e => simp [h]
  | ok x => simp [h, Prod.ext_iff]

@[simp] theorem pure_ok {a b : α} {input output : Bytes} :
    (pure a : Parser ε α).run input = .ok (b, output) ↔ a = b ∧ input = output := by
  show Except.ok (a, input) = .ok (b, output) ↔ _
  simp

@[simp] theorem fail_ok {e : ErrMode ε} {b : α} {input output : Bytes} :
    ¬(fail e : Parser ε α).run input = .ok (b, output) := by
  simp [fail]

@[simp] theorem beU8_ok {byte : UInt8} {input output : Bytes} :
    (beU8 : Parser ε UInt8).run input = .ok (byte, output) ↔ input = byte :: output := by
  cases input <;> simp [beU8]

@[simp] theorem beU16_ok {word : UInt16} {input output : Bytes} :
    (beU16 : Parser ε UInt16).run input = .ok (word, output) ↔ input = beBytes word ++ output := by
  match input with
  | [] => simp [beU16, beBytes]
  | [_] => simp [beU16, beBytes]
  | hi :: lo :: rest =>
    simp only [beU16, Except.ok.injEq, Prod.mk.injEq]
    constructor
    · rintro ⟨rfl, rfl⟩
      simp
    · intro same
      simp only [beBytes, List.cons_append, List.nil_append, List.cons.injEq] at same
      obtain ⟨rfl, rfl, rfl⟩ := same
      simp

@[simp] theorem take_ok {count : Nat} {data input output : Bytes} :
    (take count : Parser ε Bytes).run input = .ok (data, output) ↔
      input = data ++ output ∧ data.length = count := by
  simp only [take]
  split
  case isTrue short =>
    simp only [reduceCtorEq, false_iff, not_and]
    rintro rfl
    simp at short
    omega
  case isFalse enough =>
    simp only [Except.ok.injEq, Prod.mk.injEq]
    constructor
    · rintro ⟨rfl, rfl⟩
      simp
      omega
    · rintro ⟨rfl, rfl⟩
      simp

theorem take_enough {count : Nat} {input : Bytes} (enough : count ≤ input.length) :
    (take count : Parser ε Bytes).run input = .ok (input.take count, input.drop count) :=
  if_neg (Nat.not_lt_of_le enough)

@[simp] theorem rest_ok {data input output : Bytes} :
    (rest : Parser ε Bytes).run input = .ok (data, output) ↔ input = data ∧ output = [] := by
  simp [rest, eq_comm]

@[simp] theorem remaining_ok {count : Nat} {input output : Bytes} :
    (remaining : Parser ε Nat).run input = .ok (count, output) ↔
      input.length = count ∧ input = output := by
  simp [remaining]

/-- A parser that looks at nothing beyond what it consumes. -/
def Stable (p : Parser ε α) : Prop :=
  ∀ input a output, p.run input = .ok (a, output) →
    ∃ used, input = used ++ output ∧ ∀ rest, p.run (used ++ rest) = .ok (a, rest)

namespace Stable

theorem more {p : Parser ε α} (stable : Stable p) {input output : Bytes} {a : α}
    (parsed : p.run input = .ok (a, output)) (more : Bytes) :
    p.run (input ++ more) = .ok (a, output ++ more) := by
  obtain ⟨used, rfl, again⟩ := stable input a output parsed
  rw [List.append_assoc]
  exact again _

theorem shrinks {p : Parser ε α} (stable : Stable p) {input output : Bytes} {a : α}
    (parsed : p.run input = .ok (a, output)) : output.length ≤ input.length := by
  obtain ⟨used, rfl, _⟩ := stable input a output parsed
  simp

theorem pure (a : α) : Stable (pure a : Parser ε α) := by
  intro input b output parsed
  obtain ⟨rfl, rfl⟩ := pure_ok.mp parsed
  exact ⟨[], rfl, fun _ => rfl⟩

theorem fail (e : ErrMode ε) : Stable (fail e : Parser ε α) := by
  intro input b output parsed
  exact absurd parsed fail_ok

theorem beU8 : Stable (beU8 : Parser ε UInt8) := by
  intro input byte output parsed
  exact ⟨[byte], beU8_ok.mp parsed, fun _ => rfl⟩

theorem beU16 : Stable (beU16 : Parser ε UInt16) := by
  intro input word output parsed
  exact ⟨beBytes word, beU16_ok.mp parsed, fun _ => beU16_ok.mpr rfl⟩

theorem take (count : Nat) : Stable (take count : Parser ε Bytes) := by
  intro input data output parsed
  obtain ⟨rfl, taken⟩ := take_ok.mp parsed
  exact ⟨data, rfl, fun _ => take_ok.mpr ⟨rfl, taken⟩⟩

theorem bind {p : Parser ε α} {f : α → Parser ε β} (first : Stable p) (second : ∀ a, Stable (f a)) :
    Stable (p >>= f) := by
  intro input b output parsed
  obtain ⟨a, middle, read, followed⟩ := bind_ok.mp parsed
  obtain ⟨used, rfl, again⟩ := first input a middle read
  obtain ⟨also, rfl, onceMore⟩ := second a middle b output followed
  refine ⟨used ++ also, (List.append_assoc ..).symm, fun rest => ?_⟩
  rw [List.append_assoc]
  exact bind_ok.mpr ⟨a, also ++ rest, again _, onceMore rest⟩

theorem ite {c : Prop} [Decidable c] {p q : Parser ε α} (first : Stable p) (second : Stable q) :
    Stable (if c then p else q) := by
  split
  · exact first
  · exact second

end Stable

end Parser

end Bytes
