import Modbus.Codes

/-! Parsing primitives of the decoders: domain failures are cut, running out of
input becomes a truncation error naming the bytes expected and supplied. -/
namespace Modbus

open Bytes

/-- The domain error, if there is one, is the parser's failure value. -/
abbrev Decoder (α : Type) := Parser (Option Error) α

namespace Parse

def lift : Result α → Decoder α
  | .ok a => pure a
  | .error e => Parser.fail (.cut (some e))

def fail (e : Error) : Decoder α := lift (.error e)

/-- Lower bound on the bytes still needed. -/
def missing : Needed → Nat
  | .size bytes => bytes
  | .unknown => 1

def convert (failure : ErrMode (Option Error)) (supplied : Nat) : Error :=
  match failure with
  | .incomplete needed => .truncated (supplied + missing needed) supplied
  | .backtrack e | .cut e => e.getD .malformed

/-- Run a parser that must consume its input exactly. -/
def run (bytes : Bytes) (parser : Decoder α) : Result α :=
  match parser.run bytes with
  | .ok (value, rest) => if rest.length = 0 then .ok value else .error (.trailingBytes rest.length)
  | .error failure => .error (convert failure bytes.length)

/-- One turn per item until the input is exhausted. The turns are bounded by the bytes at hand,
which every item parser that consumes something stays within. -/
def runItems (parser : Decoder α) (supplied : Nat) : Nat → Bytes → Result (List α)
  | _, [] => .ok []
  | 0, _ :: _ => .error .malformed
  | turns + 1, input@(_ :: _) =>
    match parser.run input with
    | .error failure => .error (convert failure supplied)
    | .ok (item, rest) =>
      match runItems parser supplied turns rest with
      | .error e => .error e
      | .ok items => .ok (item :: items)

def runAll (bytes : Bytes) (parser : Decoder α) : Result (List α) :=
  runItems parser bytes.length bytes.length bytes

@[simp] theorem lift_ok {r : Result α} {a : α} {input output : Bytes} :
    (lift r).run input = .ok (a, output) ↔ r = .ok a ∧ input = output := by
  cases r <;> simp [lift]

@[simp] theorem fail_ok {e : Error} {a : α} {input output : Bytes} :
    ¬(fail e : Decoder α).run input = .ok (a, output) := by
  simp [fail]

theorem run_ok {bytes : Bytes} {parser : Decoder α} {a : α} :
    run bytes parser = .ok a ↔ parser.run bytes = .ok (a, []) := by
  unfold run
  cases parsed : parser.run bytes with
  | error failure => simp
  | ok x =>
    obtain ⟨value, rest⟩ := x
    cases rest <;> simp

theorem consumes_of_layout {parser : Decoder α} {layout : α → Bytes} {valid : α → Prop} {least : Nat}
    (exact_layout : ∀ input a output, parser.run input = .ok (a, output) ↔
      input = layout a ++ output ∧ valid a)
    (long : ∀ a, least ≤ (layout a).length) (input : Bytes) (item : α) (rest : Bytes)
    (parsed : parser.run input = .ok (item, rest)) : rest.length + least ≤ input.length := by
  obtain ⟨rfl, _⟩ := (exact_layout input item rest).mp parsed
  have atLeast := long item
  rw [List.length_append]
  omega

/-- Items with an exact, nonempty layout are parsed to exhaustion. -/
theorem runItems_ok {parser : Decoder α} {layout : α → Bytes} {valid : α → Prop}
    (exact_layout : ∀ input a output, parser.run input = .ok (a, output) ↔
      input = layout a ++ output ∧ valid a)
    (consumes : ∀ a, layout a ≠ []) (supplied turns : Nat) (input : Bytes) (items : List α)
    (enough : input.length ≤ turns) :
    runItems parser supplied turns input = .ok items ↔
      input = items.flatMap layout ∧ ∀ a ∈ items, valid a := by
  have emptied : ∀ items : List α, [] = items.flatMap layout ↔ items = [] := by
    intro items
    cases items with
    | nil => simp
    | cons a as => simp [consumes a]
  induction turns generalizing input items with
  | zero =>
    have : input = [] := List.eq_nil_of_length_eq_zero (by omega)
    subst this
    simp only [runItems, Except.ok.injEq, emptied]
    constructor
    · rintro rfl
      simp
    · rintro ⟨rfl, _⟩
      rfl
  | succ turns ih =>
    cases input with
    | nil =>
      simp only [runItems, Except.ok.injEq, emptied]
      constructor
      · rintro rfl
        simp
      · rintro ⟨rfl, _⟩
        rfl
    | cons byte tail =>
      simp only [runItems]
      constructor
      · intro ran
        split at ran
        · contradiction
        next item rest parsed =>
          split at ran
          · contradiction
          next rest_items parsed_rest =>
            obtain rfl := Except.ok.inj ran
            obtain ⟨shape, good⟩ := (exact_layout _ _ _).mp parsed
            have shorter : rest.length ≤ turns := by
              have positive := List.length_pos_iff.mpr (consumes item)
              have total := congrArg List.length shape
              simp at total enough
              omega
            obtain ⟨rest_shape, rest_good⟩ := (ih rest rest_items shorter).mp parsed_rest
            rw [shape, rest_shape]
            simpa using ⟨good, rest_good⟩
      · rintro ⟨shape, good⟩
        cases items with
        | nil => simp at shape
        | cons item items =>
          simp only [List.flatMap_cons] at shape
          have parsed := (exact_layout (byte :: tail) item (items.flatMap layout)).mpr
            ⟨shape, good item (by simp)⟩
          have shorter : (items.flatMap layout).length ≤ turns := by
            have positive := List.length_pos_iff.mpr (consumes item)
            have total := congrArg List.length shape
            simp only [List.length_cons, List.length_append] at total enough
            omega
          have rest := (ih _ items shorter).mpr ⟨rfl, fun a member => good a (by simp [member])⟩
          simp [parsed, rest]

theorem runAll_ok {parser : Decoder α} {layout : α → Bytes} {valid : α → Prop}
    (exact_layout : ∀ input a output, parser.run input = .ok (a, output) ↔
      input = layout a ++ output ∧ valid a)
    (consumes : ∀ a, layout a ≠ []) {bytes : Bytes} {items : List α} :
    runAll bytes parser = .ok items ↔ bytes = items.flatMap layout ∧ ∀ a ∈ items, valid a :=
  runItems_ok exact_layout consumes _ _ _ _ (Nat.le_refl _)

end Parse

end Modbus
