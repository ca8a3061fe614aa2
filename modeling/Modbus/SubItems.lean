import Modbus.FileRecord
import Modbus.Mei

/-! Lists of items in a region without a count: the loop goes on until the region is
used up. Every item takes two bytes or more, so the region's length bounds the turns,
and what the items were read from is what they are written as. -/
namespace Modbus

open Bytes ByteWriter

namespace Parse

/-- The loop of `run_all` for so many turns; nothing if it is not through by then. -/
def runTurns (parser : Decoder α) (supplied : Nat) : Nat → Bytes → List α → Option (Result (List α))
  | _, [], items => some (.ok items)
  | 0, _ :: _, _ => none
  | turns + 1, input@(_ :: _), items =>
    match parser.run input with
    | .ok (item, rest) => runTurns parser supplied turns rest (items ++ [item])
    | .error failure => some (.error (convert failure supplied))

theorem runTurns_eq {parser : Decoder α}
    (consumes : ∀ input item rest, parser.run input = .ok (item, rest) → rest.length + 2 ≤ input.length)
    {supplied turns bound : Nat} {input : Bytes} (items : List α) (enough : (input.length + 1) / 2 ≤ turns)
    (bounded : input.length ≤ bound) :
    runTurns parser supplied turns input items =
      some ((runItems parser supplied bound input).map (items ++ ·)) := by
  induction turns generalizing input items bound with
  | zero =>
    obtain rfl : input = [] := List.eq_nil_of_length_eq_zero (by omega)
    simp [runTurns, runItems, Except.map]
  | succ turns ih =>
    cases input with
    | nil => simp [runTurns, runItems, Except.map]
    | cons byte tail =>
      cases bound with
      | zero => simp at bounded
      | succ bound =>
        simp only [runTurns, runItems]
        rcases parsed : parser.run (byte :: tail) with failure | ⟨item, rest⟩
        · rfl
        · have shorter := consumes _ _ _ parsed
          simp only [ih (items ++ [item]) (by omega) (by omega : rest.length ≤ bound)]
          cases runItems parser supplied bound rest <;> simp [Except.map]

end Parse

/-- Items are read until nothing is left, in half as many turns as there are bytes, and the items of
an accepted region are written as the region. -/
structure ReadToExhaustion (parser : Decoder α) (encode : α → ByteWriter Error Unit) : Prop where
  consumes : ∀ input item rest, parser.run input = .ok (item, rest) → rest.length + 2 ≤ input.length
  ends : ∀ region turns, (region.length + 1) / 2 ≤ turns →
    Parse.runTurns parser region.length turns region [] = some (Parse.runAll region parser)
  spelled : ∀ region items, Parse.runAll region parser = .ok items →
    ∃ encodings, List.Forall₂ (fun item data => Appends (encode item) (.ok data)) items encodings ∧
      encodings.flatten = region

theorem readToExhaustion {parser : Decoder α} {encode : α → ByteWriter Error Unit} {layout : α → Bytes}
    {valid : α → Prop}
    (exact_layout : ∀ input a output, parser.run input = .ok (a, output) ↔
      input = layout a ++ output ∧ valid a)
    (written : ∀ a, Meets (encode a) fun data => data = layout a ∧ valid a)
    (long : ∀ a, 2 ≤ (layout a).length) : ReadToExhaustion parser encode where
  consumes := Parse.consumes_of_layout exact_layout long
  ends region turns enough := by
    rw [Parse.runTurns_eq (Parse.consumes_of_layout exact_layout long) [] enough (Nat.le_refl _), Parse.runAll]
    cases Parse.runItems parser region.length region.length region <;> simp [Except.map]
  spelled region items parsed := by
    have nonempty : ∀ a, layout a ≠ [] := fun a => List.length_pos_iff.mp (Nat.lt_of_lt_of_le Nat.two_pos (long a))
    obtain ⟨rfl, good⟩ := (Parse.runAll_ok exact_layout nonempty).mp parsed
    refine ⟨items.map layout, ?_, List.flatMap_def.symm⟩
    rw [List.forall₂_map_right_iff, List.forall₂_same]
    intro item member
    exact ((written item).congr fun data => and_iff_left (good item member)).appends

/-- The three kinds of file records and the objects of a device identification. -/
theorem sub_items_read_to_exhaustion :
    ReadToExhaustion FileRecordRead.parse FileRecordRead.encodeInto ∧
    ReadToExhaustion FileRecordReadResponse.parse FileRecordReadResponse.encodeInto ∧
    ReadToExhaustion FileRecordWrite.parse FileRecordWrite.encodeInto ∧
    ReadToExhaustion Mei.parseObject Mei.encodeObjectInto := by
  refine ⟨?_, ?_, ?_, ?_⟩
  · exact readToExhaustion FileRecordRead.parse_ok FileRecordRead.encodeInto_meets
      fun record => by simp [FileRecordRead.layout]
  · exact readToExhaustion FileRecordReadResponse.parse_ok FileRecordReadResponse.encodeInto_meets
      fun record => by simp [FileRecordReadResponse.layout]
  · exact readToExhaustion FileRecordWrite.parse_ok FileRecordWrite.encodeInto_meets
      fun record => by simp [FileRecordWrite.layout]; omega
  · exact readToExhaustion Mei.parseObject_ok Mei.encodeObjectInto_meets
      fun object => by simp [DeviceIdObject.layout]

end Modbus
