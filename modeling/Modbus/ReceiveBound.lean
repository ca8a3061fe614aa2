import Modbus.AsciiLine
import Modbus.StreamFraming

/-! How long a received ADU can be. Three of the readers compare with the bound
before they hand anything out. The ASCII reader looks for the terminator first, so
a frame that outgrows the bound in the very read that completes it gets through. -/
namespace Modbus

open Bytes ByteStream

def Reader.received (framing : Framing Header) (config : TransportConfig)
    (calls : List (Direction × Option Nat)) (reader : Reader) : Reader :=
  calls.foldl (fun reader call => (recvAdu framing config call.1 call.2 reader).2) reader

section Bound

variable {Header : Type} {framing : Framing Header} {config : TransportConfig} {direction : Direction}
  {limit : Option Nat} {reader after : Reader} {adu : Bytes}

theorem recvAdu_ok (received : recvAdu framing config direction limit reader = (some (.ok adu), after)) :
    Receive.readAdu framing config direction limit reader.link = (some (.ok adu), after.link) := by
  cases recvAdu_received received with
  | adu _ reading => exact reading

namespace Receive

variable {max : Nat} {link last : Link}

theorem readPrefixed_bounded {prefixLen : Nat} {total : Bytes → Result Nat}
    (read : readPrefixed max prefixLen total limit link = (some (.ok adu), last)) : adu.length ≤ max := by
  obtain ⟨_, middle, _, measured⟩ := andThen_ok read
  rcases announced : total (middle.buffer.take prefixLen) with e | len
  · simp only [announced] at measured
    cases measured
  · simp only [announced] at measured
    obtain ⟨_, full, filled, taken⟩ := andThen_ok measured
    cases taken
    have small := (fillTo_ok filled).1
    have short := List.length_take_le len full.buffer
    omega

theorem readUntilSilence_bounded {interval : Nat}
    (read : readUntilSilence max interval limit link = (some (.ok adu), last)) : adu.length < max := by
  obtain ⟨buffer, ends⟩ := readUntilSilence_ends read
  cases ends with
  | silence short => exact short

theorem readContentLength_bounded {min : Nat} {extent : Direction → Bytes → Result Extent}
    (measures : ∀ buffer len, extent direction buffer = .ok (.complete len) → len ≤ max)
    (read : readContentLength max min extent direction limit link = (some (.ok adu), last)) :
    adu.length ≤ max := by
  obtain ⟨_, middle, _, looped⟩ := andThen_ok read
  unfold loop at looped
  rcases drove : drive (contentTurn max extent direction) limit middle.buffer middle.stream with
    ⟨outcome, rest, stream⟩
  simp only [drove] at looped
  cases looped
  obtain ⟨buffer, _, stops | ⟨_, _, awaits, yields⟩⟩ :=
    drive_ending (contentTurn max extent direction) limit (fun _ => True) (fun _ _ _ => trivial) trivial drove
  · cases contentTurn_stop stops with
    | @complete len complete =>
      have short := measures buffer len complete
      have cut := List.length_take_le len buffer
      omega
  · obtain ⟨rfl, rfl⟩ := contentTurn_await awaits
    rcases yields with same | same | ⟨_, same⟩ <;> cases same

end Receive

end Bound

def BoundsReceived (framing : Framing Header) (config : TransportConfig) (stream : Line)
    (calls : List (Direction × Option Nat)) : Prop :=
  ∀ direction limit adu after,
    recvAdu framing config direction limit ((Reader.new stream).received framing config calls) =
      (some (.ok adu), after) → adu.length ≤ framing.maxAduLen

/-- A frame beyond the bound that is complete by the read that takes the buffer to the bound. -/
def Ascii.Oversteps (link : Link) : Prop :=
  ∃ past coming frame rest, link.stream.arrivals = past ++ coming ∧
    Ascii.held link past = frame ++ rest ∧ Delimited Ascii.start Ascii.terminator frame ∧
    Ascii.maxAduLen < frame.length ∧
    ∀ earlier more, past = earlier ++ more → more ≠ [] → (Ascii.held link earlier).length < Ascii.maxAduLen

theorem Ascii.received_within_iff {config : TransportConfig} {direction : Direction} {limit : Option Nat}
    {link last : Link} {adu : Bytes}
    (read : Receive.readAdu ascii config direction limit link = (some (.ok adu), last)) :
    adu.length ≤ Ascii.maxAduLen ↔ ¬Ascii.Oversteps link := by
  obtain ⟨result, after, again, receives⟩ :=
    Ascii.readDelimited_receives config.asciiInterCharacterTimeout limit link
  obtain ⟨rfl, rfl⟩ := Prod.mk.inj (again.symm.trans read)
  cases receives with
  | @frame past coming _ rest reading whole delimited =>
    constructor
    · rintro small ⟨others, later, frame, rest', arrivals, whole', delimited', large, short⟩
      rcases List.append_eq_append_iff.mp (reading.arrivals.symm.trans arrivals) with
        ⟨more, split, _⟩ | ⟨more, split, _⟩
      · have begun : held link past ≠ [] := by
          rw [whole]
          simp [delimited_ne_nil delimited]
        have same : adu ++ (rest ++ delivered more) = frame ++ rest' := by
          rw [← List.append_assoc, ← whole, ← whole', split, held_append begun]
        rw [Delimited.unique delimited delimited' same] at small
        omega
      · by_cases none_left : more = []
        · rw [none_left, List.append_nil] at split
          rw [← split, whole] at whole'
          rw [Delimited.unique delimited delimited' whole'] at small
          omega
        · apply (reading.unfinished split none_left).unterminated
          rw [whole']
          exact delimited'.ends.isInfix.trans (List.prefix_append frame rest').isInfix
    · intro within
      apply Nat.le_of_not_lt
      intro large
      apply within
      refine ⟨past, coming, adu, rest, reading.arrivals, whole, delimited, large, ?_⟩
      intro earlier more split some_more
      exact (reading.unfinished split some_more).room

/-- The bound on received ADUs, and the one way past it. -/
theorem received_adus_bounded (crc16 : Bytes → UInt16) (config : TransportConfig) (stream : Line)
    (calls : List (Direction × Option Nat)) :
    BoundsReceived tcp config stream calls ∧ BoundsReceived (rtu crc16) config stream calls ∧
    BoundsReceived (rtuOverTcp crc16) config stream calls ∧
    ∀ direction limit adu after,
      recvAdu ascii config direction limit ((Reader.new stream).received ascii config calls) =
        (some (.ok adu), after) →
      (adu.length ≤ ascii.maxAduLen ↔
        ¬Ascii.Oversteps ((Reader.new stream).received ascii config calls).link) := by
  refine ⟨?_, ?_, ?_, ?_⟩
  · intro direction limit adu after received
    exact Receive.readPrefixed_bounded (recvAdu_ok received)
  · intro direction limit adu after received
    exact Nat.le_of_lt (Receive.readUntilSilence_bounded (recvAdu_ok received))
  · intro direction limit adu after received
    exact Receive.readContentLength_bounded (fun _ _ complete => (Rtu.deriveExtent_complete complete).2.2)
      (recvAdu_ok received)
  · intro direction limit adu after received
    exact Ascii.received_within_iff (recvAdu_ok received)

/-- A read request on a quiet line. -/
theorem read_request_within :
    ¬Ascii.Oversteps (Reader.new ⟨0, [⟨3, .ok ⟨[0x3A, 0x31, 0x31, 0x30, 0x37, 0x45, 0x38, 0x0D, 0x0A], by decide⟩⟩],
      none, .exact⟩).link :=
  ((received_adus_bounded (fun _ => 0) .default _ []).2.2.2 .request none
    [0x3A, 0x31, 0x31, 0x30, 0x37, 0x45, 0x38, 0x0D, 0x0A] ⟨⟨⟨3, [], none, .exact⟩, []⟩, false⟩ rfl).mp
    (by decide)

/-- Eight reads of 64 bytes begin a line and stay below the bound; the terminator that comes
next completes an ADU of 514 bytes. -/
theorem oversize_line_received :
    (recvAdu ascii .default .request none (.new ⟨0, ⟨0, .ok ⟨0x3A :: List.replicate 63 0x41, by decide⟩⟩ ::
      (List.replicate 7 ⟨0, .ok ⟨List.replicate 64 0x41, by decide⟩⟩ ++ [⟨0, .ok ⟨[0x0D, 0x0A], by decide⟩⟩]),
      none, .exact⟩)).1 = some (.ok (0x3A :: (List.replicate 511 0x41 ++ [0x0D, 0x0A]))) ∧
    ascii.maxAduLen < (0x3A :: (List.replicate 511 (0x41 : UInt8) ++ [0x0D, 0x0A])).length := by
  decide +kernel

end Modbus
