import Modbus.SerialExchange

/-! An ASCII line as its reader sees it, whatever stands on it. A reader holds
the bytes from the first start byte on; it stops at their first terminator, and
gives up when they fill its buffer. -/
namespace Modbus

open Bytes ByteStream

namespace Delimited

variable {start : UInt8} {terminator frame : Bytes}

theorem unique {other rest rest' : Bytes} (first : Delimited start terminator frame)
    (second : Delimited start terminator other) (same : frame ++ rest = other ++ rest') : frame = other := by
  have shorter {short long : Bytes} (inner : Delimited start terminator short)
      (outer : Delimited start terminator long) (inside : short <+: long) : short = long := by
    by_contra proper
    obtain ⟨more, rfl⟩ := inside
    have some_more : more ≠ [] := by
      rintro rfl
      simp at proper
    apply outer.once
    rw [List.dropLast_append_of_ne_nil some_more]
    exact inner.ends.isInfix.trans (List.prefix_append short _).isInfix
  rcases List.prefix_or_prefix_of_prefix (List.prefix_append frame rest) ⟨rest', same.symm⟩ with
    inside | inside
  · exact shorter first second inside
  · exact (shorter second first inside).symm

theorem of_first {bytes : Bytes} {found : Nat} (begins : bytes.head? = some start)
    (nonempty : terminator ≠ []) (here : terminator <+: bytes.drop found)
    (first : ∀ i < found, ¬terminator <+: bytes.drop i) :
    Delimited start terminator (bytes.take (found + terminator.length)) := by
  have some_bytes := List.length_pos_iff.mpr nonempty
  have room := here.length_le
  rw [List.length_drop] at room
  refine ⟨?_, ?_, ?_⟩
  · rw [List.head?_take, if_neg (by omega), begins]
  · refine ⟨bytes.take found, ?_⟩
    rw [List.take_add, List.prefix_iff_eq_take.mp here]
    simp
  · rintro ⟨front, back, split⟩
    have size := congrArg List.length split
    rw [List.length_dropLast, List.length_take] at size
    simp only [List.length_append] at size
    apply first front.length (by omega)
    have cut : (bytes.take (found + terminator.length)).dropLast =
        bytes.take (found + terminator.length - 1) := by
      rw [List.dropLast_eq_take, List.take_take, List.length_take]
      congr 1
      omega
    have whole : bytes = front ++ terminator ++ (back ++ bytes.drop (found + terminator.length - 1)) := by
      rw [← List.append_assoc, split, cut, List.take_append_drop]
    rw [whole]
    simp

end Delimited

theorem find_cases (haystack needle : Bytes) (start : Nat) (nonempty : needle ≠ []) :
    (∃ found ≥ start, find haystack needle start = some found ∧ needle <+: haystack.drop found ∧
      ∀ i, start ≤ i → i < found → ¬needle <+: haystack.drop i) ∨
    find haystack needle start = none ∧ ∀ i, start ≤ i → ¬needle <+: haystack.drop i := by
  by_cases occurs : ∃ i, start ≤ i ∧ needle <+: haystack.drop i
  · classical
    left
    obtain ⟨late, here⟩ := Nat.find_spec occurs
    have first : ∀ i, start ≤ i → i < Nat.find occurs → ¬needle <+: haystack.drop i := by
      intro i from' before there
      exact Nat.find_min occurs before ⟨from', there⟩
    exact ⟨_, late, find_eq haystack needle start nonempty late here first, here, first⟩
  · right
    have nowhere : ∀ i, start ≤ i → ¬needle <+: haystack.drop i := by
      intro i from' here
      exact occurs ⟨i, from', here⟩
    exact ⟨find_none haystack needle start nowhere, nowhere⟩

namespace Ascii

theorem tail_append (bytes more : Bytes) : tail (tail bytes ++ more) = tail (bytes ++ more) := by
  obtain ⟨noise, quiet, split⟩ := noise_tail bytes
  nth_rewrite 2 [split]
  rw [List.append_assoc, tail_noise quiet]

theorem tail_begun {bytes : Bytes} (begun : tail bytes ≠ []) (more : Bytes) :
    tail (bytes ++ more) = tail bytes ++ more := by
  rcases tail_cases bytes with none_yet | ⟨inner, shape⟩
  · exact absurd none_yet begun
  · rw [← tail_append, shape, List.cons_append, tail_start]

theorem delimited_ne_nil {frame : Bytes} (delimited : Delimited start terminator frame) : frame ≠ [] := by
  rintro rfl
  cases delimited.starts

/-- No terminator begins in the part of the buffer that was searched. -/
def Searched (state : Receive.Search) : Prop :=
  ∀ i < state.searched, ¬terminator <+: state.buffer.drop i

theorem locate_spec {state : Receive.Search} (searched : Searched state) :
    (∃ frame rest resumed, Receive.locate start terminator state =
        (some frame.length, ⟨frame ++ rest, resumed⟩) ∧
      tail state.buffer = frame ++ rest ∧ Delimited start terminator frame) ∨
    ∃ reached, Receive.locate start terminator state = (none, ⟨tail state.buffer, reached⟩) ∧
      ¬terminator <:+: tail state.buffer ∧ ∀ bytes, Searched ⟨tail state.buffer ++ bytes, reached⟩ := by
  obtain ⟨buffer, position⟩ := state
  obtain ⟨noise, quiet, split⟩ := noise_tail buffer
  rcases tail_cases buffer with none_yet | ⟨inner, begun⟩
  · right
    rw [none_yet, List.append_nil] at split
    subst split
    refine ⟨0, ?_, ?_, ?_⟩
    · rw [Receive.locate_noise quiet, none_yet]
    · simp [none_yet, terminator]
    · intro bytes i before
      exact absurd before (Nat.not_lt_zero i)
  · rw [begun] at split
    obtain ⟨resumed, back, fresh, same⟩ := Receive.locate_framed quiet terminator inner position
    rw [← split] at same
    have before : ∀ i < resumed, ¬terminator <+: (start :: inner).drop i := by
      intro i earlier
      by_cases silent : noise = []
      · rw [silent, List.nil_append] at split
        rw [← split]
        exact searched i (Nat.lt_of_lt_of_le earlier back)
      · rw [fresh silent] at earlier
        exact absurd earlier (Nat.not_lt_zero i)
    rcases find_cases (start :: inner) terminator resumed (by decide) with
      ⟨found, _, finds, here, first⟩ | ⟨missed, nowhere⟩
    · left
      have earliest : ∀ i < found, ¬terminator <+: (start :: inner).drop i := by
        intro i earlier
        by_cases old : i < resumed
        · exact before i old
        · exact first i (by omega) earlier
      have room := here.length_le
      rw [List.length_drop] at room
      have size : ((start :: inner).take (found + terminator.length)).length = found + terminator.length := by
        rw [List.length_take]
        simp only [terminator, List.length_cons, List.length_nil] at room ⊢
        omega
      refine ⟨(start :: inner).take (found + terminator.length),
        (start :: inner).drop (found + terminator.length), resumed, ?_, ?_,
        Delimited.of_first rfl (by decide) here earliest⟩
      · rw [same, Receive.locate_found finds, size, List.take_append_drop]
      · rw [begun, List.take_append_drop]
    · right
      have unterminated : ∀ i, ¬terminator <+: (start :: inner).drop i := by
        intro i
        by_cases old : i < resumed
        · exact before i old
        · exact nowhere i (by omega)
      refine ⟨_, by rw [same, Receive.locate_missed missed, begun], ?_, ?_⟩
      · rintro ⟨front, back, whole⟩
        apply unterminated front.length
        rw [← begun, ← whole]
        simp
      · intro bytes i reached here
        apply unterminated i
        rw [begun] at here
        rw [List.drop_append_of_le_length (by simp only at reached; omega)] at here
        apply List.prefix_of_prefix_length_le here (List.prefix_append ..)
        simp only [terminator, List.length_drop, List.length_cons, List.length_nil] at reached ⊢
        omega

/-- The wait of a reader, with a timer once a frame has begun. -/
def stall (timeout : Nat) (state : Receive.Search) : Await ReadFailure Receive.Search (Result Bytes) where
  timer := if state.buffer.isEmpty then none else some timeout
  data bytes := ⟨state.buffer ++ bytes, state.searched⟩
  elapsed := (.error (.timeout "ascii inter-character"), state)
  ended := (.error (endOfStream (!state.buffer.isEmpty)), state)
  failed failure := (.error failure.error, state)

/-- Everything a turn of the reader can do. -/
inductive Turns (timeout : Nat) (state : Receive.Search) : Prop
  | frame {frame rest : Bytes} {resumed : Nat} :
      Receive.delimitedTurn maxAduLen timeout start terminator state = .stop (.ok frame) ⟨rest, resumed⟩ →
      tail state.buffer = frame ++ rest → Delimited start terminator frame → Turns timeout state
  | full {reached : Nat} :
      Receive.delimitedTurn maxAduLen timeout start terminator state =
        .stop (.error (.aduTooLarge (tail state.buffer).length maxAduLen)) ⟨tail state.buffer, reached⟩ →
      ¬terminator <:+: tail state.buffer → maxAduLen ≤ (tail state.buffer).length → Turns timeout state
  | wait {reached : Nat} :
      Receive.delimitedTurn maxAduLen timeout start terminator state =
        .await ⟨tail state.buffer, reached⟩ (stall timeout ⟨tail state.buffer, reached⟩) →
      ¬terminator <:+: tail state.buffer → (tail state.buffer).length < maxAduLen →
      (∀ bytes, Searched ⟨tail state.buffer ++ bytes, reached⟩) → Turns timeout state

theorem delimitedTurn_turns (timeout : Nat) {state : Receive.Search} (searched : Searched state) :
    Turns timeout state := by
  rcases locate_spec searched with ⟨frame, rest, resumed, located, split, delimited⟩ |
    ⟨reached, located, unterminated, onwards⟩
  · have stops : Receive.delimitedTurn maxAduLen timeout start terminator state =
        .stop (.ok frame) ⟨rest, resumed⟩ := by
      simp only [Receive.delimitedTurn, located, List.take_left, List.drop_left]
    exact .frame stops split delimited
  · by_cases full : maxAduLen ≤ (tail state.buffer).length
    · have refused : checkBufferBound maxAduLen (tail state.buffer) =
          .error (.aduTooLarge (tail state.buffer).length maxAduLen) := if_pos full
      exact .full (by simp only [Receive.delimitedTurn, located, refused]; rfl) unterminated full
    · have room : checkBufferBound maxAduLen (tail state.buffer) = .ok () := if_neg full
      exact .wait (by simp only [Receive.delimitedTurn, located, room]; rfl) unterminated (by omega) onwards

def Plain (byte : UInt8) : Prop := byte ≠ start ∧ byte ≠ 0x0D ∧ byte ≠ 0x0A

instance : DecidablePred Plain := fun _ => inferInstanceAs (Decidable (_ ∧ _ ∧ _))

theorem plain_upperHex : ∀ character : UInt8, Plain (upperHex character) → Plain character := by
  decide +kernel

theorem plain_hexDigit : ∀ byte : UInt8,
    Plain (hexDigit (byte >>> 4)) ∧ Plain (hexDigit (byte &&& 0x0F)) := by
  decide +kernel

theorem plain_hexPair {byte character : UInt8} (inside : character ∈ hexPair byte) : Plain character := by
  obtain ⟨high, low⟩ := plain_hexDigit byte
  simp only [hexPair, List.mem_cons, List.not_mem_nil, or_false] at inside
  rcases inside with rfl | rfl
  · exact high
  · exact low

theorem upperHex_line : ∀ character : UInt8, (upperHex character = start → character = start) ∧
    (upperHex character = 0x0D → character = 0x0D) ∧ (upperHex character = 0x0A → character = 0x0A) := by
  decide +kernel

/-- An ADU with its start byte and its terminator at its ends only. -/
def Sealed (adu : Bytes) : Prop :=
  ∃ body, adu = start :: (body ++ terminator) ∧ (∀ byte ∈ body, Plain byte) ∧ adu.length ≤ maxAduLen

theorem split_sealed {adu : Bytes} {opened : UnitId × Bytes} (accepted : split adu = .ok opened) :
    Sealed adu := by
  obtain ⟨address, pdu⟩ := opened
  obtain ⟨spelled, _, small⟩ := layout_split accepted
  have size := congrArg List.length spelled
  rw [length_layout, List.length_map] at size
  rw [layout, eq_comm] at spelled
  obtain ⟨first, rest, rfl, colon, spelled⟩ := List.map_eq_cons_iff.mp spelled
  obtain ⟨body, ending, rfl, hex, spelled⟩ := List.map_eq_append_iff.mp spelled
  obtain ⟨cr, line, rfl, return_, spelled⟩ := List.map_eq_cons_iff.mp spelled
  obtain ⟨lf, nothing, rfl, feed, spelled⟩ := List.map_eq_cons_iff.mp spelled
  obtain rfl := List.map_eq_nil_iff.mp spelled
  obtain rfl := (upperHex_line first).1 colon
  obtain rfl := (upperHex_line cr).2.1 return_
  obtain rfl := (upperHex_line lf).2.2 feed
  refine ⟨body, rfl, ?_, ?_⟩
  · intro byte inside
    apply plain_upperHex
    have spelling : upperHex byte ∈ body.map upperHex := List.mem_map_of_mem inside
    rw [hex] at spelling
    obtain ⟨value, _, digit⟩ := List.mem_flatMap.mp spelling
    exact plain_hexPair digit
  · simp only [maxPduLen, maxAduLen] at small ⊢
    omega

/-- The bytes of the line that count once these reads are in. -/
def held (link : Link) (past : Reads) : Bytes := tail (link.buffer ++ delivered past)

theorem held_append {link : Link} {past : Reads} (begun : held link past ≠ []) (more : Reads) :
    held link (past ++ more) = held link past ++ delivered more := by
  rw [held, delivered_append, ← List.append_assoc, tail_begun begun, held]

/-- No frame yet, and room for more. -/
structure Pending (bytes : Bytes) : Prop where
  unterminated : ¬terminator <:+: bytes
  room : bytes.length < maxAduLen

/-- A receive that has made these reads and was not done before the last of them. -/
structure Reading (link : Link) (past coming : Reads) : Prop where
  arrivals : link.stream.arrivals = past ++ coming
  data : ∀ arrival ∈ past, ∃ chunk, arrival.read = .ok chunk ∧ chunk.val ≠ []
  unfinished : ∀ {earlier more}, past = earlier ++ more → more ≠ [] → Pending (held link earlier)

theorem Reading.start (link : Link) : Reading link [] link.stream.arrivals where
  arrivals := rfl
  data _ inside := absurd inside List.not_mem_nil
  unfinished split some_more := absurd (List.append_eq_nil_iff.mp split.symm).2 some_more

theorem Reading.next {link : Link} {past coming : Reads} {time : Nat}
    {chunk : {bytes : Bytes // bytes.length ≤ readChunk}}
    (reading : Reading link past (⟨time, .ok chunk⟩ :: coming)) (nonempty : chunk.val ≠ [])
    (unfinished : Pending (held link past)) : Reading link (past ++ [⟨time, .ok chunk⟩]) coming where
  arrivals := by rw [reading.arrivals, List.append_assoc, List.singleton_append]
  data arrival inside := by
    rcases List.mem_append.mp inside with before | last
    · exact reading.data arrival before
    · obtain rfl := List.mem_singleton.mp last
      exact ⟨chunk, rfl, nonempty⟩
  unfinished := by
    intro earlier more split some_more
    rcases List.eq_nil_or_concat more with rfl | ⟨front, last, rfl⟩
    · exact absurd rfl some_more
    · rw [List.concat_eq_append, ← List.append_assoc] at split
      obtain ⟨rfl, _⟩ := List.append_inj' split rfl
      by_cases all : front = []
      · rw [all, List.append_nil] at unfinished
        exact unfinished
      · exact reading.unfinished rfl all

/-- Everything a receive on the line can do. -/
inductive Receives (timeout : Nat) (limit : Option Nat) (link : Link) : Option (Result Bytes) → Link → Prop
  | frame {past coming : Reads} {frame rest : Bytes} : Reading link past coming →
      held link past = frame ++ rest → Delimited start terminator frame →
      Receives timeout limit link (some (.ok frame))
        ⟨⟨clock link.stream.now past, coming, link.stream.ending, link.stream.timer⟩, rest⟩
  | full {past coming : Reads} : Reading link past coming → ¬terminator <:+: held link past →
      maxAduLen ≤ (held link past).length →
      Receives timeout limit link (some (.error (.aduTooLarge (held link past).length maxAduLen)))
        ⟨⟨clock link.stream.now past, coming, link.stream.ending, link.stream.timer⟩, held link past⟩
  | elapsed {past coming : Reads} : Reading link past coming → Pending (held link past) →
      held link past ≠ [] →
      (∀ time, ready (⟨0, coming, link.stream.ending, link.stream.timer⟩ : Line) = some time →
        link.stream.timer.fires (clock link.stream.now past + timeout) < time) →
      Receives timeout limit link (some (.error (.timeout "ascii inter-character")))
        ⟨⟨link.stream.timer.fires (clock link.stream.now past + timeout), coming, link.stream.ending,
          link.stream.timer⟩, held link past⟩
  | ended {past coming rest : Reads} {time : Nat} : Reading link past coming →
      Pending (held link past) →
      ((∃ chunk, chunk.val = [] ∧ coming = ⟨time, .ok chunk⟩ :: rest) ∨
        coming = [] ∧ rest = [] ∧ link.stream.ending = some time) →
      Receives timeout limit link (some (.error (endOfStream (!(held link past).isEmpty))))
        ⟨⟨max (clock link.stream.now past) time, rest, link.stream.ending, link.stream.timer⟩, held link past⟩
  | failed {past coming : Reads} {time : Nat} {failure : ReadFailure} :
      Reading link past (⟨time, .error failure⟩ :: coming) → Pending (held link past) →
      Receives timeout limit link (some (.error failure.error))
        ⟨⟨max (clock link.stream.now past) time, coming, link.stream.ending, link.stream.timer⟩, held link past⟩
  | abandoned {past coming : Reads} {now : Nat} : Reading link past coming →
      (limit = none → held link past = [] ∧ coming = [] ∧ link.stream.ending = none) →
      Receives timeout limit link none ⟨⟨now, coming, link.stream.ending, link.stream.timer⟩, held link past⟩

theorem clock_append (now : Nat) (past : Reads) (arrival : Arrival readChunk ReadFailure) :
    clock now (past ++ [arrival]) = max (clock now past) arrival.time := by
  rw [clock, List.foldl_append]
  rfl

theorem readDelimited_receives (timeout : Nat) (limit : Option Nat) (link : Link) :
    ∃ result after, Receive.readDelimited maxAduLen timeout start terminator limit link = (result, after) ∧
      Receives timeout limit link result after := by
  have run : ∃ result next after,
      drive (Receive.delimitedTurn maxAduLen timeout start terminator) limit ⟨link.buffer, 0⟩ link.stream =
        (result, next, after) ∧ Receives timeout limit link result ⟨after, next.buffer⟩ := by
    apply drive_rule _ limit (fun state now => Searched state ∧ ∃ past,
      Reading link past now.arrivals ∧ tail state.buffer = held link past ∧
      now.now = clock link.stream.now past ∧ now.ending = link.stream.ending ∧ now.timer = link.stream.timer)
    · intro state stream result next after sofar steps
      obtain ⟨searched, past, reading, same, time, ending, ticks⟩ := sofar
      obtain ⟨now, coming, closing, timer⟩ := stream
      simp only at reading time ending ticks
      subst time ending ticks
      cases delimitedTurn_turns timeout searched with
      | frame stops split delimited =>
        cases steps with
        | stop stopped =>
          obtain ⟨rfl, rfl⟩ := Turn.stop.inj (stops.symm.trans stopped)
          exact .frame reading (same ▸ split) delimited
        | ended waits | failed waits | elapsed waits | abandoned waits => cases stops.symm.trans waits
      | full stops unterminated large =>
        cases steps with
        | stop stopped =>
          obtain ⟨rfl, rfl⟩ := Turn.stop.inj (stops.symm.trans stopped)
          rw [same] at unterminated large ⊢
          exact .full reading unterminated large
        | ended waits | failed waits | elapsed waits | abandoned waits => cases stops.symm.trans waits
      | wait awaits unterminated room onwards =>
        rw [same] at awaits unterminated room
        cases steps with
        | stop stopped => cases awaits.symm.trans stopped
        | ended waits closed =>
          obtain ⟨rfl, rfl⟩ := Turn.await.inj (awaits.symm.trans waits)
          exact .ended reading ⟨unterminated, room⟩ closed
        | failed waits arrived =>
          obtain ⟨rfl, rfl⟩ := Turn.await.inj (awaits.symm.trans waits)
          simp only at arrived
          subst arrived
          exact .failed reading ⟨unterminated, room⟩
        | elapsed waits timed allowed late =>
          obtain ⟨rfl, rfl⟩ := Turn.await.inj (awaits.symm.trans waits)
          have begun : held link past ≠ [] := by
            intro nothing
            simp [stall, nothing] at timed
          simp only [stall, List.isEmpty_iff, begun, if_false, Option.some.injEq] at timed
          subst timed
          apply Receives.elapsed reading ⟨unterminated, room⟩ begun
          intro time next
          have passed := late time next
          have patient := link.stream.timer.patient (clock link.stream.now past + timeout)
          simp only at passed
          omega
        | abandoned waits never =>
          obtain ⟨rfl, rfl⟩ := Turn.await.inj (awaits.symm.trans waits)
          apply Receives.abandoned reading
          intro unlimited
          obtain ⟨untimed, silent⟩ := never unlimited
          have quiet : held link past = [] := by
            by_contra begun
            simp [stall, begun] at untimed
          cases coming with
          | nil => exact ⟨quiet, rfl, silent⟩
          | cons => cases silent
    · intro state stream next after sofar steps
      obtain ⟨searched, past, reading, same, time, ending, ticks⟩ := sofar
      obtain ⟨now, coming, closing, timer⟩ := stream
      simp only at reading time ending ticks
      subst time ending ticks
      cases steps with
      | @data _ _ time chunk rest waits arrived nonempty =>
        simp only at arrived
        subst arrived
        cases delimitedTurn_turns timeout searched with
        | frame stops | full stops => cases stops.symm.trans waits
        | wait awaits unterminated room onwards =>
          obtain ⟨rfl, rfl⟩ := Turn.await.inj (awaits.symm.trans waits)
          rw [same] at unterminated room
          refine ⟨onwards chunk.val, _, reading.next nonempty ⟨unterminated, room⟩, ?_, ?_, rfl, rfl⟩
          · simp only [stall]
            rw [same, held, tail_append, held, delivered_append, delivered, delivered, List.append_nil,
              List.append_assoc]
          · rw [clock_append]
    · refine ⟨fun i before => absurd before (Nat.not_lt_zero i), [], Reading.start link, ?_, rfl, rfl, rfl⟩
      rw [held, delivered, List.append_nil]
  obtain ⟨result, next, after, drove, receives⟩ := run
  exact ⟨result, _, by rw [Receive.readDelimited, drove], receives⟩

theorem delimited_shape {adu : Bytes} (delimited : Delimited start terminator adu) :
    ∃ body, adu = 0x3A :: (body ++ [0x0D, 0x0A]) ∧ ¬[0x0D, 0x0A] <:+: body ++ [0x0D] := by
  obtain ⟨front, rfl⟩ := delimited.ends
  cases front with
  | nil => exact absurd delimited.starts (by decide)
  | cons first body =>
    obtain rfl := Option.some.inj delimited.starts
    refine ⟨body, rfl, ?_⟩
    intro inside
    apply delimited.once
    have cut : (start :: body ++ terminator).dropLast = [start] ++ (body ++ [0x0D]) := by
      rw [List.dropLast_append_of_ne_nil (by decide)]
      rfl
    rw [cut]
    exact inside.trans (List.suffix_append _ _).isInfix

/-- Whatever stands on the line, a reader that returns a frame has dropped the noise
before its start byte and nothing else, and keeps what follows its first terminator. -/
theorem first_frame_found (timeout : Nat) (limit : Option Nat) (link after : Link) (adu : Bytes)
    (found : Receive.readDelimited maxAduLen timeout 0x3A [0x0D, 0x0A] limit link = (some (.ok adu), after)) :
    ∃ past noise body,
      link.stream.arrivals = past ++ after.stream.arrivals ∧
      (∀ arrival ∈ past, ∃ chunk, arrival.read = .ok chunk ∧ chunk.val ≠ []) ∧
      link.buffer ++ delivered past = noise ++ adu ++ after.buffer ∧ 0x3A ∉ noise ∧
      adu = 0x3A :: (body ++ [0x0D, 0x0A]) ∧ ¬[0x0D, 0x0A] <:+: body ++ [0x0D] := by
  obtain ⟨result, last, same, receives⟩ := readDelimited_receives timeout limit link
  obtain ⟨rfl, rfl⟩ := Prod.mk.inj (found.symm.trans same)
  cases receives with
  | @frame past coming _ rest reading split delimited =>
    obtain ⟨noise, quiet, whole⟩ := noise_tail (link.buffer ++ delivered past)
    obtain ⟨body, shape, first⟩ := delimited_shape delimited
    refine ⟨past, noise, body, reading.arrivals, reading.data, ?_, quiet, shape, first⟩
    rw [List.append_assoc, ← split]
    exact whole

/-- Noise with a line end of its own, and a terminator cut between two reads. -/
theorem first_frame_behind_noise :
    ∃ (past : Reads) (noise body : Bytes),
      ([⟨0, .ok ⟨[0x3A, 0x30, 0x0D], by decide⟩⟩, ⟨1, .ok ⟨[0x0A, 0x31], by decide⟩⟩] :
        Reads) = past ++ [] ∧
      (∀ arrival ∈ past, ∃ chunk, arrival.read = .ok chunk ∧ chunk.val ≠ []) ∧
      [0x0D, 0x0A] ++ delivered past = noise ++ [0x3A, 0x30, 0x0D, 0x0A] ++ [0x31] ∧ 0x3A ∉ noise ∧
      [0x3A, 0x30, 0x0D, 0x0A] = 0x3A :: (body ++ [0x0D, 0x0A]) ∧ ¬[0x0D, 0x0A] <:+: body ++ [0x0D] :=
  first_frame_found 5 none
    ⟨⟨0, [⟨0, .ok ⟨[0x3A, 0x30, 0x0D], by decide⟩⟩, ⟨1, .ok ⟨[0x0A, 0x31], by decide⟩⟩], none, .exact⟩,
      [0x0D, 0x0A]⟩
    ⟨⟨1, [], none, .exact⟩, [0x31]⟩ [0x3A, 0x30, 0x0D, 0x0A] rfl

end Ascii

end Modbus
