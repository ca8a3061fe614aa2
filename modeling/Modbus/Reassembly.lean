import Modbus.RtuExtent
import Modbus.Transport

/-! Reassembly: however a stream of frames is cut into reads, each receive
returns the next frame. The argument is about the bytes still ahead of a reader,
buffered or not; where a read was cut never enters it. -/
namespace Modbus

open Bytes ByteStream

/-- The bytes ahead of a link, buffered ones first, on a stream of plain reads. -/
def Link.Ahead (link : Link) (ending : Option Nat) (bytes : Bytes) : Prop :=
  link.stream.ending = ending ∧
    ∃ unread, Carries link.stream.arrivals unread ∧ bytes = link.buffer ++ unread

theorem find_eq (haystack needle : Bytes) (start : Nat) (nonempty : needle ≠ []) {at' : Nat}
    (from' : start ≤ at') (here : needle <+: haystack.drop at')
    (first : ∀ i, start ≤ i → i < at' → ¬needle <+: haystack.drop i) :
    find haystack needle start = some at' := by
  have room := here.length_le
  have some_bytes := List.length_pos_iff.mpr nonempty
  rw [List.length_drop] at room
  rw [find, if_pos (by omega)]
  simp only [Option.map_eq_some_iff]
  refine ⟨at' - start, ?_, by omega⟩
  rw [List.findIdx?_eq_some_iff_getElem]
  refine ⟨by simp; omega, ?_, ?_⟩
  · have back : start + (at' - start) = at' := by omega
    simpa [back] using (List.prefix_iff_eq_take.mp here).symm
  · intro i before
    have missed := first (start + i) (by omega) (by omega)
    rw [List.prefix_iff_eq_take, eq_comm] at missed
    simpa using missed

theorem find_none (haystack needle : Bytes) (start : Nat)
    (nowhere : ∀ i, start ≤ i → ¬needle <+: haystack.drop i) : find haystack needle start = none := by
  rw [find]
  split
  · simp only [Option.map_eq_none_iff, List.findIdx?_eq_none_iff, List.mem_map, List.mem_range]
    rintro window ⟨i, -, rfl⟩
    have missed := nowhere (start + i) (Nat.le_add_right start i)
    rw [List.prefix_iff_eq_take, eq_comm] at missed
    simpa using missed
  · rfl

/-- A frame between a start byte and the first terminator after it. -/
structure Delimited (start : UInt8) (terminator frame : Bytes) : Prop where
  starts : frame.head? = some start
  ends : terminator <:+ frame
  once : ¬terminator <:+: frame.dropLast

namespace Delimited

variable {start : UInt8} {terminator frame : Bytes}

theorem find_front (delimited : Delimited start terminator frame) {front : Bytes}
    (inside : front <+: frame) (proper : front ≠ frame) (searched : Nat) :
    find front terminator searched = none := by
  apply find_none
  intro i _ here
  have shorter : front <+: frame.dropLast := by
    obtain ⟨rest, rfl⟩ := inside
    have some_rest : rest ≠ [] := by
      rintro rfl
      simp at proper
    rw [List.dropLast_append_of_ne_nil some_rest]
    exact List.prefix_append ..
  apply delimited.once
  exact here.isInfix.trans ((List.drop_suffix i front).isInfix.trans shorter.isInfix)

theorem find_whole (delimited : Delimited start terminator frame) (nonempty : terminator ≠ [])
    {searched : Nat} (early : searched + terminator.length ≤ frame.length) (more : Bytes) :
    find (frame ++ more) terminator searched = some (frame.length - terminator.length) := by
  have some_bytes := List.length_pos_iff.mpr nonempty
  apply find_eq _ _ _ nonempty (by omega)
  · obtain ⟨front, rfl⟩ := delimited.ends
    simp
  · intro i _ before here
    apply delimited.once
    have cut : (frame ++ more).drop i = frame.dropLast.drop i ++ ((frame ++ more).drop (frame.length - 1)) := by
      conv_lhs => rw [← List.take_append_drop (frame.length - 1) (frame ++ more)]
      rw [List.drop_append_of_le_length (by simp; omega), List.take_append_of_le_length (by omega),
        List.dropLast_eq_take]
    have inside : terminator <+: frame.dropLast.drop i := by
      rw [cut] at here
      refine List.prefix_of_prefix_length_le here (List.prefix_append ..) ?_
      simp
      omega
    exact inside.isInfix.trans (List.drop_suffix i _).isInfix

end Delimited

namespace Receive

/-- A loop over the buffer that stops by itself, at the latest when all bytes are in. -/
theorem loop_settles (turn : Bytes → Turn ReadFailure Bytes (Result α)) (whole : Bytes)
    (Settles : Result α → Bytes → Bytes → Prop)
    (turns : ∀ buffer unread, whole = buffer ++ unread →
      (∃ result next, turn buffer = .stop result next ∧ Settles result next unread) ∨
      ∃ midAdu, turn buffer = .await buffer (readMore buffer midAdu) ∧ unread ≠ [])
    {link : Link} {ending : Option Nat} (ahead : link.Ahead ending whole) :
    ∃ result after left, loop turn none link = (some result, after) ∧
      after.stream.ending = ending ∧ Carries after.stream.arrivals left ∧
      Settles result after.buffer left := by
  obtain ⟨same, unread, carries, bytes⟩ := ahead
  obtain ⟨result, buffer, stream, drove, kept, outcome⟩ := drive_settles turn none
    (fun buffer unread => whole = buffer ++ unread) Settles
    (fun buffer unread holds => by
      rcases turns buffer unread holds with stops | ⟨midAdu, awaits, unfinished⟩
      · exact .inl stops
      · refine .inr ⟨buffer, _, awaits, unfinished, ?_, ?_⟩
        · rintro chunk rest - rfl
          simpa [readMore] using holds
        · intro wait timed
          simp [readMore] at timed) link.stream link.buffer carries bytes
  rcases outcome with ⟨_, limited⟩ | ⟨result, left, rfl, carries, settles⟩
  · exact absurd rfl limited
  · refine ⟨result, ⟨stream, buffer⟩, left, ?_, kept.trans same, carries, settles⟩
    simp only [loop, drove]

theorem fillTo_ahead {max len : Nat} {link : Link} {ending : Option Nat} {bytes : Bytes}
    (ahead : link.Ahead ending bytes) (small : len ≤ max) (enough : len ≤ bytes.length) :
    ∃ after, fillTo max len none link = (some (.ok ()), after) ∧ after.Ahead ending bytes ∧
      len ≤ after.buffer.length := by
  have settled := loop_settles (fillTurn len) bytes
    (fun result buffer unread => result = .ok () ∧ bytes = buffer ++ unread ∧ len ≤ buffer.length)
    (fun buffer unread whole => by
      unfold fillTurn
      by_cases short : buffer.length < len
      · refine .inr ⟨!buffer.isEmpty, by rw [if_pos short], ?_⟩
        rintro rfl
        simp only [whole, List.append_nil] at enough
        omega
      · exact .inl ⟨_, _, by rw [if_neg short], rfl, whole, by omega⟩) ahead
  obtain ⟨result, after, left, ran, kept, carries, rfl, whole, reached⟩ := settled
  refine ⟨after, ?_, ⟨kept, left, carries, whole⟩, reached⟩
  rw [fillTo, if_neg (by omega), ran]

theorem take_ahead {frame rest : Bytes} {link : Link} {ending : Option Nat}
    (ahead : link.Ahead ending (frame ++ rest)) (buffered : frame.length ≤ link.buffer.length) :
    link.buffer.take frame.length = frame ∧
      Link.Ahead ⟨link.stream, link.buffer.drop frame.length⟩ ending rest := by
  obtain ⟨same, unread, carries, bytes⟩ := ahead
  have front := congrArg (List.take frame.length) bytes
  have back := congrArg (List.drop frame.length) bytes
  rw [List.take_left, List.take_append_of_le_length buffered] at front
  rw [List.drop_left, List.drop_append_of_le_length buffered] at back
  exact ⟨front.symm, same, unread, carries, back⟩

theorem readPrefixed_ahead {max prefixLen : Nat} {total : Bytes → Result Nat} {frame rest : Bytes}
    {link : Link} {ending : Option Nat} (ahead : link.Ahead ending (frame ++ rest))
    (announced : total (frame.take prefixLen) = .ok frame.length) (long : prefixLen ≤ frame.length)
    (small : frame.length ≤ max) :
    ∃ after, readPrefixed max prefixLen total none link = (some (.ok frame), after) ∧
      after.Ahead ending rest := by
  obtain ⟨middle, filled, still, reached⟩ := fillTo_ahead ahead (Nat.le_trans long small)
    (by rw [List.length_append]; omega)
  have front : middle.buffer.take prefixLen = frame.take prefixLen := by
    obtain ⟨_, unread, _, bytes⟩ := still
    have taken := congrArg (List.take prefixLen) bytes
    rwa [List.take_append_of_le_length long, List.take_append_of_le_length reached, eq_comm] at taken
  obtain ⟨after, again, left, complete⟩ := fillTo_ahead still small (by rw [List.length_append]; omega)
  obtain ⟨taken, remaining⟩ := take_ahead left complete
  refine ⟨_, ?_, remaining⟩
  simp only [readPrefixed, filled, andThen, front, announced, again, take, taken]

theorem readContentLength_ahead {max min : Nat} {extent : Direction → Bytes → Result Extent}
    {direction : Direction} {frame rest : Bytes} {link : Link} {ending : Option Nat}
    (ahead : link.Ahead ending (frame ++ rest))
    (complete : ∀ more, extent direction (frame ++ more) = .ok (.complete frame.length))
    (partly : ∀ front, front <+: frame → front ≠ frame → extent direction front = .ok .needMore)
    (long : min ≤ frame.length) (small : frame.length ≤ max) :
    ∃ after, readContentLength max min extent direction none link = (some (.ok frame), after) ∧
      after.Ahead ending rest := by
  obtain ⟨middle, filled, still, _⟩ := fillTo_ahead ahead (Nat.le_trans long small)
    (by rw [List.length_append]; omega)
  have settled := loop_settles (contentTurn max extent direction) (frame ++ rest)
    (fun result buffer unread => result = .ok frame ∧ rest = buffer ++ unread)
    (fun buffer unread whole => by
      unfold contentTurn
      by_cases short : buffer.length < frame.length
      · have inside : buffer <+: frame := by
          refine List.prefix_of_prefix_length_le ⟨unread, whole.symm⟩ ⟨rest, rfl⟩ (by omega)
        have proper : buffer ≠ frame := by
          rintro rfl
          omega
        refine .inr ⟨true, ?_, ?_⟩
        · have room : checkBufferBound max buffer = .ok () := checkBufferBound_ok.mpr (by omega)
          simp only [partly buffer inside proper, room]
        · rintro rfl
          have lengths := congrArg List.length whole
          simp only [List.length_append, List.append_nil] at lengths
          omega
      · have inside : frame <+: buffer :=
          List.prefix_of_prefix_length_le ⟨rest, rfl⟩ ⟨unread, whole.symm⟩ (by omega)
        obtain ⟨more, rfl⟩ := inside
        refine .inl ⟨.ok frame, more, ?_, rfl, ?_⟩
        · simp only [complete more, List.take_left, List.drop_left]
        · simpa using whole) still
  obtain ⟨result, after, left, ran, kept, carries, rfl, bytes⟩ := settled
  refine ⟨after, ?_, kept, left, carries, bytes⟩
  simp only [readContentLength, filled, andThen, ran]

theorem locate_noise {start : UInt8} {noise : Bytes} (quiet : start ∉ noise) (terminator : Bytes)
    (searched : Nat) : locate start terminator ⟨noise, searched⟩ = (none, ⟨[], 0⟩) := by
  have absent : noise.findIdx? (· == start) = none := by
    rw [List.findIdx?_eq_none_iff]
    intro byte inside
    have other : byte ≠ start := fun same => quiet (same ▸ inside)
    simpa using other
  simp only [locate, absent]

theorem locate_framed {start : UInt8} {noise : Bytes} (quiet : start ∉ noise) (terminator inner : Bytes)
    (searched : Nat) : ∃ resumed ≤ searched, (noise ≠ [] → resumed = 0) ∧
      locate start terminator ⟨noise ++ start :: inner, searched⟩ =
        locate start terminator ⟨start :: inner, resumed⟩ := by
  by_cases silent : noise = []
  · exact ⟨searched, Nat.le_refl _, fun noisy => absurd silent noisy, by rw [silent, List.nil_append]⟩
  · have first : (noise ++ start :: inner).findIdx? (· == start) = some noise.length := by
      rw [List.findIdx?_append, List.findIdx?_eq_none_iff.mpr]
      · simp [List.findIdx?_cons]
      · intro byte inside
        have differs : byte ≠ start := fun same => quiet (same ▸ inside)
        simpa using differs
    have positive : noise.length > 0 := List.length_pos_iff.mpr silent
    have dropped : (noise ++ start :: inner).drop noise.length = start :: inner := List.drop_left
    refine ⟨0, Nat.zero_le _, fun _ => rfl, ?_⟩
    simp only [locate, first, positive, if_true, dropped, List.findIdx?_cons, beq_self_eq_true,
      gt_iff_lt, Nat.lt_irrefl, if_false]

theorem locate_found {start : UInt8} {terminator inner : Bytes} {searched found : Nat}
    (finds : find (start :: inner) terminator searched = some found) :
    locate start terminator ⟨start :: inner, searched⟩ =
      (some (found + terminator.length), ⟨start :: inner, searched⟩) := by
  simp [locate, List.findIdx?_cons, finds]

theorem locate_missed {start : UInt8} {terminator inner : Bytes} {searched : Nat}
    (missed : find (start :: inner) terminator searched = none) :
    locate start terminator ⟨start :: inner, searched⟩ =
      (none, ⟨start :: inner, (start :: inner).length - (terminator.length - 1)⟩) := by
  simp [locate, List.findIdx?_cons, missed]

/-- What a reader of a delimited frame has ahead: perhaps noise, then the frame. -/
def Seeking (start : UInt8) (terminator frame rest : Bytes) (state : Search) (unread : Bytes) : Prop :=
  ∃ noise, start ∉ noise ∧ state.buffer ++ unread = noise ++ (frame ++ rest) ∧
    state.searched + terminator.length ≤ frame.length

variable {start : UInt8} {terminator frame rest : Bytes} {state : Search} {unread : Bytes}

/-- One turn either has the whole frame, or keeps a proper beginning of it, or nothing yet. -/
theorem locate_seeking (delimited : Delimited start terminator frame) (nonempty : terminator ≠ [])
    (seeking : Seeking start terminator frame rest state unread) :
    (∃ more searched, locate start terminator state = (some frame.length, ⟨frame ++ more, searched⟩) ∧
      rest = more ++ unread) ∨
    ∃ next, locate start terminator state = (none, next) ∧
      Seeking start terminator frame rest next unread ∧ next.buffer.length < frame.length ∧
      unread ≠ [] := by
  obtain ⟨noise, quiet, bytes, early⟩ := seeking
  have terminated := delimited.ends.length_le
  have some_bytes := List.length_pos_iff.mpr nonempty
  obtain ⟨buffer, searched⟩ := state
  by_cases reached : buffer.length ≤ noise.length
  · obtain ⟨later, rfl⟩ : buffer <+: noise :=
      List.prefix_of_prefix_length_le ⟨unread, bytes⟩ (List.prefix_append ..) reached
    rw [List.append_assoc, List.append_cancel_left_eq] at bytes
    have still : start ∉ buffer := fun inside => quiet (List.mem_append_left _ inside)
    have yet : start ∉ later := fun inside => quiet (List.mem_append_right _ inside)
    refine .inr ⟨_, locate_noise still terminator searched, ⟨later, yet, bytes, by simpa using terminated⟩,
      by simp only [List.length_nil]; omega, ?_⟩
    rintro rfl
    have lengths := congrArg List.length bytes
    simp only [List.length_append, List.length_nil] at lengths
    omega
  · obtain ⟨inner, rfl⟩ : noise <+: buffer :=
      List.prefix_of_prefix_length_le (List.prefix_append ..) ⟨unread, bytes⟩ (by omega)
    rw [List.append_assoc, List.append_cancel_left_eq] at bytes
    obtain ⟨tail, rfl⟩ : ∃ tail, inner = start :: tail := by
      cases inner with
      | nil => simp at reached
      | cons byte tail =>
        obtain rfl : byte = start := by simpa [delimited.starts] using congrArg List.head? bytes
        exact ⟨tail, rfl⟩
    obtain ⟨resumed, back, _, same⟩ := locate_framed quiet terminator tail searched
    rw [same]
    by_cases whole : frame.length ≤ (start :: tail).length
    · obtain ⟨more, framed⟩ : frame <+: start :: tail :=
        List.prefix_of_prefix_length_le (List.prefix_append ..) ⟨unread, bytes⟩ whole
      have finds := delimited.find_whole nonempty (Nat.le_trans (Nat.add_le_add_right back _) early) more
      rw [framed] at finds
      refine .inl ⟨more, resumed, ?_, ?_⟩
      · rw [locate_found finds, framed, Nat.sub_add_cancel terminated]
      · rw [← framed, List.append_assoc, List.append_cancel_left_eq] at bytes
        exact bytes.symm
    · have inside : start :: tail <+: frame :=
        List.prefix_of_prefix_length_le ⟨unread, bytes⟩ (List.prefix_append ..) (by omega)
      have proper : start :: tail ≠ frame := by
        rintro rfl
        exact whole (Nat.le_refl _)
      refine .inr ⟨_, locate_missed (delimited.find_front inside proper resumed),
        ⟨[], List.not_mem_nil, bytes, ?_⟩, by simpa using whole, ?_⟩
      · simp only at whole ⊢
        omega
      · rintro rfl
        have lengths := congrArg List.length bytes
        simp only [List.length_append, List.append_nil] at lengths
        omega

theorem readDelimited_ahead (timeout : Nat) (limit : Option Nat) {max : Nat} {noise : Bytes}
    {link : Link} {ending : Option Nat} (delimited : Delimited start terminator frame) (nonempty : terminator ≠ [])
    (quiet : start ∉ noise) (small : frame.length ≤ max)
    (ahead : link.Ahead ending (noise ++ frame ++ rest)) :
    ∃ result after, readDelimited max timeout start terminator limit link = (result, after) ∧
      ((result = none ∧ limit ≠ none) ∨ (result = some (.ok frame) ∧ after.Ahead ending rest) ∨
        result = some (.error (.timeout "ascii inter-character"))) := by
  obtain ⟨same, unread, carries, bytes⟩ := ahead
  obtain ⟨result, state, stream, drove, kept, outcome⟩ :=
    drive_settles (delimitedTurn max timeout start terminator) limit
    (Seeking start terminator frame rest)
    (fun result state left => (result = .ok frame ∧ rest = state.buffer ++ left) ∨
      result = .error (.timeout "ascii inter-character"))
    (fun state unread seeking => by
      rcases locate_seeking delimited nonempty seeking with
        ⟨more, searched, located, left⟩ | ⟨next, located, seeks, short, unfinished⟩
      · refine .inl ⟨.ok frame, ⟨more, searched⟩, ?_, .inl ⟨rfl, left⟩⟩
        simp only [delimitedTurn, located, List.take_left, List.drop_left]
      · have room : checkBufferBound max next.buffer = .ok () := checkBufferBound_ok.mpr (by omega)
        refine .inr ⟨next, _, by simp only [delimitedTurn, located, room]; rfl, unfinished, ?_, ?_⟩
        · rintro chunk later - rfl
          obtain ⟨noise, quiet, bytes, early⟩ := seeks
          exact ⟨noise, quiet, by simpa using bytes, early⟩
        · intro wait timed
          exact .inr rfl)
    link.stream ⟨link.buffer, 0⟩ carries
    ⟨noise, quiet, by simpa using bytes.symm, by simpa using delimited.ends.length_le⟩
  refine ⟨result, ⟨stream, state.buffer⟩, by simp only [readDelimited, drove], ?_⟩
  rcases outcome with abandoned | ⟨result, left, rfl, carries, ⟨rfl, bytes⟩ | stalled⟩
  · exact .inl abandoned
  · exact .inr (.inl ⟨rfl, kept.trans same, left, carries, bytes⟩)
  · exact .inr (.inr (congrArg some stalled))

end Receive

/-- Every frame in turn, then the end of the stream. -/
def Returns (results : List (Option (Result Bytes))) (frames : List Bytes) : Prop :=
  results = frames.map (fun frame => some (.ok frame)) ++ [some (.error (.io .unexpectedEof none))]

theorem exhausted_link {link : Link} {ending : Option Nat} (ahead : link.Ahead ending []) :
    ∃ now timer, link = ⟨⟨now, [], ending, timer⟩, []⟩ := by
  obtain ⟨⟨now, arrivals, _, timer⟩, buffer⟩ := link
  obtain ⟨rfl, unread, carries, bytes⟩ := ahead
  obtain ⟨rfl, rfl⟩ := List.nil_eq_append_iff.mp bytes
  obtain rfl : arrivals = [] := carries.eq_nil
  exact ⟨now, timer, rfl⟩

section Runs

variable {Header : Type} (framing : Framing Header) (config : TransportConfig) (direction : Direction)
  (closing : Nat)

/-- What a receive does with a piece of the stream ahead of it: it takes the frame off,
or its result is excused. -/
def Takes (Excused : Result Bytes → Prop) (wire frame : Bytes) : Prop :=
  ∀ link rest, Link.Ahead link (some closing) (wire ++ rest) →
    ∃ result after, Receive.readAdu framing config direction none link = (some result, after) ∧
      ((result = .ok frame ∧ after.Ahead (some closing) rest) ∨ Excused result)

/-- The same of a stream that may also never end. -/
def Arrives (Excused : Result Bytes → Prop) (wire frame : Bytes) : Prop :=
  ∀ ending link rest, Link.Ahead link ending (wire ++ rest) →
    ∃ result after, Receive.readAdu framing config direction none link = (some result, after) ∧
      ((result = .ok frame ∧ after.Ahead ending rest) ∨ Excused result)

def EndsStream : Prop :=
  ∀ now timer, (Receive.readAdu framing config direction none ⟨⟨now, [], some closing, timer⟩, []⟩).1 =
    some (.error (.io .unexpectedEof none))

variable {framing config direction closing}

theorem recvAdus_add (first second : Nat) (reader : Reader) :
    recvAdus framing config direction (first + second) reader =
      ((recvAdus framing config direction first reader).1 ++
        (recvAdus framing config direction second (recvAdus framing config direction first reader).2).1,
        (recvAdus framing config direction second (recvAdus framing config direction first reader).2).2) := by
  induction first generalizing reader with
  | zero => rw [Nat.zero_add, recvAdus, List.nil_append]
  | succ first ih =>
    rw [Nat.succ_add, recvAdus, recvAdus]
    simp only [ih, List.cons_append]

/-- Receives that each take the next piece off the stream, up to one that is excused. -/
theorem recvAdus_returns {wire frame : α → Bytes} {Excused : Result Bytes → Prop} {pieces : List α}
    {trailing : Bytes}
    (takes : ∀ piece ∈ pieces, Takes framing config direction closing Excused (wire piece) (frame piece))
    (ends : ∀ link, Link.Ahead link (some closing) trailing →
      (Receive.readAdu framing config direction none link).1 = some (.error (.io .unexpectedEof none)))
    {link : Link} (ahead : link.Ahead (some closing) (pieces.flatMap wire ++ trailing)) :
    Returns (recvAdus framing config direction (pieces.length + 1) ⟨link, false⟩).1
        (pieces.map frame) ∨
      ∃ result, some result ∈ (recvAdus framing config direction (pieces.length + 1) ⟨link, false⟩).1 ∧
        Excused result := by
  induction pieces generalizing link with
  | nil =>
    have ended := ends link ahead
    rcases reading : Receive.readAdu framing config direction none link with ⟨result, after⟩
    rw [reading] at ended
    subst ended
    left
    simp [Returns, recvAdus, recvAdu, reading]
  | cons piece pieces ih =>
    rw [List.flatMap_cons, List.append_assoc] at ahead
    obtain ⟨result, after, reading, outcome⟩ := takes piece List.mem_cons_self link _ ahead
    rcases outcome with ⟨rfl, rest⟩ | excused
    · have received : recvAdu framing config direction none ⟨link, false⟩ =
          (some (.ok (frame piece)), ⟨after, false⟩) := by
        simp [recvAdu, reading]
      rcases ih (fun piece inside => takes piece (List.mem_cons_of_mem _ inside)) rest with
        returns | ⟨result, inside, excused⟩
      · left
        rw [Returns] at returns ⊢
        rw [List.length_cons, recvAdus, received]
        simp [returns]
      · right
        refine ⟨result, ?_, excused⟩
        rw [List.length_cons, recvAdus, received]
        exact List.mem_cons_of_mem _ inside
    · right
      refine ⟨result, ?_, excused⟩
      rw [List.length_cons, recvAdus]
      cases result <;> simp [recvAdu, reading]

theorem Arrives.takes {Excused : Result Bytes → Prop} {wire frame : Bytes}
    (arrives : Arrives framing config direction Excused wire frame) :
    Takes framing config direction closing Excused wire frame :=
  arrives (some closing)

theorem EndsStream.ended (ends : EndsStream framing config direction closing) (link : Link)
    (ahead : link.Ahead (some closing) []) :
    (Receive.readAdu framing config direction none link).1 = some (.error (.io .unexpectedEof none)) := by
  obtain ⟨now, timer, rfl⟩ := exhausted_link ahead
  exact ends now timer

end Runs

/-- All a reader of this framing looks at: how long the frame says it is. -/
def Tcp.Announced (frame : Bytes) : Prop :=
  8 ≤ frame.length ∧ frame.length ≤ 260 ∧
    (ofBe (frame.getD 4 0) (frame.getD 5 0)).toNat = frame.length - 6

theorem Tcp.aduLen_announced {frame : Bytes} (announced : Tcp.Announced frame) :
    Tcp.aduLen (frame.take Tcp.lengthPrefixLen) = .ok frame.length := by
  obtain ⟨long, short, length⟩ := announced
  obtain ⟨t1, t0, p1, p0, l1, l0, rest, rfl⟩ :
      ∃ t1 t0 p1 p0 l1 l0 rest, frame = t1 :: t0 :: p1 :: p0 :: l1 :: l0 :: rest := by
    match frame, long with
    | t1 :: t0 :: p1 :: p0 :: l1 :: l0 :: rest, _ => exact ⟨t1, t0, p1, p0, l1, l0, rest, rfl⟩
  have counted : (ofBe l1 l0).toNat = rest.length := length
  simp only [List.length_cons] at long short ⊢
  exact Tcp.aduLen_ok.mpr ⟨_, _, _, _, _, _, [], rfl, by omega, by omega⟩

/-- A frame the decoder of this direction accepts, of a kind whose length can be derived. -/
def Rtu.Accepted (crc16 : Bytes → UInt16) (direction : Direction) (frame : Bytes) : Prop :=
  match direction with
  | .request => ∃ address request,
      (rtuOverTcp crc16).decodeRequest frame = .ok (address, request) ∧ request.Derivable
  | .response => ∃ address response,
      (rtuOverTcp crc16).decodeResponse frame = .ok (address, response) ∧ response.Derivable

theorem Rtu.accepted_extents {crc16 : Bytes → UInt16} {direction : Direction} {frame : Bytes}
    (accepted : Rtu.Accepted crc16 direction frame) :
    (4 ≤ frame.length ∧ frame.length ≤ 256) ∧
    (∀ rest, Rtu.deriveExtent direction (frame ++ rest) = .ok (.complete frame.length)) ∧
    ∀ front, front <+: frame → front ≠ frame → Rtu.deriveExtent direction front = .ok .needMore := by
  cases direction with
  | request =>
    obtain ⟨address, request, decodes, derivable⟩ := accepted
    obtain ⟨pdu, decoded, rfl⟩ := rtu_decodeRequest_ok.mp decodes
    refine ⟨?_, Rtu.extents_of_overlap fun _ overlap =>
      Rtu.deriveExtent_request decoded derivable overlap⟩
    obtain ⟨⟨code, body, _, _, rfl⟩, size, _⟩ := RequestPdu.decode_ok.mp decoded
    rw [Rtu.length_layout]
    simp only [List.length_cons, maxPduLen] at size ⊢
    omega
  | response =>
    obtain ⟨address, response, decodes, derivable⟩ := accepted
    obtain ⟨pdu, decoded, rfl⟩ := rtu_decodeResponse_ok.mp decodes
    refine ⟨?_, Rtu.extents_of_overlap fun _ overlap =>
      Rtu.deriveExtent_response decoded derivable overlap⟩
    obtain ⟨⟨code, body, _, _, rfl⟩, size, _⟩ := ResponsePdu.decode_ok.mp decoded
    rw [Rtu.length_layout]
    simp only [List.length_cons, maxPduLen] at size ⊢
    omega

/-- A frame of the delimited framing, and what may stand on the line before it. -/
structure Ascii.Framed (noise frame : Bytes) : Prop where
  quiet : Ascii.start ∉ noise
  delimited : Delimited Ascii.start Ascii.terminator frame
  small : frame.length ≤ 513

section Framings

variable {crc16 : Bytes → UInt16} (config : TransportConfig) (direction : Direction) {closing : Nat}
  {frame : Bytes}

theorem tcp_arrives (announced : Tcp.Announced frame) :
    Arrives tcp config direction (fun _ => False) frame frame := by
  intro ending link rest ahead
  have total := Tcp.aduLen_announced announced
  obtain ⟨long, short, _⟩ := announced
  obtain ⟨after, reads, left⟩ :=
    Receive.readPrefixed_ahead ahead total (Nat.le_trans (by decide) long) short
  exact ⟨_, after, reads, .inl ⟨rfl, left⟩⟩

theorem rtuOverTcp_arrives (accepted : Rtu.Accepted crc16 direction frame) :
    Arrives (rtuOverTcp crc16) config direction (fun _ => False) frame frame := by
  intro ending link rest ahead
  obtain ⟨⟨long, short⟩, complete, partly⟩ := Rtu.accepted_extents accepted
  obtain ⟨after, reads, left⟩ := Receive.readContentLength_ahead ahead complete partly long short
  exact ⟨_, after, reads, .inl ⟨rfl, left⟩⟩

theorem ascii_arrives {noise : Bytes} (framed : Ascii.Framed noise frame) :
    Arrives ascii config direction (· = .error (.timeout "ascii inter-character"))
      (noise ++ frame) frame := by
  intro ending link rest ahead
  obtain ⟨result, after, reads, outcome⟩ :=
    Receive.readDelimited_ahead config.asciiInterCharacterTimeout none framed.delimited (by decide)
      framed.quiet framed.small ahead
  rcases outcome with ⟨_, limited⟩ | ⟨rfl, left⟩ | rfl
  · exact absurd rfl limited
  · exact ⟨_, after, reads, .inl ⟨rfl, left⟩⟩
  · exact ⟨_, after, reads, .inr rfl⟩

theorem fillTo_ended {max len now : Nat} {timer : Timer} (small : len + 1 ≤ max) :
    Receive.fillTo max (len + 1) none ⟨⟨now, [], some closing, timer⟩, []⟩ =
      (some (.error (.io .unexpectedEof none)), ⟨⟨Nat.max now closing, [], some closing, timer⟩, []⟩) := by
  rw [Receive.fillTo, if_neg (by omega)]
  simp [Receive.loop, drive, driveFrom, Receive.fillTurn, Receive.readMore, race, Within, endOfStream]

theorem tcp_ends : EndsStream tcp config direction closing := by
  intro now timer
  exact congrArg (fun filled => (Receive.andThen filled _).1) (fillTo_ended (by decide))

theorem rtuOverTcp_ends : EndsStream (rtuOverTcp crc16) config direction closing := by
  intro now timer
  exact congrArg (fun filled => (Receive.andThen filled _).1) (fillTo_ended (show 3 + 1 ≤ 256 by decide))

theorem ascii_ends : EndsStream ascii config direction closing := by
  intro now timer
  rfl

end Framings

theorem frames_reassemble (crc16 : Bytes → UInt16) (config : TransportConfig) (direction : Direction)
    (now closing : Nat) (arrivals : List (Arrival readChunk ReadFailure)) (timer : Timer) :
    (∀ frames : List Bytes, (∀ frame ∈ frames, Tcp.Announced frame) →
      Carries arrivals frames.flatten →
      Returns (recvAdus tcp config direction (frames.length + 1)
        (.new ⟨now, arrivals, some closing, timer⟩)).1 frames) ∧
    (∀ frames : List Bytes, (∀ frame ∈ frames, Rtu.Accepted crc16 direction frame) →
      Carries arrivals frames.flatten →
      Returns (recvAdus (rtuOverTcp crc16) config direction (frames.length + 1)
        (.new ⟨now, arrivals, some closing, timer⟩)).1 frames) ∧
    (∀ pieces : List (Bytes × Bytes), (∀ piece ∈ pieces, Ascii.Framed piece.1 piece.2) →
      Carries arrivals (pieces.flatMap fun piece => piece.1 ++ piece.2) →
      let results := (recvAdus ascii config direction (pieces.length + 1)
        (.new ⟨now, arrivals, some closing, timer⟩)).1
      (∀ result ∈ results, result ≠ some (.error (.timeout "ascii inter-character"))) →
      Returns results (pieces.map Prod.snd)) := by
  have started {bytes : Bytes} (carries : Carries arrivals bytes) :
      Link.Ahead ⟨⟨now, arrivals, some closing, timer⟩, []⟩ (some closing) (bytes ++ []) :=
    ⟨rfl, bytes, carries, List.append_nil bytes⟩
  refine ⟨?_, ?_, ?_⟩
  · intro frames announced carries
    rw [← List.flatMap_id] at carries
    rcases recvAdus_returns (fun frame inside => (tcp_arrives config direction (announced frame inside)).takes)
      (tcp_ends config direction).ended
      (started carries) with returns | ⟨_, _, impossible⟩
    · rwa [List.map_id'] at returns
    · exact impossible.elim
  · intro frames accepted carries
    rw [← List.flatMap_id] at carries
    rcases recvAdus_returns (fun frame inside => (rtuOverTcp_arrives config direction (accepted frame inside)).takes)
      (rtuOverTcp_ends config direction).ended
      (started carries) with returns | ⟨_, _, impossible⟩
    · rwa [List.map_id'] at returns
    · exact impossible.elim
  · intro pieces framed carries results steady
    rcases recvAdus_returns (fun piece inside => (ascii_arrives config direction (framed piece inside)).takes)
      (ascii_ends config direction).ended
      (started carries) with returns | ⟨result, inside, stalled⟩
    · exact returns
    · exact absurd (congrArg some stalled) (steady _ inside)

/-- Cuts inside a header, inside an address and between the two bytes of a terminator. -/
theorem cut_frames_reassemble :
    Returns (recvAdus tcp .default .request 2 (.new ⟨0,
      [⟨0, .ok ⟨[0, 1, 0], by decide⟩⟩, ⟨5, .ok ⟨[0, 0, 2, 17, 7], by decide⟩⟩], some 9, .exact⟩)).1
      [[0, 1, 0, 0, 0, 2, 17, 7]] ∧
    Returns (recvAdus (rtuOverTcp fun _ => 0) .default .request 2 (.new ⟨0,
      [⟨0, .ok ⟨[1, 3, 0], by decide⟩⟩, ⟨5, .ok ⟨[0, 0, 1, 0, 0], by decide⟩⟩], some 9, .exact⟩)).1
      [[1, 3, 0, 0, 0, 1, 0, 0]] ∧
    Returns (recvAdus ascii .default .response 2 (.new ⟨0,
      [⟨0, .ok ⟨[0x41, 0x3A, 0x0D], by decide⟩⟩, ⟨5, .ok ⟨[0x0A], by decide⟩⟩], some 9, .exact⟩)).1
      [[0x3A, 0x0D, 0x0A]] := by
  refine ⟨?_, ?_, ?_⟩
  · apply (frames_reassemble (fun _ => 0) _ _ _ _ _ _).1 [[0, 1, 0, 0, 0, 2, 17, 7]]
    · intro frame inside
      rw [List.mem_singleton.mp inside]
      exact ⟨by decide, by decide, by decide⟩
    · exact .cons (by decide) (.cons (by decide) .nil)
  · apply (frames_reassemble (fun _ => 0) _ _ _ _ _ _).2.1 [[1, 3, 0, 0, 0, 1, 0, 0]]
    · intro frame inside
      rw [List.mem_singleton.mp inside]
      exact ⟨⟨1⟩, .readHoldingRegisters ⟨0⟩ ⟨1⟩, rfl, trivial⟩
    · exact .cons (by decide) (.cons (by decide) .nil)
  · apply (frames_reassemble (fun _ => 0) _ _ _ _ _ _).2.2 [([0x41], [0x3A, 0x0D, 0x0A])]
    · intro piece inside
      rw [List.mem_singleton.mp inside]
      exact ⟨by decide, ⟨rfl, ⟨[0x3A], rfl⟩, by decide⟩, by decide⟩
    · exact .cons (by decide) (.cons (by decide) .nil)
    · decide

end Modbus
