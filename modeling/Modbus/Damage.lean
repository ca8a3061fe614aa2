import Modbus.AsciiLine

/-! Damage on an ASCII line. Bytes in the place of a frame cost that frame alone
when they leave no frame open behind them: a start byte without its terminator
makes the reader take the next frame for the rest of the open one. -/
namespace Modbus.Ascii

open Bytes ByteStream

/-- Where the next byte of the line stands. -/
inductive Place where
  | outside | inside | afterReturn
  deriving DecidableEq, Repr

def Place.next (place : Place) (byte : UInt8) : Place :=
  match place with
  | .outside => if byte = start then .inside else .outside
  | .inside => if byte = 0x0D then .afterReturn else .inside
  | .afterReturn => if byte = 0x0A then .outside else if byte = 0x0D then .afterReturn else .inside

def scan (bytes : Bytes) : Place := bytes.foldl Place.next .outside

/-- A frame that has begun and not ended. -/
structure Begun (bytes : Bytes) : Prop where
  starts : bytes.head? = some start
  unterminated : ¬terminator <:+: bytes

/-- What of the line is still open at a place. -/
def Place.Leaves (place : Place) (bytes : Bytes) : Prop :=
  match place with
  | .outside => bytes = []
  | .inside => Begun bytes ∧ bytes.getLast? ≠ some 0x0D
  | .afterReturn => Begun bytes ∧ bytes.getLast? = some 0x0D

theorem suffix_terminator {bytes : Bytes} {byte : UInt8} (ends : terminator <:+ bytes ++ [byte]) :
    byte = 0x0A ∧ bytes.getLast? = some 0x0D := by
  obtain ⟨front, split⟩ := ends
  have shape : (front ++ [0x0D]) ++ [0x0A] = bytes ++ [byte] := by
    rw [← split, terminator, List.append_assoc]
    rfl
  obtain ⟨rfl, same⟩ := List.append_inj' shape rfl
  exact ⟨(List.cons.inj same).1.symm, List.getLast?_concat⟩

theorem Begun.concat {bytes : Bytes} (begun : Begun bytes) {byte : UInt8}
    (goes_on : ¬(byte = 0x0A ∧ bytes.getLast? = some 0x0D)) : Begun (bytes ++ [byte]) where
  starts := by rw [List.head?_append, begun.starts, Option.some_or]
  unterminated := by
    rw [List.infix_concat_iff]
    rintro (ends | inside)
    · exact goes_on (suffix_terminator ends)
    · exact begun.unterminated inside

theorem Begun.ends {bytes : Bytes} (begun : Begun bytes) (returned : bytes.getLast? = some 0x0D) :
    Delimited start terminator (bytes ++ [0x0A]) where
  starts := by rw [List.head?_append, begun.starts, Option.some_or]
  ends := by
    obtain ⟨front, rfl⟩ := List.getLast?_eq_some_iff.mp returned
    exact ⟨front, by simp [terminator]⟩
  once := by
    rw [List.dropLast_concat]
    exact begun.unterminated

/-- A line up to a place: frames with noise before them, noise, and what is open. -/
structure Parsed (bytes : Bytes) (place : Place) (pieces : List (Bytes × Bytes)) (noise begun : Bytes) :
    Prop where
  whole : bytes = pieces.flatMap (fun piece => piece.1 ++ piece.2) ++ (noise ++ begun)
  frames : ∀ piece ∈ pieces, start ∉ piece.1 ∧ Delimited start terminator piece.2
  quiet : start ∉ noise
  leaves : place.Leaves begun

theorem Parsed.next {bytes noise begun : Bytes} {place : Place} {pieces : List (Bytes × Bytes)}
    (parsed : Parsed bytes place pieces noise begun) (byte : UInt8) :
    ∃ pieces noise begun, Parsed (bytes ++ [byte]) (place.next byte) pieces noise begun := by
  have leaves := parsed.leaves
  cases place with
  | outside =>
    obtain rfl : begun = [] := leaves
    have whole := parsed.whole
    by_cases starts : byte = start
    · refine ⟨pieces, noise, [byte], ?_, parsed.frames, parsed.quiet, ?_⟩
      · rw [whole]
        simp
      · subst starts
        refine ⟨⟨rfl, ?_⟩, by decide⟩
        decide
    · refine ⟨pieces, noise ++ [byte], [], ?_, parsed.frames, ?_, ?_⟩
      · rw [whole]
        simp
      · simp [parsed.quiet, Ne.symm starts]
      · simp [Place.next, starts, Place.Leaves]
  | inside =>
    obtain ⟨still, last⟩ := leaves
    refine ⟨pieces, noise, begun ++ [byte], ?_, parsed.frames, parsed.quiet, ?_⟩
    · rw [parsed.whole]
      simp
    · have goes_on : Begun (begun ++ [byte]) := still.concat fun both => last both.2
      by_cases returned : byte = 0x0D
      · subst returned
        exact ⟨goes_on, List.getLast?_concat⟩
      · simp [Place.next, returned, Place.Leaves, goes_on]
  | afterReturn =>
    obtain ⟨still, last⟩ := leaves
    by_cases feed : byte = 0x0A
    · subst feed
      refine ⟨pieces ++ [(noise, begun ++ [0x0A])], [], [], ?_, ?_, List.not_mem_nil, rfl⟩
      · rw [parsed.whole]
        simp
      · intro piece inside
        rcases List.mem_append.mp inside with before | last_one
        · exact parsed.frames piece before
        · obtain rfl := List.mem_singleton.mp last_one
          exact ⟨parsed.quiet, still.ends last⟩
    · refine ⟨pieces, noise, begun ++ [byte], ?_, parsed.frames, parsed.quiet, ?_⟩
      · rw [parsed.whole]
        simp
      · have goes_on : Begun (begun ++ [byte]) := still.concat fun both => feed both.1
        by_cases returned : byte = 0x0D
        · subst returned
          exact ⟨goes_on, List.getLast?_concat⟩
        · simp [Place.next, feed, returned, Place.Leaves, goes_on]

theorem scan_parsed (bytes : Bytes) : ∃ pieces noise begun, Parsed bytes (scan bytes) pieces noise begun := by
  induction bytes using List.reverseRecOn with
  | nil => exact ⟨[], [], [], rfl, by simp, List.not_mem_nil, rfl⟩
  | append_singleton front byte ih =>
    obtain ⟨pieces, noise, begun, parsed⟩ := ih
    have place : scan (front ++ [byte]) = (scan front).next byte := by
      rw [scan, List.foldl_append]
      rfl
    rw [place]
    exact parsed.next byte

theorem Parsed.framed {bytes noise begun : Bytes} {place : Place} {pieces : List (Bytes × Bytes)}
    (parsed : Parsed bytes place pieces noise begun) (small : bytes.length ≤ maxAduLen) :
    (∀ piece ∈ pieces, Framed piece.1 piece.2) ∧ begun.length ≤ maxAduLen := by
  have size := congrArg List.length parsed.whole
  rw [List.length_append, List.length_append] at size
  refine ⟨?_, by omega⟩
  intro piece inside
  obtain ⟨quiet, delimited⟩ := parsed.frames piece inside
  have part := (List.sublist_flatten_of_mem (List.mem_map_of_mem inside) :
    (piece.1 ++ piece.2).Sublist (pieces.map fun piece => piece.1 ++ piece.2).flatten).length_le
  rw [← List.flatMap_def, List.length_append] at part
  exact ⟨quiet, delimited, by simp only [maxAduLen] at small; omega⟩

theorem Place.Leaves.begun {place : Place} {bytes : Bytes} (leaves : place.Leaves bytes)
    (within : place ≠ .outside) : Begun bytes := by
  cases place with
  | outside => exact absurd rfl within
  | inside => exact leaves.1
  | afterReturn => exact leaves.1

theorem Begun.through {bytes more : Bytes} (begun : Begun bytes) (other : ∀ byte ∈ more, byte ≠ 0x0A) :
    Begun (bytes ++ more) := by
  induction more generalizing bytes with
  | nil => rwa [List.append_nil]
  | cons byte more ih =>
    rw [List.append_cons]
    apply ih
    · exact begun.concat fun both => other byte List.mem_cons_self both.1
    · exact fun later inside => other later (List.mem_cons_of_mem _ inside)

theorem Begun.closes {bytes more : Bytes} (begun : Begun bytes) (other : ∀ byte ∈ more, byte ≠ 0x0A) :
    Delimited start terminator (bytes ++ (more ++ terminator)) := by
  have returned : Begun (bytes ++ more ++ [0x0D]) := (begun.through other).concat fun both => absurd both.1 (by decide)
  have closed := returned.ends List.getLast?_concat
  rwa [List.append_assoc, List.append_assoc] at closed

theorem Begun.swallows {begun body : Bytes} (opened : Begun begun) (plain : ∀ byte ∈ body, Plain byte) :
    Delimited start terminator (begun ++ start :: (body ++ terminator)) := by
  rw [← List.cons_append]
  apply opened.closes
  intro byte inside
  rcases List.mem_cons.mp inside with rfl | within
  · decide
  · exact (plain byte within).2.2

theorem Sealed.framed {adu : Bytes} (whole : Sealed adu) : Framed [] adu := by
  obtain ⟨body, rfl, plain, small⟩ := whole
  have begun : Begun [start] := ⟨rfl, by decide⟩
  exact ⟨List.not_mem_nil, begun.closes fun byte inside => (plain byte inside).2.2, small⟩

section Calls

variable {config : TransportConfig} {direction : Direction} {closing : Nat} {link after : Link}
  {bytes : Bytes} {result : Result Bytes}

/-- What a call on a line without failing reads comes to. -/
inductive Heard (link : Link) : Result Bytes → Link → Prop
  | frame {past : Reads} {frame : Bytes} {after : Link} : Reading link past after.stream.arrivals →
      held link past = frame ++ after.buffer → Delimited start terminator frame →
      Heard link (.ok frame) after
  | full {past : Reads} {after : Link} {len : Nat} : Reading link past after.stream.arrivals →
      after.buffer = [] → ¬terminator <:+: held link past → maxAduLen ≤ (held link past).length →
      Heard link (.error (.aduTooLarge len maxAduLen)) after
  | stalled {after : Link} : Heard link (.error (.timeout "ascii inter-character")) after
  | ended {past : Reads} {after : Link} : Reading link past [] → after.stream.arrivals = [] →
      after.buffer = [] → Pending (held link past) →
      Heard link (.error (endOfStream (!(held link past).isEmpty))) after

theorem recvAdu_read (read : Receive.readAdu ascii config direction none link = (some result, after)) :
    recvAdu ascii config direction none ⟨link, false⟩ =
      (some result, ⟨⟨after.stream, if result.isOk then after.buffer else []⟩, false⟩) := by
  rcases result with e | adu
  all_goals
    simp only [recvAdu, read, Bool.false_eq_true, if_false]
    rfl

theorem recvAdu_heard (ahead : link.Ahead (some closing) bytes) :
    ∃ result after, recvAdu ascii config direction none ⟨link, false⟩ = (some result, ⟨after, false⟩) ∧
      after.stream.ending = some closing ∧ Heard link result after := by
  obtain ⟨ending, unread, carries, _⟩ := ahead
  obtain ⟨result, after, reading, receives⟩ :=
    readDelimited_receives config.asciiInterCharacterTimeout none link
  have read : Receive.readAdu ascii config direction none link = (result, after) := reading
  cases receives with
  | frame sofar whole delimited =>
    exact ⟨_, _, recvAdu_read read, ending, .frame sofar whole delimited⟩
  | full sofar unterminated large =>
    exact ⟨_, _, recvAdu_read read, ending, .full sofar rfl unterminated large⟩
  | elapsed => exact ⟨_, _, recvAdu_read read, ending, .stalled⟩
  | @ended past coming rest time sofar pending closed =>
    rcases closed with ⟨chunk, empty, rfl⟩ | ⟨rfl, rfl, _⟩
    · obtain ⟨_, same, nonempty⟩ := carries.reads ⟨time, .ok chunk⟩ (by simp [sofar.arrivals])
      cases same
      exact absurd empty nonempty
    · exact ⟨_, _, recvAdu_read read, ending, .ended sofar rfl rfl pending⟩
  | @failed past coming time failure sofar =>
    obtain ⟨_, same, _⟩ := carries.reads ⟨time, .error failure⟩ (by simp [sofar.arrivals])
    cases same
  | abandoned sofar never => cases (never rfl).2.2.symm.trans ending

variable {past coming : Reads} {noise frame rest begun : Bytes}

theorem Reading.whole (reading : Reading link past coming) (ahead : link.Ahead (some closing) bytes)
    (begins : held link past ≠ []) : held link past ++ delivered coming = tail bytes := by
  obtain ⟨_, unread, carries, rfl⟩ := ahead
  rw [← held_append begins, ← reading.arrivals, held, carries.delivered]

theorem Reading.ahead (reading : Reading link past after.stream.arrivals)
    (ahead : link.Ahead (some closing) bytes) (ending : after.stream.ending = some closing) :
    after.Ahead (some closing) (after.buffer ++ delivered after.stream.arrivals) := by
  obtain ⟨_, _, carries, _⟩ := ahead
  rw [reading.arrivals] at carries
  exact ⟨ending, _, carries.later, rfl⟩

theorem Reading.stops {early late : Reads} (reading : Reading link past coming)
    (arrivals : link.stream.arrivals = early ++ late) (done : ¬Pending (held link early)) :
    ∃ more, early = past ++ more ∧ coming = more ++ late := by
  rcases List.append_eq_append_iff.mp (reading.arrivals.symm.trans arrivals) with found | ⟨more, split, left⟩
  · exact found
  · by_cases none_left : more = []
    · subst none_left
      exact ⟨[], by simpa using split.symm, by simpa using left.symm⟩
    · exact absurd (reading.unfinished split none_left) done

theorem Reading.all (reading : Reading link past []) (ahead : link.Ahead (some closing) bytes) :
    held link past = tail bytes := by
  obtain ⟨_, unread, carries, rfl⟩ := ahead
  rw [reading.arrivals, List.append_nil] at carries
  rw [held, carries.delivered]

theorem held_cut {early late : Reads} {front : Bytes} (arrivals : link.stream.arrivals = early ++ late)
    (ahead : link.Ahead (some closing) (front ++ delivered late)) : held link early = tail front := by
  obtain ⟨_, unread, carries, split⟩ := ahead
  have bytes := carries.delivered
  rw [arrivals, delivered_append] at bytes
  rw [← bytes, ← List.append_assoc] at split
  rw [held, List.append_cancel_right split]

theorem begins_of_full (large : maxAduLen ≤ (held link past).length) : held link past ≠ [] := by
  intro nothing
  rw [nothing] at large
  cases large

theorem infix_front (delimited : Delimited start terminator frame) (rest : Bytes) :
    terminator <:+: frame ++ rest :=
  delimited.ends.isInfix.trans (List.prefix_append frame rest).isInfix

theorem Framed.tail (framed : Framed noise frame) (rest : Bytes) :
    tail (noise ++ frame ++ rest) = frame ++ rest := by
  obtain ⟨inner, rfl⟩ := List.head?_eq_some_iff.mp framed.delimited.starts
  rw [List.append_assoc, tail_noise framed.quiet, List.cons_append, tail_start]

theorem Heard.takes (heard : Heard link result after) (framed : Framed noise frame)
    (ahead : link.Ahead (some closing) (noise ++ frame ++ rest))
    (ending : after.stream.ending = some closing)
    (steady : result ≠ .error (.timeout "ascii inter-character")) :
    result = .ok frame ∧ after.Ahead (some closing) rest ∧
      ∃ past, Reading link past after.stream.arrivals := by
  have line := framed.tail rest
  cases heard with
  | @frame past found _ reading whole delimited =>
    have begins : held link past ≠ [] := by simp [whole, delimited_ne_nil delimited]
    have all := reading.whole ahead begins
    rw [line, whole, List.append_assoc] at all
    obtain rfl := Delimited.unique delimited framed.delimited all
    have left := reading.ahead ahead ending
    rw [List.append_cancel_left all] at left
    exact ⟨rfl, left, past, reading⟩
  | @full past _ _ reading _ unterminated large =>
    have begins := begins_of_full large
    have all := reading.whole ahead begins
    rw [line] at all
    obtain ⟨more, split⟩ := List.prefix_of_prefix_length_le ⟨rest, rfl⟩ ⟨_, all⟩
      (Nat.le_trans framed.small large)
    exact absurd (split ▸ infix_front framed.delimited more) unterminated
  | stalled => exact absurd rfl steady
  | ended reading _ _ pending =>
    rw [reading.all ahead, line] at pending
    exact absurd (infix_front framed.delimited rest) pending.unterminated

theorem Heard.quiet (heard : Heard link result after) (ahead : link.Ahead (some closing) bytes)
    (quiet : start ∉ bytes) (steady : result ≠ .error (.timeout "ascii inter-character")) :
    result = .error (.io .unexpectedEof none) := by
  have line : tail bytes = [] := by
    have nothing := tail_noise quiet []
    rwa [List.append_nil] at nothing
  have silent {past coming : Reads} (reading : Reading link past coming) : held link past = [] := by
    by_contra begins
    have all := reading.whole ahead begins
    rw [line] at all
    exact begins (List.append_eq_nil_iff.mp all).1
  cases heard with
  | frame reading whole delimited =>
    rw [silent reading, eq_comm, List.append_eq_nil_iff] at whole
    exact absurd whole.1 (delimited_ne_nil delimited)
  | full reading _ _ large =>
    rw [silent reading] at large
    cases large
  | stalled => exact absurd rfl steady
  | ended reading =>
    rw [silent reading]
    rfl

/-- What a call makes of an open frame with another one behind it. -/
inductive Swallows (closing : Nat) (link : Link) (begun body rest : Bytes) : Result Bytes → Link → Prop
  | joined {after : Link} : after.Ahead (some closing) rest →
      Swallows closing link begun body rest (.ok (begun ++ start :: (body ++ terminator))) after
  | cut {left : Bytes} {len : Nat} {after : Link} : start ∉ left → after.Ahead (some closing) (left ++ rest) →
      Swallows closing link begun body rest (.error (.aduTooLarge len maxAduLen)) after
  | dropped {len : Nat} {after : Link} : begun.length = maxAduLen →
      after.Ahead (some closing) (start :: (body ++ terminator) ++ rest) →
      (∃ past, link.stream.arrivals = past ++ after.stream.arrivals) →
      delivered after.stream.arrivals = start :: (body ++ terminator) ++ rest →
      Swallows closing link begun body rest (.error (.aduTooLarge len maxAduLen)) after

theorem tail_begins {noise begun : Bytes} (quiet : start ∉ noise) (opened : Begun begun) (rest : Bytes) :
    tail (noise ++ begun ++ rest) = begun ++ rest := by
  obtain ⟨inner, rfl⟩ := List.head?_eq_some_iff.mp opened.starts
  rw [List.append_assoc, tail_noise quiet, List.cons_append, tail_start]

theorem Heard.swallows {body : Bytes} (heard : Heard link result after) (quiet : start ∉ noise)
    (opened : Begun begun) (small : begun.length ≤ maxAduLen) (plain : ∀ byte ∈ body, Plain byte)
    (ahead : link.Ahead (some closing) (noise ++ begun ++ (start :: (body ++ terminator) ++ rest)))
    (ending : after.stream.ending = some closing)
    (steady : result ≠ .error (.timeout "ascii inter-character")) :
    Swallows closing link begun body rest result after := by
  have line := tail_begins quiet opened (start :: (body ++ terminator) ++ rest)
  have joined := opened.swallows plain
  rw [← List.append_assoc begun] at line
  cases heard with
  | @frame past found _ reading whole delimited =>
    have begins : held link past ≠ [] := by simp [whole, delimited_ne_nil delimited]
    have all := reading.whole ahead begins
    rw [line, whole, List.append_assoc found] at all
    obtain rfl := Delimited.unique delimited joined all
    have left := reading.ahead ahead ending
    rw [List.append_cancel_left all] at left
    exact .joined left
  | @full past _ _ reading empty unterminated large =>
    have begins := begins_of_full large
    have all := reading.whole ahead begins
    have left := reading.ahead ahead ending
    rw [empty, List.nil_append] at left
    rw [line] at all
    obtain ⟨part, split⟩ := List.prefix_of_prefix_length_le
      ((List.prefix_append begun _).trans (List.prefix_append _ rest)) ⟨_, all⟩ (Nat.le_trans small large)
    rw [← split, List.append_assoc, List.append_assoc] at all
    have onwards := List.append_cancel_left all
    cases part with
    | nil =>
      rw [List.append_nil] at split
      rw [List.nil_append] at onwards
      rw [onwards] at left
      rw [← split] at large
      exact .dropped (Nat.le_antisymm small large) left ⟨past, reading.arrivals⟩ onwards
    | cons first part =>
      obtain ⟨rfl, within⟩ := List.cons.inj onwards
      rcases List.append_eq_append_iff.mp within with ⟨remains, whole, left_over⟩ | ⟨more, whole, _⟩
      · rw [left_over] at left
        refine .cut ?_ left
        intro inside
        have among : start ∈ body ++ terminator := whole ▸ List.mem_append_right part inside
        rcases List.mem_append.mp among with before | last
        · exact (plain start before).1 rfl
        · exact absurd last (by decide)
      · rw [whole] at split
        apply absurd _ unterminated
        rw [← split]
        exact ⟨begun ++ start :: body, more, by simp⟩
  | stalled => exact absurd rfl steady
  | ended reading _ _ pending =>
    rw [reading.all ahead, line] at pending
    exact absurd (infix_front joined rest) pending.unterminated

/-- An open frame that fills the buffer by the end of a read is dropped there. -/
theorem Heard.drops {early late : Reads} (heard : Heard link result after) (quiet : start ∉ noise)
    (opened : Begun begun) (size : begun.length = maxAduLen)
    (ahead : link.Ahead (some closing) (noise ++ begun ++ rest))
    (arrivals : link.stream.arrivals = early ++ late) (cut : delivered late = rest)
    (ending : after.stream.ending = some closing)
    (steady : result ≠ .error (.timeout "ascii inter-character")) :
    ∃ e, result = .error e ∧ e ≠ .io .unexpectedEof none ∧ after.Ahead (some closing) rest := by
  have filled : held link early = begun := by
    have line := tail_begins quiet opened []
    rw [List.append_nil, List.append_nil] at line
    rw [← cut] at ahead
    rw [held_cut arrivals ahead, line]
  have done : ¬Pending (held link early) := by
    intro pending
    have room := pending.room
    rw [filled] at room
    omega
  cases heard with
  | @frame past found _ reading whole delimited =>
    obtain ⟨more, rfl, _⟩ := reading.stops arrivals done
    have begins : held link past ≠ [] := by simp [whole, delimited_ne_nil delimited]
    rw [held_append begins, whole, List.append_assoc] at filled
    exact absurd (filled ▸ infix_front delimited _) opened.unterminated
  | @full past _ _ reading empty _ large =>
    obtain ⟨more, rfl, coming⟩ := reading.stops arrivals done
    have begins := begins_of_full large
    rw [held_append begins] at filled
    have lengths := congrArg List.length filled
    rw [List.length_append] at lengths
    have none_left : delivered more = [] := List.eq_nil_of_length_eq_zero (by omega)
    have left := reading.ahead ahead ending
    rw [empty, coming, delivered_append, none_left, cut] at left
    exact ⟨_, rfl, by simp, left⟩
  | stalled => exact absurd rfl steady
  | ended reading _ _ pending =>
    obtain ⟨more, rfl, nothing⟩ := reading.stops arrivals done
    obtain ⟨rfl, rfl⟩ := List.nil_eq_append_iff.mp nothing
    rw [List.append_nil] at done
    exact absurd pending done

theorem Heard.severed (heard : Heard link result after) (quiet : start ∉ noise)
    (opened : Begun begun) (small : begun.length ≤ maxAduLen)
    (ahead : link.Ahead (some closing) (noise ++ begun)) (ending : after.stream.ending = some closing)
    (steady : result ≠ .error (.timeout "ascii inter-character")) :
    ∃ e, result = .error e ∧ e ≠ .io .unexpectedEof none ∧ after.Ahead (some closing) [] := by
  have line := tail_begins quiet opened []
  rw [List.append_nil, List.append_nil] at line
  cases heard with
  | @frame past found _ reading whole delimited =>
    have begins : held link past ≠ [] := by simp [whole, delimited_ne_nil delimited]
    have all := reading.whole ahead begins
    rw [line, whole, List.append_assoc] at all
    exact absurd (all ▸ infix_front delimited _) opened.unterminated
  | @full past _ _ reading empty _ large =>
    have begins := begins_of_full large
    have all := reading.whole ahead begins
    rw [line] at all
    have lengths := congrArg List.length all
    rw [List.length_append] at lengths
    have left := reading.ahead ahead ending
    rw [empty, List.eq_nil_of_length_eq_zero (by omega : (delivered after.stream.arrivals).length = 0)] at left
    exact ⟨_, rfl, by simp, left⟩
  | stalled => exact absurd rfl steady
  | ended reading none_left empty =>
    rw [reading.all ahead, line]
    refine ⟨_, rfl, ?_, ?_⟩
    · obtain ⟨inner, rfl⟩ := List.head?_eq_some_iff.mp opened.starts
      simp [endOfStream]
    · exact ⟨ending, [], by rw [none_left]; exact .nil, by rw [empty]; rfl⟩

end Calls

section Runs

variable (config : TransportConfig) (direction : Direction)

/-- Calls on this link return these results, one after the other. -/
def Hears (link : Link) (results : List (Result Bytes)) (after : Link) : Prop :=
  recvAdus ascii config direction results.length ⟨link, false⟩ = (results.map some, ⟨after, false⟩)

/-- No call ever runs into the timeout. -/
def Steady (reader : Reader) : Prop :=
  ∀ count, some (.error (.timeout "ascii inter-character")) ∉ (recvAdus ascii config direction count reader).1

variable {config direction} {closing : Nat} {link middle after : Link} {bytes : Bytes}

theorem Hears.nil (link : Link) : Hears config direction link [] link := rfl

theorem Hears.append {first second : List (Result Bytes)} (here : Hears config direction link first middle)
    (there : Hears config direction middle second after) :
    Hears config direction link (first ++ second) after := by
  rw [Hears, List.length_append, recvAdus_add, here, there, List.map_append]

theorem Steady.later {results : List (Result Bytes)} (steady : Steady config direction ⟨link, false⟩)
    (heard : Hears config direction link results after) : Steady config direction ⟨after, false⟩ := by
  intro count inside
  have never := steady (results.length + count)
  rw [recvAdus_add, heard] at never
  exact never (List.mem_append_right _ inside)

theorem Hears.steady {results : List (Result Bytes)} (heard : Hears config direction link results after)
    (spoke : .error (.timeout "ascii inter-character") ∉ results)
    (still : Steady config direction ⟨after, false⟩) : Steady config direction ⟨link, false⟩ := by
  intro count inside
  have results_only : some (.error (.timeout "ascii inter-character")) ∉ results.map some := by
    simpa using spoke
  rcases Nat.le_total count results.length with fewer | more
  · have run := congrArg Prod.fst heard
    rw [show results.length = count + (results.length - count) by omega, recvAdus_add] at run
    simp only at run
    exact results_only (run ▸ List.mem_append_left _ inside)
  · rw [show count = results.length + (count - results.length) by omega, recvAdus_add, heard] at inside
    rcases List.mem_append.mp inside with early | late
    · exact results_only early
    · exact still _ late

theorem steady_ended (now closing : Nat) (timer : Timer) :
    Steady config direction (.new ⟨now, [], some closing, timer⟩) := by
  intro count
  induction count generalizing now with
  | zero => exact List.not_mem_nil
  | succ count ih =>
    have ended : recvAdu ascii config direction none (.new ⟨now, [], some closing, timer⟩) =
        (some (.error (.io .unexpectedEof none)), .new ⟨max now closing, [], some closing, timer⟩) := rfl
    rw [recvAdus, ended]
    simpa using ih (max now closing)

theorem hears_call (steady : Steady config direction ⟨link, false⟩)
    (ahead : link.Ahead (some closing) bytes) :
    ∃ result after, Hears config direction link [result] after ∧ Heard link result after ∧
      after.stream.ending = some closing ∧ result ≠ .error (.timeout "ascii inter-character") ∧
      Steady config direction ⟨after, false⟩ := by
  obtain ⟨result, after, received, ending, heard⟩ := recvAdu_heard ahead
  have hears : Hears config direction link [result] after := by
    rw [Hears, List.length_singleton, recvAdus, received]
    rfl
  refine ⟨result, after, hears, heard, ending, ?_, steady.later hears⟩
  rintro rfl
  apply steady 1
  rw [← List.length_singleton, hears]
  exact List.mem_singleton.mpr rfl

/-- Frames are returned in turn, and no read beyond them is made that they do not need. -/
theorem hears_frames {pieces : List (Bytes × Bytes)} (framed : ∀ piece ∈ pieces, Framed piece.1 piece.2)
    (steady : Steady config direction ⟨link, false⟩) {rest : Bytes}
    (ahead : link.Ahead (some closing) (pieces.flatMap (fun piece => piece.1 ++ piece.2) ++ rest)) :
    ∃ after, Hears config direction link (pieces.map fun piece => .ok piece.2) after ∧
      after.Ahead (some closing) rest ∧ Steady config direction ⟨after, false⟩ ∧
      after.stream.arrivals <:+ link.stream.arrivals ∧
      ∀ late, late <:+ link.stream.arrivals → delivered late <:+ rest → late <:+ after.stream.arrivals := by
  induction pieces generalizing link with
  | nil => exact ⟨link, .nil link, ahead, steady, List.suffix_refl _, fun _ behind _ => behind⟩
  | cons piece pieces ih =>
    rw [List.flatMap_cons, List.append_assoc] at ahead
    obtain ⟨result, next, hears, heard, ending, spoke, steady'⟩ := hears_call steady ahead
    obtain ⟨rfl, ahead', past, reading⟩ :=
      heard.takes (framed piece List.mem_cons_self) ahead ending spoke
    obtain ⟨after, others, last, still, behind, cuts⟩ :=
      ih (fun piece inside => framed piece (List.mem_cons_of_mem _ inside)) steady' ahead'
    refine ⟨after, hears.append others, last, still, behind.trans ⟨past, reading.arrivals.symm⟩, ?_⟩
    intro late within short
    apply cuts late _ short
    obtain ⟨early, arrivals⟩ := within
    obtain ⟨front, rfl⟩ := short
    have done : ¬Pending (held link early) := by
      rw [← List.append_assoc, ← List.append_assoc, List.append_assoc (piece.1 ++ piece.2)] at ahead
      rw [held_cut arrivals.symm ahead, (framed piece List.mem_cons_self).tail]
      intro pending
      exact pending.unterminated (infix_front (framed piece List.mem_cons_self).delimited _)
    obtain ⟨more, _, coming⟩ := reading.stops arrivals.symm done
    exact ⟨more, coming.symm⟩

theorem hears_rest {noise : Bytes} {later : List Bytes} (quiet : start ∉ noise)
    (framed : ∀ adu ∈ later, Framed [] adu) (steady : Steady config direction ⟨link, false⟩)
    (ahead : link.Ahead (some closing) (noise ++ later.flatten)) :
    ∃ after, Hears config direction link (later.map .ok ++ [.error (.io .unexpectedEof none)]) after := by
  have ends {link : Link} {bytes : Bytes} (quiet : start ∉ bytes)
      (steady : Steady config direction ⟨link, false⟩) (ahead : link.Ahead (some closing) bytes) :
      ∃ after, Hears config direction link [.error (.io .unexpectedEof none)] after := by
    obtain ⟨result, after, hears, heard, _, spoke, _⟩ := hears_call steady ahead
    obtain rfl := heard.quiet ahead quiet spoke
    exact ⟨after, hears⟩
  cases later with
  | nil =>
    rw [List.flatten_nil, List.append_nil] at ahead
    exact ends quiet steady ahead
  | cons first others =>
    have pieces : noise ++ (first :: others).flatten =
        ((noise, first) :: others.map fun adu => ([], adu)).flatMap (fun piece => piece.1 ++ piece.2) ++ [] := by
      simp [List.flatMap_map]
    rw [pieces] at ahead
    obtain ⟨middle, frames, nothing, still, _⟩ := hears_frames (by
      intro piece inside
      rcases List.mem_cons.mp inside with rfl | behind
      · exact ⟨quiet, (framed first List.mem_cons_self).delimited, (framed first List.mem_cons_self).small⟩
      · obtain ⟨adu, later, rfl⟩ := List.mem_map.mp behind
        exact framed adu (List.mem_cons_of_mem _ later)) steady ahead
    obtain ⟨after, ended⟩ := ends List.not_mem_nil still nothing
    refine ⟨after, ?_⟩
    have whole := frames.append ended
    rwa [List.map_cons, List.map_map] at whole

theorem front_unique {α : Type} {last : α} {front back front' back' : List α} (out : last ∉ front)
    (out' : last ∉ front') (equal : front ++ last :: back = front' ++ last :: back') : front = front' := by
  rcases List.append_eq_append_iff.mp equal with ⟨more, rfl, rest⟩ | ⟨more, rfl, rest⟩
  all_goals
    cases more with
    | nil => rw [List.append_nil]
    | cons head more =>
      obtain ⟨rfl, _⟩ := List.cons.inj rest
      simp at out out'

/-- Up to the first end of the stream the results are the same, however many calls are made. -/
theorem ends_once {reader : Reader} {first second : List (Result Bytes)} {last : Result Bytes}
    (known : (recvAdus ascii config direction (first ++ [last]).length reader).1 = (first ++ [last]).map some)
    (absent : last ∉ first)
    (again : (recvAdus ascii config direction (second ++ [last]).length reader).1 = (second ++ [last]).map some)
    (absent' : last ∉ second) : first = second := by
  have prefixes {few many : List (Result Bytes)} (fewer : few.length ≤ many.length)
      (short : (recvAdus ascii config direction (few ++ [last]).length reader).1 = (few ++ [last]).map some)
      (long : (recvAdus ascii config direction (many ++ [last]).length reader).1 = (many ++ [last]).map some)
      (out : last ∉ few) (out' : last ∉ many) : few = many := by
    have count : (many ++ [last]).length = (few ++ [last]).length + (many.length - few.length) := by
      simp only [List.length_append]
      omega
    rw [count, recvAdus_add, short] at long
    simp only [List.map_append, List.map_cons, List.map_nil, List.append_assoc, List.singleton_append] at long
    apply List.map_injective_iff.mpr (Option.some_injective _)
    exact front_unique (by simpa using out) (by simpa using out') long
  rcases Nat.le_total first.length second.length with fewer | fewer
  · exact prefixes fewer known again absent absent'
  · exact (prefixes fewer again known absent' absent).symm

/-- The calls on a line with one bad frame: those before it, those spent on what stands in its
place, those after it, and the end of the stream. -/
def Recovers (config : TransportConfig) (direction : Direction) (reader : Reader)
    (before later : List Bytes) : Prop :=
  ∃ spent : List (Result Bytes), .error (.io .unexpectedEof none) ∉ spent ∧
    let results := before.map .ok ++ spent ++ later.map .ok ++ [.error (.io .unexpectedEof none)]
    (recvAdus ascii config direction results.length reader).1 = results.map some

/-- The bytes in place of a frame leave none open, or they fill the buffer with one open frame
and a read ends right behind them. -/
def Contained (arrivals : Reads) (before damaged : Bytes) : Prop :=
  scan damaged = .outside ∨
    damaged.length = maxAduLen ∧ Begun damaged ∧
      ∃ early late, arrivals = early ++ late ∧ delivered early = before ++ damaged

theorem Hears.recovers {before later : List Bytes} {spent : List (Result Bytes)}
    (heard : Hears config direction link
      (before.map .ok ++ (spent ++ (later.map .ok ++ [.error (.io .unexpectedEof none)]))) after)
    (absent : .error (.io .unexpectedEof none) ∉ spent) :
    Recovers config direction ⟨link, false⟩ before later := by
  refine ⟨spent, absent, ?_⟩
  rw [← List.append_assoc, ← List.append_assoc] at heard
  exact congrArg Prod.fst heard

variable {before later : List Bytes} {damaged : Bytes} {now : Nat} {timer : Timer} {arrivals : Reads}

/-- The frames before the damaged one are returned; what follows is the same line without them. -/
theorem hears_before {rest : Bytes} (framed : ∀ adu ∈ before, Framed [] adu)
    (carried : Carries arrivals (before.flatten ++ rest))
    (steady : Steady config direction (.new ⟨now, arrivals, some closing, timer⟩)) :
    ∃ link, Hears config direction ⟨⟨now, arrivals, some closing, timer⟩, []⟩ (before.map .ok) link ∧
      link.Ahead (some closing) rest ∧ Steady config direction ⟨link, false⟩ ∧
      link.stream.arrivals <:+ arrivals ∧
      ∀ late, late <:+ arrivals → delivered late <:+ rest → late <:+ link.stream.arrivals := by
  have pieces : before.flatten =
      (before.map fun adu => ([], adu)).flatMap fun piece : Bytes × Bytes => piece.1 ++ piece.2 := by
    simp [List.flatMap_map]
  rw [pieces] at carried
  have ahead : Link.Ahead ⟨⟨now, arrivals, some closing, timer⟩, []⟩ (some closing) _ := ⟨rfl, _, carried, rfl⟩
  obtain ⟨link, hears, rest⟩ := hears_frames (by
    intro piece inside
    obtain ⟨adu, within, rfl⟩ := List.mem_map.mp inside
    exact framed adu within) steady ahead
  rw [List.map_map] at hears
  exact ⟨link, hears, rest⟩

theorem eof_not_ok {α : Type} (pieces : List α) (frame : α → Bytes) :
    (.error (.io .unexpectedEof none) : Result Bytes) ∉ pieces.map fun piece => .ok (frame piece) := by
  simp

/-- Damage that leaves nothing open, or nothing behind it, or that a full buffer drops. -/
theorem recovers_of_contained (whole : ∀ adu ∈ before ++ later, Sealed adu)
    (small : damaged.length ≤ maxAduLen)
    (carried : Carries arrivals (before.flatten ++ (damaged ++ later.flatten)))
    (steady : Steady config direction (.new ⟨now, arrivals, some closing, timer⟩))
    (contained : later = [] ∨ Contained arrivals before.flatten damaged) :
    Recovers config direction (.new ⟨now, arrivals, some closing, timer⟩) before later := by
  have framed : ∀ adu ∈ later, Framed [] adu := fun adu inside =>
    (whole adu (List.mem_append_right _ inside)).framed
  obtain ⟨link, good, ahead, steady, _, cuts⟩ :=
    hears_before (fun adu inside => (whole adu (List.mem_append_left _ inside)).framed) carried steady
  obtain ⟨pieces, noise, begun, parsed⟩ := scan_parsed damaged
  obtain ⟨sizes, fits⟩ := parsed.framed small
  have line := ahead
  rw [parsed.whole, List.append_assoc] at line
  obtain ⟨middle, garbage, line, steady', _⟩ := hears_frames sizes steady line
  by_cases outside : scan damaged = .outside
  · have leaves := parsed.leaves
    rw [outside] at leaves
    obtain rfl : begun = [] := leaves
    rw [List.append_nil] at line
    obtain ⟨after, others⟩ := hears_rest parsed.quiet framed steady' line
    exact (good.append (garbage.append others)).recovers (eof_not_ok pieces Prod.snd)
  · rcases contained with rfl | inside | ⟨size, opened, early, late, split, front⟩
    · rw [List.flatten_nil, List.append_nil] at line
      obtain ⟨result, next, hears, heard, ending, spoke, still⟩ := hears_call steady' line
      obtain ⟨e, rfl, other, left⟩ :=
        heard.severed parsed.quiet (parsed.leaves.begun outside) fits line ending spoke
      obtain ⟨after, others⟩ := hears_rest List.not_mem_nil framed still left
      have run := good.append ((garbage.append hears).append others)
      apply run.recovers
      simp [Ne.symm other]
    · exact absurd inside outside
    · have bytes := carried.delivered
      rw [split, delivered_append, front, List.append_assoc] at bytes
      have behind := List.append_cancel_left (List.append_cancel_left bytes)
      obtain ⟨early, split'⟩ := cuts late ⟨early, split.symm⟩ (behind ▸ List.suffix_append _ _)
      obtain ⟨result, next, hears, heard, ending, spoke, still⟩ := hears_call steady ahead
      obtain ⟨e, rfl, other, left⟩ :=
        heard.drops List.not_mem_nil opened size ahead split'.symm behind ending spoke
      obtain ⟨after, others⟩ := hears_rest List.not_mem_nil framed still left
      apply (good.append (hears.append others)).recovers
      simp [Ne.symm other]

theorem lost_of_open (whole : ∀ adu ∈ before ++ later, Sealed adu) (small : damaged.length ≤ maxAduLen)
    (carried : Carries arrivals (before.flatten ++ (damaged ++ later.flatten)))
    (steady : Steady config direction (.new ⟨now, arrivals, some closing, timer⟩))
    (some_more : later ≠ []) (uncontained : ¬Contained arrivals before.flatten damaged) :
    ¬Recovers config direction (.new ⟨now, arrivals, some closing, timer⟩) before later := by
  obtain ⟨open', uncut⟩ := not_or.mp uncontained
  obtain ⟨next, others, rfl⟩ := List.exists_cons_of_ne_nil some_more
  obtain ⟨body, rfl, plain, _⟩ := whole next (by simp)
  have framed : ∀ adu ∈ others, Framed [] adu := fun adu inside =>
    (whole adu (by simp [inside])).framed
  obtain ⟨link, good, ahead, steady, behind, _⟩ :=
    hears_before (fun adu inside => (whole adu (List.mem_append_left _ inside)).framed) carried steady
  obtain ⟨pieces, noise, begun, parsed⟩ := scan_parsed damaged
  obtain ⟨sizes, fits⟩ := parsed.framed small
  have opened := parsed.leaves.begun open'
  rw [parsed.whole, List.append_assoc, List.flatten_cons] at ahead
  obtain ⟨middle, garbage, line, steady', behind', _⟩ := hears_frames sizes steady ahead
  obtain ⟨result, after, hears, heard, ending, spoke, still⟩ := hears_call steady' line
  have lost : result ≠ .ok (start :: (body ++ terminator)) ∧ result ≠ .error (.io .unexpectedEof none) ∧
      ∃ noise, start ∉ noise ∧ after.Ahead (some closing) (noise ++ others.flatten) := by
    cases heard.swallows parsed.quiet opened fits plain line ending spoke with
    | joined left =>
      refine ⟨?_, by simp, [], List.not_mem_nil, left⟩
      intro same
      have size := congrArg List.length (Except.ok.inj same)
      obtain ⟨inner, rfl⟩ := List.head?_eq_some_iff.mp opened.starts
      simp only [List.length_append, List.length_cons] at size
      omega
    | cut quiet left => exact ⟨by simp, by simp, _, quiet, left⟩
    | dropped size left reads delivers =>
      obtain ⟨past, split⟩ := reads
      have later : after.stream.arrivals <:+ middle.stream.arrivals := ⟨past, split.symm⟩
      obtain ⟨early, split⟩ := (later.trans behind').trans behind
      have length := congrArg List.length parsed.whole
      rw [List.length_append, List.length_append] at length
      have alone : damaged = begun := by
        rw [parsed.whole, List.eq_nil_of_length_eq_zero (by omega : (pieces.flatMap _).length = 0),
          List.eq_nil_of_length_eq_zero (by omega : noise.length = 0)]
        rfl
      have bytes := carried.delivered
      rw [← split, delivered_append, delivers, List.flatten_cons, ← List.append_assoc before.flatten] at bytes
      exact absurd ⟨by rw [alone, size], alone ▸ opened, early, _, split.symm,
        List.append_cancel_right bytes⟩ uncut
  obtain ⟨other, unended, noise', quiet, left⟩ := lost
  obtain ⟨last, rest⟩ := hears_rest quiet framed still left
  have run := (good.append garbage).append (hears.append rest)
  rw [← List.append_assoc, ← List.append_assoc] at run
  rintro ⟨spent, absent, results⟩
  have same := ends_once (congrArg Prod.fst run) (by simp [Ne.symm unended]) results (by simp [absent])
  rw [List.append_assoc, List.append_assoc, List.append_assoc] at same
  obtain ⟨_, same⟩ := List.append_inj' (List.append_cancel_left same) (by simp)
  exact other (List.cons.inj same).1

end Runs

/-- One bad frame costs one frame exactly when it leaves none open behind it. -/
theorem damage_costs_one_frame_iff (config : TransportConfig) (direction : Direction) (now closing : Nat)
    (timer : Timer) (arrivals : Reads) (before later : List Bytes) (damaged : Bytes)
    (valid : ∀ adu ∈ before ++ later, ∃ opened, split adu = .ok opened) (small : damaged.length ≤ 513)
    (carried : Carries arrivals (before.flatten ++ damaged ++ later.flatten))
    (steady : Steady config direction (.new ⟨now, arrivals, some closing, timer⟩)) :
    Recovers config direction (.new ⟨now, arrivals, some closing, timer⟩) before later ↔
      later = [] ∨ Contained arrivals before.flatten damaged := by
  have whole : ∀ adu ∈ before ++ later, Sealed adu := by
    intro adu inside
    obtain ⟨opened, accepted⟩ := valid adu inside
    exact split_sealed accepted
  rw [List.append_assoc] at carried
  constructor
  · intro recovers
    by_contra neither
    obtain ⟨some_more, uncontained⟩ := not_or.mp neither
    exact lost_of_open whole small carried steady some_more uncontained recovers
  · exact recovers_of_contained whole small carried steady

/-- A frame reduced to two bytes of noise. -/
theorem noise_costs_one_frame :
    Recovers .default .request (.new ⟨0, [⟨0, .ok ⟨[0x41, 0x42, 0x3A, 0x31], by decide⟩⟩,
      ⟨0, .ok ⟨[0x31, 0x30, 0x37, 0x45, 0x38, 0x0D, 0x0A], by decide⟩⟩], some 1, .exact⟩)
      [] [[0x3A, 0x31, 0x31, 0x30, 0x37, 0x45, 0x38, 0x0D, 0x0A]] := by
  apply (damage_costs_one_frame_iff .default .request 0 1 _ _ [] _ [0x41, 0x42] _ _ _ _).mpr
  · exact .inr (.inl rfl)
  · intro adu inside
    obtain rfl := List.mem_singleton.mp inside
    exact ⟨(⟨0x11⟩, [7]), rfl⟩
  · decide
  · exact .cons (by decide) (.cons (by decide) .nil)
  · have heard : Hears .default .request ⟨⟨0, [⟨0, .ok ⟨[0x41, 0x42, 0x3A, 0x31], by decide⟩⟩,
        ⟨0, .ok ⟨[0x31, 0x30, 0x37, 0x45, 0x38, 0x0D, 0x0A], by decide⟩⟩], some 1, .exact⟩, []⟩
        [.ok [0x3A, 0x31, 0x31, 0x30, 0x37, 0x45, 0x38, 0x0D, 0x0A]] ⟨⟨0, [], some 1, .exact⟩, []⟩ := rfl
    exact heard.steady (by simp) (steady_ended 0 1 _)

/-- A frame that has lost its line end takes the next one with it. -/
theorem lost_line_end_costs_two :
    (∃ opened, split [0x3A, 0x31, 0x31, 0x30, 0x37, 0x45, 0x38, 0x0D, 0x0A] = .ok opened) ∧
    Steady .default .request (.new ⟨0, [⟨0, .ok ⟨[0x3A, 0x31, 0x31, 0x30, 0x37, 0x45, 0x38] ++
      [0x3A, 0x31, 0x31, 0x30, 0x37, 0x45, 0x38, 0x0D, 0x0A], by decide⟩⟩], some 1, .exact⟩) ∧
    ¬Recovers .default .request (.new ⟨0, [⟨0, .ok ⟨[0x3A, 0x31, 0x31, 0x30, 0x37, 0x45, 0x38] ++
      [0x3A, 0x31, 0x31, 0x30, 0x37, 0x45, 0x38, 0x0D, 0x0A], by decide⟩⟩], some 1, .exact⟩)
      [] [[0x3A, 0x31, 0x31, 0x30, 0x37, 0x45, 0x38, 0x0D, 0x0A]] := by
  have heard : Hears .default .request ⟨⟨0, [⟨0, .ok ⟨[0x3A, 0x31, 0x31, 0x30, 0x37, 0x45, 0x38] ++
      [0x3A, 0x31, 0x31, 0x30, 0x37, 0x45, 0x38, 0x0D, 0x0A], by decide⟩⟩], some 1, .exact⟩, []⟩
      ([.ok [0x3A, 0x31, 0x31, 0x30, 0x37, 0x45, 0x38, 0x3A, 0x31, 0x31, 0x30, 0x37, 0x45, 0x38, 0x0D, 0x0A]] ++
        [.error (.io .unexpectedEof none)]) ⟨⟨1, [], some 1, .exact⟩, []⟩ := rfl
  refine ⟨⟨(⟨0x11⟩, [7]), rfl⟩, heard.steady (by simp) (steady_ended 1 1 _), ?_⟩
  rintro ⟨spent, absent, results⟩
  have same := ends_once (congrArg Prod.fst heard) (by simp) results (by simp [absent])
  rw [← List.nil_append [_]] at same
  have returned := (List.append_inj' same rfl).2
  simp at returned

end Modbus.Ascii
